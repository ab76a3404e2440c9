import TreePlan.Console
import TreePlan.Log.Location
import TreePlan.Settings
import TreePlan.Text.Quoted

/-!
# Setting up the log

The environment wins over the settings: `REPOMOD_LOG` has all directives, `REPOMOD_LOG_MODULES`
some more, `REPOMOD_LOG_FORMAT` the form and `REPOMOD_LOG_OUTPUT` where lines go. A directive of
the settings that cannot be read is passed over with a message, one for a module ends the program.
-/

namespace TreePlan.Log

/-- Why a log cannot be set up. -/
inductive Fault where
  /-- A directive for a module cannot be read. -/
  | directive (fault : Directive.Fault)
  /-- There is no such form. -/
  | format (name : String)
  /-- There is no such place for lines. -/
  | output (name : String)
  /-- The directory of the log file cannot be made. -/
  | directory (cause : IoError)
  /-- The log file cannot be opened. -/
  | file (path : Path) (cause : IoError)
deriving DecidableEq, Repr

/-- The fault in words. -/
def Fault.message : Fault → String
  | directive fault => "Invalid log directive: " ++ fault.message
  | format name => "Invalid log format: " ++ name ++ " (must be 'json' or 'text')"
  | output name => "Invalid log output: " ++ name ++
      " (must be 'stdout', 'stderr', 'file', 'file+stderr', or 'both')"
  | directory cause => "Failed to create log directory: " ++ cause.message
  | file path cause =>
    "Failed to open log file " ++ Quoted.strictText path.toText ++ ": " ++ cause.message

/-- The directives between commas. -/
def splitDirectives (text : String) : List String :=
  ((Environment.splitAt ',' text.toList).filter (· ≠ [])).map String.ofList

/-- The directives that can be read, and messages about those that cannot. -/
def readDirectives (text : String) : List Directive × List String :=
  (splitDirectives text).foldl (fun (ds, notes) part =>
    match Directive.parse part with
    | .ok d => (ds ++ [d], notes)
    | .error fault => (ds, notes ++ ["ignoring `" ++ part ++ "`: " ++ fault.message ++ "\n"]))
    ([], [])

/-- The filter in the environment, if there is one and all of it can be read. -/
def environmentFilter? (env : Environment) : Option Filter :=
  (env.get? "REPOMOD_LOG").bind fun text =>
    (((splitDirectives text).mapM Directive.parse).toOption).map Filter.ofDirectives

/-- The filter with a level for a module. -/
def addModule (f : Filter) (name level : String) : Except Fault Filter :=
  match Directive.parse (name ++ "=" ++ level) with
  | .ok d => .ok (f.add d)
  | .error fault => .error (.directive fault)

/-- The modules and levels in the environment. -/
def environmentModules (env : Environment) : List (String × String) :=
  let specs := Environment.splitAt ',' ((env.get? "REPOMOD_LOG_MODULES").getD "").toList
  specs.filterMap fun spec =>
    match spec.dropWhile (· ≠ '=') with
    | [] => none
    | _ :: level =>
      some (String.ofList (Text.trim (spec.takeWhile (· ≠ '='))), String.ofList (Text.trim level))

/-- The filter of the settings under that of the environment, and messages. -/
def buildFilter (env : Environment) (s : LogSettings) : Except Fault Filter × List String :=
  match environmentFilter? env with
  | some f => (.ok f, [])
  | none =>
    if s.level = "off" then (.ok .off, [])
    else
      let (ds, notes) := readDirectives s.level
      ((s.modules ++ environmentModules env).foldlM
        (fun f m => addModule f m.1 m.2) (Filter.ofDirectives ds), notes)

/-- The form that a name stands for, colors aside. -/
def isJson? : String → Option Bool
  | "text" => some false
  | "json" => some true
  | _ => none

/-- Whether lines are JSON. -/
def chooseForm (env : Environment) (s : LogSettings) : Except Fault Bool :=
  match ((env.get? "REPOMOD_LOG_FORMAT").bind isJson?).orElse fun _ => isJson? s.format with
  | some json => .ok json
  | none => .error (.format s.format)

/-- Where lines go: to the output, to the messages, to a file. -/
structure Outlets where
  /-- To the output. -/
  output : Bool
  /-- To the messages. -/
  messages : Bool
  /-- To a file. -/
  file : Bool
deriving DecidableEq, Repr

/-- The places that a name stands for. -/
def Outlets.ofName? : String → Option Outlets
  | "stdout" => some ⟨true, false, false⟩
  | "stderr" => some ⟨false, true, false⟩
  | "file" => some ⟨false, false, true⟩
  | "file+stderr" => some ⟨false, true, true⟩
  | "both" => some ⟨true, true, false⟩
  | _ => none

/-- Where lines go. -/
def chooseOutlets (env : Environment) (s : LogSettings) : Except Fault Outlets :=
  let name := (env.get? "REPOMOD_LOG_OUTPUT").getD s.output
  match Outlets.ofName? name with
  | some outlets => .ok outlets
  | none => .error (.output name)

/-- Opens a file to append to, its directory made if it is not there. -/
def openFile (t : HostTree) (p : Path) : Except Fault Location × HostTree :=
  match (p.parent?.map t.makeDirectories).getD (.ok (), t) with
  | (.error e, t) => (.error (.directory e), t)
  | (.ok (), t) =>
    match t.openFile p with
    | .error e => (.error (.file p e), t)
    | .ok (place, none) => (.ok place, t.put place (.file []))
    | .ok (place, some _) => (.ok place, t)

/-- Everything about a log but its file. -/
def plan (env : Environment) (s : LogSettings) (f : Filter) :
    Except Fault (Outlets × (Option Location → Sink)) := do
  let json ← chooseForm env s
  let outlets ← chooseOutlets env s
  let form := if json then Form.json else .text (s.color && !outlets.file)
  return (outlets, fun file => ⟨f, form, outlets.output, outlets.messages, file⟩)

/-- Sets up the log. -/
def setUp (s : LogSettings) (c : Console) : Except Fault Unit × Console :=
  if !s.enabled then (.ok (), c)
  else
    let env := c.environment
    let (filter, notes) := buildFilter env s
    let c := c.say (String.join notes)
    match filter.bind (plan env s) with
    | .error fault => (.error fault, c)
    | .ok (outlets, sink) =>
      if outlets.file then
        match openFile c.tree (fileLocation env none s.file) with
        | (.error fault, tree) => (.error fault, { c with tree })
        | (.ok place, tree) => (.ok (), { c with tree, sink := some (sink (some place)) })
      else (.ok (), { c with sink := some (sink none) })

end TreePlan.Log
