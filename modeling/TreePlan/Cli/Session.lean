import TreePlan.Cli.Arguments
import TreePlan.Console
import TreePlan.Host.Backing
import TreePlan.Log.Setup
import TreePlan.Plan.Apply
import TreePlan.Settings.Load
import TreePlan.Transforms.Ending
import TreePlan.Transforms.Remove
import TreePlan.Transforms.RenameExtension
import TreePlan.Transforms.Replace

/-!
# Sessions

A session knows the root of a run and the settings for it. It carries out a command on the files
of a console: it plans, shows the plan, and applies it if that is asked for, and logs what it
does.
-/

namespace TreePlan.Cli

/-- Why a command fails. -/
inductive Failure where
  /-- The run or the application of its plan failed. -/
  | run (error : RunError)
  /-- The settings cannot be read. -/
  | settings (fault : SettingsFault)
  /-- The log cannot be set up. -/
  | log (fault : Log.Fault)
  /-- A path that has to be shown as text is not text. -/
  | notText
  /-- The program was told to give files an extension that holds a separator, and breaks down. -/
  | breakdown (extension : String)
deriving DecidableEq, Inhabited, Repr

/-- The failure in words. -/
def Failure.message : Failure → String
  | run error => error.message
  | settings fault => "Configuration error: " ++ fault.message
  | log fault => "Configuration error: " ++ fault.message
  | notText => "Configuration error: Failed to encode plan: " ++ Report.notTextMessage
  | breakdown ext => (TreePlan.Failure.separatorInExtension ext).message

/-- What a command prints. -/
structure Printed where
  /-- The plan. -/
  output : String
  /-- The failures of handlers. -/
  messages : String
deriving DecidableEq, Inhabited, Repr

/-- The root of a run and the settings for it. -/
structure Session where
  /-- The directory or file to work on. -/
  root : Path
  /-- The settings. -/
  settings : Settings
deriving DecidableEq, Inhabited, Repr

/-- The session for a root, which has to be there, with the settings in a file that is named or in
the one of the root. -/
def Session.start (t : HostTree) (env : Environment) (root : Path) (config : Option Path) :
    Except Failure Session :=
  match t.canonical root with
  | .error e => .error (.run (.io root e))
  | .ok root =>
    let loaded := match config with
      | some path => Settings.loadFile t env path
      | none => Settings.load t env root
    match loaded with
    | .error fault => .error (.settings fault)
    | .ok settings => .ok ⟨root, settings⟩

/-- The transform of an action. -/
def Action.transform (ω : Type) (d : Discovery) : Action → Transform ω Unit
  | .replace source target => replacement ω d source target
  | .renameExtension source target => extensionRename ω d source target
  | .remove => removal ω d

/-- The transform of an action over a backing. -/
def Action.engine {ω : Type} (a : Action) (b : Backing ω) (includes excludes : List String) :
    Engine ω Unit :=
  ⟨b, a.transform ω (.new includes excludes), .empty⟩

/-- The transforms of actions are bounded. -/
theorem Action.isBounded {ω : Type} (a : Action) (b : Backing ω) (includes excludes : List String) :
    (a.engine b includes excludes).IsBounded where
  handlesFilesOnly := by
    cases a <;> exact Discovery.isEmpty_includes includes excludes
  stops _ _ _ := by
    cases a <;> rfl

/-- The files of a console, with its log. -/
def hostBacking : Backing Console :=
  { Backing.ofHost PathKey.ofPath Console.tree with notice := Console.notice }

/-- The excludes of a command and those of the settings, each once. -/
def Session.excludes (s : Session) (t : Target) : List String :=
  s.settings.discovery.exclude.foldl (fun all pattern =>
    if pattern ∈ all then all else all ++ [pattern]) t.excludes

/-- The failures of handlers among what has happened. -/
def troublesOf (journal : List Event) : List Trouble :=
  journal.filterMap fun
    | .abandoned path failure => some ⟨path, failure.message⟩
    | _ => none

/-- The extension that the program breaks down over, if it does. -/
def breakdown? (journal : List Event) : Option String :=
  journal.findSome? fun
    | .abandoned _ (.separatorInExtension ext) => some ext
    | _ => none

/-- Carries out one step on the files of a console and logs it. -/
def applyStep (c : Console) (done : Applied) (step : PlanStep) :
    Except RunError Applied × Console :=
  match step.apply c.tree done with
  | (.error e, tree) => (.error e, { c with tree })
  | (.ok done, tree) => (.ok done, { c with tree }.log (.ofStep step))

/-- A plan as it is shown. -/
def Session.show? (s : Session) (format : Format) (plan : Plan) (troubles : List Trouble) :
    Option Printed :=
  match format with
  | .text => some ⟨Report.planTable s.root plan, Report.troubleLines s.root troubles⟩
  | .json => (Report.planPage? s.root plan troubles).map fun page => ⟨page, ""⟩

/-- Carries out a plan, and adds what was done to what is printed. -/
def applyPlan (format : Format) (plan : Plan) (printed : Printed) (c : Console) :
    Except Failure Printed × Console :=
  match applyWith applyStep {} plan c with
  | (.error e, c) => (.error (.run e), c)
  | (.ok applied, c) =>
    let printed := match format with
      | .text => { printed with output := printed.output ++ "\n" ++ Report.summary applied }
      | .json => printed
    (.ok printed, c.log (.ofApplied applied))

/-- Carries out an action. -/
def Session.execute (s : Session) (a : Action) (t : Target) (c : Console) :
    Except Failure Printed × Console :=
  let e := a.engine hostBacking t.includes (s.excludes t)
  let (result, o) := e.complete (a.isBounded _ _ _) s.root .empty (.new c)
  let c := o.world
  match breakdown? o.journal with
  | some ext => (.error (.breakdown ext), c)
  | none =>
    match result with
    | .error error => (.error (.run error), c)
    | .ok plan =>
      -- a plan that cannot be shown is not carried out
      match s.show? t.format plan (troublesOf o.journal) with
      | none => (.error .notText, c)
      | some printed =>
        let (outcome, c) :=
          if t.apply then applyPlan t.format plan printed c else (.ok printed, c)
        match outcome with
        | .error failure => (.error failure, c)
        | .ok printed => (.ok printed, c.log (.ofFinish c.clock.elapsed))

end TreePlan.Cli
