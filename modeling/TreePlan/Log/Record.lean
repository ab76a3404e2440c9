import TreePlan.Event
import TreePlan.Json
import TreePlan.Log.Directive
import TreePlan.Plan.Report

/-!
# Log records

What there is to log about an event of a run, and about the application of a plan: how severe it is,
which part of the program it comes from, a message, and named values.
-/

namespace TreePlan.Log

/-- Something to log. -/
structure Record where
  /-- How severe it is. -/
  level : Level
  /-- The part of the program that it comes from. -/
  target : String
  /-- What happened. -/
  message : String
  /-- Named values. -/
  fields : List (String × Json) := []
deriving Inhabited, Repr

namespace Record

/-- A record of the engine. -/
def ofEngine (level : Level) (message : String) (fields : List (String × Json) := []) : Record :=
  ⟨level, "repomod::engine", message, fields⟩

/-- A record of the overlay. -/
def ofOverlay (message : String) : Record := ⟨.debug, "repomod::overlay", message, []⟩

/-- A record of the command line. -/
def ofProgram (level : Level) (message : String) (fields : List (String × Json) := []) : Record :=
  ⟨level, "repomod::tooling::cli", message, fields⟩

/-- A path as a value. -/
def pathField (name : String) (path : Path) : String × Json := (name, .text path.toText)

/-- The name of a kind of command. -/
def kindName : CommandKind → String
  | .traverseDirectory => "TraverseDirectory"
  | .traverseFile => "TraverseFile"
  | .materialize => "Materialize"
  | .delete => "Delete"
  | .stageData => "StageData"

/-- What there is to log about an event. -/
def ofEvent? : Event → Option Record
  | .missed path cause =>
    some (ofOverlay ("Classification miss for " ++ path.toText ++ ": " ++ cause.message))
  | .readAsEmpty path cause =>
    some (ofOverlay ("Reading " ++ path.toText ++ " as empty: " ++ cause.message))
  | .rootMissing root =>
    some (ofEngine .debug ("Root " ++ root.toText ++ " is neither a file nor a directory"))
  | .passStarted number root =>
    some (ofEngine .debug "Starting pass" [("pass", .int number), pathField "root" root])
  | .discovered count directory =>
    some (ofEngine .debug
      ("Discovered " ++ toString count ++ " files under " ++ directory.toText))
  | .abandoned path failure =>
    some (ofEngine .warn ("Abandoning branch after handler failure: " ++ failure.message)
      [pathField "path" path])
  | .executed kind path =>
    some (ofProgram .debug "Command executed"
      [("kind", .text (kindName kind)), pathField "path" path])
  | .finished passes commands entries =>
    some (ofEngine .info "Transform finished"
      [("passes", .int passes), ("commands", .int commands), ("entries", .int entries)])
  | .noted _ => none

/-- A step of a plan was carried out. -/
def ofStep (step : PlanStep) : Record :=
  ⟨.debug, "repomod::tooling::apply", "Applied command", [pathField "path" step.path]⟩

/-- A plan was carried out. -/
def ofApplied (applied : Applied) : Record :=
  ofProgram .info "Plan applied"
    [("written", .int applied.written), ("deleted", .int applied.deleted)]

/-- A command is done after a number of milliseconds. -/
def ofFinish (elapsed : Nat) : Record :=
  ofProgram .debug ("Command finished in " ++ toString elapsed ++ "ms")

/-! ## Lines -/

/-- The name of the level. -/
def levelName : Level → String
  | .off => "OFF"
  | .error => "ERROR"
  | .warn => "WARN"
  | .info => "INFO"
  | .debug => "DEBUG"
  | .trace => "TRACE"

/-- The color of the level on a terminal. -/
def levelColor : Level → String
  | .off => "0"
  | .error => "31"
  | .warn => "33"
  | .info => "32"
  | .debug => "34"
  | .trace => "35"

/-- A text in a style, if styles are wanted. -/
def styled (color : Bool) (code text : String) : String :=
  if color then Report.escape code text ++ Report.escape "0" "" else text

/-- A character of a message; what could steer a terminal is written as an escape. -/
def safeChar (c : Char) : List Char :=
  if c = '\x1b' then "\\x1b".toList
  else if c = '\x07' then "\\x07".toList
  else if c = '\x08' then "\\x08".toList
  else if c = '\x0c' then "\\x0c".toList
  else if c = '\x7f' then "\\x7f".toList
  else if 0x80 ≤ c.toNat ∧ c.toNat ≤ 0x9F then
    '\\' :: 'u' :: '\x7b' :: Nat.toDigits 16 c.toNat ++ ['\x7d']
  else [c]

/-- A message that is safe to show. -/
def safeText (message : String) : String := String.ofList (message.toList.flatMap safeChar)

/-- A value as text. -/
def valueText : Json → String
  | .text value => value
  | value => value.line

/-- The record as a line of text; `stamp` is the time. -/
def textLine (color : Bool) (stamp : String) (r : Record) : String :=
  let name := levelName r.level
  let padded := String.ofList (List.replicate (5 - name.length) ' ') ++ name
  let shown (field : String × Json) : String :=
    " " ++ styled color "3" field.1 ++ styled color "2" "=" ++ valueText field.2
  styled color "2" stamp ++ " " ++ styled color (levelColor r.level) padded ++ " " ++
    styled color "2" r.target ++ styled color "2" ":" ++ " " ++ safeText r.message ++
    String.join (r.fields.map shown) ++ "\n"

/-- The record as a line of JSON; `stamp` is the time. -/
def jsonLine (stamp : String) (r : Record) : String :=
  (Json.object [("timestamp", .text stamp), ("level", .text (levelName r.level)),
    ("fields", .object (("message", .text r.message) :: r.fields)),
    ("target", .text r.target)]).line ++ "\n"

end Record

end TreePlan.Log
