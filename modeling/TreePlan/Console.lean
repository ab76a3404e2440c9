import TreePlan.Host.Effects
import TreePlan.Log.Filter
import TreePlan.Settings.Environment

/-!
# Consoles

What a program run has at hand: the files of the machine, its two streams, the environment, a
clock, and a log once it has been set up. A log line goes to the streams and to the end of a file,
as long as that file is there.
-/

namespace TreePlan

/-- How log lines are written. -/
inductive Log.Form where
  /-- As text, in color or not. -/
  | text (color : Bool)
  /-- As JSON. -/
  | json
deriving DecidableEq, Repr

/-- Where log lines go, and which. -/
structure Log.Sink where
  /-- What is logged. -/
  filter : Log.Filter
  /-- How lines are written. -/
  form : Log.Form
  /-- Whether they go to the output. -/
  toOutput : Bool
  /-- Whether they go to the messages. -/
  toMessages : Bool
  /-- The file that they go to. -/
  file : Option Location
deriving DecidableEq, Repr

/-- The time. It stands still while a program runs. -/
structure Clock where
  /-- The time, written out. -/
  stamp : String
  /-- How many milliseconds a command has taken. -/
  elapsed : Nat := 0
deriving DecidableEq, Inhabited, Repr

/-- What a program run has at hand. -/
structure Console where
  /-- The files. -/
  tree : HostTree
  /-- The environment. -/
  environment : Environment := []
  /-- The clock. -/
  clock : Clock := ⟨"", 0⟩
  /-- What has been printed. -/
  output : String := ""
  /-- What has been said besides. -/
  messages : String := ""
  /-- Where log lines go. -/
  sink : Option Log.Sink := none
deriving DecidableEq, Inhabited

namespace Console

/-- Prints a text. -/
def print (c : Console) (text : String) : Console := { c with output := c.output ++ text }

/-- Says a text besides the output. -/
def say (c : Console) (text : String) : Console := { c with messages := c.messages ++ text }

/-- Appends a line to the log file; a file that has been removed is given up. -/
def appendToFile (c : Console) (s : Log.Sink) (line : String) : Console :=
  match s.file with
  | none => c
  | some place =>
    match c.tree.node? place with
    | some (.file content) =>
      { c with tree := c.tree.put place (.file (content ++ Utf8.encode line.toList)) }
    | _ => { c with sink := some { s with file := none } }

/-- Logs a record if the filter lets it through. -/
def log (c : Console) (r : Log.Record) : Console :=
  match c.sink with
  | none => c
  | some s =>
    if s.filter.allows r then
      let line := match s.form with
        | .text color => r.textLine color c.clock.stamp
        | .json => r.jsonLine c.clock.stamp
      let c := if s.toOutput then c.print line else c
      let c := if s.toMessages then c.say line else c
      c.appendToFile s line
    else c

/-- Logs what there is to log about an event. -/
def notice (e : Event) (c : Console) : Console :=
  match Log.Record.ofEvent? e with
  | some r => c.log r
  | none => c

end Console

end TreePlan
