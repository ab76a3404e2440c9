import TreePlan.RunError

/-!
# Events

What happens during a run, in the order in which it happens. Callers read progress and abandoned
branches off the events, and log lines are made from them.
-/

namespace TreePlan

/-- The kinds of command whose completion is announced. -/
inductive CommandKind where
  /-- A directory was traversed. -/
  | traverseDirectory
  /-- A file was traversed. -/
  | traverseFile
  /-- A file's content was handed to the data handler. -/
  | materialize
  /-- A deletion was staged. -/
  | delete
  /-- A write was staged. -/
  | stageData
deriving DecidableEq, Repr

/-- Something that happened. -/
inductive Event where
  /-- A path could not be classified because the file system refused. -/
  | missed (path : Path) (cause : IoError)
  /-- A file that could not be read was taken to be empty. -/
  | readAsEmpty (path : Path) (cause : IoError)
  /-- The root of a run is neither a file nor a directory. -/
  | rootMissing (root : Path)
  /-- A pass began. -/
  | passStarted (number : Nat) (root : Path)
  /-- Files were discovered under a directory. -/
  | discovered (count : Nat) (directory : Path)
  /-- A file or data handler failed, and what it would have led to was left out. -/
  | abandoned (path : Path) (failure : Failure)
  /-- A command and everything it led to is done. -/
  | executed (kind : CommandKind) (path : Path)
  /-- A run ended well. -/
  | finished (passes commands entries : Nat)
  /-- A handler left a note. -/
  | noted (text : String)
deriving DecidableEq, Repr

end TreePlan
