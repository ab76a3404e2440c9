import TreePlan.Store.OrderedMap
import TreePlan.Path.Basic

/-!
# Commands

What handlers may order. A directory handler orders traversals, a file handler deletions and the
handing over of contents, a handler of contents at most one write; all of them widen into `Command`.
-/

namespace TreePlan

/-- Text options that commands carry along. -/
abbrev Options := OrderedMap String String

/-- An order to the engine. -/
inductive Command where
  /-- Discover files under a directory and run its handler. -/
  | traverseDirectory (path : Path) (options : Options)
  /-- Run the handler of a file. -/
  | traverseFile (path : Path) (options : Options)
  /-- Read a file and hand its content to the handler of contents. -/
  | materialize (path : Path) (options : Options)
  /-- Stage a deletion. -/
  | delete (path : Path)
  /-- Stage a write. -/
  | stage (path : Path) (data : String)
  /-- Do nothing. -/
  | noop
deriving DecidableEq

/-- What a directory handler may order. -/
inductive DirectoryCommand where
  /-- Traverse a directory. -/
  | directory (path : Path) (options : Options)
  /-- Traverse a file. -/
  | file (path : Path) (options : Options)
deriving DecidableEq

/-- What a file handler may order. -/
inductive FileCommand where
  /-- Hand over the content of a file. -/
  | materialize (path : Path) (options : Options)
  /-- Stage a deletion. -/
  | delete (path : Path)
deriving DecidableEq

/-- What a handler of contents may order. -/
inductive DataCommand where
  /-- Stage a write. -/
  | stage (path : Path) (data : String)
  /-- Do nothing. -/
  | noop
deriving DecidableEq

/-- The order of a directory handler as a command. -/
def DirectoryCommand.widen : DirectoryCommand → Command
  | directory path options => .traverseDirectory path options
  | file path options => .traverseFile path options

/-- The order of a file handler as a command. -/
def FileCommand.widen : FileCommand → Command
  | materialize path options => .materialize path options
  | delete path => .delete path

/-- The order of a handler of contents as a command. -/
def DataCommand.widen : DataCommand → Command
  | stage path data => .stage path data
  | noop => .noop

/-- What is decided after a pass. -/
inductive Decision where
  /-- Stop and draw the plan. -/
  | stop
  /-- Make another pass. -/
  | again
deriving DecidableEq, Repr

end TreePlan
