import TreePlan.Command
import TreePlan.Handler

/-!
# Transforms

A transform says which files to discover and what to do with every directory, file and content.
Every part has a default, so a transform gives only the parts that it cares about: by default
everything is visited, every content is handed over, and nothing is changed.
-/

namespace TreePlan

/-- Values that the caller shows to every handler. -/
abbrev Dependencies := OrderedMap String Json

/-- What a handler is told. `σ` is the state that a pass runs under. -/
structure Visit (σ : Type) where
  /-- The path to handle. -/
  path : Path
  /-- The options of the command that led here. -/
  options : Options
  /-- The state of the pass. -/
  state : Option σ
  /-- What the caller shows to every handler. -/
  dependencies : Dependencies

/-- One traversal for every child of a directory, by the kind recorded for it. -/
def traverseChildren {ω : Type} (path : Path) (options : Options) :
    DirectoryProgram ω (List DirectoryCommand) := do
  let children ← DirectoryProgram.list path
  children.mapM fun child => do
    if ← DirectoryProgram.isDirectory child then return .directory child options
    else return .file child options

/-- What to discover and how to handle it, over a world `ω` and with states `σ`. -/
structure Transform (ω σ : Type) where
  /-- The files to discover under every traversed directory before its handler runs. -/
  includes : List String := []
  /-- The files and directories to leave out of discovery. -/
  excludes : List String := []
  /-- Whether the directory handler runs; it need not where discovery has found every file. -/
  handlesDirectories : Bool := includes.isEmpty
  /-- Which children of a directory to traverse; all of them by default. -/
  handleDirectory : Visit σ → DirectoryProgram ω (List DirectoryCommand) :=
    fun v => traverseChildren v.path v.options
  /-- What to do with a file; its content is handed over by default. -/
  handleFile : Visit σ → FileProgram ω (List FileCommand) :=
    fun v => pure [.materialize v.path v.options]
  /-- What to do with a content; nothing by default. -/
  handleData : Visit σ → String → DataProgram ω DataCommand := fun _ _ => pure .noop
  /-- The state of the next pass; that of the pass before by default. -/
  initializeState : Options → Option σ → DataProgram ω (Option σ) := fun _ previous => pure previous
  /-- Whether to make another pass; not by default. -/
  handleFinish : Options → Option σ → DataProgram ω Decision := fun _ _ => pure .stop

end TreePlan
