import TreePlan.Path.Basic

/-!
# Settings

How a run logs and what it leaves out of discovery, unless it is told otherwise.
-/

namespace TreePlan

/-- How a run logs. -/
structure LogSettings where
  /-- Whether it logs at all. -/
  enabled : Bool := true
  /-- The least severe level that is logged, or a list of directives. -/
  level : String := "warn"
  /-- The form of the lines: `text` or `json`. -/
  format : String := "text"
  /-- Where the lines go: `stdout`, `stderr`, `file`, `file+stderr` or `both`. -/
  output : String := "stderr"
  /-- The file that they go to. -/
  file : Option Path := none
  /-- Whether lines of text have colors. -/
  color : Bool := true
  /-- Levels of their own for modules. -/
  modules : List (String × String) := []
deriving DecidableEq, Inhabited, Repr

/-- What discovery leaves out. -/
structure DiscoverySettings where
  /-- Excludes for every command. -/
  exclude : List String := ["**/.git", "**/node_modules", "**/target"]
deriving DecidableEq, Inhabited, Repr

/-- All settings. -/
structure Settings where
  /-- How a run logs. -/
  logging : LogSettings := {}
  /-- What discovery leaves out. -/
  discovery : DiscoverySettings := {}
deriving DecidableEq, Inhabited, Repr

end TreePlan
