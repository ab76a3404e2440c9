import TreePlan.Path.Basic

/-!
# Plans

The outcome of a run: what to write and what to delete, in order. Nothing has happened yet.
-/

namespace TreePlan

/-- One step of a plan. -/
inductive PlanStep where
  /-- Delete the file. -/
  | delete (path : Path)
  /-- Write the file. -/
  | write (path : Path) (data : String)
deriving DecidableEq, Repr

/-- The path that a step is about. -/
def PlanStep.path : PlanStep → Path
  | .delete p => p
  | .write p _ => p

/-- The steps to carry out, in order. -/
abbrev Plan := List PlanStep

end TreePlan
