import TreePlan.Key
import TreePlan.Store.OrderedMap

/-!
# Staged changes

Writes and deletions that have not happened yet, one outcome per key. Staging a key again replaces
its outcome and keeps its place.
-/

namespace TreePlan

/-- What is to become of a path. -/
inductive Change where
  /-- It is written. -/
  | write (data : String)
  /-- It is deleted. -/
  | delete
deriving DecidableEq, Repr

/-- The outcome staged for each key, in the order in which the keys were first staged. -/
structure Changes where
  /-- The outcomes by key. -/
  byKey : OrderedMap PathKey Change
deriving DecidableEq, Inhabited

namespace Changes

/-- Nothing staged. -/
def empty : Changes := ⟨.empty⟩

/-- The outcome staged for a key. -/
def get? (s : Changes) (k : PathKey) : Option Change := s.byKey.get? k

/-- Stages an outcome for a key. -/
def stage (s : Changes) (k : PathKey) (c : Change) : Changes := ⟨s.byKey.put k c⟩

/-- The outcomes in the order in which their keys were first staged. -/
def toList (s : Changes) : List (PathKey × Change) := s.byKey.pairs

/-- How many keys are staged. -/
def size (s : Changes) : Nat := s.byKey.size

/-- No key is staged. -/
def isEmpty (s : Changes) : Bool := s.byKey.isEmpty

end Changes

end TreePlan
