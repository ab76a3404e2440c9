import TreePlan.Key
import TreePlan.Store.OrderedMap

/-!
# Relations

Which children a directory ever had. Relations only grow: a child that disappears from a later
listing stays related, so repeated listings of a directory show a stable superset.
-/

namespace TreePlan

/-- Parents with their children, both in the order in which they were first related. -/
structure Relations where
  /-- The children of every parent that has any. -/
  children : OrderedMap PathKey (List PathKey)
deriving DecidableEq, Inhabited

namespace Relations

/-- No relations. -/
def empty : Relations := ⟨.empty⟩

/-- The children of a parent; none for a parent that has not been seen. -/
def childrenOf (r : Relations) (parent : PathKey) : List PathKey :=
  (r.children.get? parent).getD []

/-- Whether a child is related to a parent. -/
def related (r : Relations) (parent child : PathKey) : Bool := (r.childrenOf parent).contains child

/-- Relates a child to a parent, after the children that the parent has. -/
def relate (r : Relations) (parent child : PathKey) : Relations :=
  if r.related parent child then r
  else ⟨r.children.put parent (r.childrenOf parent ++ [child])⟩

/-- How many parents have children. -/
def size (r : Relations) : Nat := r.children.size

/-- No parent has children. -/
def isEmpty (r : Relations) : Bool := r.children.isEmpty

end Relations

end TreePlan
