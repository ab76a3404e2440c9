/-!
# Look-up in ordered tables

Binary search in a table of ranges that are in order and do not overlap.
-/

namespace TreePlan

/-- The row between `lo` and `hi` whose range holds `c`, where `first` and `last` read a row's range. -/
def searchRange {α : Type} (table : Array α) (first last : α → Nat) (c lo hi : Nat) : Option α :=
  if _h : lo < hi then
    match table[(lo + hi) / 2]? with
    | none => none
    | some row =>
      if c < first row then searchRange table first last c lo ((lo + hi) / 2)
      else if last row < c then searchRange table first last c ((lo + hi) / 2 + 1) hi
      else some row
  else none
termination_by hi - lo

/-- The row whose range holds `c`. -/
def findRange {α : Type} (table : Array α) (first last : α → Nat) (c : Nat) : Option α :=
  searchRange table first last c 0 table.size

/-- Whether a range of the table holds the character. -/
def inRanges (table : Array (Nat × Nat)) (c : Char) : Bool :=
  (findRange table (·.1) (·.2) c.toNat).isSome

end TreePlan
