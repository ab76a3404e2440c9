import TreePlan.Path.Basic

/-!
# Entries

What is known of a path: whether it is a file or a directory, and how it was spelled when that was
learnt.
-/

namespace TreePlan

/-- The kinds of entry. -/
inductive EntryKind where
  /-- A regular file. -/
  | file
  /-- A directory. -/
  | directory
deriving DecidableEq, Inhabited, Repr

/-- A classified path. -/
structure Entry where
  /-- Its kind. -/
  kind : EntryKind
  /-- The path as it was spelled. -/
  path : Path
deriving DecidableEq, Inhabited, Repr

end TreePlan
