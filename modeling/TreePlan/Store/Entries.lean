import TreePlan.Entry
import TreePlan.Key
import TreePlan.Store.OrderedMap

/-!
# Recorded entries

What has been learnt of paths, by key. Classifying goes through `recordIfNew`, which never
replaces an entry; listing, discovery and staging go through `record`, which does.
-/

namespace TreePlan

/-- The entry recorded under each key. -/
structure Entries where
  /-- The entries by key. -/
  byKey : OrderedMap PathKey Entry
deriving DecidableEq, Inhabited

namespace Entries

/-- Nothing recorded. -/
def empty : Entries := ⟨.empty⟩

/-- The entry under a key. -/
def get? (s : Entries) (k : PathKey) : Option Entry := s.byKey.get? k

/-- The kind of the entry under a key. -/
def kind? (s : Entries) (k : PathKey) : Option EntryKind := (s.get? k).map (·.kind)

/-- Whether an entry is recorded under a key. -/
def contains (s : Entries) (k : PathKey) : Bool := s.byKey.contains k

/-- Records an entry, in place of the one that was recorded. -/
def record (s : Entries) (k : PathKey) (e : Entry) : Entries := ⟨s.byKey.put k e⟩

/-- Records an entry unless one is recorded. -/
def recordIfNew (s : Entries) (k : PathKey) (e : Entry) : Entries := ⟨s.byKey.putIfAbsent k e⟩

/-- How many keys have an entry. -/
def size (s : Entries) : Nat := s.byKey.size

/-- No key has an entry. -/
def isEmpty (s : Entries) : Bool := s.byKey.isEmpty

end Entries

end TreePlan
