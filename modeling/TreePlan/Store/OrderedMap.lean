/-!
# Maps that remember their order

A key keeps the place where it was first put; putting it again changes its value only. `pairs` is
the view: every operation is told by what it does to the pairs.
-/

namespace TreePlan

/-- Puts a value under a key: in the key's place if it has one, else at the end. -/
def putPair {κ ν : Type} [DecidableEq κ] (k : κ) (v : ν) : List (κ × ν) → List (κ × ν)
  | [] => [(k, v)]
  | p :: rest => if p.1 = k then (k, v) :: rest else p :: putPair k v rest

theorem keys_putPair {κ ν : Type} [DecidableEq κ] (k : κ) (v : ν) (l : List (κ × ν)) :
    (putPair k v l).map (·.1) =
      if k ∈ l.map (·.1) then l.map (·.1) else l.map (·.1) ++ [k] := by
  induction l with
  | nil => simp [putPair]
  | cons p rest ih =>
    rw [putPair]
    by_cases h : p.1 = k
    · simp [h]
    · have h' : ¬ k = p.1 := fun e => h e.symm
      simp only [if_neg h, List.map_cons, ih, List.mem_cons, h', false_or]
      by_cases hm : k ∈ rest.map (·.1) <;> simp [hm]

theorem nodup_putPair {κ ν : Type} [DecidableEq κ] (k : κ) (v : ν) {l : List (κ × ν)}
    (h : (l.map (·.1)).Nodup) : ((putPair k v l).map (·.1)).Nodup := by
  rw [keys_putPair]
  split
  · exact h
  · rename_i hm
    refine List.nodup_append.2 ⟨h, by simp, ?_⟩
    intro a ha b hb e
    simp only [List.mem_singleton] at hb
    exact hm (hb ▸ e ▸ ha)

/-- A map from keys to values with its keys in the order in which they were first put. -/
structure OrderedMap (κ ν : Type) where
  /-- The keys with their values, in order. -/
  pairs : List (κ × ν)
  /-- No key stands twice. -/
  nodup : (pairs.map (·.1)).Nodup
deriving DecidableEq

namespace OrderedMap

variable {κ ν : Type}

/-- The map without keys. -/
def empty : OrderedMap κ ν := ⟨[], List.nodup_nil⟩

instance : Inhabited (OrderedMap κ ν) := ⟨empty⟩

/-- The keys in order. -/
def keys (m : OrderedMap κ ν) : List κ := m.pairs.map (·.1)

/-- How many keys there are. -/
def size (m : OrderedMap κ ν) : Nat := m.pairs.length

/-- There is no key. -/
def isEmpty (m : OrderedMap κ ν) : Bool := m.pairs.isEmpty

/-- The part of the map whose keys pass a test. -/
def filterKeys (m : OrderedMap κ ν) (keep : κ → Bool) : OrderedMap κ ν :=
  ⟨m.pairs.filter (keep ·.1), m.nodup.sublist (List.Sublist.map _ (List.filter_sublist))⟩

variable [DecidableEq κ]

/-- The value under a key. -/
def get? (m : OrderedMap κ ν) (k : κ) : Option ν := (m.pairs.find? (·.1 = k)).map (·.2)

/-- Whether there is a value under a key. -/
def contains (m : OrderedMap κ ν) (k : κ) : Bool := (m.get? k).isSome

/-- The map with a value put under a key. -/
def put (m : OrderedMap κ ν) (k : κ) (v : ν) : OrderedMap κ ν :=
  ⟨putPair k v m.pairs, nodup_putPair k v m.nodup⟩

/-- The map with a value put under a key unless there is one. -/
def putIfAbsent (m : OrderedMap κ ν) (k : κ) (v : ν) : OrderedMap κ ν :=
  if m.contains k then m else m.put k v

/-- The map of pairs, put one after the other. -/
def ofList (pairs : List (κ × ν)) : OrderedMap κ ν := pairs.foldl (fun m p => m.put p.1 p.2) empty

end OrderedMap

end TreePlan
