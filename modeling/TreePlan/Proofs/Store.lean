import Mathlib.Data.List.Induction
import Mathlib.Data.List.Nodup
import TreePlan.Store.Changes
import TreePlan.Store.Entries
import TreePlan.Store.Relations

/-!
# What the stores hold

A map that remembers its order is determined by two views: its keys in order (`keys_put`) and what
stands under each key (`get?_put`). For a map built by putting pairs one after the other the views
are read off the pairs: the keys are those of the pairs, each at its first place
(`keys_foldl_put`), after those that had a place before (`keys_foldl_put_append`), and under a key
stands what the last pair with that key says (`get?_foldl_put`). The stores are such maps, so their
laws are the laws of the two views. The children of a parent are a list that grows in the same way
(`Relations.childrenOf_foldl_relate`).
-/

namespace TreePlan

/-! ## Maps that remember their order -/

/-- Looking for a key after a pair has been put finds the pair under its own key and what was there
before under any other. -/
theorem find?_putPair {κ ν : Type} [DecidableEq κ] (k k' : κ) (v : ν) (l : List (κ × ν)) :
    (putPair k v l).find? (·.1 = k') = if k = k' then some (k, v) else l.find? (·.1 = k') := by
  induction l with
  | nil => by_cases h : k = k' <;> simp [putPair, h]
  | cons p rest ih =>
    rw [putPair]
    by_cases hp : p.1 = k
    · subst hp
      by_cases h : p.1 = k' <;> simp [h]
    · rw [if_neg hp, List.find?_cons, List.find?_cons, ih]
      by_cases hp' : p.1 = k'
      · have hk : ¬ k = k' := fun e => hp (hp'.trans e.symm)
        simp [hp', hk]
      · simp [hp']

/-- A pair that stands after another has been put is that pair or stood there before. -/
theorem mem_putPair {κ ν : Type} [DecidableEq κ] {k : κ} {v : ν} {l : List (κ × ν)} {p : κ × ν}
    (h : p ∈ putPair k v l) : p = (k, v) ∨ p ∈ l := by
  induction l with
  | nil => exact Or.inl (List.mem_singleton.mp h)
  | cons q rest ih =>
    rw [putPair] at h
    split at h
    · exact (List.mem_cons.mp h).imp_right (List.mem_cons_of_mem q)
    · rcases List.mem_cons.mp h with rfl | h
      · exact Or.inr List.mem_cons_self
      · exact (ih h).imp_right (List.mem_cons_of_mem q)

namespace OrderedMap

variable {κ ν : Type} [DecidableEq κ]

/-- Nothing stands in the map without keys. -/
@[simp]
theorem get?_empty (k : κ) : (empty : OrderedMap κ ν).get? k = none := rfl

/-- Under the key that was put stands the value that was put; the other keys keep theirs. -/
theorem get?_put (m : OrderedMap κ ν) (k k' : κ) (v : ν) :
    (m.put k v).get? k' = if k = k' then some v else m.get? k' := by
  unfold get? put
  rw [find?_putPair]
  by_cases h : k = k' <;> simp [h]

/-- Putting a key leaves the order of the keys alone, or adds the key at the end. -/
theorem keys_put (m : OrderedMap κ ν) (k : κ) (v : ν) :
    (m.put k v).keys = if k ∈ m.keys then m.keys else m.keys ++ [k] := keys_putPair k v m.pairs

/-- A key under which nothing stands is put at the end. -/
theorem pairs_put {m : OrderedMap κ ν} {k : κ} (h : m.get? k = none) (v : ν) :
    (m.put k v).pairs = m.pairs ++ [(k, v)] := by
  have hne : ∀ p ∈ m.pairs, p.1 ≠ k := by
    simpa [get?, List.find?_eq_none] using h
  show putPair k v m.pairs = m.pairs ++ [(k, v)]
  generalize m.pairs = pairs at hne
  induction pairs with
  | nil => rfl
  | cons p rest ih =>
    rw [List.forall_mem_cons] at hne
    rw [putPair, if_neg hne.1, ih hne.2, List.cons_append]

/-- Putting what stands under a key already changes nothing. -/
theorem put_eq_self {m : OrderedMap κ ν} {k : κ} {v : ν} (h : m.get? k = some v) :
    m.put k v = m := by
  obtain ⟨p, hp, rfl⟩ := Option.map_eq_some_iff.mp h
  have hk : p.1 = k := by simpa using List.find?_some hp
  subst hk
  obtain ⟨pairs, hnodup⟩ := m
  unfold put
  congr 1
  dsimp only at hp ⊢
  clear hnodup h
  induction pairs with
  | nil => exact nomatch hp
  | cons q rest ih =>
    rw [List.find?_cons] at hp
    rw [putPair]
    by_cases hq : q.1 = p.1
    · simp only [hq, decide_true, Option.some.injEq] at hp
      rw [if_pos hq, hp]
    · simp only [hq, decide_false] at hp
      rw [if_neg hq, ih hp]

/-- A pair of the map is what its key leads to. -/
theorem get?_eq_some_iff (m : OrderedMap κ ν) (k : κ) (v : ν) :
    m.get? k = some v ↔ (k, v) ∈ m.pairs := by
  unfold get?
  constructor
  · intro h
    obtain ⟨p, hp, rfl⟩ := Option.map_eq_some_iff.mp h
    have hk : p.1 = k := by simpa using List.find?_some hp
    subst hk
    exact List.mem_of_find?_eq_some hp
  · intro h
    obtain ⟨p, hp⟩ : ∃ p, m.pairs.find? (·.1 = k) = some p := by
      rw [← Option.isSome_iff_exists, List.find?_isSome]
      exact ⟨(k, v), h, by simp⟩
    have hk : p.1 = k := by simpa using List.find?_some hp
    -- Two pairs with one key are one pair, for no key stands twice.
    have hpair : p = (k, v) :=
      List.inj_on_of_nodup_map m.nodup (List.mem_of_find?_eq_some hp) h hk
    rw [hp, hpair]
    rfl

/-- What leads to a value is a key. -/
theorem mem_keys_of_isSome {m : OrderedMap κ ν} {k : κ} (h : (m.get? k).isSome) : k ∈ m.keys := by
  obtain ⟨v, hv⟩ := Option.isSome_iff_exists.mp h
  exact List.mem_map_of_mem (f := (·.1)) ((get?_eq_some_iff m k v).mp hv)

/-- A key leads to a value exactly when it is one of the keys. -/
theorem mem_keys_iff {m : OrderedMap κ ν} {k : κ} : k ∈ m.keys ↔ (m.get? k).isSome := by
  refine ⟨fun h => ?_, mem_keys_of_isSome⟩
  obtain ⟨⟨k, v⟩, hmem, rfl⟩ := List.mem_map.mp h
  rw [(get?_eq_some_iff m k v).mpr hmem]
  rfl

/-- A pair that stands after another has been put where there was none is that pair or stood there
before. -/
theorem mem_putIfAbsent {m : OrderedMap κ ν} {k : κ} {v : ν} {p : κ × ν}
    (h : p ∈ (m.putIfAbsent k v).pairs) : p = (k, v) ∨ p ∈ m.pairs := by
  unfold putIfAbsent at h
  split at h
  · exact Or.inr h
  · exact mem_putPair h

/-- Under a key of the part of a map stands what stands under it in the map. -/
theorem get?_filterKeys (m : OrderedMap κ ν) (keep : κ → Bool) (k : κ) :
    (m.filterKeys keep).get? k = if keep k then m.get? k else none := by
  unfold get? filterKeys
  dsimp only
  rw [List.find?_filter]
  split
  · rename_i hk
    congr 2
    funext p
    by_cases hp : p.1 = k <;> simp [hp, hk]
  · rename_i hk
    rw [Option.map_eq_none_iff, List.find?_eq_none]
    intro p _
    by_cases hp : p.1 = k <;> simp [hp, hk]

omit [DecidableEq κ] in
/-- The map with every value replaced by its image. -/
def mapValues {μ : Type} (f : ν → μ) (m : OrderedMap κ ν) : OrderedMap κ μ where
  pairs := m.pairs.map fun p => (p.1, f p.2)
  nodup := by
    rw [List.map_map]
    exact m.nodup

/-- Under a key stands the image of what stood there. -/
theorem get?_mapValues {μ : Type} (f : ν → μ) (m : OrderedMap κ ν) (k : κ) :
    (m.mapValues f).get? k = (m.get? k).map f := by
  unfold get? mapValues
  rw [List.find?_map, Option.map_map, Option.map_map]
  rfl

/-- Putting a value and taking images is putting its image among the images. -/
theorem mapValues_put {μ : Type} (f : ν → μ) (m : OrderedMap κ ν) (k : κ) (v : ν) :
    (m.put k v).mapValues f = (m.mapValues f).put k (f v) := by
  obtain ⟨pairs, hnodup⟩ := m
  unfold put mapValues
  congr 1
  dsimp only
  clear hnodup
  induction pairs with
  | nil => rfl
  | cons p rest ih =>
    rw [putPair, List.map_cons, putPair]
    split
    · rfl
    · rw [List.map_cons, ih]

/-- A list in which nothing stands twice has no duplicates to lose. -/
theorem eraseDups_of_nodup {l : List κ} (h : l.Nodup) : l.eraseDups = l := by
  induction l with
  | nil => rfl
  | cons k rest ih =>
    rw [List.nodup_cons] at h
    have hrest : rest.filter (fun k' => !k' == k) = rest := by
      rw [List.filter_eq_self]
      intro k' hmem
      have hne : k' ≠ k := fun e => h.1 (e ▸ hmem)
      simp only [beq_eq_false_iff_ne.mpr hne, Bool.not_false]
    rw [List.eraseDups_cons, hrest, ih h.2]

/-- An element after others is kept when duplicates are erased unless it is one of them. -/
theorem eraseDups_concat (l : List κ) (k : κ) :
    (l ++ [k]).eraseDups = if k ∈ l.eraseDups then l.eraseDups else l.eraseDups ++ [k] := by
  rw [List.eraseDups_append]
  by_cases h : k ∈ l
  · have hnew : [k].removeAll l = [] := by
      simp only [List.removeAll, List.filter_cons, List.filter_nil, List.elem_eq_mem,
        decide_eq_true h, Bool.not_true, Bool.false_eq_true, if_false]
    rw [if_pos (List.mem_eraseDups.mpr h), hnew, List.eraseDups_nil, List.append_nil]
  · have hnew : [k].removeAll l = [k] := by
      simp only [List.removeAll, List.filter_cons, List.filter_nil, List.elem_eq_mem,
        decide_eq_false h, Bool.not_false, if_true]
    rw [if_neg fun hm => h (List.mem_eraseDups.mp hm), hnew, List.eraseDups_cons, List.filter_nil,
      List.eraseDups_nil]

/-- Erasing duplicates leaves none. -/
theorem nodup_eraseDups (l : List κ) : l.eraseDups.Nodup := by
  induction l using List.reverseRecOn with
  | nil => exact List.nodup_nil
  | append_singleton l k ih =>
    rw [eraseDups_concat]
    split
    · exact ih
    · rename_i hk
      exact ih.append (List.nodup_singleton k) (List.disjoint_singleton.mpr hk)

/-- Putting pairs one after the other adds each key that has no place yet at the place of its first
pair. -/
theorem keys_foldl_put_append (l : List (κ × ν)) (m : OrderedMap κ ν) :
    (l.foldl (fun m p => m.put p.1 p.2) m).keys = (m.keys ++ l.map (·.1)).eraseDups := by
  induction l using List.reverseRecOn with
  | nil =>
    rw [List.map_nil, List.append_nil]
    exact (eraseDups_of_nodup m.nodup).symm
  | append_singleton l p ih =>
    rw [List.foldl_append, List.foldl_cons, List.foldl_nil, keys_put, ih, List.map_append,
      ← List.append_assoc, List.map_singleton, eraseDups_concat]

/-- Putting pairs one after the other puts each key at the place of its first pair. -/
theorem keys_foldl_put (l : List (κ × ν)) :
    (l.foldl (fun m p => m.put p.1 p.2) (empty : OrderedMap κ ν)).keys =
      (l.map (·.1)).eraseDups := keys_foldl_put_append l empty

/-- After pairs have been put one after the other, the last pair with a key decides. -/
theorem get?_foldl_put (l : List (κ × ν)) (m : OrderedMap κ ν) (k : κ) :
    (l.foldl (fun m p => m.put p.1 p.2) m).get? k =
      (((l.filter (·.1 = k)).getLast?).map (·.2)).or (m.get? k) := by
  induction l using List.reverseRecOn with
  | nil => simp
  | append_singleton l p ih =>
    rw [List.foldl_append, List.foldl_cons, List.foldl_nil, get?_put, ih, List.filter_append]
    by_cases h : p.1 = k <;> simp [h]

end OrderedMap

/-! ## Relations -/

namespace Relations

variable {r : Relations} {parent : PathKey}

/-- The children of any parent after one child has been related. -/
theorem childrenOf_relate (r : Relations) (parent child k : PathKey) :
    (r.relate parent child).childrenOf k =
      if parent = k then
        if child ∈ r.childrenOf parent then r.childrenOf parent
        else r.childrenOf parent ++ [child]
      else r.childrenOf k := by
  have hrelated : r.related parent child = true ↔ child ∈ r.childrenOf parent :=
    List.contains_iff_mem
  unfold relate
  by_cases hchild : child ∈ r.childrenOf parent
  · rw [if_pos (hrelated.mpr hchild), if_pos hchild]
    split
    · rename_i he
      rw [he]
    · rfl
  · rw [if_neg (fun h => hchild (hrelated.mp h)), if_neg hchild]
    unfold childrenOf
    rw [OrderedMap.get?_put]
    split <;> rfl

/-- The children of a parent after children have been related to it: each at its first place, after
those that have been seen before. -/
theorem childrenOf_foldl_relate {seen : List PathKey} (children : List PathKey)
    (h : r.childrenOf parent = seen.eraseDups) :
    (children.foldl (·.relate parent ·) r).childrenOf parent = (seen ++ children).eraseDups := by
  induction children using List.reverseRecOn with
  | nil =>
    rw [List.append_nil]
    exact h
  | append_singleton children child ih =>
    rw [List.foldl_append, List.foldl_cons, List.foldl_nil, childrenOf_relate, if_pos rfl, ih,
      ← List.append_assoc, OrderedMap.eraseDups_concat]

/-- Children that are related already change nothing. -/
theorem childrenOf_foldl_relate_of_subset {children : List PathKey}
    (h : children ⊆ r.childrenOf parent) :
    (children.foldl (·.relate parent ·) r).childrenOf parent = r.childrenOf parent := by
  induction children generalizing r with
  | nil => rfl
  | cons child rest ih =>
    obtain ⟨hchild, hrest⟩ := List.cons_subset.mp h
    have hsame : (r.relate parent child).childrenOf parent = r.childrenOf parent := by
      rw [childrenOf_relate, if_pos rfl, if_pos hchild]
    rw [List.foldl_cons, ih (hsame.symm ▸ hrest), hsame]

/-- Children that are new come after those that are related. -/
theorem childrenOf_foldl_relate_of_nodup {children : List PathKey}
    (h : (r.childrenOf parent ++ children).Nodup) :
    (children.foldl (·.relate parent ·) r).childrenOf parent =
      r.childrenOf parent ++ children := by
  have hbefore := OrderedMap.eraseDups_of_nodup (List.nodup_append.mp h).1
  rw [childrenOf_foldl_relate children hbefore.symm, OrderedMap.eraseDups_of_nodup h]

/-- The children of other parents stay as they are. -/
theorem childrenOf_foldl_relate_of_ne (children : List PathKey) {k : PathKey} (h : parent ≠ k) :
    (children.foldl (·.relate parent ·) r).childrenOf k = r.childrenOf k := by
  induction children generalizing r with
  | nil => rfl
  | cons child rest ih => rw [List.foldl_cons, ih, childrenOf_relate, if_neg h]

end Relations

end TreePlan
