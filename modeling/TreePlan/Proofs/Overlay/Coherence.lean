import TreePlan.Proofs.Overlay.Learning

/-!
# Coherent overlays

A plan joins two stores: its order and its outcomes come from what is staged, its paths from the
entries. The join loses nothing because the stores agree (`Coherent`): an entry is recorded under
the key of its path, and what is staged is recorded. A new overlay is coherent, and learning and
staging keep it so, whatever the hasher. The plan of a coherent overlay has one step for each staged
key, in the order of the keys (`Coherent.plan_keys`), and the step does what is staged
(`Coherent.get?_of_mem_plan`).
-/

namespace TreePlan

/-- The change that a step of a plan carries out. -/
def PlanStep.change : PlanStep → Change
  | .delete _ => .delete
  | .write _ data => .write data

namespace Overlay

variable {ω : Type} {b : Backing ω} {o o' : Overlay ω}

/-- The entries and what is staged agree. -/
structure Coherent (b : Backing ω) (o : Overlay ω) : Prop where
  /-- An entry is recorded under the key of its path. -/
  hash_path : ∀ k entry, o.stores.entries.get? k = some entry → b.hash entry.path = k
  /-- What is staged is recorded. -/
  known_of_staged : ∀ k, (o.stores.changes.get? k).isSome → (o.stores.entries.get? k).isSome

/-- Nothing is staged under a key that is not known. -/
theorem Coherent.unstaged_of_unknown (h : Coherent b o) {k : PathKey}
    (hk : o.stores.entries.get? k = none) : o.stores.changes.get? k = none := by
  rw [← Option.not_isSome_iff_eq_none]
  intro hstaged
  have hknown := h.known_of_staged k hstaged
  rw [hk] at hknown
  exact nomatch hknown

/-- A new overlay is coherent. -/
theorem coherent_new (w : ω) : Coherent b (.new w) where
  hash_path _ _ h := nomatch h
  known_of_staged _ h := nomatch h

/-- Recording an entry under the key of its path keeps entries under the keys of their paths. -/
theorem hash_path_record (h : ∀ k entry, o.stores.entries.get? k = some entry →
    b.hash entry.path = k) (entry : Entry) (k : PathKey) (found : Entry)
    (hfound : (o.record (b.hash entry.path) entry).stores.entries.get? k = some found) :
    b.hash found.path = k := by
  rw [get?_record] at hfound
  split at hfound
  · rename_i hk
    rw [← Option.some.inj hfound]
    exact hk
  · exact h k found hfound

/-- Learning keeps an overlay coherent. -/
theorem Coherent.learns (hl : Learns b o o') (h : Coherent b o) : Coherent b o' where
  hash_path := by
    induction hl with
    | refl => exact h.hash_path
    | tail _ step ih =>
      cases step with
      | look | log => exact ih
      | record entry => exact hash_path_record ih entry
      | relate parent entry => exact hash_path_record ih entry
  known_of_staged k hk := by
    rw [hl.changes_eq] at hk
    exact hl.isSome_get? (h.known_of_staged k hk)

/-- What is staged after another change has been staged. -/
theorem get?_stageChange (path : Path) (c : Change) (o : Overlay ω) (k : PathKey) :
    (o.stageChange b path c).stores.changes.get? k =
      if b.hash path = k then some c else o.stores.changes.get? k :=
  OrderedMap.get?_put _ _ _ _

/-- Staging a change records its path as a file. -/
theorem entries_stageChange (path : Path) (c : Change) (o : Overlay ω) (k : PathKey) :
    (o.stageChange b path c).stores.entries.get? k =
      if b.hash path = k then some ⟨.file, path⟩ else o.stores.entries.get? k :=
  get?_record o (b.hash path) k ⟨.file, path⟩

/-- Staging keeps an overlay coherent. -/
theorem Coherent.stageChange (h : Coherent b o) (path : Path) (c : Change) :
    Coherent b (o.stageChange b path c) where
  hash_path k found hfound := hash_path_record h.hash_path ⟨.file, path⟩ k found hfound
  known_of_staged k hk := by
    rw [get?_stageChange] at hk
    rw [entries_stageChange]
    by_cases hp : b.hash path = k
    · rw [if_pos hp]
      rfl
    · rw [if_neg hp] at hk ⊢
      exact h.known_of_staged k hk

/-! ## The plan -/

/-- A step carries out the change that it was made for, at the path that it was made for. -/
theorem change_stepFor (path : Path) (c : Change) :
    (stepFor path c).path = path ∧ (stepFor path c).change = c := by
  cases c <;> exact ⟨rfl, rfl⟩

/-- The plan of a coherent overlay has one step for each staged key, in the order of the keys. -/
theorem Coherent.plan_keys (h : Coherent b o) :
    o.plan.map (fun step => b.hash step.path) = o.stores.changes.byKey.keys := by
  have hstep : ∀ p ∈ o.stores.changes.toList,
      ((o.stores.entries.get? p.1).map fun e => stepFor e.path p.2).map
        (fun step => b.hash step.path) = some p.1 := by
    intro p hp
    have hstaged : o.stores.changes.get? p.1 = some p.2 :=
      (OrderedMap.get?_eq_some_iff _ _ _).mpr hp
    obtain ⟨entry, hentry⟩ : ∃ entry, o.stores.entries.get? p.1 = some entry :=
      Option.isSome_iff_exists.mp (h.known_of_staged p.1 (by rw [hstaged]; rfl))
    rw [hentry, Option.map_some, Option.map_some, (change_stepFor entry.path p.2).1,
      h.hash_path p.1 entry hentry]
  calc o.plan.map (fun step => b.hash step.path)
      = o.stores.changes.toList.filterMap (fun p =>
          ((o.stores.entries.get? p.1).map fun e => stepFor e.path p.2).map
            (fun step => b.hash step.path)) := List.map_filterMap
    _ = o.stores.changes.toList.filterMap (fun p => some p.1) := List.filterMap_congr hstep
    _ = o.stores.changes.byKey.keys := congrFun List.filterMap_eq_map' _

/-- A step of the plan of a coherent overlay does what is staged under its key. -/
theorem Coherent.get?_of_mem_plan (h : Coherent b o) {step : PlanStep} (hs : step ∈ o.plan) :
    o.stores.changes.get? (b.hash step.path) = some step.change := by
  obtain ⟨p, hp, hmap⟩ := List.mem_filterMap.mp hs
  obtain ⟨entry, hentry, rfl⟩ := Option.map_eq_some_iff.mp hmap
  obtain ⟨hpath, hchange⟩ := change_stepFor entry.path p.2
  rw [hpath, hchange, h.hash_path p.1 entry hentry]
  exact (OrderedMap.get?_eq_some_iff _ _ _).mpr hp

end Overlay

end TreePlan
