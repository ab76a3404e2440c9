import TreePlan.Proofs.Overlay.History

/-!
# Reading after a history

What reading a file is answered with depends on what was staged last under the key of its path, and
where nothing was, on what the backing says of the file at that moment (`readAnswer`). A history
stages what its stagings say and nothing else (`changes_after`), so its last staging under the key
decides, however the paths were spelled and whatever else was asked in between (`read_after_new`).
-/

namespace TreePlan

namespace Overlay

variable {ω : Type} {b : Backing ω}

/-- What reading a path is answered with, by the outcome that is staged for it, if there is one, and
by what the backing says of the file. -/
def readAnswer (path : Path) (staged : Option Change) (current : Except IoError String) :
    Except RunError String :=
  match staged, current with
  | some (.write data), _ => .ok data
  | some .delete, _ => .error (.fileDeleted path)
  | none, .ok content => .ok content
  | none, .error _ => .ok ""

/-- Reading is answered by what is staged and by what the backing says at that moment. -/
theorem read_eq_readAnswer (path : Path) (o : Overlay ω) :
    (o.read b path).1 =
      readAnswer path (o.stores.changes.get? (b.hash path)) (b.read path o.world).1 := by
  unfold read
  cases o.stores.changes.get? (b.hash path) with
  | some c => cases c <;> rfl
  | none =>
    obtain ⟨current, w⟩ := b.read path o.world
    cases current <;> rfl

/-- What is staged for a key after a history: the last staging for it, or else what was staged
before. -/
theorem get?_changes_after (history : List (Operation ω)) (o : Overlay ω) (k : PathKey) :
    (o.after b history).stores.changes.get? k =
      (lastStaging? (stagings b history) k).or (o.stores.changes.get? k) := by
  rw [Changes.get?, changes_after, byKey_foldl_stage, OrderedMap.get?_foldl_put]
  rfl

/-- A use that stages nothing has no part in the stagings of a history. -/
theorem stagings_of_unstaged (before rest : List (Operation ω)) {use : Operation ω}
    (h : use.staging? b = none) :
    stagings b (before ++ use :: rest) = stagings b (before ++ rest) := by
  rw [stagings, stagings, List.filterMap_append, List.filterMap_append, List.filterMap_cons, h]

/-- After a history of a new overlay, reading a path under any spelling gives the content that was
staged last under its key; it fails if that was a deletion; and if nothing was staged under the key,
it gives what the backing says of the file now, or nothing if the file cannot be read. Reading
leaves the stores as they are. A use that stages nothing can be left out of the history, and the
same is staged. -/
theorem read_after_new (b : Backing ω) (w : ω) (history : List (Operation ω)) (path : Path) :
    (((Overlay.new w).after b history).read b path).1 =
        readAnswer path (lastStaging? (stagings b history) (b.hash path))
          (b.read path ((Overlay.new w).after b history).world).1 ∧
      (((Overlay.new w).after b history).read b path).2.stores =
        ((Overlay.new w).after b history).stores ∧
      ∀ before use rest, history = before ++ use :: rest → use.staging? b = none →
        ((Overlay.new w).after b (before ++ rest)).stores.changes =
          ((Overlay.new w).after b history).stores.changes := by
  refine ⟨?_, stores_read path _, ?_⟩
  · rw [read_eq_readAnswer, get?_changes_after]
    exact congrArg (readAnswer path · _) (Option.or_none ..)
  · rintro before use rest rfl hunstaged
    -- What is staged depends on the stagings of the history only.
    rw [changes_after, changes_after, stagings_of_unstaged before rest hunstaged]

end Overlay

end TreePlan
