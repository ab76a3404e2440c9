import TreePlan.Proofs.Engine.Discovering
import TreePlan.Transforms.Remove

/-!
# What removing stages

A run that removes files stages the deletion of every discovered file, one after the other
(`Overlay.Removed`). It ends well from any overlay, whatever is staged there and whatever the
hasher, as long as the discovery succeeds (`Engine.removing_ends`).
-/

namespace TreePlan

open Overlay

variable {ω : Type} {b : Backing ω}

/-- Files have been removed one after the other: the files, the overlay before, and the overlay
after. -/
structure Overlay.Removed (b : Backing ω) (files : List Path) (o o' : Overlay ω) : Prop where
  /-- The deletion of every file is staged, and what is staged for other keys is as it was. -/
  get?_eq : ∀ k, o'.stores.changes.get? k =
    if k ∈ files.map b.hash then some .delete else o.stores.changes.get? k
  /-- The keys that were staged keep their places, and new ones follow in the order of the files. -/
  keys_eq : o'.stores.changes.byKey.keys = o.stores.changes.byKey.keys ++
    (files.map b.hash).filter (· ∉ o.stores.changes.byKey.keys)
  /-- Every file is traversed once, in order. -/
  traversed : o'.done .traverseFile = o.done .traverseFile ++ files
  /-- Every file is deleted once, in order. -/
  deleted : o'.done .delete = o.done .delete ++ files

/-- Nothing has been removed. -/
theorem Overlay.Removed.nil (o : Overlay ω) : Removed b [] o o where
  get?_eq _ := rfl
  keys_eq := (List.append_nil _).symm
  traversed := (List.append_nil _).symm
  deleted := (List.append_nil _).symm

/-- The overlay after a file has been removed. -/
def Overlay.afterRemoving (b : Backing ω) (p : Path) (o : Overlay ω) : Overlay ω :=
  ((o.stageDelete b p).log b (.executed .delete p)).log b (.executed .traverseFile p)

/-- One more file has been removed, whose key is not that of one before it. -/
theorem Overlay.Removed.snoc {files : List Path} {o o' : Overlay ω} (h : Removed b files o o')
    {p : Path} (hp : b.hash p ∉ files.map b.hash) :
    Removed b (files ++ [p]) o (o'.afterRemoving b p) where
  get?_eq k := by
    have hstaged := get?_stageChange (b := b) p .delete o' k
    rw [h.get?_eq] at hstaged
    refine hstaged.trans ?_
    rw [List.map_append, List.map_singleton]
    by_cases hk : b.hash p = k
    · rw [if_pos hk, if_pos (List.mem_append_right _ (List.mem_singleton.mpr hk.symm))]
    · rw [if_neg hk]
      simp only [List.mem_append, List.mem_singleton, Ne.symm hk, or_false]
  keys_eq := by
    have hkeys := OrderedMap.keys_put o'.stores.changes.byKey (b.hash p) .delete
    rw [h.keys_eq] at hkeys
    refine hkeys.trans ?_
    rw [List.map_append, List.map_singleton, List.filter_append]
    by_cases hm : b.hash p ∈ o.stores.changes.byKey.keys
    · rw [if_pos (List.mem_append_left _ hm), List.filter_singleton]
      simp [hm]
    · have hnew : b.hash p ∉ o.stores.changes.byKey.keys ++
          (files.map b.hash).filter (· ∉ o.stores.changes.byKey.keys) := by
        rw [List.mem_append, List.mem_filter]
        exact fun hmem => hmem.elim hm fun hmem => hp hmem.1
      rw [if_neg hnew, List.append_assoc, List.filter_singleton]
      simp [hm]
  traversed := by
    have hdeleted : CommandKind.delete ≠ .traverseFile := nofun
    rw [afterRemoving, done_executed_self, done_executed_of_ne hdeleted, ← List.append_assoc,
      ← h.traversed]
    rfl
  deleted := by
    have htraversed : CommandKind.traverseFile ≠ .delete := nofun
    rw [afterRemoving, done_executed_of_ne htraversed, done_executed_self, ← List.append_assoc,
      ← h.deleted]
    rfl

namespace Engine

/-- The engine that removes discovered files. -/
def removing (b : Backing ω) (d : Discovery) (dependencies : Dependencies) : Engine ω Unit :=
  ⟨b, removal ω d, dependencies⟩

variable (d : Discovery) (dependencies : Dependencies) (options : Options) (state : Option Unit)
  {root : Path} {o o₁ : Overlay ω} {files : List Path}

/-- The engine works on files only if there is something to discover. -/
theorem removing_filesOnly (h : d.includes.isEmpty = false) :
    (removing b d dependencies).FilesOnly := ⟨h, fun _ _ => rfl, fun _ _ => rfl⟩

/-- A recorded file is removed. -/
theorem removing_works {p : Path}
    (h : (o.stores.entries.get? (b.hash p)).isSome) :
    (removing b d dependencies).Works state [.command (.traverseFile p options)] o (.ok ())
      (o.afterRemoving b p) := by
  obtain ⟨entry, hentry⟩ := Option.isSome_iff_exists.mp h
  have hfile : (removing b d dependencies).perform state (.command (.traverseFile p options)) o =
      (.ok [.command (.delete p), .announcement .file p], o) := by
    rw [perform, performFile, classifyFile]
    rw [show (removing b d dependencies).backing = b from rfl, classifyAs_of_get? .file hentry]
    rfl
  exact works_of_perform hfile (.step rfl (.step rfl (.done _)))

/-- A run that removes files ends well and removes every discovered file. -/
theorem removing_ends (h : (removing b d dependencies).Discovers root o files o₁) :
    ∃ o', (removing b d dependencies).Ends root options state o (.ok o'.plan) o' ∧
      Removed b files o o' := by
  obtain ⟨o₂, hworks, hremoved⟩ := works_files options state
    (P := fun before o' => Removed b before o₁ o') h.nodup
    (fun p hp => by rw [h.get?_eq_some hp]; rfl)
    (fun before p rest o' _ hnew hknown _ hremoved =>
      ⟨_, removing_works d dependencies options state hknown, hremoved.snoc hnew⟩)
    (.nil o₁)
  have hchanges := h.learns.changes_eq
  have hfile : CommandKind.traverseDirectory ≠ .traverseFile := nofun
  have hdelete : CommandKind.traverseDirectory ≠ .delete := nofun
  refine ⟨_, h.ends_ok (removing_filesOnly d dependencies h.isEmpty_includes) hworks,
    fun k => ?_, ?_, ?_, ?_⟩
  · rw [← hchanges]
    exact hremoved.get?_eq k
  · rw [← hchanges]
    exact hremoved.keys_eq
  · rw [done_conclude hfile, hremoved.traversed, h.learns.done_eq]
  · rw [done_conclude hdelete, hremoved.deleted, h.learns.done_eq]

end Engine

end TreePlan
