import TreePlan.Proofs.MemoryTree.Walk
import TreePlan.Proofs.Overlay.Still

/-!
# What listing records

Listing a directory of a tree in memory records its children under their own paths and relates them
to the directory (`Overlay.recordNodes`). The children that are answered with are those that are
related, so they are those of the tree, in the order in which they were made, if none or all of them
have been related before (`Overlay.list_ofMemory`); and then each is recorded as what it is in the
tree, whatever was recorded or staged under its key (`Overlay.get?_recordNodes`).
-/

namespace TreePlan

open TreePlan.Path

namespace Overlay

variable {ω : Type} {hash : Hasher} {p : Path} {nodes : List (Path × MemoryNode)} {o : Overlay ω}

/-- The overlay with nodes recorded as children of a directory. -/
def recordNodes (hash : Hasher) (p : Path) (nodes : List (Path × MemoryNode)) (o : Overlay ω) :
    Overlay ω :=
  nodes.foldl (fun o q => (o.relate (hash p) (hash q.1)).record (hash q.1) ⟨q.2.kind, q.1⟩) o

/-- Recording children touches entries and relations only. -/
theorem recordNodes_rest (hash : Hasher) (p : Path) (nodes : List (Path × MemoryNode))
    (o : Overlay ω) :
    (o.recordNodes hash p nodes).world = o.world ∧
      (o.recordNodes hash p nodes).journal = o.journal ∧
      (o.recordNodes hash p nodes).stores.changes = o.stores.changes := by
  induction nodes generalizing o with
  | nil => exact ⟨rfl, rfl, rfl⟩
  | cons q rest ih => exact ih _

/-- Recording children relates their keys to the directory. -/
theorem relations_recordNodes (hash : Hasher) (p : Path) (nodes : List (Path × MemoryNode))
    (o : Overlay ω) :
    (o.recordNodes hash p nodes).stores.relations =
      (nodes.map fun q => hash q.1).foldl (·.relate (hash p) ·) o.stores.relations := by
  induction nodes generalizing o with
  | nil => rfl
  | cons q rest ih => exact ih _

/-- Under the keys of other paths stays recorded what was. -/
theorem get?_recordNodes_of_not_mem {k : PathKey} (h : k ∉ nodes.map fun q => hash q.1) :
    (o.recordNodes hash p nodes).stores.entries.get? k = o.stores.entries.get? k := by
  induction nodes generalizing o with
  | nil => rfl
  | cons q rest ih =>
    rw [List.map_cons, List.mem_cons, not_or] at h
    refine (ih h.2).trans ?_
    rw [get?_record, if_neg (Ne.symm h.1)]
    rfl

/-- Each child is recorded as what it is, if the keys tell the children apart. -/
theorem get?_recordNodes (h : (nodes.map fun q => hash q.1).Nodup) :
    ∀ q ∈ nodes, (o.recordNodes hash p nodes).stores.entries.get? (hash q.1) =
      some ⟨q.2.kind, q.1⟩ := by
  induction nodes generalizing o with
  | nil => exact nofun
  | cons q rest ih =>
    rw [List.map_cons, List.nodup_cons] at h
    refine List.forall_mem_cons.mpr ⟨?_, ih h.2⟩
    refine (get?_recordNodes_of_not_mem h.1).trans ?_
    rw [get?_record, if_pos rfl]

/-- What is known stays known when children are recorded. -/
theorem isSome_get?_recordNodes {k : PathKey} (h : (o.stores.entries.get? k).isSome) :
    ((o.recordNodes hash p nodes).stores.entries.get? k).isSome := by
  induction nodes generalizing o with
  | nil => exact h
  | cons q rest ih =>
    refine ih ?_
    rw [get?_record]
    split
    · rfl
    · exact h

/-- The children that are related are those that are recorded, if none or all of them have been
related before. -/
theorem childrenOf_recordNodes (h : (nodes.map fun q => hash q.1).Nodup)
    (hrelated : o.stores.relations.childrenOf (hash p) = [] ∨
      o.stores.relations.childrenOf (hash p) = nodes.map fun q => hash q.1) :
    (o.recordNodes hash p nodes).stores.relations.childrenOf (hash p) =
      nodes.map fun q => hash q.1 := by
  rw [relations_recordNodes]
  rcases hrelated with hnone | hall
  · rw [Relations.childrenOf_foldl_relate_of_nodup (by rwa [hnone]), hnone, List.nil_append]
  · rw [Relations.childrenOf_foldl_relate_of_subset (by rw [hall]; exact fun _ hk => hk), hall]

/-- The listing of children records them under their own paths, if their names are text. -/
theorem foldl_recordChild {view : ω → MemoryTree} {t : MemoryTree} (h : t.Upright)
    (htext : ∀ q, (t.nodes.get? q).isSome → ∀ n, .normal n ∈ q.components →
      (Utf8.decode? n).isSome)
    (hnodes : nodes ⊆ t.childrenOf p) (o : Overlay ω) :
    (nodes.map MemoryTree.listed).foldl (recordChild (.ofMemory hash view) p) o =
      o.recordNodes hash p nodes := by
  induction nodes generalizing o with
  | nil => rfl
  | cons q rest ih =>
    obtain ⟨hq, hrest⟩ := List.cons_subset.mp hnodes
    have hpush := h.push_listed hq (htext q.1 (by rw [(MemoryTree.mem_childrenOf.mp hq).1]; rfl))
    have hchild : recordChild (.ofMemory hash view) p o (MemoryTree.listed q) =
        (o.relate (hash p) (hash q.1)).record (hash q.1) ⟨q.2.kind, q.1⟩ := by
      show (o.relate (hash p) (hash (p.push _))).record (hash (p.push _)) ⟨_, p.push _⟩ = _
      rw [hpush]
    rw [List.map_cons, List.foldl_cons, hchild]
    exact ih hrest _

/-- A directory of a tree in memory is listed with its children, in the order in which they were
made, if none or all of them have been related to it. -/
theorem list_ofMemory {view : ω → MemoryTree} {t : MemoryTree} (h : t.Upright)
    (htext : ∀ q, (t.nodes.get? q).isSome → ∀ n, .normal n ∈ q.components →
      (Utf8.decode? n).isSome)
    (hview : view o.world = t) (hp : t.nodes.get? p = some .directory)
    (hnodup : ((t.childrenOf p).map fun q => hash q.1).Nodup)
    (hrelated : o.stores.relations.childrenOf (hash p) = [] ∨
      o.stores.relations.childrenOf (hash p) = (t.childrenOf p).map fun q => hash q.1) :
    o.list (.ofMemory hash view) p =
      (.ok ((t.childrenOf p).map (·.1)), o.recordNodes hash p (t.childrenOf p)) := by
  have hpaths : (o.recordNodes hash p (t.childrenOf p)).childPaths (.ofMemory hash view) p =
      (t.childrenOf p).map (·.1) := by
    rw [childPaths, Backing.hash_ofMemory, childrenOf_recordNodes hnodup hrelated,
      List.filterMap_map, ← List.filterMap_eq_map]
    refine List.filterMap_congr fun q hq => ?_
    rw [Function.comp_apply, get?_recordNodes hnodup q hq]
    rfl
  have hlist : (Backing.ofMemory hash view).list p o.world =
      (.ok ((t.childrenOf p).map MemoryTree.listed), o.world) := by
    show ((view o.world).list p, o.world) = _
    rw [hview, h.list_eq (h.isAbsolute p (by rw [hp]; rfl)) hp]
  rw [list, hlist]
  dsimp only
  rw [foldl_recordChild h htext (List.Subset.refl _), hpaths]

end Overlay

end TreePlan
