import TreePlan.MemoryTree
import TreePlan.Proofs.Path.Rooted
import TreePlan.Proofs.Store

/-!
# Trees in memory

A tree in memory is what making directories, writing files and removing nodes make of the tree with
nothing but its root (`MemoryTree.Reachable`), whether these succeed or not. A tree is sound
(`MemoryTree.Sound`) if an absolute node stands under its normal form and what it stands in is a
directory. What a tree says of a path does not depend on its spelling (`stat_congr`, `list_congr`,
`read_congr`, `glob_congr`).
-/

namespace TreePlan

open TreePlan.Path

namespace MemoryTree

/-- What can be made of the tree with nothing but its root. -/
inductive Reachable : MemoryTree → Prop
  /-- The tree with nothing but its root. -/
  | new : Reachable new
  /-- A directory is made, with those above it, as far as nothing is in the way. -/
  | makeDirectories {t : MemoryTree} (h : Reachable t) (p : Path) :
      Reachable (t.makeDirectories p).2
  /-- A file is written, unless something is in the way. -/
  | write {t : MemoryTree} (h : Reachable t) (p : Path) (content : String) :
      Reachable (t.write p content).2
  /-- A node is removed, if it exists. -/
  | remove {t : MemoryTree} (h : Reachable t) (p : Path) : Reachable (t.remove p).2

/-- The absolute nodes of a tree stand under normal forms and in directories. -/
structure Sound (t : MemoryTree) : Prop where
  /-- Every absolute node stands under a normal form. -/
  exists_rooted : ∀ q, (t.nodes.get? q).isSome → q.isAbsolute = true →
    ∃ l, (∀ n ∈ l, Plain n) ∧ q = rooted l
  /-- What a node stands in is a directory. -/
  directory_of_child : ∀ l n, (∀ m ∈ l ++ [n], Plain m) →
    (t.nodes.get? (rooted (l ++ [n]))).isSome → t.nodes.get? (rooted l) = some .directory

variable {t : MemoryTree}

/-- An absolute node is found under its own spelling. -/
theorem Sound.node?_eq (h : Sound t) {p : Path} (habsolute : p.isAbsolute = true)
    {node : MemoryNode} (hp : t.nodes.get? p = some node) : t.node? p = some node := by
  obtain ⟨l, hl, rfl⟩ := h.exists_rooted p (by rw [hp]; rfl) habsolute
  rw [node?, normalize_rooted hl, hp]

/-! ## Questions -/

/-- A path is what its node is. -/
theorem stat_eq_ok_iff {t : MemoryTree} {p : Path} {kind : EntryKind} :
    t.stat p = .ok (some kind) ↔ (t.node? p).map (·.kind) = some kind := by
  unfold stat
  cases t.node? p with
  | none => exact ⟨nofun, nofun⟩
  | some node => exact ⟨fun h => Except.ok.inj h, congrArg Except.ok⟩

/-- What a path is does not depend on its spelling. -/
theorem stat_congr (t : MemoryTree) {p q : Path} (h : p.normalize = q.normalize) :
    t.stat p = t.stat q := by
  rw [stat, stat, node?, node?, h]

/-- What a directory holds does not depend on its spelling. -/
theorem list_congr (t : MemoryTree) {p q : Path} (h : p.normalize = q.normalize) :
    t.list p = t.list q := by
  rw [list, list, node?, node?, h]

/-- What a file says does not depend on its spelling. -/
theorem read_congr (t : MemoryTree) {p q : Path} (h : p.normalize = q.normalize) :
    t.read p = t.read q := by
  rw [read, read, node?, node?, h]

/-- What a pattern matches under a directory does not depend on the spelling of the directory. -/
theorem glob_congr (t : MemoryTree) {p q : Path} (h : p.normalize = q.normalize)
    (pattern : String) (excludes : List String) :
    t.glob p pattern excludes = t.glob q pattern excludes := by
  rw [glob, glob, h]

end MemoryTree

end TreePlan
