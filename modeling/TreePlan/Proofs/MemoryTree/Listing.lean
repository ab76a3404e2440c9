import TreePlan.Proofs.MemoryTree.Shape
import TreePlan.Proofs.MemoryTree.Walk

/-!
# Listings of a tree in memory

A listing carries the children of a directory as names, and whoever walks on joins a name to the
directory and asks for the path that this gives. What a tree lists is one entry for each child, in
the order in which the children were made (`Reachable.listing_shows`), and the way from a path to a
name and back is lossless for a name that is text (`Shows.push_eq`). A path can hold any bytes, but
a listing says names as text: a child whose name is not valid UTF-8 is listed, and is not found
again under what the listing calls it (`listing_lossy`).
-/

namespace TreePlan

open TreePlan.Path

namespace MemoryTree

variable {t : MemoryTree} {p : Path}

/-- The last name of a path is text, if it has one. -/
def NamedInText (q : Path) : Prop := ∀ n, q.fileName? = some n → (Utf8.decode? n).isSome

/-- What an entry in the listing of a directory says of one of its children. -/
structure Shows (t : MemoryTree) (p : Path) (entry : Listed) (child : Path × MemoryNode) :
    Prop where
  /-- The entry has the kind of the child. -/
  kind_eq : entry.kind? = some child.2.kind
  /-- The entry has the last name of the child, as text. -/
  name_eq : (child.1.fileName?.map fun n => String.ofList (Utf8.decodeLossy n)) = some entry.name
  /-- Joined to the normal form of the directory, a name that is text gives the path of the
  child. -/
  push_eq : NamedInText child.1 → p.normalize.push (.ofString entry.name) = child.1
  /-- Joined to any spelling of the directory, it gives a spelling of that path. -/
  normalize_eq : NamedInText child.1 → (p.push (.ofString entry.name)).normalize = child.1
  /-- What is there has the kind that the entry says. -/
  stat_eq : NamedInText child.1 → t.stat (p.push (.ofString entry.name)) = .ok entry.kind?

/-- A child of an absolute directory is shown by what is listed for it. -/
theorem Sound.shows_listed (h : Sound t) (habsolute : p.normalize.isAbsolute = true)
    {child : Path × MemoryNode} (hchild : child ∈ t.childrenOf p.normalize) :
    t.Shows p (listed child) child := by
  obtain ⟨q, node⟩ := child
  have hnode := (mem_childrenOf.mp hchild).1
  obtain ⟨l, n, hplain, hp, rfl⟩ := h.exists_child_names habsolute hchild
  have hname := fileName?_rooted hplain
  have hpush (htext : NamedInText (rooted (l ++ [n]))) :
      p.normalize.push (.ofString (listed (rooted (l ++ [n]), node)).name) = rooted (l ++ [n]) := by
    rw [hp]
    exact push_listed_rooted hplain (htext n hname)
  have hnormalize (htext : NamedInText (rooted (l ++ [n]))) :
      (p.push (.ofString (listed (rooted (l ++ [n]), node)).name)).normalize =
        rooted (l ++ [n]) := by
    rw [normalize_push_congr (normalize_normalize p).symm, hpush htext, normalize_rooted hplain]
  refine ⟨rfl, ?_, hpush, hnormalize, fun htext => ?_⟩
  · dsimp only [listed]
    rw [hname]
    rfl
  · exact stat_eq_ok_iff.mpr (by rw [node?, hnormalize htext, hnode]; rfl)

/-- In every tree that is reached the listing of a directory with an absolute normal form shows
each node whose parent it is, once and in the order in which the nodes were made. If their names are
text, the names joined to the directory are the paths of these nodes. -/
theorem Reachable.listing_shows (h : Reachable t) (habsolute : p.normalize.isAbsolute = true)
    (hp : t.node? p = some .directory) :
    ∃ entries, t.list p = .ok entries ∧
      List.Forall₂ (t.Shows p) entries (t.childrenOf p.normalize) ∧
      ((t.childrenOf p.normalize).map (·.1)).Nodup ∧
      ((∀ child ∈ t.childrenOf p.normalize, NamedInText child.1) →
        (entries.map fun entry => p.normalize.push (.ofString entry.name)) =
          (t.childrenOf p.normalize).map (·.1)) := by
  have hsound := h.sound
  have hshows : List.Forall₂ (t.Shows p) ((t.childrenOf p.normalize).map listed)
      (t.childrenOf p.normalize) :=
    List.forall₂_map_left_iff.mpr
      (List.forall₂_same.mpr fun child hchild => hsound.shows_listed habsolute hchild)
  refine ⟨(t.childrenOf p.normalize).map listed, ?_, hshows, nodup_childrenOf t _, fun htext => ?_⟩
  · rw [list_congr t (normalize_normalize p).symm]
    exact hsound.list_eq habsolute hp
  · rw [List.map_map]
    exact List.map_congr_left fun child hchild =>
      (hsound.shows_listed habsolute hchild).push_eq (htext child hchild)

/-- A directory with a file and a directory whose names are text. -/
def twoNames : MemoryTree :=
  ((new.write (.ofString "/d/é.txt") "x").2.makeDirectories (.ofString "/d/a//b")).2

/-- What such a directory lists leads back to its children, under another spelling of it. -/
theorem listing_shows_twoNames :
    ∃ entries, twoNames.list (.ofString "//d/./a/..") = .ok entries ∧
      List.Forall₂ (twoNames.Shows (.ofString "//d/./a/..")) entries
        (twoNames.childrenOf (.ofString "/d")) ∧
      (entries.map fun entry => (Path.ofString "/d").push (.ofString entry.name)) =
        [.ofString "/d/é.txt", .ofString "/d/a"] := by
  have hnormal : (Path.ofString "//d/./a/..").normalize = .ofString "/d" := by decide +kernel
  have hchildren : (twoNames.childrenOf (.ofString "/d")).map (·.1) =
      [.ofString "/d/é.txt", .ofString "/d/a"] := by decide +kernel
  obtain ⟨entries, hlist, hshows, -, hpaths⟩ :=
    Reachable.listing_shows (t := twoNames) (p := .ofString "//d/./a/..")
      (.makeDirectories (.write .new _ _) _) (by decide +kernel) (by decide +kernel)
  rw [hnormal] at hshows hpaths
  refine ⟨entries, hlist, hshows, (hpaths fun child hchild => ?_).trans hchildren⟩
  have hmem := List.mem_map_of_mem (f := (·.1)) hchild
  rw [hchildren] at hmem
  have htext : ∀ q ∈ [Path.ofString "/d/é.txt", .ofString "/d/a"],
      ∀ n ∈ q.fileName?, (Utf8.decode? n).isSome := by decide +kernel
  exact htext child.1 hmem

/-- A file whose name is not valid UTF-8 is listed under a name that leads to another path, where
there is nothing. -/
theorem listing_lossy :
    Reachable (new.write ⟨[separator, 0x61, 0xff]⟩ "x").2 ∧
      (new.write ⟨[separator, 0x61, 0xff]⟩ "x").2.node? ⟨[separator]⟩ = some .directory ∧
      ((new.write ⟨[separator, 0x61, 0xff]⟩ "x").2.childrenOf ⟨[separator]⟩).map (·.1) =
        [⟨[separator, 0x61, 0xff]⟩] ∧
      (new.write ⟨[separator, 0x61, 0xff]⟩ "x").2.list ⟨[separator]⟩ =
        .ok [⟨"a\uFFFD", some .file⟩] ∧
      Path.push ⟨[separator]⟩ (.ofString "a\uFFFD") ≠ ⟨[separator, 0x61, 0xff]⟩ ∧
      (new.write ⟨[separator, 0x61, 0xff]⟩ "x").2.stat
        (Path.push ⟨[separator]⟩ (.ofString "a\uFFFD")) ≠ .ok (some .file) :=
  ⟨.write .new _ _, by decide +kernel, by decide +kernel, by decide +kernel, by decide +kernel,
    by decide +kernel⟩

end MemoryTree

end TreePlan
