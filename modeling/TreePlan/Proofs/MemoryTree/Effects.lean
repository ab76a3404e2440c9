import Mathlib.Data.List.Pairwise
import TreePlan.Proofs.MemoryTree.Shape

/-!
# What a change does to a tree in memory

A file that is written and a directory that is made are nodes placed in a tree (`Placed`): the
ancestors that are no nodes come after all nodes, in their order from the root, and every other node
keeps its value and its place. Removing keeps the nodes that are not at or below the path
(`remove_cases`). A change that fails does nothing (`Reachable.fails_iff`), and what one that
succeeds does is told without running it (`Reachable.changes_of_ok`).

Both rest on how far writing goes. The directories above a file are made before the file is put, and
then a directory may be where the file should be. But that directory is a node, so in a closed tree
nothing above it was missing, and nothing has been made (`Closed.putFile_cases`). This is so for a
path whose parent is above it, and not for the empty path: writing there makes the directory `.`,
which is then in its own way.
-/

namespace TreePlan

open TreePlan.Path

namespace MemoryTree

variable {t t' : MemoryTree}

/-! ## Placing a node -/

/-- A tree in which a node has been placed at a path of another tree, with directories above it. -/
structure Placed (t : MemoryTree) (p : Path) (node : MemoryNode) (t' : MemoryTree) : Prop where
  /-- The node is found under every spelling of the path. -/
  node?_eq : ∀ q, q.normalize = p.normalize → t'.node? q = some node
  /-- What is above the path is a directory. -/
  directory_of_above : ∀ d ∈ p.normalize.above, t'.nodes.get? d = some .directory
  /-- Every other node keeps its kind and its content. -/
  kept : ∀ q other, q ≠ p.normalize → t.nodes.get? q = some other → t'.nodes.get? q = some other
  /-- All nodes keep their places, and the ancestors that were missing come after them, from the
  root to the path. -/
  keys_eq : t'.nodes.keys = t.nodes.keys ++ t.missing p.normalize.ancestors

/-- Among paths that are nodes none is missing. -/
theorem missing_eq_nil {paths : List Path} (h : ∀ q ∈ paths, (t.nodes.get? q).isSome) :
    t.missing paths = [] := by
  refine List.filter_eq_nil_iff.mpr fun q hq hnone => ?_
  exact nomatch (Option.isNone_iff_eq_none.mp hnone) ▸ h q hq

/-- The ancestors of a normal form that are missing: those above it, and then itself. -/
theorem missing_ancestors (t : MemoryTree) {p : Path} (hp : p.normalize = p) :
    t.missing p.ancestors =
      t.missing p.above ++ if (t.nodes.get? p).isSome then [] else [p] := by
  rw [ancestors_of_normal hp, missing, List.filter_append, missing]
  cases hget : t.nodes.get? p <;> simp [hget]

/-- Above a node nothing is missing. -/
theorem Closed.missing_above (h : Closed t) {p : Path} (hp : (t.nodes.get? p).isSome) :
    t.missing p.above = [] :=
  missing_eq_nil fun d hd => by rw [h.directory_of_above p hp d hd]; rfl

/-- The keys after directories have been added. -/
theorem keys_of_pairs {added : List Path}
    (hpairs : t'.nodes.pairs = t.nodes.pairs ++ added.map fun q => (q, .directory)) :
    t'.nodes.keys = t.nodes.keys ++ added := by
  rw [OrderedMap.keys, hpairs, List.map_append, List.map_map]
  exact congrArg _ (List.map_id added)

/-- Two trees with the same pairs are the same tree. -/
theorem eq_of_pairs (h : t'.nodes.pairs = t.nodes.pairs) : t' = t := by
  obtain ⟨⟨pairs, hnodup⟩⟩ := t
  obtain ⟨⟨pairs', hnodup'⟩⟩ := t'
  obtain rfl : pairs' = pairs := h
  rfl

/-! ## Making a directory -/

/-- Making a directory fails at the file in its way and does nothing, or it places a directory. -/
theorem Closed.makeDirectories_placed (h : Closed t) (p : Path) :
    (∃ q ∈ p.normalize.ancestors, t.IsFile q ∧
        t.makeDirectories p = (.error (.fileInTheWay q), t)) ∨
      ∃ t', t.makeDirectories p = (.ok (), t') ∧ (∀ q ∈ p.normalize.ancestors, ¬ t.IsFile q) ∧
        Placed t p .directory t' := by
  have hancestors := ancestors_of_normal (normalize_normalize p)
  refine (h.makeDirectories_cases p).imp id ?_
  rintro ⟨t', hmake, hfree, hpairs⟩
  have hdirectory : ∀ q ∈ p.normalize.ancestors, t'.nodes.get? q = some .directory :=
    fun q => get?_of_mem hfree hpairs
  refine ⟨t', hmake, hfree, ?_, fun d hd => ?_, fun q other _ hq => ?_, keys_of_pairs hpairs⟩
  · intro q hq
    rw [node?, hq]
    exact hdirectory _ (hancestors ▸ List.mem_append_right _ List.mem_cons_self)
  · exact hdirectory d (hancestors ▸ List.mem_append_left _ hd)
  · exact (get?_of_pairs hpairs).mpr (Or.inl hq)

/-! ## Writing a file -/

/-- Putting a file, after the directories above it have been added to a closed tree: a directory is
where it should be, and then none has been added; or the file is placed. -/
theorem Closed.putFile_cases (h : Closed t) {p : Path} (hp : p.normalize = p) (content : String)
    (hfree : ∀ q ∈ p.above, ¬ t.IsFile q)
    (hpairs : t'.nodes.pairs = t.nodes.pairs ++ (t.missing p.above).map fun q => (q, .directory)) :
    (t.nodes.get? p = some .directory ∧
        t'.putFile p content = (.error (.wroteDirectory p), t)) ∨
      t.nodes.get? p ≠ some .directory ∧
        ∃ t'', t'.putFile p content = (.ok (), t'') ∧ Placed t p (.file content) t'' := by
  have hother : ∀ d ∈ p.above, p ≠ d := fun d hd he => (normal_of_mem_above hp hd).2.2 he.symm
  have hadded : p ∉ t.missing p.above := fun hmem => hother p (mem_missing.mp hmem).1 rfl
  have hsame : t'.nodes.get? p = t.nodes.get? p := by
    refine Option.ext fun node => ?_
    rw [get?_of_pairs hpairs]
    exact or_iff_left fun hnew => hadded hnew.1
  unfold MemoryTree.putFile
  split
  · rename_i hdirectory
    rw [hsame] at hdirectory
    -- Where there is a node, nothing above it was missing.
    have hnone : t.missing p.above = [] := h.missing_above (by rw [hdirectory]; rfl)
    rw [hnone, List.map_nil, List.append_nil] at hpairs
    rw [eq_of_pairs hpairs]
    exact Or.inl ⟨hdirectory, rfl⟩
  · rename_i hdirectory
    rw [hsame] at hdirectory
    refine Or.inr ⟨hdirectory, _, rfl, fun q hq => ?_, fun d hd => ?_,
      fun q other hq hkept => ?_, ?_⟩
    · rw [node?, hq, hp, OrderedMap.get?_put, if_pos rfl]
    · rw [hp] at hd
      rw [OrderedMap.get?_put, if_neg (hother d hd)]
      exact get?_of_mem hfree hpairs hd
    · rw [hp] at hq
      rw [OrderedMap.get?_put, if_neg hq.symm]
      exact (get?_of_pairs hpairs).mpr (Or.inl hkept)
    · have hkey : p ∈ t'.nodes.keys ↔ (t.nodes.get? p).isSome := by
        rw [OrderedMap.mem_keys_iff, hsame]
      rw [hp, missing_ancestors t hp, OrderedMap.keys_put, keys_of_pairs hpairs]
      rw [keys_of_pairs hpairs] at hkey
      simp only [hkey]
      split <;> simp

/-- Writing a file at a path with an absolute normal form fails at a file above it, or at a
directory that is there, and does nothing; or it places the file. -/
theorem Closed.write_cases (h : Closed t) {p : Path} (habsolute : p.normalize.isAbsolute = true)
    (content : String) :
    (∃ q ∈ p.normalize.above, t.IsFile q ∧ t.write p content = (.error (.fileInTheWay q), t)) ∨
      (∀ q ∈ p.normalize.above, ¬ t.IsFile q) ∧
        ((t.nodes.get? p.normalize = some .directory ∧
            t.write p content = (.error (.wroteDirectory p.normalize), t)) ∨
          t.nodes.get? p.normalize ≠ some .directory ∧
            ∃ t', t.write p content = (.ok (), t') ∧ Placed t p (.file content) t') := by
  have hnormal := normalize_normalize p
  have hplaced {t' : MemoryTree} (hput : Placed t p.normalize (.file content) t') :
      Placed t p (.file content) t' := by
    obtain ⟨hnode, habove, hkept, hkeys⟩ := hput
    rw [hnormal] at hnode habove hkept hkeys
    exact ⟨hnode, habove, hkept, hkeys⟩
  unfold MemoryTree.write
  rcases parent?_of_normal hnormal with ⟨hparent, hnone⟩ | ⟨-, -, hrelative⟩ |
    ⟨parent, hparent, hnormal', hancestors⟩
  · -- There is nothing above the root.
    have hfree : ∀ q ∈ p.normalize.above, ¬ t.IsFile q := by
      rw [hnone]
      exact fun q hq => absurd hq List.not_mem_nil
    have hpairs : t.nodes.pairs = t.nodes.pairs ++
        (t.missing p.normalize.above).map fun q => (q, .directory) := by
      rw [hnone]
      exact (List.append_nil _).symm
    rw [hparent]
    refine Or.inr ⟨hfree, (h.putFile_cases hnormal content hfree hpairs).imp id ?_⟩
    exact fun ⟨hne, t', hput, hp⟩ => ⟨hne, t', hput, hplaced hp⟩
  · exact absurd (hrelative.symm.trans habsolute) Bool.false_ne_true
  · have hmake := h.makeDirectories_cases parent
    rw [hnormal', hancestors] at hmake
    rw [hparent]
    dsimp only
    rcases hmake with ⟨q, hq, hfile, hmake⟩ | ⟨t', hmake, hfree, hpairs⟩
    · rw [hmake]
      exact Or.inl ⟨q, hq, hfile, rfl⟩
    · rw [hmake]
      refine Or.inr ⟨hfree, (h.putFile_cases hnormal content hfree hpairs).imp id ?_⟩
      exact fun ⟨hne, t'', hput, hp⟩ => ⟨hne, t'', hput, hplaced hp⟩

/-! ## Removing a node -/

/-- Removing fails where nothing is and does nothing, or it keeps the nodes whose components do not
begin with those of the path, as they are and in their order. -/
theorem remove_cases (t : MemoryTree) (p : Path) :
    (t.nodes.get? p.normalize = none ∧ t.remove p = (.error (.absent p.normalize), t)) ∨
      (t.nodes.get? p.normalize).isSome ∧ ∃ t', t.remove p = (.ok (), t') ∧
        t'.nodes.pairs =
          t.nodes.pairs.filter fun node => ¬ p.normalize.components <+: node.1.components := by
  unfold remove OrderedMap.contains
  split
  · rename_i hsome
    refine Or.inr ⟨hsome, _, rfl, ?_⟩
    refine List.filter_congr fun node _ => ?_
    show (!node.1.startsWith p.normalize) = _
    rw [decide_not, startsWith]
    congr 1
    rw [Bool.eq_iff_iff, List.isPrefixOf_iff_prefix, decide_eq_true_iff]
  · rename_i hnone
    exact Or.inl ⟨Option.not_isSome_iff_eq_none.mp hnone, rfl⟩

/-! ## Changes that fail -/

/-- Of the ancestors of a path, at most one is a file. -/
theorem Closed.eq_of_isFile (h : Closed t) {p q q' : Path} (hp : p.normalize = p)
    (hq : q ∈ p.ancestors) (hq' : q' ∈ p.ancestors) (hfile : t.IsFile q) (hfile' : t.IsFile q') :
    q = q' := by
  have hpairwise : p.ancestors.Pairwise fun q q' => ¬ (t.IsFile q ∧ t.IsFile q') :=
    (pairwise_ancestors hp).imp fun habove ⟨hq, _, hq'⟩ => h.not_isFile (hq' ▸ rfl) habove hq
  have hsymm : Std.Symm fun q q' => ¬ (t.IsFile q ∧ t.IsFile q') :=
    ⟨fun _ _ hnot hboth => hnot hboth.symm⟩
  by_contra hne
  exact hpairwise.forall hq hq' hne ⟨hfile, hfile'⟩

/-- Making directories fails exactly if the path or one above it is a file. Writing at a path with
an absolute normal form fails exactly if one above it is a file or the path is a directory. Removing
fails exactly if nothing is there. What has failed has not changed the nodes or their order. -/
theorem Reachable.fails_iff (h : Reachable t) {p : Path}
    (habsolute : p.normalize.isAbsolute = true) :
    (∀ e t', t.makeDirectories p = (.error e, t') ↔
        t' = t ∧ ∃ q ∈ p.normalize.ancestors, t.IsFile q ∧ e = .fileInTheWay q) ∧
      (∀ content e t', t.write p content = (.error e, t') ↔
        t' = t ∧ ((∃ q ∈ p.normalize.above, t.IsFile q ∧ e = .fileInTheWay q) ∨
          t.nodes.get? p.normalize = some .directory ∧ e = .wroteDirectory p.normalize)) ∧
      ∀ e t', t.remove p = (.error e, t') ↔
        t' = t ∧ t.nodes.get? p.normalize = none ∧ e = .absent p.normalize := by
  have hclosed := h.closed
  have hnormal := normalize_normalize p
  have hancestors := ancestors_of_normal hnormal
  -- A result with an error is another one just if it has this error and this tree.
  have herror {e e' : IoError} {t₁ t' : MemoryTree} :
      ((.error e, t₁) : Except IoError Unit × MemoryTree) = (.error e', t') ↔
        t' = t₁ ∧ e' = e := by
    rw [Prod.mk.injEq, Except.error.injEq, and_comm, eq_comm (a := t₁), eq_comm (a := e)]
  refine ⟨fun e t' => ?_, fun content e t' => ?_, fun e t' => ?_⟩
  · rcases hclosed.makeDirectories_cases p with ⟨q, hq, hfile, hmake⟩ | ⟨t₁, hmake, hfree, -⟩
    · rw [hmake, herror]
      refine and_congr_right fun _ => ⟨fun he => ⟨q, hq, hfile, he⟩, ?_⟩
      rintro ⟨q', hq', hfile', he⟩
      rw [he, hclosed.eq_of_isFile hnormal hq hq' hfile hfile']
    · rw [hmake]
      exact ⟨nofun, fun ⟨_, q, hq, hfile, _⟩ => absurd hfile (hfree q hq)⟩
  · rcases hclosed.write_cases habsolute content with ⟨q, hq, hfile, hwrite⟩ |
      ⟨hfree, ⟨hdirectory, hwrite⟩ | ⟨hdirectory, t₁, hwrite, -⟩⟩
    · rw [hwrite, herror]
      refine and_congr_right fun _ => ⟨fun he => Or.inl ⟨q, hq, hfile, he⟩, ?_⟩
      rintro (⟨q', hq', hfile', he⟩ | ⟨hdirectory, -⟩)
      · rw [he, hclosed.eq_of_isFile hnormal (hancestors ▸ List.mem_append_left _ hq)
          (hancestors ▸ List.mem_append_left _ hq') hfile hfile']
      · exact absurd hfile (hclosed.not_isFile (hdirectory ▸ rfl) hq)
    · rw [hwrite, herror]
      refine and_congr_right fun _ => ⟨fun he => Or.inr ⟨hdirectory, he⟩, ?_⟩
      rintro (⟨q, hq, hfile, -⟩ | ⟨-, he⟩)
      · exact absurd hfile (hfree q hq)
      · exact he
    · rw [hwrite]
      refine ⟨nofun, ?_⟩
      rintro ⟨-, ⟨q, hq, hfile, -⟩ | ⟨hdirectory', -⟩⟩
      · exact absurd hfile (hfree q hq)
      · exact absurd hdirectory' hdirectory
  · rcases t.remove_cases p with ⟨hnone, hremove⟩ | ⟨hsome, t₁, hremove, -⟩
    · rw [hremove, herror]
      exact and_congr_right fun _ => ⟨fun he => ⟨hnone, he⟩, And.right⟩
    · rw [hremove]
      refine ⟨nofun, ?_⟩
      rintro ⟨-, hnone, -⟩
      rw [hnone] at hsome
      exact nomatch hsome

/-- A tree with a file in a directory and another file whose name begins as the directory's. -/
def filed : MemoryTree :=
  ((new.write (.ofString "/a/f") "x").2.write (.ofString "/ab") "y").2

theorem reachable_filed : Reachable filed := .write (.write .new _ _) _ _

/-- Nothing is made below a file on the way down, nor for a file where a directory is, and nothing
is removed where nothing is. -/
theorem fails_filed :
    filed.makeDirectories (.ofString "/a/./f/g/h") =
        (.error (.fileInTheWay (.ofString "/a/f")), filed) ∧
      filed.write (.ofString "/c/../ab/d/e") "" =
        (.error (.fileInTheWay (.ofString "/ab")), filed) ∧
      filed.write (.ofString "//a/") "" = (.error (.wroteDirectory (.ofString "/a")), filed) ∧
      filed.remove (.ofString "/b") = (.error (.absent (.ofString "/b")), filed) := by
  have hmake := Reachable.fails_iff reachable_filed (p := .ofString "/a/./f/g/h")
    (by decide +kernel)
  have hbelow := Reachable.fails_iff reachable_filed (p := .ofString "/c/../ab/d/e")
    (by decide +kernel)
  have hwrite := Reachable.fails_iff reachable_filed (p := .ofString "//a/") (by decide +kernel)
  have hremove := Reachable.fails_iff reachable_filed (p := .ofString "/b") (by decide +kernel)
  refine ⟨(hmake.1 _ _).mpr ⟨rfl, _, ?_, ⟨"x", ?_⟩, rfl⟩,
    (hbelow.2.1 _ _ _).mpr ⟨rfl, Or.inl ⟨_, ?_, ⟨"y", ?_⟩, rfl⟩⟩,
    (hwrite.2.1 _ _ _).mpr ⟨rfl, Or.inr ⟨?_, ?_⟩⟩, (hremove.2.2 _ _).mpr ⟨rfl, ?_, ?_⟩⟩ <;>
  decide +kernel

/-- Writing at the empty path, which stands for `.`, makes that directory and so fails. -/
example : new.write .empty "" =
    (.error (.wroteDirectory (.ofString ".")), ⟨new.nodes.put (.ofString ".") .directory⟩) := by
  decide +kernel

/-! ## Changes that succeed -/

/-- A placed file is read under every spelling of its path. -/
theorem Placed.read_eq {p : Path} {content : String} (h : Placed t p (.file content) t') {q : Path}
    (hq : q.normalize = p.normalize) : t'.read q = .ok content := by
  rw [read, h.node?_eq q hq]

/-- A file that is written where a file is keeps its place. -/
theorem Closed.overwrite (h : Closed t) {p : Path} (habsolute : p.normalize.isAbsolute = true)
    (hfile : t.IsFile p.normalize) (content : String) :
    ∃ t', t.write p content = (.ok (), t') ∧ t'.nodes.keys = t.nodes.keys := by
  obtain ⟨old, hold⟩ := hfile
  have hnode : (t.nodes.get? p.normalize).isSome := hold ▸ rfl
  rcases h.write_cases habsolute content with ⟨q, hq, hfile, -⟩ |
    ⟨-, ⟨hdirectory, -⟩ | ⟨-, t', hwrite, hplaced⟩⟩
  · exact absurd hfile (h.not_isFile hnode hq)
  · exact nomatch hold.symm.trans hdirectory
  · have hmissing : t.missing p.normalize.ancestors = [] := by
      rw [missing_ancestors t (normalize_normalize p), h.missing_above hnode, if_pos hnode]
      rfl
    refine ⟨t', hwrite, ?_⟩
    rw [hplaced.keys_eq, hmissing, List.append_nil]

/-- What is a node after a path has been removed: what was one before and is not at or below the
path. -/
theorem get?_of_filter {p : Path} (hpairs : t'.nodes.pairs =
      t.nodes.pairs.filter fun node => ¬ p.components <+: node.1.components) {q : Path}
    {node : MemoryNode} :
    t'.nodes.get? q = some node ↔
      t.nodes.get? q = some node ∧ ¬ p.components <+: q.components := by
  rw [OrderedMap.get?_eq_some_iff, OrderedMap.get?_eq_some_iff, hpairs, List.mem_filter,
    decide_eq_true_iff]

/-- When a node has been removed nothing is there, and what is above it is a directory still. -/
theorem Closed.removed (h : Closed t) {p : Path} (hp : p.normalize = p)
    (hnode : (t.nodes.get? p).isSome) (hpairs : t'.nodes.pairs =
      t.nodes.pairs.filter fun node => ¬ p.components <+: node.1.components) :
    t'.nodes.get? p = none ∧ ∀ d ∈ p.above, t'.nodes.get? d = some .directory := by
  constructor
  · exact Option.eq_none_iff_forall_ne_some.mpr fun node hget =>
      ((get?_of_filter hpairs).mp hget).2 List.prefix_rfl
  · intro d hd
    obtain ⟨hd', hfront, hne⟩ := normal_of_mem_above hp hd
    -- What is above the path has fewer components, and so they do not begin with those of the path.
    refine (get?_of_filter hpairs).mpr ⟨h.directory_of_above p hnode d hd, fun hback => hne ?_⟩
    exact eq_of_components hd' hp (hfront.eq_of_length_le hback.length_le)

/-- What has been removed and is written again is the last node. -/
theorem Closed.write_again (h : Closed t) {p : Path} (habsolute : p.normalize.isAbsolute = true)
    (hnode : (t.nodes.get? p.normalize).isSome) (content : String) :
    ∃ t' t'', t.remove p = (.ok (), t') ∧ t'.write p content = (.ok (), t'') ∧
      t''.nodes.keys = t'.nodes.keys ++ [p.normalize] := by
  have hnormal := normalize_normalize p
  have hremoved := h.remove p
  rcases t.remove_cases p with ⟨hnone, -⟩ | ⟨-, t', hremove, hpairs⟩
  · rw [hnone] at hnode
    exact nomatch hnode
  rw [hremove] at hremoved
  obtain ⟨hgone, habove⟩ := h.removed hnormal hnode hpairs
  have hmissing : t'.missing p.normalize.ancestors = [p.normalize] := by
    rw [missing_ancestors t' hnormal, missing_eq_nil fun d hd => by rw [habove d hd]; rfl, hgone]
    rfl
  rcases hremoved.write_cases habsolute content with ⟨q, hq, ⟨old, hold⟩, -⟩ |
    ⟨-, ⟨hdirectory, -⟩ | ⟨-, t'', hwrite, hplaced⟩⟩
  · exact nomatch hold.symm.trans (habove q hq)
  · exact nomatch hgone.symm.trans hdirectory
  · exact ⟨t', t'', hremove, hwrite, hmissing ▸ hplaced.keys_eq⟩

/-- Writing that succeeds places a file, which is then read under every spelling of its path, and
making directories places a directory. Removing keeps the nodes that are not at or below the path. A
file that is overwritten keeps its place, and what is removed and written again is the last node. -/
theorem Reachable.changes_of_ok (h : Reachable t) {p : Path}
    (habsolute : p.normalize.isAbsolute = true) :
    (∀ content t', t.write p content = (.ok (), t') → Placed t p (.file content) t' ∧
        ∀ q, q.normalize = p.normalize → t'.read q = .ok content) ∧
      (∀ t', t.makeDirectories p = (.ok (), t') → Placed t p .directory t') ∧
      (∀ t', t.remove p = (.ok (), t') → t'.nodes.pairs =
        t.nodes.pairs.filter fun node => ¬ p.normalize.components <+: node.1.components) ∧
      (t.IsFile p.normalize → ∀ content, ∃ t', t.write p content = (.ok (), t') ∧
        t'.nodes.keys = t.nodes.keys) ∧
      ((t.nodes.get? p.normalize).isSome → ∀ content, ∃ t' t'', t.remove p = (.ok (), t') ∧
        t'.write p content = (.ok (), t'') ∧
        t''.nodes.keys = t'.nodes.keys ++ [p.normalize]) := by
  have hclosed := h.closed
  refine ⟨fun content t' hwrite => ?_, fun t' hmake => ?_, fun t' hremove => ?_,
    hclosed.overwrite habsolute, hclosed.write_again habsolute⟩
  · rcases hclosed.write_cases habsolute content with ⟨q, -, -, hwrite'⟩ |
      ⟨-, ⟨-, hwrite'⟩ | ⟨-, t₁, hwrite', hplaced⟩⟩
    · exact nomatch hwrite.symm.trans hwrite'
    · exact nomatch hwrite.symm.trans hwrite'
    · obtain ⟨-, rfl⟩ := Prod.mk.inj (hwrite.symm.trans hwrite')
      exact ⟨hplaced, fun q => hplaced.read_eq⟩
  · rcases hclosed.makeDirectories_placed p with ⟨q, -, -, hmake'⟩ | ⟨t₁, hmake', -, hplaced⟩
    · exact nomatch hmake.symm.trans hmake'
    · obtain ⟨-, rfl⟩ := Prod.mk.inj (hmake.symm.trans hmake')
      exact hplaced
  · rcases t.remove_cases p with ⟨-, hremove'⟩ | ⟨-, t₁, hremove', hpairs⟩
    · exact nomatch hremove.symm.trans hremove'
    · obtain ⟨-, rfl⟩ := Prod.mk.inj (hremove.symm.trans hremove')
      exact hpairs

/-- Directories come before the file below them, a node whose name begins as that of a removed one
stays, and what is written again is found at the end. -/
theorem changes_filed :
    (∃ t', filed.write (.ofString "/c/../a/g//h") "z" = (.ok (), t') ∧
        t'.nodes.keys = filed.nodes.keys ++ [.ofString "/a/g", .ofString "/a/g/h"] ∧
        t'.read (.ofString "/a/./g/h/") = .ok "z") ∧
      (∃ t', filed.makeDirectories (.ofString "//d/e") = (.ok (), t') ∧
        t'.nodes.keys = filed.nodes.keys ++ [.ofString "/d", .ofString "/d/e"]) ∧
      (∃ t', filed.remove (.ofString "/a") = (.ok (), t') ∧
        t'.nodes.pairs = [(.ofString "/", .directory), (.ofString "/ab", .file "y")]) ∧
      (∃ t', filed.write (.ofString "/a/f") "z" = (.ok (), t') ∧
        t'.nodes.keys = filed.nodes.keys) ∧
      ∃ t' t'', filed.remove (.ofString "/a") = (.ok (), t') ∧
        t'.write (.ofString "/a") "z" = (.ok (), t'') ∧
        t''.nodes.keys = t'.nodes.keys ++ [.ofString "/a"] := by
  have hwrite := (Reachable.changes_of_ok reachable_filed (p := .ofString "/c/../a/g//h")
    (by decide +kernel)).1 "z" _ (Prod.ext (by decide +kernel) rfl)
  have hmake := (Reachable.changes_of_ok reachable_filed (p := .ofString "//d/e")
    (by decide +kernel)).2.1 _ (Prod.ext (by decide +kernel) rfl)
  have hremove := (Reachable.changes_of_ok reachable_filed (p := .ofString "/a")
    (by decide +kernel)).2.2.1 _ (Prod.ext (by decide +kernel) rfl)
  have hover := (Reachable.changes_of_ok reachable_filed (p := .ofString "/a/f")
    (by decide +kernel)).2.2.2.1 ⟨"x", by decide +kernel⟩ "z"
  have hagain := (Reachable.changes_of_ok reachable_filed (p := .ofString "/a")
    (by decide +kernel)).2.2.2.2 (by decide +kernel) "z"
  have hnormal : (Path.ofString "/a").normalize = .ofString "/a" := by decide +kernel
  rw [hnormal] at hagain
  refine ⟨⟨_, ?_, hwrite.1.keys_eq.trans ?_, hwrite.2 _ ?_⟩, ⟨_, ?_, hmake.keys_eq.trans ?_⟩,
    ⟨_, ?_, hremove.trans ?_⟩, hover, hagain⟩ <;>
  decide +kernel

end MemoryTree

end TreePlan
