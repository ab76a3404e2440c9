import TreePlan.Proofs.MemoryTree
import TreePlan.Proofs.Path.Above

/-!
# The shape of a tree in memory

The nodes of a tree are a list, and nothing about it says that they form a tree. They do in every
tree that is reached (`Reachable.wellFormed`), because every change keeps the tree closed
(`Closed`): nodes stand under normal forms, and what is above a node is a directory. In a closed
tree nothing is a node below a path that is none, so of the ancestors of a path the missing ones
come last. Hence making directories adds the missing ones in their order, or meets a file before it
has added anything (`Closed.makeDirectories_cases`). Relative paths are nodes like others, and the
root may be removed and come back as a file.
-/

namespace TreePlan

open TreePlan.Path

namespace MemoryTree

variable {t t' : MemoryTree}

/-- Nodes stand under normal forms, and what is above a node is a directory. -/
structure Closed (t : MemoryTree) : Prop where
  /-- Every node stands under a normal form. -/
  normal : ∀ q, (t.nodes.get? q).isSome → q.normalize = q
  /-- What is above a node is a directory. -/
  directory_of_above : ∀ q, (t.nodes.get? q).isSome →
    ∀ d ∈ q.above, t.nodes.get? d = some .directory

/-- There is a file at a path. -/
def IsFile (t : MemoryTree) (p : Path) : Prop := ∃ content, t.nodes.get? p = some (.file content)

/-- Above a node there is no file. -/
theorem Closed.not_isFile (h : Closed t) {q d : Path} (hq : (t.nodes.get? q).isSome)
    (hd : d ∈ q.above) : ¬ t.IsFile d := by
  rintro ⟨content, hfile⟩
  exact nomatch hfile.symm.trans (h.directory_of_above q hq d hd)

/-- The paths among others that are no nodes. -/
def missing (t : MemoryTree) (paths : List Path) : List Path :=
  paths.filter fun q => (t.nodes.get? q).isNone

/-! ## Making directories -/

/-- Directories are made at the paths that are no nodes, after all nodes and in their order, unless
a file is in the way, and then nothing is made. What is asked of the paths is that nothing is a node
after one that is none. -/
theorem makeEach_cases (paths : List Path)
    (hdown : paths.Pairwise fun d q => (t.nodes.get? q).isSome → t.nodes.get? d = some .directory)
    (hnodup : paths.Nodup) :
    (∃ q ∈ paths, t.IsFile q ∧ t.makeEach paths = (.error (.fileInTheWay q), t)) ∨
      ∃ t', t.makeEach paths = (.ok (), t') ∧ (∀ q ∈ paths, ¬ t.IsFile q) ∧
        t'.nodes.pairs = t.nodes.pairs ++ (t.missing paths).map fun q => (q, .directory) := by
  induction paths generalizing t with
  | nil => exact Or.inr ⟨t, rfl, nofun, (List.append_nil _).symm⟩
  | cons d rest ih =>
    rw [List.pairwise_cons] at hdown
    rw [List.nodup_cons] at hnodup
    rw [makeEach, missing, List.filter_cons]
    cases hd : t.nodes.get? d with
    | some node =>
      cases node with
      | file content => exact Or.inl ⟨d, List.mem_cons_self, ⟨content, hd⟩, rfl⟩
      | directory =>
        have hfirst : ¬ t.IsFile d := fun ⟨_, hfile⟩ => nomatch hd.symm.trans hfile
        rcases ih hdown.2 hnodup.2 with ⟨q, hq, hfile, hmake⟩ | ⟨t', hmake, hfree, hpairs⟩
        · exact Or.inl ⟨q, List.mem_cons_of_mem d hq, hfile, hmake⟩
        · exact Or.inr ⟨t', hmake, List.forall_mem_cons.mpr ⟨hfirst, hfree⟩, hpairs⟩
    | none =>
      -- Nothing that comes later is a node.
      have hnone : ∀ q ∈ rest, t.nodes.get? q = none := fun q hq => by
        rw [← Option.not_isSome_iff_eq_none]
        exact fun hsome => nomatch hd.symm.trans (hdown.1 q hq hsome)
      have hsame : ∀ q ∈ rest, (t.nodes.put d .directory).get? q = t.nodes.get? q := by
        intro q hq
        rw [OrderedMap.get?_put, if_neg]
        rintro rfl
        exact hnodup.1 hq
      rcases ih (t := ⟨t.nodes.put d .directory⟩)
        (hdown.2.imp_of_mem fun _ hq _ hsome => by
          rw [hsame _ hq, hnone _ hq] at hsome
          exact nomatch hsome)
        hnodup.2 with ⟨q, hq, ⟨content, hfile⟩, -⟩ | ⟨t', hmake, -, hpairs⟩
      · exact nomatch (hnone q hq).symm.trans ((hsame q hq).symm.trans hfile)
      · refine Or.inr ⟨t', hmake, List.forall_mem_cons.mpr ⟨?_, fun q hq => ?_⟩, ?_⟩
        · exact fun ⟨_, hfile⟩ => nomatch hd.symm.trans hfile
        · exact fun ⟨_, hfile⟩ => nomatch (hnone q hq).symm.trans hfile
        · have hmissing : (⟨t.nodes.put d .directory⟩ : MemoryTree).missing rest =
              t.missing rest :=
            List.filter_congr fun q hq => congrArg Option.isNone (hsame q hq)
          rw [hpairs, hmissing, OrderedMap.pairs_put hd, List.append_assoc]
          rfl

/-- What makes directories of a path and of those above it: nothing, if a file is in the way, or
directories at those that are no nodes. -/
theorem Closed.makeDirectories_cases (h : Closed t) (p : Path) :
    (∃ q ∈ p.normalize.ancestors, t.IsFile q ∧
        t.makeDirectories p = (.error (.fileInTheWay q), t)) ∨
      ∃ t', t.makeDirectories p = (.ok (), t') ∧ (∀ q ∈ p.normalize.ancestors, ¬ t.IsFile q) ∧
        t'.nodes.pairs = t.nodes.pairs ++
          (t.missing p.normalize.ancestors).map fun q => (q, .directory) := by
  have hnormal := normalize_normalize p
  exact makeEach_cases _
    ((pairwise_ancestors hnormal).imp fun habove hq => h.directory_of_above _ hq _ habove)
    (nodup_ancestors hnormal)

/-- What is a node after directories have been added: what was one before, and the added
directories. -/
theorem get?_of_pairs {added : List Path}
    (hpairs : t'.nodes.pairs = t.nodes.pairs ++ added.map fun q => (q, .directory)) {q : Path}
    {node : MemoryNode} :
    t'.nodes.get? q = some node ↔
      t.nodes.get? q = some node ∨ q ∈ added ∧ node = .directory := by
  rw [OrderedMap.get?_eq_some_iff, hpairs, List.mem_append, ← OrderedMap.get?_eq_some_iff,
    List.mem_map]
  refine or_congr_right ⟨?_, ?_⟩
  · rintro ⟨d, hd, he⟩
    obtain ⟨rfl, rfl⟩ := Prod.mk.inj he
    exact ⟨hd, rfl⟩
  · rintro ⟨hq, rfl⟩
    exact ⟨q, hq, rfl⟩

/-- What is missing among paths. -/
theorem mem_missing {paths : List Path} {q : Path} :
    q ∈ t.missing paths ↔ q ∈ paths ∧ t.nodes.get? q = none := by
  rw [missing, List.mem_filter, Option.isNone_iff_eq_none]

/-- Paths that are no files are directories after the missing ones have been added. -/
theorem get?_of_mem {paths : List Path} (hfree : ∀ q ∈ paths, ¬ t.IsFile q)
    (hpairs : t'.nodes.pairs = t.nodes.pairs ++ (t.missing paths).map fun q => (q, .directory))
    {q : Path} (hq : q ∈ paths) : t'.nodes.get? q = some .directory := by
  rw [get?_of_pairs hpairs, mem_missing]
  cases hget : t.nodes.get? q with
  | none => exact Or.inr ⟨⟨hq, rfl⟩, rfl⟩
  | some node =>
    cases node with
    | file content => exact absurd ⟨content, hget⟩ (hfree q hq)
    | directory => exact Or.inl rfl

/-- A closed tree with the missing ones among the ancestors of a normal form added is closed. -/
theorem Closed.made (h : Closed t) {p : Path} (hp : p.normalize = p)
    (hfree : ∀ q ∈ p.ancestors, ¬ t.IsFile q)
    (hpairs : t'.nodes.pairs =
      t.nodes.pairs ++ (t.missing p.ancestors).map fun q => (q, .directory)) : Closed t' := by
  have hcases : ∀ q, (t'.nodes.get? q).isSome → (t.nodes.get? q).isSome ∨ q ∈ p.ancestors := by
    intro q hq
    obtain ⟨node, hnode⟩ := Option.isSome_iff_exists.mp hq
    rcases (get?_of_pairs hpairs).mp hnode with hold | ⟨hnew, -⟩
    · exact Or.inl (Option.isSome_iff_exists.mpr ⟨node, hold⟩)
    · exact Or.inr (mem_missing.mp hnew).1
  constructor
  · intro q hq
    rcases hcases q hq with hold | hnew
    · exact h.normal q hold
    · exact normal_of_mem_ancestors hp hnew
  · intro q hq d hd
    rcases hcases q hq with hold | hnew
    · exact (get?_of_pairs hpairs).mpr (Or.inl (h.directory_of_above q hold d hd))
    · refine get?_of_mem hfree hpairs ?_
      rw [ancestors_of_normal hp, List.mem_append, List.mem_singleton] at hnew ⊢
      rcases hnew with habove | rfl
      · exact Or.inl (mem_above_trans hp habove hd)
      · exact Or.inl hd

/-- Making directories leaves a tree closed. -/
theorem Closed.makeDirectories (h : Closed t) (p : Path) : Closed (t.makeDirectories p).2 := by
  rcases h.makeDirectories_cases p with ⟨q, -, -, hmake⟩ | ⟨t', hmake, hfree, hpairs⟩
  · rw [hmake]
    exact h
  · rw [hmake]
    exact h.made (normalize_normalize p) hfree hpairs

/-! ## Putting files -/

/-- A file that is put below directories leaves a tree closed. -/
theorem Closed.putFile (h : Closed t) {p : Path} (hp : p.normalize = p)
    (habove : ∀ d ∈ p.above, t.nodes.get? d = some .directory) (content : String) :
    Closed (t.putFile p content).2 := by
  unfold MemoryTree.putFile
  split
  · exact h
  · rename_i hfree
    -- What is above a node is a directory, and so another node than the file.
    have hkept : ∀ d, t.nodes.get? d = some .directory →
        (t.nodes.put p (.file content)).get? d = some .directory := by
      intro d hd
      rw [OrderedMap.get?_put, if_neg]
      · exact hd
      · rintro rfl
        exact hfree hd
    constructor
    · intro q hq
      rw [OrderedMap.get?_put] at hq
      split at hq
      · rename_i he
        exact he ▸ hp
      · exact h.normal q hq
    · intro q hq d hd
      rw [OrderedMap.get?_put] at hq
      split at hq
      · rename_i he
        exact hkept d (habove d (he ▸ hd))
      · exact hkept d (h.directory_of_above q hq d hd)

/-- Writing a file leaves a tree closed. -/
theorem Closed.write (h : Closed t) (p : Path) (content : String) :
    Closed (t.write p content).2 := by
  have hnormal := normalize_normalize p
  unfold MemoryTree.write
  rcases parent?_of_normal hnormal with ⟨hparent, hnone⟩ | ⟨hparent, hnone, -⟩ |
    ⟨parent, hparent, hnormal', hancestors⟩
  · rw [hparent]
    refine h.putFile hnormal (fun d hd => ?_) content
    rw [hnone] at hd
    exact absurd hd List.not_mem_nil
  · rw [hparent]
    have hmade := h.makeDirectories empty
    dsimp only
    split
    · rename_i hmake
      rw [hmake] at hmade
      exact hmade
    · rename_i hmake
      rw [hmake] at hmade
      refine hmade.putFile hnormal (fun d hd => ?_) content
      rw [hnone] at hd
      exact absurd hd List.not_mem_nil
  · rw [hparent]
    dsimp only
    rcases h.makeDirectories_cases parent with ⟨q, -, -, hmake⟩ | ⟨t', hmake, hfree, hpairs⟩
    · rw [hmake]
      exact h
    · rw [hmake]
      rw [hnormal'] at hfree hpairs
      refine (h.made hnormal' hfree hpairs).putFile hnormal (fun d hd => ?_) content
      exact get?_of_mem hfree hpairs (hancestors ▸ hd)

/-! ## Removing nodes -/

/-- Removing a node leaves a tree closed. -/
theorem Closed.remove (h : Closed t) (p : Path) : Closed (t.remove p).2 := by
  unfold MemoryTree.remove
  split
  · have hkept : ∀ q, ((t.nodes.filterKeys fun q => !q.startsWith p.normalize).get? q).isSome →
        q.startsWith p.normalize = false ∧ (t.nodes.get? q).isSome := by
      intro q hq
      rw [OrderedMap.get?_filterKeys] at hq
      split at hq
      · rename_i hkept
        exact ⟨by simpa using hkept, hq⟩
      · exact absurd hq Bool.false_ne_true
    constructor
    · exact fun q hq => h.normal q (hkept q hq).2
    · intro q hq d hd
      obtain ⟨hstarts, hnode⟩ := hkept q hq
      -- What is above a node that is kept is kept.
      have hstarts' : d.startsWith p.normalize = false := by
        rw [← Bool.not_eq_true] at hstarts ⊢
        intro hbelow
        refine hstarts ?_
        rw [startsWith, List.isPrefixOf_iff_prefix] at hbelow ⊢
        exact hbelow.trans (normal_of_mem_above (h.normal q hnode) hd).2.1
      rw [OrderedMap.get?_filterKeys, hstarts', Bool.not_false, if_pos rfl]
      exact h.directory_of_above q hnode d hd
  · exact h

/-- The tree with nothing but its root is closed. -/
theorem closed_new : Closed MemoryTree.new := by
  have hroot : ∀ q, (MemoryTree.new.nodes.get? q).isSome → q = ⟨[separator]⟩ := by
    intro q hq
    rw [MemoryTree.new, OrderedMap.get?_put] at hq
    split at hq
    · rename_i he
      exact he.symm
    · exact absurd hq Bool.false_ne_true
  constructor
  · intro q hq
    rw [hroot q hq]
    decide
  · intro q hq d hd
    rw [hroot q hq, show above ⟨[separator]⟩ = [] by decide] at hd
    exact absurd hd List.not_mem_nil

/-! ## Trees that are reached -/

/-- Whatever is made of the tree with nothing but its root is closed. -/
theorem Reachable.closed (h : Reachable t) : Closed t := by
  induction h with
  | new => exact closed_new
  | makeDirectories _ p ih => exact ih.makeDirectories p
  | write _ p content ih => exact ih.write p content
  | remove _ p ih => exact ih.remove p

/-- The absolute nodes of a closed tree are sound. -/
theorem Closed.sound (h : Closed t) : Sound t where
  exists_rooted q hq habsolute := by
    obtain ⟨l, hl, hnormal⟩ := normalize_of_isAbsolute habsolute
    exact ⟨l, hl, (h.normal q hq).symm.trans hnormal⟩
  directory_of_child l n hplain hchild := by
    have hl : ∀ m ∈ l, Plain m := fun m hm => hplain m (List.mem_append_left _ hm)
    refine h.directory_of_above _ hchild _ (mem_above.mpr ⟨.root :: l.map .normal,
      List.cons_ne_nil _ _, ?_, ?_, (ofComponents_root hl).symm⟩)
    · rw [components_rooted hplain, List.map_append, ← List.cons_append]
      exact List.prefix_append _ _
    · rw [components_rooted hplain]
      simp

/-- Whatever is made of the tree with nothing but its root is sound. -/
theorem Reachable.sound (h : Reachable t) : Sound t := h.closed.sound

/-- The nodes of a tree form a tree. -/
structure WellFormed (t : MemoryTree) : Prop where
  /-- The path of a node is its own normal form. -/
  normal : ∀ p ∈ t.nodes.keys, p.normalize = p
  /-- No two nodes have the same components. -/
  nodup_components : (t.nodes.keys.map Path.components).Nodup
  /-- What the components of a node in front spell, one at least and not all, is a directory. -/
  directory_of_front : ∀ p ∈ t.nodes.keys, ∀ cs, cs ≠ [] → cs <+: p.components →
    cs ≠ p.components → t.nodes.get? (ofComponents cs) = some .directory
  /-- Nothing but a file itself is at or below it. -/
  eq_of_file : ∀ p content, t.nodes.get? p = some (.file content) →
    ∀ q ∈ t.nodes.keys, p.components <+: q.components → q = p
  /-- The parent of a node is a directory, unless it is the empty path. -/
  directory_of_parent : ∀ p ∈ t.nodes.keys, ∀ parent, p.parent? = some parent →
    parent ≠ .empty → t.nodes.get? parent = some .directory

/-- Every tree that is made of the tree with nothing but its root is well-formed, whatever the paths
were and whether the changes succeeded. -/
theorem Reachable.wellFormed (h : Reachable t) : WellFormed t := by
  have hclosed := h.closed
  have hnormal : ∀ p ∈ t.nodes.keys, p.normalize = p := fun p hp =>
    hclosed.normal p (OrderedMap.mem_keys_iff.mp hp)
  have habove : ∀ p ∈ t.nodes.keys, ∀ d ∈ p.above, t.nodes.get? d = some .directory :=
    fun p hp => hclosed.directory_of_above p (OrderedMap.mem_keys_iff.mp hp)
  refine ⟨hnormal, ?_, fun p hp cs hne hfront hproper => ?_, fun p content hfile q hq hfront => ?_,
    fun p hp parent hparent hne => ?_⟩
  · exact t.nodes.nodup.map_on fun p hp q hq he => eq_of_components (hnormal p hp) (hnormal q hq) he
  · exact habove p hp _ (mem_above.mpr ⟨cs, hne, hfront, hproper, rfl⟩)
  · have hp : p.normalize = p := hclosed.normal p (by rw [hfile]; rfl)
    by_contra hother
    -- A file above another node would be a directory.
    have hproper : p.components ≠ q.components := fun he =>
      hother (eq_of_components hp (hnormal q hq) he).symm
    have hdirectory := habove q hq p (mem_above.mpr
      ⟨p.components, components_ne_nil hp, hfront, hproper, (tidy_of_normal hp).2.symm⟩)
    exact nomatch hfile.symm.trans hdirectory
  · rcases parent?_of_normal (hnormal p hp) with ⟨hnone, -⟩ | ⟨hempty, -⟩ |
      ⟨q, hq, hnormal', hancestors⟩
    · exact nomatch hnone.symm.trans hparent
    · exact absurd (Option.some.inj (hparent.symm.trans hempty)) hne
    · obtain rfl := Option.some.inj (hparent.symm.trans hq)
      refine habove p hp parent ?_
      rw [← hancestors, ancestors_of_normal hnormal']
      exact List.mem_append_right _ List.mem_cons_self

/-- A tree with relative nodes whose root has been removed and come back as a file, below which no
directory could be made. -/
def uprooted : MemoryTree :=
  let t := (new.write (.ofString "a//b/../c") "x").2
  let t := ((t.remove (.ofString "/")).2.write (.ofString "/") "").2
  let t := ((t.makeDirectories (.ofString "/d")).2.write (.ofString "") "").2
  (t.makeDirectories (.ofString "../e/..")).2

/-- The nodes of such a tree form a tree. -/
theorem wellFormed_uprooted :
    uprooted.nodes.keys = [.ofString "a", .ofString "a/c", .ofString "/", .ofString ".",
      .ofString ".."] ∧ WellFormed uprooted :=
  ⟨by decide +kernel, Reachable.wellFormed (.makeDirectories (.write (.makeDirectories (.write
    (.remove (.write .new _ _) _) _ _) _) _ _) _)⟩

end MemoryTree

end TreePlan
