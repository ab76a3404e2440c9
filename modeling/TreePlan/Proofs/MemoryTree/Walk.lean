import Mathlib.Algebra.Order.BigOperators.Group.List
import Mathlib.Algebra.Order.Group.Nat
import TreePlan.Proofs.MemoryTree
import TreePlan.Proofs.Text.Utf8

/-!
# Walks over a tree in memory

A walk goes through nodes depth first, siblings in the order in which they were made
(`MemoryTree.Walks`). It stops at the content of every file, and again wherever it leaves a node: a
file right after its content, a directory when it has left everything in it. Over a tree of absolute
paths there is a walk from every node (`Upright.exists_walks`), since the components of a child are
more than those of its directory and those of the nodes are bounded. The stops of a walk from a
directory are those that the tree has at or below it, each once, and nothing beneath a directory
comes after the directory has been left (`Upright.covers`).
-/

namespace TreePlan

open TreePlan.Path

/-- Where a walk stops. -/
inductive Stop where
  /-- At the content of a file. -/
  | content (path : Path)
  /-- At the end of what is done with a node. -/
  | leave (kind : EntryKind) (path : Path)
deriving DecidableEq, Repr

/-- The path of a stop. -/
def Stop.path : Stop → Path
  | content path => path
  | leave _ path => path

/-- The kind of node that has a stop. -/
def Stop.kind : Stop → EntryKind
  | content _ => .file
  | leave kind _ => kind

/-- A stop may come before another: they are not the same, and if a directory is left at the first,
the other is not at or below it. -/
def Stop.Precedes (s s' : Stop) : Prop :=
  s ≠ s' ∧ ∀ d, s = .leave .directory d → s'.path.startsWith d = false

/-- A stop may come before one that is not at or below it. -/
theorem Stop.precedes_of_not_startsWith {s s' : Stop} (h : s'.path.startsWith s.path = false) :
    s.Precedes s' := by
  refine ⟨?_, ?_⟩
  · rintro rfl
    exact Bool.eq_false_iff.mp h (startsWith_self s.path)
  · rintro d rfl
    exact h

namespace MemoryTree

/-- The children of a directory in the order in which they were made. -/
def childrenOf (t : MemoryTree) (p : Path) : List (Path × MemoryNode) :=
  t.nodes.pairs.filter fun q => q.1.parent? = some p

/-- A walk through nodes, one after the other, and the stops that it makes. -/
inductive Walks (t : MemoryTree) : List (Path × MemoryNode) → List Stop → Prop
  /-- No node is left. -/
  | nil : Walks t [] []
  /-- A file is left after its content. -/
  | file {p : Path} {content : String} {rest : List (Path × MemoryNode)} {stops : List Stop}
      (hrest : Walks t rest stops) :
      Walks t ((p, .file content) :: rest) (.content p :: .leave .file p :: stops)
  /-- A directory is left after the walk through its children. -/
  | directory {p : Path} {rest : List (Path × MemoryNode)} {inner stops : List Stop}
      (hinner : Walks t (t.childrenOf p) inner) (hrest : Walks t rest stops) :
      Walks t ((p, .directory) :: rest) (inner ++ .leave .directory p :: stops)

/-- A tree has a stop if its node is of the kind that has it. -/
def HasStop (t : MemoryTree) (s : Stop) : Prop :=
  (t.nodes.get? s.path).map (·.kind) = some s.kind

/-- Stops are those that a tree has at or below a path, in an order in which directories come after
what they hold. -/
structure Covers (t : MemoryTree) (root : Path) (stops : List Stop) : Prop where
  /-- The stops are those that the tree has at or below the path. -/
  mem_iff : ∀ s, s ∈ stops ↔ t.HasStop s ∧ s.path.startsWith root = true
  /-- Every stop is made once. -/
  nodup : stops.Nodup
  /-- Nothing at or below a directory comes after it has been left. -/
  left : stops.Pairwise fun s s' =>
    ∀ d, s = .leave .directory d → s'.path.startsWith d = false

/-- A sound tree of absolute paths. -/
structure Upright (t : MemoryTree) : Prop extends Sound t where
  /-- Every node stands under an absolute path. -/
  isAbsolute : ∀ q, (t.nodes.get? q).isSome → q.isAbsolute = true

variable {t : MemoryTree} {p q : Path} {node : MemoryNode}

/-! ## Children -/

/-- The children of a directory are the nodes with it as their parent. -/
theorem mem_childrenOf :
    (q, node) ∈ t.childrenOf p ↔ t.nodes.get? q = some node ∧ q.parent? = some p := by
  rw [childrenOf, List.mem_filter, decide_eq_true_eq, OrderedMap.get?_eq_some_iff]

/-- No two children of a directory have one path. -/
theorem nodup_childrenOf (t : MemoryTree) (p : Path) : ((t.childrenOf p).map (·.1)).Nodup :=
  t.nodes.nodup.sublist (List.filter_sublist.map _)

/-- A node has plain names. -/
theorem Upright.exists_names (h : Upright t) (hq : (t.nodes.get? q).isSome) :
    ∃ l, (∀ n ∈ l, Plain n) ∧ q = rooted l :=
  h.exists_rooted q hq (h.isAbsolute q hq)

/-- A path of which the front is absolute is absolute. -/
theorem isAbsolute_of_slice {stop : Nat} (h : (q.slice 0 stop).isAbsolute = true) :
    q.isAbsolute = true := by
  obtain ⟨bytes⟩ := q
  cases bytes with
  | nil =>
    rw [slice, List.take_nil] at h
    exact h
  | cons first rest =>
    cases stop with
    | zero => cases h
    | succ stop => exact h

/-- A path under an absolute one is absolute. -/
theorem isAbsolute_of_parent? (hparent : q.parent? = some p) (hp : p.isAbsolute = true) :
    q.isAbsolute = true := by
  rw [parent?] at hparent
  cases hspans : q.spans.reverse with
  | nil =>
    rw [hspans] at hparent
    cases hparent
  | cons last before =>
    rw [hspans] at hparent
    dsimp only at hparent
    by_cases hroot : last.component = .root
    · rw [if_pos hroot] at hparent
      cases hparent
    · rw [if_neg hroot] at hparent
      rw [← Option.some.inj hparent] at hp
      exact isAbsolute_of_slice hp

/-- A node with a parent has one plain name more. -/
theorem exists_names_of_parent? (hq : ∃ l, (∀ n ∈ l, Plain n) ∧ q = rooted l)
    (hparent : q.parent? = some p) :
    ∃ l n, (∀ m ∈ l ++ [n], Plain m) ∧ p = rooted l ∧ q = rooted (l ++ [n]) := by
  obtain ⟨l, hl, rfl⟩ := hq
  rcases List.eq_nil_or_concat l with rfl | ⟨before, n, rfl⟩
  · rw [parent?_rooted_nil] at hparent
    exact nomatch hparent
  · rw [List.concat_eq_append] at hl hparent ⊢
    rw [parent?_rooted (fun m hm => hl m (List.mem_append_left _ hm)) (hl n (by simp))] at hparent
    exact ⟨before, n, hl, (Option.some.inj hparent).symm, rfl⟩

/-- A child of an absolute directory has one name more. -/
theorem Sound.exists_child_names (h : Sound t) (hp : p.isAbsolute = true)
    (hq : (q, node) ∈ t.childrenOf p) :
    ∃ l n, (∀ m ∈ l ++ [n], Plain m) ∧ p = rooted l ∧ q = rooted (l ++ [n]) := by
  obtain ⟨hnode, hparent⟩ := mem_childrenOf.mp hq
  exact exists_names_of_parent?
    (h.exists_rooted q (by rw [hnode]; rfl) (isAbsolute_of_parent? hparent hp)) hparent

/-- A child of a directory has one name more. -/
theorem Upright.exists_child_names (h : Upright t) (hq : (q, node) ∈ t.childrenOf p) :
    ∃ l n, (∀ m ∈ l ++ [n], Plain m) ∧ p = rooted l ∧ q = rooted (l ++ [n]) := by
  obtain ⟨hnode, hparent⟩ := mem_childrenOf.mp hq
  exact exists_names_of_parent? (h.exists_names (by rw [hnode]; rfl)) hparent

/-- What a node stands beneath is a directory. -/
theorem Sound.directory_of_names (h : Sound t) {l more : List (List UInt8)} (hne : more ≠ [])
    (hplain : ∀ n ∈ l ++ more, Plain n) (hnode : (t.nodes.get? (rooted (l ++ more))).isSome) :
    t.nodes.get? (rooted l) = some .directory := by
  induction more using List.reverseRecOn with
  | nil => exact absurd rfl hne
  | append_singleton more n ih =>
    rw [← List.append_assoc] at hplain hnode
    have hdirectory := h.directory_of_child (l ++ more) n hplain hnode
    by_cases hmore : more = []
    · rw [hmore, List.append_nil] at hdirectory
      exact hdirectory
    · exact ih hmore (fun m hm => hplain m (List.mem_append_left _ hm)) (by rw [hdirectory]; rfl)

/-- At or below a file is nothing but the file. -/
theorem Upright.startsWith_file (h : Upright t) {content : String}
    (hp : t.nodes.get? p = some (.file content)) (hq : (t.nodes.get? q).isSome) :
    q.startsWith p = true ↔ q = p := by
  obtain ⟨l, hl, rfl⟩ := h.exists_names (q := p) (by rw [hp]; rfl)
  obtain ⟨m, hm, rfl⟩ := h.exists_names hq
  rw [startsWith_rooted hm hl]
  constructor
  · rintro ⟨more, rfl⟩
    by_cases hmore : more = []
    · rw [hmore, List.append_nil]
    · have hdirectory := h.directory_of_names hmore hm hq
      rw [hp] at hdirectory
      exact nomatch hdirectory
  · intro he
    rw [rooted_injective hm hl he]

/-- At or below a directory is the directory and what is at or below its children. -/
theorem Upright.startsWith_directory (h : Upright t) (hp : t.nodes.get? p = some .directory)
    (hq : (t.nodes.get? q).isSome) :
    q.startsWith p = true ↔ q = p ∨ ∃ child ∈ t.childrenOf p, q.startsWith child.1 = true := by
  obtain ⟨l, hl, rfl⟩ := h.exists_names (q := p) (by rw [hp]; rfl)
  obtain ⟨m, hm, rfl⟩ := h.exists_names hq
  rw [startsWith_rooted hm hl]
  constructor
  · rintro ⟨more, rfl⟩
    cases more with
    | nil =>
      rw [List.append_nil]
      exact Or.inl rfl
    | cons n rest =>
      -- The child is the directory above the node, or the node itself.
      rw [List.append_cons] at hm hq ⊢
      have hchild : ∀ m ∈ l ++ [n], Plain m := fun m hmem => hm m (List.mem_append_left _ hmem)
      obtain ⟨node, hnode⟩ : ∃ node, t.nodes.get? (rooted (l ++ [n])) = some node := by
        by_cases hrest : rest = []
        · rw [hrest, List.append_nil] at hq
          exact Option.isSome_iff_exists.mp hq
        · exact ⟨_, h.directory_of_names hrest hm hq⟩
      have hparent := parent?_rooted hl (hchild n (by simp))
      refine Or.inr ⟨(_, node), mem_childrenOf.mpr ⟨hnode, hparent⟩, ?_⟩
      exact (startsWith_rooted hm hchild).mpr ⟨rest, rfl⟩
  · rintro (he | ⟨⟨child, node⟩, hchild, hstarts⟩)
    · rw [rooted_injective hm hl he]
    · obtain ⟨l', n, hplain, hp', rfl⟩ := h.exists_child_names hchild
      obtain rfl := rooted_injective hl (fun m hm => hplain m (List.mem_append_left _ hm)) hp'
      exact (List.prefix_append l [n]).trans ((startsWith_rooted hm hplain).mp hstarts)

/-- Nothing is at or below two children of a directory. -/
theorem Upright.apart_childrenOf (h : Upright t) (p : Path) :
    (t.childrenOf p).Pairwise fun child child' =>
      ∀ q : Path, q.startsWith child.1 = true → q.startsWith child'.1 = false := by
  have hnodup := List.pairwise_map.mp (nodup_childrenOf t p)
  refine hnodup.imp_of_mem fun {child child'} hchild hchild' hne q hstarts =>
    Bool.eq_false_iff.mpr fun hstarts' => ?_
  obtain ⟨l, n, hplain, rfl, he⟩ := h.exists_child_names hchild
  obtain ⟨l', n', hplain', hp, he'⟩ := h.exists_child_names hchild'
  obtain rfl := rooted_injective (fun m hm => hplain m (List.mem_append_left _ hm))
    (fun m hm => hplain' m (List.mem_append_left _ hm)) hp
  rw [he, startsWith, List.isPrefixOf_iff_prefix] at hstarts
  rw [he', startsWith, List.isPrefixOf_iff_prefix] at hstarts'
  -- Both have as many components, and begin the components of one path.
  have hlength :
      (rooted (l ++ [n])).components.length = (rooted (l ++ [n'])).components.length := by
    rw [components_rooted hplain, components_rooted hplain']
    simp
  have hcomponents :=
    (List.prefix_of_prefix_length_le hstarts hstarts' hlength.le).eq_of_length hlength
  exact hne (by rw [he, he', names_eq_of_components hplain hplain' hcomponents])

/-- A child of a directory has one component more. -/
theorem Upright.length_components_child (h : Upright t) (hq : (q, node) ∈ t.childrenOf p) :
    q.components.length = p.components.length + 1 := by
  obtain ⟨l, n, hplain, rfl, rfl⟩ := h.exists_child_names hq
  rw [components_rooted hplain, components_rooted fun m hm => hplain m (List.mem_append_left _ hm)]
  simp

/-- A child of a directory is below it, and the directory is not below the child. -/
theorem Upright.startsWith_child (h : Upright t) (hq : (q, node) ∈ t.childrenOf p) :
    q.startsWith p = true ∧ ∀ s : Path, s.startsWith q = true → p.startsWith s = false := by
  have hlength := h.length_components_child hq
  obtain ⟨l, n, hplain, rfl, rfl⟩ := h.exists_child_names hq
  refine ⟨(startsWith_rooted hplain fun m hm => hplain m (List.mem_append_left _ hm)).mpr
    (List.prefix_append l [n]), fun s hs => Bool.eq_false_iff.mpr fun hp => ?_⟩
  rw [startsWith, List.isPrefixOf_iff_prefix] at hs hp
  have hle := hs.length_le.trans hp.length_le
  omega

/-! ## Listings -/

/-- A child as it is listed. -/
def listed (child : Path × MemoryNode) : Listed :=
  ⟨String.ofList (Utf8.decodeLossy (child.1.fileName?.getD [])), some child.2.kind⟩

/-- A node is listed in an absolute directory exactly if it is a child of it. -/
theorem Sound.asChild?_eq (h : Sound t) {l : List (List UInt8)} (hl : ∀ n ∈ l, Plain n)
    {q : Path × MemoryNode} (hq : q ∈ t.nodes.pairs) :
    asChild? (rooted l) q = if q.1.parent? = some (rooted l) then some (listed q) else none := by
  obtain ⟨q, node⟩ := q
  dsimp only [asChild?]
  by_cases habsolute : q.isAbsolute = true
  · obtain ⟨m, hm, rfl⟩ := h.exists_rooted q
      (by rw [(OrderedMap.get?_eq_some_iff _ _ _).mpr hq]; rfl) habsolute
    rcases List.eq_nil_or_concat m with rfl | ⟨before, n, rfl⟩
    · rw [parent?_rooted_nil]
      rfl
    · rw [List.concat_eq_append] at hm ⊢
      have hbefore : ∀ k ∈ before, Plain k := fun k hk => hm k (List.mem_append_left _ hk)
      rw [parent?_rooted hbefore (hm n (by simp)), Option.map_some, fileName?_rooted hm]
      by_cases he : rooted before = rooted l
      · rw [if_pos (congrArg (some ·.components) he), if_pos (congrArg some he), listed,
          fileName?_rooted hm]
        rfl
      · rw [if_neg (fun hc => he (congrArg rooted
          (names_eq_of_components hbefore hl (Option.some.inj hc)))),
          if_neg (fun hc => he (Option.some.inj hc))]
  · -- What is under a relative path has no root among its components.
    rw [if_neg, if_neg]
    · exact fun hparent => habsolute (isAbsolute_of_parent? hparent (isAbsolute_rooted l))
    · intro hcomponents
      obtain ⟨parent, hparent, hcomponents⟩ := Option.map_eq_some_iff.mp hcomponents
      have hroot : .root ∈ parent.components := by
        rw [hcomponents, components_rooted hl]
        exact List.mem_cons_self
      exact habsolute (isAbsolute_of_parent? hparent (isAbsolute_of_root_mem hroot))

/-- The listing of an absolute directory is that of its children. -/
theorem Sound.list_eq (h : Sound t) (habsolute : p.isAbsolute = true)
    (hp : t.nodes.get? p = some .directory) : t.list p = .ok ((t.childrenOf p).map listed) := by
  have hnode := h.node?_eq habsolute hp
  obtain ⟨l, hl, rfl⟩ := h.exists_rooted p (by rw [hp]; rfl) habsolute
  rw [list, hnode, normalize_rooted hl, childrenOf, ← List.filterMap_eq_map,
    List.filterMap_filter]
  dsimp only
  rw [List.filterMap_congr fun q hq => h.asChild?_eq hl hq]
  simp only [decide_eq_true_eq, Function.comp_apply]

/-- A path with one plain name more is spelled by its listed name, if the name is text. -/
theorem push_listed_rooted {l : List (List UInt8)} {n : List UInt8}
    (hplain : ∀ m ∈ l ++ [n], Plain m) (htext : (Utf8.decode? n).isSome) :
    (rooted l).push (.ofString (listed (rooted (l ++ [n]), node)).name) = rooted (l ++ [n]) := by
  dsimp only [listed]
  rw [fileName?_rooted hplain, Option.getD_some, ofString, String.toList_ofList,
    Utf8.encode_decodeLossy htext,
    push_rooted (fun m hm => hplain m (List.mem_append_left _ hm)) (hplain n (by simp))]

/-- A child is recorded under its own path, if its name is text. -/
theorem Upright.push_listed (h : Upright t) (hq : (q, node) ∈ t.childrenOf p)
    (htext : ∀ n, .normal n ∈ q.components → (Utf8.decode? n).isSome) :
    p.push (.ofString (listed (q, node)).name) = q := by
  obtain ⟨l, n, hplain, rfl, rfl⟩ := h.exists_child_names hq
  refine push_listed_rooted hplain (htext n ?_)
  rw [components_rooted hplain]
  simp

/-! ## The stops of a walk -/

/-- A stop of a tree is at a node. -/
theorem HasStop.isSome {s : Stop} (h : t.HasStop s) : (t.nodes.get? s.path).isSome := by
  obtain ⟨node, hnode, -⟩ := Option.map_eq_some_iff.mp h
  rw [hnode]
  rfl

/-- A file has two stops. -/
theorem hasStop_file {content : String} (hp : t.nodes.get? p = some (.file content)) {s : Stop} :
    t.HasStop s ∧ s.path = p ↔ s = .content p ∨ s = .leave .file p := by
  constructor
  · rintro ⟨hs, rfl⟩
    rw [HasStop, hp] at hs
    cases s with
    | content => exact Or.inl rfl
    | leave kind =>
      obtain rfl : EntryKind.file = kind := Option.some.inj hs
      exact Or.inr rfl
  · rintro (rfl | rfl)
    · exact ⟨congrArg (Option.map MemoryNode.kind) hp, rfl⟩
    · exact ⟨congrArg (Option.map MemoryNode.kind) hp, rfl⟩

/-- A directory has one stop. -/
theorem hasStop_directory (hp : t.nodes.get? p = some .directory) {s : Stop} :
    t.HasStop s ∧ s.path = p ↔ s = .leave .directory p := by
  constructor
  · rintro ⟨hs, rfl⟩
    rw [HasStop, hp] at hs
    cases s with
    | content => exact nomatch hs
    | leave kind =>
      obtain rfl : EntryKind.directory = kind := Option.some.inj hs
      rfl
  · rintro rfl
    exact ⟨congrArg (Option.map MemoryNode.kind) hp, rfl⟩

/-- Every child of a directory is a node. -/
theorem get?_of_mem_childrenOf : ∀ q ∈ t.childrenOf p, t.nodes.get? q.1 = some q.2 :=
  fun _ hq => (mem_childrenOf.mp hq).1

/-- A walk is determined by its nodes. -/
theorem Walks.unique {nodes : List (Path × MemoryNode)} {stops stops' : List Stop}
    (h : Walks t nodes stops) (h' : Walks t nodes stops') : stops = stops' := by
  induction h generalizing stops' with
  | nil =>
    cases h'
    rfl
  | file _ ih =>
    cases h' with
    | file hrest => rw [ih hrest]
  | directory _ _ ihinner ih =>
    cases h' with
    | directory hinner hrest => rw [ihinner hinner, ih hrest]

/-- The stops of a walk are those that the tree has at or below its nodes. -/
theorem Walks.mem_iff {nodes : List (Path × MemoryNode)} {stops : List Stop}
    (hw : Walks t nodes stops) (h : Upright t) (hnodes : ∀ q ∈ nodes, t.nodes.get? q.1 = some q.2)
    (s : Stop) :
    s ∈ stops ↔ t.HasStop s ∧ ∃ q ∈ nodes, s.path.startsWith q.1 = true := by
  induction hw with
  | nil => exact ⟨nofun, fun hs => nomatch hs.2⟩
  | @file p content rest stops _ ih =>
    rw [List.forall_mem_cons] at hnodes
    have hfile : t.HasStop s ∧ s.path.startsWith p = true ↔
        s = .content p ∨ s = .leave .file p := by
      rw [← hasStop_file hnodes.1]
      exact and_congr_right fun hs => h.startsWith_file hnodes.1 hs.isSome
    simp only [List.mem_cons, exists_eq_or_imp]
    rw [ih hnodes.2, and_or_left, hfile, or_assoc]
  | @directory p rest inner stops _ _ ihinner ih =>
    rw [List.forall_mem_cons] at hnodes
    -- The walk through the children makes all stops but that of the directory itself.
    have hdirectory : t.HasStop s ∧ s.path.startsWith p = true ↔
        s = .leave .directory p ∨ s ∈ inner := by
      rw [← hasStop_directory hnodes.1, ihinner get?_of_mem_childrenOf, ← and_or_left]
      exact and_congr_right fun hs => h.startsWith_directory hnodes.1 hs.isSome
    simp only [List.mem_append, List.mem_cons, exists_eq_or_imp]
    rw [ih hnodes.2, and_or_left, hdirectory, or_assoc, or_left_comm]

/-- No stop of a walk is at or below a path that has nothing in common with the nodes. -/
theorem Walks.not_startsWith {nodes : List (Path × MemoryNode)} {stops : List Stop}
    (hw : Walks t nodes stops) (h : Upright t) (hnodes : ∀ q ∈ nodes, t.nodes.get? q.1 = some q.2)
    (hapart : ∀ q ∈ nodes, ∀ p' : Path, p'.startsWith p = true → p'.startsWith q.1 = false)
    {s : Stop} (hs : s ∈ stops) : s.path.startsWith p = false := by
  obtain ⟨-, q, hq, hstarts⟩ := (hw.mem_iff h hnodes s).mp hs
  exact Bool.eq_false_iff.mpr fun hbelow =>
    Bool.eq_false_iff.mp (hapart q hq s.path hbelow) hstarts

/-- The stops of a walk through the children of a directory are below it, and the directory is not
at or below one of them. -/
theorem Walks.startsWith_of_childrenOf {stops : List Stop} (hw : Walks t (t.childrenOf p) stops)
    (h : Upright t) {s : Stop} (hs : s ∈ stops) :
    s.path.startsWith p = true ∧ p.startsWith s.path = false := by
  obtain ⟨-, child, hchild, hstarts⟩ := (hw.mem_iff h get?_of_mem_childrenOf s).mp hs
  obtain ⟨hparent, hnot⟩ := h.startsWith_child hchild
  exact ⟨startsWith_trans hstarts hparent, hnot _ hstarts⟩

/-- On a walk through nodes that have nothing in common, no stop is made twice, and nothing at or
below a directory comes after it has been left. -/
theorem Walks.pairwise {nodes : List (Path × MemoryNode)} {stops : List Stop}
    (hw : Walks t nodes stops) (h : Upright t) (hnodes : ∀ q ∈ nodes, t.nodes.get? q.1 = some q.2)
    (hapart : nodes.Pairwise fun q q' =>
      ∀ p : Path, p.startsWith q.1 = true → p.startsWith q'.1 = false) :
    stops.Pairwise Stop.Precedes := by
  induction hw with
  | nil => exact .nil
  | @file p content rest stops hrest ih =>
    rw [List.forall_mem_cons] at hnodes
    rw [List.pairwise_cons] at hapart
    -- No other stop is made at the file, so only its own two are left to compare.
    have hother (s : Stop) (hs : s ∈ stops) : s.path.startsWith p = false :=
      hrest.not_startsWith h hnodes.2 hapart.1 hs
    refine .cons (fun s hs => ?_) (.cons (fun s hs => ?_) (ih hnodes.2 hapart.2))
    · rcases List.mem_cons.mp hs with rfl | hs
      · exact ⟨nofun, nofun⟩
      · exact Stop.precedes_of_not_startsWith (hother s hs)
    · exact Stop.precedes_of_not_startsWith (hother s hs)
  | @directory p rest inner stops hinner hrest ihinner ih =>
    rw [List.forall_mem_cons] at hnodes
    rw [List.pairwise_cons] at hapart
    have hother (s : Stop) (hs : s ∈ stops) : s.path.startsWith p = false :=
      hrest.not_startsWith h hnodes.2 hapart.1 hs
    refine List.pairwise_append.mpr ⟨ihinner get?_of_mem_childrenOf (h.apart_childrenOf p),
      .cons (fun s hs => ?_) (ih hnodes.2 hapart.2), fun s hs s' hs' => ?_⟩
    · exact Stop.precedes_of_not_startsWith (hother s hs)
    · -- A stop inside the directory is followed by that at its end and by those outside of it.
      obtain ⟨hstarts, hnot⟩ := hinner.startsWith_of_childrenOf h hs
      refine Stop.precedes_of_not_startsWith ?_
      rcases List.mem_cons.mp hs' with rfl | hs'
      · exact hnot
      · exact Bool.eq_false_iff.mpr fun hbelow =>
          Bool.eq_false_iff.mp (hother s' hs') (startsWith_trans hbelow hstarts)

/-- A walk from a directory covers the tree at and below it. -/
theorem Upright.covers (h : Upright t) (hp : t.nodes.get? p = some .directory) {stops : List Stop}
    (hw : Walks t [(p, .directory)] stops) : t.Covers p stops := by
  have hnodes : ∀ q ∈ [(p, MemoryNode.directory)], t.nodes.get? q.1 = some q.2 :=
    List.forall_mem_singleton.mpr hp
  have hpairwise := hw.pairwise h hnodes (List.pairwise_singleton _ _)
  refine ⟨fun s => ?_, hpairwise.imp And.left, hpairwise.imp And.right⟩
  rw [hw.mem_iff h hnodes]
  simp only [List.mem_singleton, exists_eq_left]

/-! ## Walks exist -/

/-- There is a walk through nodes whose components are within a number of a bound for all nodes. -/
theorem Upright.exists_walks_within (h : Upright t) {bound : Nat}
    (hbound : ∀ q ∈ t.nodes.pairs, q.1.components.length ≤ bound) (n : Nat)
    (nodes : List (Path × MemoryNode)) (hnodes : ∀ q ∈ nodes, t.nodes.get? q.1 = some q.2)
    (hwithin : ∀ q ∈ nodes, bound < q.1.components.length + n) : ∃ stops, Walks t nodes stops := by
  -- The outer induction is on how deep the walk may go, the inner one on the nodes that are left.
  induction n generalizing nodes with
  | zero =>
    cases nodes with
    | nil => exact ⟨[], .nil⟩
    | cons q rest =>
      have hle := hbound q ((OrderedMap.get?_eq_some_iff _ _ _).mp (hnodes q List.mem_cons_self))
      have hlt := hwithin q List.mem_cons_self
      omega
  | succ n ihn =>
    induction nodes with
    | nil => exact ⟨[], .nil⟩
    | cons q rest ih =>
      obtain ⟨p, node⟩ := q
      rw [List.forall_mem_cons] at hnodes hwithin
      obtain ⟨stops, hrest⟩ := ih hnodes.2 hwithin.2
      cases node with
      | file content => exact ⟨_, .file hrest⟩
      | directory =>
        -- The children have one component more than the directory.
        obtain ⟨inner, hinner⟩ := ihn (t.childrenOf p) get?_of_mem_childrenOf fun q hq => by
          rw [h.length_components_child hq, Nat.add_right_comm]
          exact hwithin.1
        exact ⟨_, .directory hinner hrest⟩

/-- There is a walk through any nodes. -/
theorem Upright.exists_walks (h : Upright t) {nodes : List (Path × MemoryNode)}
    (hnodes : ∀ q ∈ nodes, t.nodes.get? q.1 = some q.2) : ∃ stops, Walks t nodes stops := by
  have hbound : ∀ q ∈ t.nodes.pairs, q.1.components.length ≤
      (t.nodes.pairs.map fun q => q.1.components.length).sum := fun q hq =>
    List.single_le_sum (fun _ _ => Nat.zero_le _) _
      (List.mem_map_of_mem (f := fun q => q.1.components.length) hq)
  exact h.exists_walks_within hbound _ nodes hnodes fun q _ =>
    Nat.lt_add_left _ (Nat.lt_succ_self _)

end MemoryTree

end TreePlan
