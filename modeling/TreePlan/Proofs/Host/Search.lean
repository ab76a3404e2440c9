import Mathlib
import TreePlan.Proofs.Host.Tree
import TreePlan.Proofs.MemoryTree.Search

/-!
# Searching a host as a tree in memory is searched

A search of a host goes from directory to directory and does not enter what is excluded; a search of
a tree in memory goes through all files, sorts them and tests each with everything above it. Over
the same tree they find the same files in the same order (`HostTree.glob_eq_of_mirrors`). Both lists
are in the order of paths without repetition (`HostTree.inOrder_filesFrom`,
`MemoryTree.inOrder_filesUnder`), for whatever is under a lesser name comes before whatever is under
a greater one. And they have the same members (`HostTree.mem_filesFrom`,
`MemoryTree.mem_filesUnder`), for what is above a file is excluded only if the file is
(`PatternSet.excludesPath_of_init`).
-/

namespace TreePlan

open TreePlan.Path

/-! ## Excludes -/

/-- What excludes a path below the start of a search excludes whatever is below that. -/
theorem PatternSet.excludesPath_of_init {set : PatternSet} {names names' : List (List UInt8)}
    (h : ∀ n ∈ names, Plain n) (hinit : names' <+: names)
    (hexcluded : set.excludesPath (relative names') = true) :
    set.excludesPath (relative names) = true := by
  have h' : ∀ n ∈ names', Plain n := fun n hn => h n (hinit.subset hn)
  rw [excludesPath, List.any_eq_true] at hexcluded ⊢
  obtain ⟨p, hp, haccepted⟩ := hexcluded
  obtain ⟨l, hne, hl, rfl⟩ := (mem_ancestors_relative h').mp hp
  exact ⟨_, (mem_ancestors_relative h).mpr ⟨l, hne, hl.trans hinit, rfl⟩, haccepted⟩

/-! ## Hosts -/

namespace HostTree

variable {t : HostTree}

/-- A pair that is listed as a child of a directory stands in it. -/
theorem eq_of_child {place : Location} {p : Location × HostNode} {child : List UInt8 × HostNode}
    (h : (match p.1.getLast? with
      | some name => if p.1 = place ++ [name] then some (name, p.2) else none
      | none => none) = some child) : p = (place ++ [child.1], child.2) := by
  obtain ⟨place', node⟩ := p
  dsimp only at h ⊢
  split at h
  · rename_i name hlast
    split at h
    · rename_i hplace
      rw [← Option.some.inj h, hplace]
    · exact nomatch h
  · exact nomatch h

/-- The children of a directory are what stands in it. -/
theorem mem_children {place : Location} {name : List UInt8} {node : HostNode} :
    (name, node) ∈ t.children place ↔ t.node? (place ++ [name]) = some node := by
  have hne : place ++ [name] ≠ [] := List.append_ne_nil_of_right_ne_nil _ (List.cons_ne_nil _ _)
  rw [children, List.mem_mergeSort, List.mem_filterMap, node?_of_ne_nil t hne,
    OrderedMap.get?_eq_some_iff]
  constructor
  · rintro ⟨p, hmem, h⟩
    rwa [eq_of_child h] at hmem
  · intro h
    refine ⟨_, h, ?_⟩
    dsimp only
    rw [List.getLast?_concat]
    exact if_pos rfl

/-- The children of a directory are in the order of their names, and no name stands twice. -/
theorem pairwise_children (t : HostTree) (place : Location) :
    (t.children place).Pairwise fun a b => compareBytes a.1 b.1 = .lt := by
  have hsorted : (t.children place).Pairwise fun a b => (compareBytes a.1 b.1).isLE := by
    have hnames : Std.TransCmp fun a b : List UInt8 × HostNode => compareBytes a.1 b.1 :=
      transCmp_on _
    exact pairwise_mergeSort_compare _
  -- Equal names in one directory would be equal places, and none of these is listed twice.
  have hnodup : (t.children place).Pairwise fun a b => a.1 ≠ b.1 := by
    refine (List.mergeSort_perm _ _).pairwise_iff (fun h => Ne.symm h) |>.mpr ?_
    rw [List.pairwise_filterMap]
    refine (List.pairwise_map.mp t.nodes.nodup).imp fun {p q} hne a ha b hb hab => hne ?_
    rw [eq_of_child ha, eq_of_child hb, hab]
  refine (hsorted.and hnodup).imp fun ⟨hle, hne⟩ => ?_
  exact (Ordering.isLE_iff_eq_lt_or_eq_eq.mp hle).resolve_right fun heq =>
    hne (Std.LawfulEqCmp.eq_of_compare heq)

/-- All names at or below a place are plain. -/
def PlainBelow (t : HostTree) (place : Location) : Prop :=
  ∀ names, (t.node? (place ++ names)).isSome → ∀ n ∈ place ++ names, Plain n

/-- Below a place with plain names, the names below a child are plain. -/
theorem PlainBelow.child {place : Location} (h : t.PlainBelow place) (name : List UInt8) :
    t.PlainBelow (place ++ [name]) := by
  intro names hsome
  rw [List.append_assoc] at hsome ⊢
  exact h _ hsome

/-- A search enters every path on the way from a place along names. -/
def Enters (enters : Path → Bool) (place names : Location) : Prop :=
  ∀ init, init ≠ [] → init <+: names → enters (rooted (place ++ init)) = true

/-- A search enters the first path on the way and then those that follow. -/
theorem enters_cons {enters : Path → Bool} {place : Location} {name : List UInt8}
    {rest : Location} :
    Enters enters place (name :: rest) ↔
      enters (rooted (place ++ [name])) = true ∧ Enters enters (place ++ [name]) rest := by
  constructor
  · refine fun h => ⟨h [name] (List.cons_ne_nil _ _) ⟨rest, rfl⟩, fun init _ hinit => ?_⟩
    rw [List.append_assoc]
    exact h (name :: init) (List.cons_ne_nil _ _) (List.cons_prefix_cons.mpr ⟨rfl, hinit⟩)
  · rintro ⟨hfirst, hrest⟩ init hne hinit
    obtain ⟨name', init, rfl⟩ := List.exists_cons_of_ne_nil hne
    obtain ⟨rfl, hbelow⟩ := List.cons_prefix_cons.mp hinit
    by_cases hnil : init = []
    · rwa [hnil]
    · rw [List.append_cons]
      exact hrest init hnil hbelow

/-- The files at or below a child that a search finds. -/
def filesAt (t : HostTree) (enters : Path → Bool) (depth : Nat) (place : Location)
    (child : List UInt8 × HostNode) : List Path :=
  if enters (rooted (place ++ [child.1])) then
    match child.2 with
    | .file _ => [rooted (place ++ [child.1])]
    | .directory =>
      t.filesBelow enters depth (rooted (place ++ [child.1])) (place ++ [child.1])
    | .link _ => []
  else []

/-- A search goes through the children of a directory. -/
theorem filesBelow_succ {enters : Path → Bool} {depth : Nat} {place : Location}
    (hplain : t.PlainBelow place) :
    t.filesBelow enters (depth + 1) (rooted place) place =
      (t.children place).flatMap (t.filesAt enters depth place) := by
  rw [filesBelow]
  refine List.flatMap_congr fun ⟨name, node⟩ hchild => ?_
  have hnames := hplain [name] (by rw [mem_children.mp hchild]; rfl)
  have hpush := push_rooted (fun n hn => hnames n (List.mem_append_left _ hn))
    (hnames name (List.mem_append_right _ (List.mem_singleton_self name)))
  dsimp only
  rw [hpush]
  rfl

/-- What a search finds below a place: the files to which it enters every path on the way, as far
down as it goes. -/
theorem mem_filesBelow (ht : t.Sound) {enters : Path → Bool} {depth : Nat} {place : Location}
    (hplain : t.PlainBelow place) {p : Path} :
    p ∈ t.filesBelow enters depth (rooted place) place ↔
      ∃ names, names ≠ [] ∧ names.length ≤ depth ∧ p = rooted (place ++ names) ∧
        (∃ content, t.node? (place ++ names) = some (.file content)) ∧
        Enters enters place names := by
  -- The first of the names picks a child, and the search below it goes one step less far down.
  induction depth generalizing place p with
  | zero =>
    constructor
    · exact fun h => nomatch h
    · rintro ⟨names, hne, hlength, -⟩
      exact absurd (List.length_eq_zero_iff.mp (Nat.le_zero.mp hlength)) hne
  | succ depth ih =>
    rw [filesBelow_succ hplain, List.mem_flatMap]
    constructor
    · rintro ⟨⟨name, node⟩, hchild, hp⟩
      have hnode := mem_children.mp hchild
      unfold filesAt at hp
      dsimp only at hp
      split at hp
      · rename_i henters
        cases node with
        | file content =>
          refine ⟨[name], List.cons_ne_nil _ _, Nat.le_add_left _ _, List.mem_singleton.mp hp,
            ⟨content, hnode⟩, enters_cons.mpr ⟨henters, ?_⟩⟩
          exact fun init hne hinit => absurd (List.prefix_nil.mp hinit) hne
        | directory =>
          obtain ⟨names, -, hlength, rfl, hfile, hrest⟩ := (ih (hplain.child name)).mp hp
          rw [← List.append_cons] at hfile ⊢
          exact ⟨name :: names, List.cons_ne_nil _ _, Nat.succ_le_succ hlength, rfl, hfile,
            enters_cons.mpr ⟨henters, hrest⟩⟩
        | link target => exact nomatch hp
      · exact nomatch hp
    · rintro ⟨names, hne, hlength, rfl, ⟨content, hfile⟩, henters⟩
      obtain ⟨name, rest, rfl⟩ := List.exists_cons_of_ne_nil hne
      obtain ⟨hfirst, hrest⟩ := enters_cons.mp henters
      by_cases hnil : rest = []
      · rw [hnil] at hfile ⊢
        refine ⟨(name, .file content), mem_children.mpr hfile, ?_⟩
        rw [filesAt, if_pos hfirst]
        exact List.mem_singleton_self _
      -- A file further down is reached through a directory, into which the search goes on.
      · rw [List.append_cons place name rest] at hfile ⊢
        have hdirectory := ht.directory_above hnil (by rw [hfile]; rfl)
        refine ⟨(name, .directory), mem_children.mpr hdirectory, ?_⟩
        rw [filesAt, if_pos hfirst]
        exact (ih (hplain.child name)).mpr
          ⟨rest, hnil, Nat.le_of_succ_le_succ hlength, rfl, ⟨content, hfile⟩, hrest⟩

/-- What a search finds at or below a child has the name of the child. -/
theorem exists_of_mem_filesAt (ht : t.Sound) {enters : Path → Bool} {depth : Nat}
    {place : Location} (hplain : t.PlainBelow place) {child : List UInt8 × HostNode}
    (hchild : child ∈ t.children place) {p : Path} (hp : p ∈ t.filesAt enters depth place child) :
    ∃ more, (∀ n ∈ place ++ child.1 :: more, Plain n) ∧ p = rooted (place ++ child.1 :: more) := by
  obtain ⟨name, node⟩ := child
  have hnode := mem_children.mp hchild
  unfold filesAt at hp
  dsimp only at hp ⊢
  split at hp
  · cases node with
    | file content =>
      exact ⟨[], hplain [name] (by rw [hnode]; rfl), List.mem_singleton.mp hp⟩
    | directory =>
      have hbelow := (mem_filesBelow ht (hplain.child name)).mp hp
      obtain ⟨names, -, -, rfl, ⟨content, hfile⟩, -⟩ := hbelow
      rw [← List.append_cons] at hfile ⊢
      exact ⟨names, hplain _ (by rw [hfile]; rfl), rfl⟩
    | link target => exact nomatch hp
  · exact nomatch hp

/-- What a search finds below a place is in order. -/
theorem inOrder_filesBelow (ht : t.Sound) {enters : Path → Bool} {depth : Nat}
    {place : Location} (hplain : t.PlainBelow place) :
    InOrder (t.filesBelow enters depth (rooted place) place) := by
  induction depth generalizing place with
  | zero => exact .nil
  | succ depth ih =>
    rw [filesBelow_succ hplain, InOrder, List.pairwise_flatMap]
    constructor
    · intro ⟨name, node⟩ _
      unfold filesAt
      split
      · cases node with
        | file content => exact List.pairwise_singleton _ _
        | directory => exact ih (hplain.child name)
        | link target => exact .nil
      · exact .nil
    -- What is under different children is in the order of their names.
    · refine (t.pairwise_children place).imp_of_mem fun {a b} ha hb hlt p hp q hq => ?_
      obtain ⟨more, hmore, rfl⟩ := exists_of_mem_filesAt ht hplain ha hp
      obtain ⟨more', hmore', rfl⟩ := exists_of_mem_filesAt ht hplain hb hq
      exact compare_rooted_of_lt hmore hmore' hlt

/-- No location is longer than the longest. -/
theorem length_le_height {place : Location} (h : (t.node? place).isSome) :
    place.length ≤ t.height := by
  have hfold (places : List Location) (n : Nat) (hn : place.length ≤ n ∨ place ∈ places) :
      place.length ≤ places.foldl (fun n place => max n place.length) n := by
    induction places generalizing n with
    | nil => exact hn.resolve_right List.not_mem_nil
    | cons first rest ih =>
      refine ih _ ?_
      rcases hn with hn | hn
      · exact Or.inl (hn.trans (Nat.le_max_left _ _))
      · rcases List.mem_cons.mp hn with rfl | hn
        · exact Or.inl (Nat.le_max_right _ _)
        · exact Or.inr hn
  by_cases hnil : place = []
  · rw [hnil]
    exact Nat.zero_le _
  · rw [node?_of_ne_nil t hnil] at h
    exact hfold _ _ (Or.inr (OrderedMap.mem_keys_of_isSome h))

/-! ## Searches from a root -/

section Root

variable {set : PatternSet} {base : Location}

/-- Whether a search enters a path depends on the excludes only. -/
theorem entersUnder_rooted {names : Location} (h : ∀ n ∈ base ++ names, Plain n)
    (hne : names ≠ []) :
    entersUnder set (rooted base) (rooted (base ++ names)) =
      !set.excludesPath (relative names) := by
  have hbytes := relative_bytes_ne_nil (fun n hn => (h n (List.mem_append_right _ hn)).solid) hne
  rw [entersUnder, stripBase?_rooted h]
  dsimp only
  rw [List.isEmpty_eq_false_iff.mpr hbytes, Bool.false_or]

/-- A search enters every path on the way to a path if this is not excluded. -/
theorem enters_iff {names : Location} (h : ∀ n ∈ base ++ names, Plain n) (hne : names ≠ []) :
    Enters (entersUnder set (rooted base)) base names ↔
      set.excludesPath (relative names) = false := by
  constructor
  · intro henters
    have hlast := henters names hne List.prefix_rfl
    rwa [entersUnder_rooted h hne, Bool.not_eq_true'] at hlast
  · intro hexcluded init hinit hbelow
    have hall : ∀ n ∈ base ++ init, Plain n := by
      intro n hn
      refine h n (List.mem_append.mpr ?_)
      exact (List.mem_append.mp hn).imp_right fun hn => hbelow.subset hn
    rw [entersUnder_rooted hall hinit, Bool.not_eq_true', ← Bool.not_eq_true]
    -- If something on the way were excluded, so would be what is below it.
    intro hinitial
    have hnames : ∀ n ∈ names, Plain n := fun n hn => h n (List.mem_append_right _ hn)
    rw [PatternSet.excludesPath_of_init hnames hbelow hinitial] at hexcluded
    exact nomatch hexcluded

/-- What an absolute path in normal form leads to stands at its names. -/
theorem findHere_rooted (ht : t.Sound) {names : Location} (h : ∀ n ∈ names, Plain n)
    {found : Location × HostNode} (hfound : t.findHere (rooted names) = .ok found) :
    found.1 = names ∧ t.node? names = some found.2 := by
  have hleads := lookup_rooted ht .entry (endsInSeparator (rooted names)) h
  unfold findHere at hfound
  generalize t.lookup .entry (endsInSeparator (rooted names)) (rooted names) = outcome
    at hleads hfound
  cases hleads with
  | node hnode =>
    obtain rfl := Except.ok.inj hfound
    exact ⟨rfl, hnode⟩
  | vacant | missing | refused => exact nomatch hfound

/-- What a search from a root goes through: nothing, the root as a file, or what is below it. -/
theorem filesFrom_cases (ht : t.Sound) (hbase : ∀ n ∈ base, Plain n)
    (hreaches : (t.node? base).isSome → ∃ found, t.findHere (rooted base) = .ok found)
    (enters : Path → Bool) :
    (t.node? base = none ∧ t.filesFrom enters (rooted base) = []) ∨
      (∃ content, t.node? base = some (.file content) ∧
        t.filesFrom enters (rooted base) = [rooted base]) ∨
      (t.node? base = some .directory ∧ t.filesFrom enters (rooted base) =
        t.filesBelow enters (t.height + 1) (rooted base) base) := by
  unfold filesFrom
  cases hfound : t.findHere (rooted base) with
  | error error =>
    refine Or.inl ⟨Option.not_isSome_iff_eq_none.mp fun hsome => ?_, rfl⟩
    obtain ⟨found, hok⟩ := hreaches hsome
    rw [hfound] at hok
    exact nomatch hok
  | ok found =>
    obtain ⟨hplace, hnode⟩ := findHere_rooted ht hbase hfound
    obtain ⟨place, node⟩ := found
    obtain rfl : place = base := hplace
    cases node with
    | file content => exact Or.inr (Or.inl ⟨content, hnode, rfl⟩)
    | directory => exact Or.inr (Or.inr ⟨hnode, rfl⟩)
    | link target => exact absurd (ht.isSome_kind _ _ hnode) Bool.false_ne_true

/-- A search from a root goes through the files at or below it that are not excluded. -/
theorem mem_filesFrom (ht : t.Sound) (hbase : ∀ n ∈ base, Plain n) (hplain : t.PlainBelow base)
    (hreaches : (t.node? base).isSome → ∃ found, t.findHere (rooted base) = .ok found) {p : Path} :
    p ∈ t.filesFrom (entersUnder set (rooted base)) (rooted base) ↔
      ∃ names, p = rooted (base ++ names) ∧
        (∃ content, t.node? (base ++ names) = some (.file content)) ∧
        set.excludesPath (relative names) = false := by
  rcases filesFrom_cases ht hbase hreaches (entersUnder set (rooted base)) with
    ⟨hnone, hfiles⟩ | ⟨content, hroot, hfiles⟩ | ⟨hroot, hfiles⟩
  all_goals rw [hfiles]
  -- Nothing stands at the root, so nothing stands below it.
  · constructor
    · exact fun h => absurd h List.not_mem_nil
    · rintro ⟨names, -, ⟨content, hfile⟩, -⟩
      obtain rfl := ht.eq_nil_of_isSome (by rw [hnone]; exact nofun) (by rw [hfile]; rfl)
      rw [List.append_nil, hnone] at hfile
      exact nomatch hfile
  -- Nothing stands below a file, and no exclude is about the root itself.
  · rw [List.mem_singleton]
    constructor
    · rintro rfl
      exact ⟨[], by rw [List.append_nil], ⟨content, by rw [List.append_nil, hroot]⟩, rfl⟩
    · rintro ⟨names, rfl, ⟨content', hfile⟩, -⟩
      obtain rfl := ht.eq_nil_of_isSome (by rw [hroot]; exact nofun) (by rw [hfile]; rfl)
      rw [List.append_nil]
  -- The search below a directory goes further down than any file stands.
  · rw [mem_filesBelow ht hplain]
    constructor
    · rintro ⟨names, hne, -, rfl, ⟨content, hfile⟩, henters⟩
      have hall := hplain names (by rw [hfile]; rfl)
      exact ⟨names, rfl, ⟨content, hfile⟩, (enters_iff hall hne).mp henters⟩
    · rintro ⟨names, rfl, ⟨content, hfile⟩, hexcluded⟩
      have hall := hplain names (by rw [hfile]; rfl)
      have hne : names ≠ [] := by
        rintro rfl
        rw [List.append_nil, hroot] at hfile
        exact nomatch hfile
      have hlength : (base ++ names).length ≤ t.height := length_le_height (by rw [hfile]; rfl)
      rw [List.length_append] at hlength
      exact ⟨names, hne, by omega, rfl, ⟨content, hfile⟩, (enters_iff hall hne).mpr hexcluded⟩

/-- A search from a root goes through files in order. -/
theorem inOrder_filesFrom (ht : t.Sound) (hbase : ∀ n ∈ base, Plain n)
    (hplain : t.PlainBelow base)
    (hreaches : (t.node? base).isSome → ∃ found, t.findHere (rooted base) = .ok found)
    (enters : Path → Bool) : InOrder (t.filesFrom enters (rooted base)) := by
  rcases filesFrom_cases ht hbase hreaches enters with
    ⟨-, hfiles⟩ | ⟨content, -, hfiles⟩ | ⟨-, hfiles⟩
  all_goals rw [hfiles]
  · exact .nil
  · exact List.pairwise_singleton _ _
  · exact inOrder_filesBelow ht hplain

end Root

/-! ## The same tree -/

/-- At and below a root, a host has the same files and directories as a tree in memory. -/
structure Mirrors (t : HostTree) (m : MemoryTree) (root : Path) : Prop where
  /-- The system finds the root if something stands there. -/
  reaches : (t.node? (namesOf root)).isSome → ∃ found, t.findHere root = .ok found
  /-- Names are plain. -/
  plain : t.PlainBelow (namesOf root)
  /-- What stands at the same names is of the same kind. -/
  kind_eq : ∀ names, (∀ n ∈ names, Plain n) →
    (t.node? (namesOf root ++ names)).map kindOf =
      (m.nodes.get? (rooted (namesOf root ++ names))).map (some ·.kind)

/-- Where one tree has a file, so has the other. -/
theorem Mirrors.file_iff {m : MemoryTree} {root : Path} (h : Mirrors t m root) {names : Location}
    (hnames : ∀ n ∈ names, Plain n) :
    (∃ content, t.node? (namesOf root ++ names) = some (.file content)) ↔
      ∃ content, m.nodes.get? (rooted (namesOf root ++ names)) = some (.file content) := by
  have hkind := h.kind_eq names hnames
  constructor
  · rintro ⟨content, hfile⟩
    rw [hfile, Option.map_some, eq_comm, Option.map_eq_some_iff] at hkind
    obtain ⟨node, hnode, hkind⟩ := hkind
    cases node with
    | file content' => exact ⟨content', hnode⟩
    | directory => exact nomatch hkind
  · rintro ⟨content, hfile⟩
    rw [hfile, Option.map_some, Option.map_eq_some_iff] at hkind
    obtain ⟨node, hnode, hkind⟩ := hkind
    cases node with
    | file content' => exact ⟨content', hnode⟩
    | directory | link => exact nomatch hkind

/-- Searching a host is searching the same tree in memory. For every pattern and all excludes,
either both find the same files at or below the root in the same order, or both fail for the same
pattern and the same fault. -/
theorem glob_eq_of_mirrors {t : HostTree} {m : MemoryTree} {root : Path} (ht : t.Sound)
    (hm : m.Reachable) (habsolute : root.isAbsolute = true) (hnormal : root.normalize = root)
    (h : Mirrors t m root) (pattern : String) (excludes : List String) :
    t.glob root pattern excludes = m.glob root pattern excludes := by
  obtain ⟨base, hbase, hroot⟩ := normalize_of_isAbsolute habsolute
  rw [hnormal] at hroot
  have hnames : namesOf root = base := by rw [hroot, namesOf_rooted hbase]
  have hreaches := h.reaches
  have hplain := h.plain
  have hfiles {names : Location} (hnames : ∀ n ∈ names, Plain n) := h.file_iff hnames
  rw [hnames] at hreaches hplain
  simp only [hnames] at hfiles
  rw [glob, MemoryTree.glob, hnormal]
  cases PatternSet.compile [pattern] excludes with
  | error fault => rfl
  | ok set =>
    refine congrArg Except.ok ?_
    rw [hroot] at hreaches ⊢
    -- Both lists are in order, so it is enough to compare what they hold.
    refine InOrder.eq_of_mem_iff
      ((inOrder_filesFrom ht hbase hplain hreaches _).filter _)
      ((MemoryTree.inOrder_filesUnder hm.sound hbase).filter _) fun p => ?_
    rw [List.mem_filter, List.mem_filter, mem_filesFrom ht hbase hplain hreaches,
      MemoryTree.mem_filesUnder hm.sound hbase]
    -- On the host, excludes are tested on the way to a file, and in memory when it has been found.
    constructor
    · rintro ⟨⟨names, rfl, hfile, hexcluded⟩, hincluded⟩
      obtain ⟨content, hnode⟩ := hfile
      have hall := hplain names (by rw [hnode]; rfl)
      have hnames : ∀ n ∈ names, Plain n := fun n hn => hall n (List.mem_append_right _ hn)
      refine ⟨⟨names, hall, rfl, (hfiles hnames).mp ⟨content, hnode⟩⟩, ?_⟩
      rw [stripBase?_rooted hall] at hincluded ⊢
      dsimp only at hincluded ⊢
      rw [hexcluded, hincluded]
      rfl
    · rintro ⟨⟨names, hall, rfl, hfile⟩, hselected⟩
      have hnames : ∀ n ∈ names, Plain n := fun n hn => hall n (List.mem_append_right _ hn)
      rw [stripBase?_rooted hall] at hselected ⊢
      dsimp only at hselected ⊢
      rw [Bool.and_eq_true, Bool.not_eq_true'] at hselected
      exact ⟨⟨names, rfl, (hfiles hnames).mpr hfile, hselected.1⟩, hselected.2⟩

/-- A host has the same files and directories as a tree in memory if every node that is listed in
one is of the same kind in the other. -/
theorem mirrors_of_forall {t : HostTree} {m : MemoryTree} {root : Path} (hne : namesOf root ≠ [])
    (hreaches : ∃ found, t.findHere root = .ok found)
    (hhost : ∀ p ∈ t.nodes.pairs, (∀ n ∈ p.1, Plain n) ∧ (namesOf root <+: p.1 →
      (m.nodes.get? (rooted p.1)).map (some ·.kind) = some (kindOf p.2)))
    (hbase : ∀ n ∈ namesOf root, Plain n)
    (hmemory : ∀ p ∈ m.nodes.pairs, namesOf root <+: namesOf p.1 →
      (t.node? (namesOf p.1)).isSome) : Mirrors t m root where
  reaches _ := hreaches
  plain names hsome := by
    obtain ⟨node, hnode⟩ := Option.isSome_iff_exists.mp hsome
    rw [node?_of_ne_nil t (List.append_ne_nil_of_left_ne_nil hne _)] at hnode
    exact (hhost _ ((OrderedMap.get?_eq_some_iff _ _ _).mp hnode)).1
  kind_eq names hnames := by
    have hall : ∀ n ∈ namesOf root ++ names, Plain n := List.forall_mem_append.mpr ⟨hbase, hnames⟩
    cases hnode : t.node? (namesOf root ++ names) with
    | some node =>
      rw [node?_of_ne_nil t (List.append_ne_nil_of_left_ne_nil hne _)] at hnode
      have hpair := (OrderedMap.get?_eq_some_iff _ _ _).mp hnode
      exact ((hhost _ hpair).2 (List.prefix_append _ _)).symm
    | none =>
      -- A node in memory would be listed there, and so it would stand on the host.
      rw [eq_comm, Option.map_none, Option.map_eq_none_iff, ← Option.not_isSome_iff_eq_none]
      intro hsome
      obtain ⟨node, hget⟩ := Option.isSome_iff_exists.mp hsome
      have hfound := hmemory _ ((OrderedMap.get?_eq_some_iff _ _ _).mp hget)
      rw [namesOf_rooted hall, hnode] at hfound
      exact absurd (hfound (List.prefix_append _ _)) Bool.false_ne_true

/-- A host with a directory and a file of which the names differ by an extension, and with a
directory to be left out. -/
def siblingsHost : HostTree where
  nodes := .ofList [([[114]], .directory), ([[114], [98, 46, 99]], .file [120]),
    ([[114], [98]], .directory), ([[114], [98], [99]], .file [121]),
    ([[114], [115]], .directory), ([[114], [115], [122]], .file [122])]
  workingDirectory := []

/-- The same files and directories in memory. -/
def siblingsMemory : MemoryTree :=
  (((MemoryTree.new.write (.ofString "/r/s/z") "z").2.write (.ofString "/r/b.c") "x").2.write
    (.ofString "/r/b/c") "y").2

/-- The file in the directory is found before the file next to it, though as text its path comes
after the other's. -/
theorem glob_eq_of_mirrors_siblings :
    siblingsHost.glob (.ofString "/r") "**/*" ["s"] =
        .ok [.ofString "/r/b/c", .ofString "/r/b.c"] ∧
      siblingsHost.glob (.ofString "/r") "**/*" ["s"] =
        siblingsMemory.glob (.ofString "/r") "**/*" ["s"] := by
  have hreachable : siblingsMemory.Reachable :=
    ((MemoryTree.Reachable.new.write _ _).write _ _).write _ _
  have hsound : siblingsHost.Sound := sound_of_forall (by decide)
  have hreaches : ∃ found, siblingsHost.findHere (.ofString "/r") = .ok found :=
    ⟨([[114]], .directory), by cbv⟩
  have hmirrors : Mirrors siblingsHost siblingsMemory (.ofString "/r") :=
    mirrors_of_forall (by decide +kernel) hreaches (by decide +kernel) (by decide +kernel)
      (by decide +kernel)
  refine ⟨by cbv, ?_⟩
  exact glob_eq_of_mirrors hsound hreachable (by decide) (by decide +kernel) hmirrors _ _

end HostTree

end TreePlan
