import Mathlib
import TreePlan.Proofs.MemoryTree.Discovery
import TreePlan.Proofs.MemoryTree.Shape
import TreePlan.Proofs.Overlay.Framing
import TreePlan.Proofs.Overlay.Still
import TreePlan.Proofs.Path.Order
import TreePlan.Proofs.Path.Relative

/-!
# What a discovery in memory finds

A search of a tree in memory for one pattern finds the files that the pattern wants, in the order of
paths (`MemoryTree.Finds`): those at or below the start of the search whose names from there on the
pattern matches, unless an exclude matches a front of these names. A discovery joins what its
patterns find, one after the other, and of the paths with one key keeps the first (`firstPerKey`).
It fails exactly if there is something to search for and a pattern does not compile, and nothing is
recorded before all patterns have been searched (`Overlay.discovers_ofMemory`).
-/

namespace TreePlan

open TreePlan.Path

/-! ## Files -/

namespace MemoryTree

variable {t : MemoryTree} {base names : List (List UInt8)} {root p : Path} {pattern : String}
  {excludes : List String} {paths : List Path}

/-- What is found under an absolute path in normal form is the files at or below it. -/
theorem mem_filesUnder (hm : t.Sound) (hbase : ∀ n ∈ base, Plain n) :
    p ∈ t.filesUnder (rooted base) ↔
      ∃ names, (∀ n ∈ base ++ names, Plain n) ∧ p = rooted (base ++ names) ∧
        ∃ content, t.nodes.get? (rooted (base ++ names)) = some (.file content) := by
  constructor
  · intro h
    obtain ⟨⟨content, hfile⟩, hbelow⟩ := get?_of_mem_filesUnder h
    have habsolute : p.isAbsolute = true := by
      have hnormal := normalize_rooted hbase
      exact isAbsolute_of_mem_filesUnder (isAbsolute_rooted base) (hnormal.symm ▸ h)
    obtain ⟨l, hl, rfl⟩ := hm.exists_rooted p (by rw [hfile]; rfl) habsolute
    obtain ⟨names, rfl⟩ := (startsWith_rooted hl hbase).mp hbelow
    exact ⟨names, hl, rfl, content, hfile⟩
  · rintro ⟨names, hnames, rfl, content, hfile⟩
    unfold filesUnder
    rw [List.mem_mergeSort, List.mem_map]
    refine ⟨(_, .file content), List.mem_filter.mpr ⟨?_, decide_eq_true ⟨rfl, ?_⟩⟩, rfl⟩
    · exact (OrderedMap.get?_eq_some_iff _ _ _).mp hfile
    · exact (startsWith_rooted hnames hbase).mpr (List.prefix_append _ _)

/-- What is found under an absolute path in normal form is in order. -/
theorem inOrder_filesUnder (hm : t.Sound) (hbase : ∀ n ∈ base, Plain n) :
    InOrder (t.filesUnder (rooted base)) := by
  have hsorted : (t.filesUnder (rooted base)).Pairwise fun p q => (p.compare q).isLE :=
    pairwise_mergeSort_compare _
  have hnodup : (t.filesUnder (rooted base)).Nodup := by
    refine (List.mergeSort_perm _ _).nodup_iff.mpr ?_
    exact t.nodes.nodup.sublist (List.filter_sublist.map _)
  refine (hsorted.and hnodup).imp_of_mem fun {p q} hp hq ⟨hle, hne⟩ => ?_
  -- Two paths in normal form that compare alike are the same.
  obtain ⟨l, hl, rfl, -⟩ := (mem_filesUnder hm hbase).mp hp
  obtain ⟨l', hl', rfl, -⟩ := (mem_filesUnder hm hbase).mp hq
  exact (Ordering.isLE_iff_eq_lt_or_eq_eq.mp hle).resolve_right fun heq =>
    hne (eq_of_compare_rooted hl hl' heq)

/-! ## Searching for one pattern -/

/-- A file that a search for a pattern is to find. -/
structure Wanted (t : MemoryTree) (root : Path) (excludes : List String) (pattern : String)
    (p : Path) : Prop where
  /-- There is a file. -/
  isFile : t.IsFile p
  /-- It stands at or below the start of the search. The pattern matches its names from there on,
  and no exclude matches a front of them. -/
  exists_names : ∃ names, p.components = root.normalize.components ++ names.map .normal ∧
    PatternSet.MatchedBy [pattern] (relative names) ∧
    ∀ front, front ≠ [] → front <+: names → ¬ PatternSet.MatchedBy excludes (relative front)

/-- Paths are what a search for a pattern is to find, in the order of paths. -/
structure Finds (t : MemoryTree) (root : Path) (excludes : List String) (pattern : String)
    (paths : List Path) : Prop where
  /-- The paths are in order, and none of them is there twice. -/
  inOrder : InOrder paths
  /-- Every wanted file is among them, and nothing else. -/
  mem_iff : ∀ p, p ∈ paths ↔ t.Wanted root excludes pattern p

/-- The components of a path in normal form below another. -/
theorem components_below (h : ∀ n ∈ base ++ names, Plain n) :
    (rooted (base ++ names)).components = (rooted base).components ++ names.map .normal := by
  rw [components_rooted h, components_rooted fun n hn => h n (List.mem_append_left _ hn),
    List.map_append, List.cons_append]

/-- A wanted file under an absolute path in normal form, by its names. -/
theorem Sound.wanted_iff (h : Sound t) (hbase : ∀ n ∈ base, Plain n)
    (hroot : root.normalize = rooted base) :
    t.Wanted root excludes pattern p ↔ ∃ names, (∀ n ∈ base ++ names, Plain n) ∧
      p = rooted (base ++ names) ∧ t.IsFile p ∧ PatternSet.MatchedBy [pattern] (relative names) ∧
      ∀ front, front ≠ [] → front <+: names → ¬ PatternSet.MatchedBy excludes (relative front) := by
  constructor
  · rintro ⟨hfile, names, hcomponents, hmatched⟩
    obtain ⟨content, hcontent⟩ := hfile
    rw [hroot, components_rooted hbase] at hcomponents
    have habsolute : p.isAbsolute = true := isAbsolute_of_root_mem (by
      rw [hcomponents]
      exact List.mem_cons_self)
    obtain ⟨l, hl, rfl⟩ := h.exists_rooted p (by rw [hcontent]; rfl) habsolute
    rw [components_rooted hl, List.cons_append, ← List.map_append] at hcomponents
    have hnames : l = base ++ names :=
      List.map_injective_iff.mpr (fun _ _ => Component.normal.inj) (List.cons.inj hcomponents).2
    subst hnames
    exact ⟨names, hl, rfl, ⟨content, hcontent⟩, hmatched⟩
  · rintro ⟨names, hplain, rfl, hfile, hmatched⟩
    exact ⟨hfile, names, by rw [hroot, components_below hplain], hmatched⟩

/-- A relative path is accepted exactly if the pattern matches its names and no exclude matches a
front of them. -/
theorem accepts_iff {set : PatternSet} (hset : PatternSet.compile [pattern] excludes = .ok set)
    (hnames : ∀ n ∈ names, Plain n) :
    (!set.excludesPath (relative names) && set.includesPath (relative names)) = true ↔
      PatternSet.MatchedBy [pattern] (relative names) ∧
        ∀ front, front ≠ [] → front <+: names →
          ¬ PatternSet.MatchedBy excludes (relative front) := by
  rw [Bool.and_eq_true, Bool.not_eq_true', ← Bool.not_eq_true, PatternSet.includesPath_iff hset,
    PatternSet.excludesPath_iff hset, and_comm]
  refine and_congr_right fun _ => ⟨fun hnone front hne hfront hmatched => ?_, ?_⟩
  · exact hnone ⟨_, (mem_ancestors_relative hnames).mpr ⟨front, hne, hfront, rfl⟩, hmatched⟩
  · rintro hnone ⟨q, hq, hmatched⟩
    obtain ⟨front, hne, hfront, rfl⟩ := (mem_ancestors_relative hnames).mp hq
    exact hnone front hne hfront hmatched

/-- A search for a pattern that compiles finds what it is to find. -/
theorem Sound.finds_of_glob (h : Sound t) (hroot : root.isAbsolute = true)
    (hglob : t.glob root pattern excludes = .ok paths) : t.Finds root excludes pattern paths := by
  obtain ⟨base, hbase, hnormal⟩ := normalize_of_isAbsolute hroot
  rw [glob, hnormal] at hglob
  cases hset : PatternSet.compile [pattern] excludes with
  | error fault =>
    rw [hset] at hglob
    cases hglob
  | ok set =>
    rw [hset] at hglob
    obtain rfl := Except.ok.inj hglob
    refine ⟨(inOrder_filesUnder h hbase).sublist List.filter_sublist, fun p => ?_⟩
    rw [h.wanted_iff hbase hnormal, List.mem_filter, mem_filesUnder h hbase]
    -- What is left of a path below the start of the search is its names from there on.
    have hnames {names : List (List UInt8)} (hplain : ∀ n ∈ base ++ names, Plain n) :
        ∀ n ∈ names, Plain n := fun n hn => hplain n (List.mem_append_right _ hn)
    constructor
    · rintro ⟨⟨names, hplain, rfl, hfile⟩, haccepted⟩
      rw [stripBase?_rooted hplain] at haccepted
      exact ⟨names, hplain, rfl, hfile, (accepts_iff hset (hnames hplain)).mp haccepted⟩
    · rintro ⟨names, hplain, rfl, hfile, hmatched⟩
      refine ⟨⟨names, hplain, rfl, hfile⟩, ?_⟩
      rw [stripBase?_rooted hplain]
      exact (accepts_iff hset (hnames hplain)).mpr hmatched

/-- A search succeeds exactly if the pattern and all excludes compile. -/
theorem exists_glob_iff (t : MemoryTree) (root : Path) :
    (∃ paths, t.glob root pattern excludes = .ok paths) ↔
      PatternSet.Compiles pattern ∧ ∀ exclude ∈ excludes, PatternSet.Compiles exclude := by
  rw [← List.forall_mem_cons, ← List.singleton_append, ← PatternSet.exists_compile_iff, glob]
  cases PatternSet.compile [pattern] excludes with
  | error =>
    constructor <;> rintro ⟨_, h⟩ <;> cases h
  | ok set => exact ⟨fun _ => ⟨_, rfl⟩, fun _ => ⟨_, rfl⟩⟩

/-- A search that fails has the pattern or an exclude to blame. -/
theorem blames_glob {fault : PatternSet.Fault} (h : t.glob root pattern excludes = .error fault) :
    fault.Blames (pattern :: excludes) := by
  rw [glob] at h
  cases hset : PatternSet.compile [pattern] excludes with
  | error fault' =>
    rw [hset] at h
    obtain rfl := Except.error.inj h
    exact PatternSet.blames_compile hset
  | ok set =>
    rw [hset] at h
    cases h

end MemoryTree

/-! ## Paths with one key -/

/-- Of the paths with one key the first, in their order. -/
def firstPerKey (hash : Hasher) : List Path → List Path
  | [] => []
  | p :: rest => p :: (firstPerKey hash rest).filter (hash · ≠ hash p)

section FirstPerKey

variable {hash : Hasher} {l : List Path} {p : Path}

/-- The first paths are some of the paths, in their order. -/
theorem firstPerKey_sublist (hash : Hasher) (l : List Path) : (firstPerKey hash l).Sublist l := by
  induction l with
  | nil => exact .slnil
  | cons p rest ih => exact (List.filter_sublist.trans ih).cons_cons p

/-- No two of the first paths have one key. -/
theorem nodup_firstPerKey (hash : Hasher) (l : List Path) :
    ((firstPerKey hash l).map hash).Nodup := by
  induction l with
  | nil => exact List.nodup_nil
  | cons p rest ih =>
    rw [firstPerKey, List.map_cons, List.nodup_cons]
    refine ⟨fun hmem => ?_, ih.sublist (List.filter_sublist.map hash)⟩
    obtain ⟨q, hq, hkey⟩ := List.mem_map.mp hmem
    exact of_decide_eq_true (List.mem_filter.mp hq).2 hkey

/-- Every key of the paths is that of a first one. -/
theorem exists_mem_firstPerKey (h : p ∈ l) : ∃ q ∈ firstPerKey hash l, hash q = hash p := by
  induction l with
  | nil => exact nomatch h
  | cons first rest ih =>
    rw [firstPerKey]
    by_cases hkey : hash p = hash first
    · exact ⟨first, List.mem_cons_self, hkey.symm⟩
    · have hrest : p ∈ rest := (List.mem_cons.mp h).resolve_left fun he => hkey (he ▸ rfl)
      obtain ⟨q, hq, hsame⟩ := ih hrest
      refine ⟨q, List.mem_cons_of_mem _ (List.mem_filter.mpr ⟨hq, ?_⟩), hsame⟩
      exact decide_eq_true fun he => hkey (hsame.symm.trans he)

/-- If unlike paths have unlike keys, every path is among the first. -/
theorem mem_firstPerKey_iff (hapart : ∀ p ∈ l, ∀ q ∈ l, hash p = hash q → p = q) :
    p ∈ firstPerKey hash l ↔ p ∈ l := by
  refine ⟨fun h => (firstPerKey_sublist hash l).subset h, fun h => ?_⟩
  obtain ⟨q, hq, hkey⟩ : ∃ q ∈ firstPerKey hash l, hash q = hash p := exists_mem_firstPerKey h
  exact hapart q ((firstPerKey_sublist hash l).subset hq) p h hkey ▸ hq

end FirstPerKey

namespace Overlay

variable {ω : Type}

/-- Adding paths adds the first ones with keys that nothing has been found for. -/
theorem pairs_addFound (b : Backing ω) (paths : List Path) (found : OrderedMap PathKey Path) :
    (addFound b found paths).pairs = found.pairs ++
      ((firstPerKey b.hash paths).filter (b.hash · ∉ found.keys)).map fun p => (b.hash p, p) := by
  induction paths generalizing found with
  | nil => exact (List.append_nil _).symm
  | cons p rest ih =>
    rw [addFound, List.foldl_cons, ← addFound, ih, OrderedMap.putIfAbsent, firstPerKey]
    by_cases hp : b.hash p ∈ found.keys
    · have hcontains : found.contains (b.hash p) = true := OrderedMap.mem_keys_iff.mp hp
      rw [if_pos hcontains, List.filter_cons_of_neg (by simpa using hp), List.filter_filter]
      congr 2
      refine List.filter_congr fun q _ => ?_
      by_cases hq : b.hash q = b.hash p <;> simp [hq, hp]
    · have hnew : ¬ found.contains (b.hash p) = true := fun hcontains =>
        hp (OrderedMap.mem_keys_iff.mpr hcontains)
      have hnone : found.get? (b.hash p) = none := Option.not_isSome_iff_eq_none.mp hnew
      rw [if_neg hnew, OrderedMap.pairs_put hnone, OrderedMap.keys_put, if_neg hp,
        List.filter_cons_of_pos (by simpa using hp), List.filter_filter, List.map_cons,
        List.append_assoc, List.singleton_append]
      congr 3
      refine List.filter_congr fun q _ => ?_
      by_cases hq : b.hash q = b.hash p <;> simp [hq]

/-- Where nothing has been found before, the first paths are found. -/
theorem pairs_addFound_empty (b : Backing ω) (paths : List Path) :
    (addFound b .empty paths).pairs = (firstPerKey b.hash paths).map fun p => (b.hash p, p) := by
  rw [pairs_addFound]
  exact congrArg (List.map _) (List.filter_eq_self.mpr fun _ _ => rfl)

/-! ## Discovering -/

variable {hash : Hasher} {view : ω → MemoryTree} {t : MemoryTree} {root : Path}
  {includes excludes : List String} {o o' : Overlay ω} {result : Except RunError (List Path)}

/-- A discovery in a tree in memory answers with the first paths of what its patterns find, or with
the fault of one of them. -/
theorem discover_ofMemory_cases (hash : Hasher) (view : ω → MemoryTree) (root : Path)
    (includes excludes : List String) (o : Overlay ω) :
    (∃ lists, List.Forall₂ (fun pattern paths =>
        (view o.world).glob root pattern excludes = .ok paths) includes lists ∧
      (o.discover (.ofMemory hash view) root includes excludes).1 =
        .ok (firstPerKey hash lists.flatten)) ∨
    ∃ pattern ∈ includes, ∃ fault, (view o.world).glob root pattern excludes = .error fault ∧
      (o.discover (.ofMemory hash view) root includes excludes).1 =
        .error (.invalidPattern fault) := by
  rcases searchAll_ofMemory_cases hash view (view o.world) root excludes includes .empty with
    ⟨lists, hlists, hsearch⟩ | ⟨pattern, hpattern, fault, hfault, hsearch⟩
  · refine Or.inl ⟨lists, hlists, ?_⟩
    rw [discover, hsearch o.world rfl]
    dsimp only
    rw [pairs_addFound_empty, List.map_map]
    exact congrArg Except.ok (List.map_id _)
  · refine Or.inr ⟨pattern, hpattern, fault, hfault, ?_⟩
    rw [discover, hsearch o.world rfl]
    rfl

/-- What a discovery does to an overlay over a tree in memory. -/
structure Discovered (hash : Hasher) (t : MemoryTree) (root : Path)
    (includes excludes : List String) (o : Overlay ω) (result : Except RunError (List Path))
    (o' : Overlay ω) : Prop where
  /-- It fails if something is searched for and a pattern does not compile, and only then. -/
  error_iff : (∃ error, result = .error error) ↔
    includes ≠ [] ∧ ∃ pattern ∈ includes ++ excludes, ¬ PatternSet.Compiles pattern
  /-- It then tells a pattern that does not compile, as it was given. -/
  blames : ∀ error, result = .error error →
    ∃ fault, error = .invalidPattern fault ∧ fault.Blames (includes ++ excludes)
  /-- And nothing is recorded, whatever has been found for other patterns. -/
  stores_of_error : ∀ error, result = .error error → o'.stores = o.stores
  /-- Otherwise it answers with the first paths of what the patterns find, one after the other. -/
  files_eq : ∀ files, result = .ok files →
    ∃ found, List.Forall₂ (t.Finds root excludes) includes found ∧
      files = firstPerKey hash found.flatten
  /-- Each of these is recorded as a file. -/
  recorded : ∀ files, result = .ok files →
    ∀ p ∈ files, o'.stores.entries.get? (hash p) = some ⟨.file, p⟩
  /-- Under all other keys stands what stood there. -/
  untouched : ∀ files, result = .ok files →
    ∀ k, k ∉ files.map hash → o'.stores.entries.get? k = o.stores.entries.get? k
  /-- Nothing is related. -/
  relations_eq : o'.stores.relations = o.stores.relations
  /-- Nothing is staged. -/
  changes_eq : o'.stores.changes = o.stores.changes
  /-- If no two wanted files share a key, every wanted file is answered with, once. -/
  complete : ∀ files, result = .ok files →
    (∀ pattern ∈ includes, ∀ p, t.Wanted root excludes pattern p →
      ∀ pattern' ∈ includes, ∀ q, t.Wanted root excludes pattern' q → hash p = hash q → p = q) →
    files.Nodup ∧ ∀ p, p ∈ files ↔ ∃ pattern ∈ includes, t.Wanted root excludes pattern p

/-- What patterns find one after the other is what one of them wants. -/
theorem mem_flatten_finds {found : List (List Path)}
    (h : List.Forall₂ (t.Finds root excludes) includes found) {p : Path} :
    p ∈ found.flatten ↔ ∃ pattern ∈ includes, t.Wanted root excludes pattern p := by
  induction h with
  | nil => exact ⟨nofun, fun ⟨_, h, _⟩ => nomatch h⟩
  | cons hfirst _ ih =>
    rw [List.flatten_cons, List.mem_append, hfirst.mem_iff, ih]
    simp only [List.mem_cons, exists_eq_or_imp]

/-- A discovery in a tree in memory, for any directory given by an absolute path, any patterns, any
keys and any overlay, finds exactly the wanted files and fails exactly for patterns that do not
compile. -/
theorem discovers_ofMemory (ht : (view o.world).Reachable) (hroot : root.isAbsolute = true)
    (includes excludes : List String) :
    Discovered hash (view o.world) root includes excludes o
      (o.discover (.ofMemory hash view) root includes excludes).1
      (o.discover (.ofMemory hash view) root includes excludes).2 := by
  have hcases := discover_ofMemory_cases hash view root includes excludes o
  have hok : ∀ files, (o.discover (.ofMemory hash view) root includes excludes).1 = .ok files →
      ∃ found, List.Forall₂ ((view o.world).Finds root excludes) includes found ∧
        files = firstPerKey hash found.flatten := by
    intro files hfiles
    rcases hcases with ⟨lists, hlists, hfound⟩ | ⟨-, -, fault, -, hfault⟩
    · refine ⟨lists, hlists.imp fun pattern paths hglob => ht.sound.finds_of_glob hroot hglob, ?_⟩
      exact Except.ok.inj (hfiles.symm.trans hfound)
    · exact nomatch hfiles.symm.trans hfault
  have herror : ∀ error,
      (o.discover (.ofMemory hash view) root includes excludes).1 = .error error → includes ≠ [] ∧
        ∃ fault, error = .invalidPattern fault ∧ fault.Blames (includes ++ excludes) := by
    intro error hfails
    rcases hcases with ⟨lists, -, hfound⟩ | ⟨pattern, hpattern, fault, hglob, hfault⟩
    · exact nomatch hfails.symm.trans hfound
    · refine ⟨List.ne_nil_of_mem hpattern, fault, ?_, (MemoryTree.blames_glob hglob).mono ?_⟩
      · exact Except.error.inj (hfails.symm.trans hfault)
      · exact List.cons_subset.mpr
          ⟨List.mem_append_left _ hpattern, List.subset_append_right _ _⟩
  refine ⟨⟨?_, ?_⟩, fun error hfails => (herror error hfails).2, fun error hfails =>
    stores_of_discover_eq_error (Prod.ext hfails rfl), hok, fun files hfiles =>
    (discover_eq_ok (Prod.ext hfiles rfl)).2.1, fun files hfiles =>
    (discover_eq_ok (Prod.ext hfiles rfl)).2.2, relations_discover _ _ _ _,
    (discover_learns _ _ _ _).changes_eq, fun files hfiles hapart => ?_⟩
  · rintro ⟨error, hfails⟩
    obtain ⟨hne, fault, -, hblames⟩ := herror error hfails
    exact ⟨hne, fault.pattern, hblames.1, hblames.not_compiles⟩
  · rintro ⟨hne, pattern, hpattern, hnot⟩
    rcases hcases with ⟨lists, hlists, -⟩ | ⟨-, -, fault, -, hfault⟩
    · -- Every include has been compiled, with all excludes.
      have hcompile := ((List.forall₂_and_left includes lists).mp (hlists.imp fun _ paths hglob =>
        ⟨(MemoryTree.exists_glob_iff _ _).mp ⟨paths, hglob⟩, hglob⟩)).1
      obtain ⟨first, hfirst⟩ := List.exists_mem_of_ne_nil includes hne
      rcases List.mem_append.mp hpattern with hpattern | hpattern
      · exact absurd (hcompile pattern hpattern).1 hnot
      · exact absurd ((hcompile first hfirst).2 pattern hpattern) hnot
    · exact ⟨_, hfault⟩
  · obtain ⟨found, hfound, rfl⟩ := hok files hfiles
    refine ⟨(nodup_firstPerKey hash found.flatten).of_map, fun p => ?_⟩
    rw [mem_firstPerKey_iff, mem_flatten_finds hfound]
    intro p hp q hq hkey
    obtain ⟨pattern, hpattern, hwanted⟩ := (mem_flatten_finds hfound).mp hp
    obtain ⟨pattern', hpattern', hwanted'⟩ := (mem_flatten_finds hfound).mp hq
    exact hapart pattern hpattern p hwanted pattern' hpattern' q hwanted' hkey

/-- A tree with files in several directories. -/
def branching : MemoryTree :=
  let t := (MemoryTree.new.write (.ofString "/r/b/x.md") "").2
  let t := ((t.write (.ofString "/r/skip/y.md") "").2.write (.ofString "/r/a.txt") "").2
  (t.write (.ofString "/r/a.md") "").2

/-- Keys that tell paths apart by their lengths. -/
def lengthKey : Hasher := fun p => ⟨Vector.replicate 32 (UInt8.ofNat p.bytes.length)⟩

/-- Two includes that overlap find a file twice, and it is answered with once; what an alternative
of the exclude matches is not entered. -/
theorem discovers_ofMemory_overlapping :
    Discovered lengthKey branching (.ofString "/r/./b/..") ["*.\x7bmd,txt\x7d", "**/*.md"]
      ["\x7bskip,none\x7d"] (.new branching)
      (.ok [.ofString "/r/a.md", .ofString "/r/a.txt", .ofString "/r/b/x.md"])
      ((Overlay.new branching).discover (.ofMemory lengthKey id) (.ofString "/r/./b/..")
        ["*.\x7bmd,txt\x7d", "**/*.md"] ["\x7bskip,none\x7d"]).2 := by
  have hreachable : branching.Reachable := .write (.write (.write (.write .new _ _) _ _) _ _) _ _
  have hfiles : ((Overlay.new branching).discover (.ofMemory lengthKey id) (.ofString "/r/./b/..")
      ["*.\x7bmd,txt\x7d", "**/*.md"] ["\x7bskip,none\x7d"]).1 =
      .ok [.ofString "/r/a.md", .ofString "/r/a.txt", .ofString "/r/b/x.md"] := by cbv
  rw [← hfiles]
  exact @discovers_ofMemory _ lengthKey id _ (.new branching) hreachable (by decide) _ _

end Overlay

end TreePlan
