import Mathlib.Data.List.Forall2
import TreePlan.Proofs.Engine.Discovering
import TreePlan.Proofs.Glob.Set
import TreePlan.Proofs.MemoryTree
import TreePlan.Transforms.Discovery

/-!
# What is found in memory

A tree in memory is searched for each pattern alone. If patterns compile together, each of them
compiles alone (`PatternSet.exists_compile`), so a search for them succeeds. It finds files at or
below the directory that is searched, leaves the world alone, and finds the same files whatever else
the overlay remembers (`Overlay.discover_ofMemory`).
-/

namespace TreePlan

/-! ## Patterns -/

namespace PatternSet

/-- What compiles together compiles each alone. -/
theorem exists_compile {includes excludes : List String}
    (h : ∃ set, compile includes excludes = .ok set) {pattern : String} (hp : pattern ∈ includes) :
    ∃ set, compile [pattern] excludes = .ok set := by
  rw [exists_compile_iff, List.forall_mem_append] at h ⊢
  exact ⟨List.forall_mem_singleton.mpr (h.1 pattern hp), h.2⟩

/-- The pattern for every file compiles. -/
theorem compiles_everything : Compiles "**/*" := by
  have hsome : (compileOne "**/*").toOption.isSome = true := by decide +kernel
  rw [← exists_compileOne_iff]
  cases h : compileOne "**/*" with
  | error fault =>
    rw [h] at hsome
    exact nomatch hsome
  | ok compiled => exact ⟨compiled, rfl⟩

end PatternSet

/-- What a discovery includes compiles with what it excludes, if what is given does. -/
theorem Discovery.exists_compile {includes excludes : List String}
    (h : ∃ set, PatternSet.compile includes excludes = .ok set) :
    ∀ pattern ∈ (Discovery.new includes excludes).includes,
      ∃ set, PatternSet.compile [pattern] excludes = .ok set := by
  intro pattern hp
  unfold Discovery.new at hp
  cases includes with
  | nil =>
    rw [List.mem_singleton.mp hp]
    rw [PatternSet.exists_compile_iff, List.forall_mem_append] at h ⊢
    exact ⟨List.forall_mem_singleton.mpr PatternSet.compiles_everything, h.2⟩
  | cons => exact PatternSet.exists_compile h hp

/-! ## Files -/

namespace MemoryTree

/-- What is found under a directory is files at or below it. -/
theorem get?_of_mem_filesUnder {t : MemoryTree} {root p : Path} (h : p ∈ t.filesUnder root) :
    (∃ content, t.nodes.get? p = some (.file content)) ∧ p.startsWith root = true := by
  unfold filesUnder at h
  rw [List.mem_mergeSort, List.mem_map] at h
  obtain ⟨⟨q, node⟩, hmem, rfl⟩ := h
  rw [List.mem_filter, decide_eq_true_iff] at hmem
  obtain ⟨hpair, hkind, hbelow⟩ := hmem
  cases node with
  | file content => exact ⟨⟨content, (OrderedMap.get?_eq_some_iff _ _ _).mpr hpair⟩, hbelow⟩
  | directory => exact nomatch hkind

/-- What is found under an absolute directory is absolute. -/
theorem isAbsolute_of_mem_filesUnder {t : MemoryTree} {root p : Path}
    (hroot : root.isAbsolute = true) (h : p ∈ t.filesUnder root.normalize) :
    p.isAbsolute = true := by
  obtain ⟨l, hl, hnormal⟩ := Path.normalize_of_isAbsolute hroot
  have hbelow := (get?_of_mem_filesUnder h).2
  rw [hnormal, Path.startsWith, List.isPrefixOf_iff_prefix, Path.components_rooted hl] at hbelow
  exact Path.isAbsolute_of_root_mem (hbelow.subset List.mem_cons_self)

/-- What a pattern finds under a directory is files at or below it. -/
theorem mem_filesUnder_of_glob {t : MemoryTree} {root p : Path} {pattern : String}
    {excludes : List String} {paths : List Path} (h : t.glob root pattern excludes = .ok paths)
    (hp : p ∈ paths) : p ∈ t.filesUnder root.normalize := by
  unfold glob at h
  cases hset : PatternSet.compile [pattern] excludes with
  | error fault =>
    rw [hset] at h
    exact nomatch h
  | ok set =>
    rw [hset] at h
    rw [← Except.ok.inj h] at hp
    exact (List.mem_filter.mp hp).1

/-- A pattern that compiles finds something, if only nothing. -/
theorem exists_glob (t : MemoryTree) (root : Path) {pattern : String} {excludes : List String}
    (h : ∃ set, PatternSet.compile [pattern] excludes = .ok set) :
    ∃ paths, t.glob root pattern excludes = .ok paths := by
  obtain ⟨set, hset⟩ := h
  rw [glob, hset]
  exact ⟨_, rfl⟩

end MemoryTree

namespace Overlay

variable {ω : Type}

/-- A directory of a tree in memory that is not known yet is found, and recorded. -/
theorem classify_directory_ofMemory (hash : Hasher) (view : ω → MemoryTree) {path : Path}
    {o : Overlay ω} (hunknown : o.stores.entries.get? (hash path) = none)
    (hnode : (view o.world).node? path = some .directory) :
    o.classify (.ofMemory hash view) path =
      (some ⟨.directory, path⟩, o.record (hash path) ⟨.directory, path⟩) := by
  have hstat : (Backing.ofMemory hash view).stat path o.world =
      (.ok (some .directory), o.world) := by
    show ((view o.world).stat path, o.world) = _
    rw [MemoryTree.stat, hnode]
    rfl
  have hdirectory : o.classifyAs (.ofMemory hash view) .directory path =
      (some ⟨.directory, path⟩, o.record (hash path) ⟨.directory, path⟩) := by
    unfold classifyAs
    rw [show (Backing.ofMemory hash view).hash = hash from rfl, hunknown, hstat]
    exact if_pos rfl
  unfold classify classifyDirectory
  rw [hdirectory]

/-- What is added to what has been found was found before or is one of the new paths. -/
theorem mem_addFound {b : Backing ω} (paths : List Path) {found : OrderedMap PathKey Path}
    {q : PathKey × Path} (h : q ∈ (addFound b found paths).pairs) :
    q ∈ found.pairs ∨ q.2 ∈ paths := by
  induction paths generalizing found with
  | nil => exact Or.inl h
  | cons p rest ih =>
    rcases ih h with h | h
    · rcases OrderedMap.mem_putIfAbsent h with rfl | h
      · exact Or.inr List.mem_cons_self
      · exact Or.inl h
    · exact Or.inr (List.mem_cons_of_mem p h)

/-- What is found for several patterns is what each finds, one after the other. -/
theorem addFound_append (b : Backing ω) (paths more : List Path)
    (found : OrderedMap PathKey Path) :
    addFound b found (paths ++ more) = addFound b (addFound b found paths) more :=
  List.foldl_append

/-- A search of a tree in memory finds what each pattern finds, one after the other, or one of them
fails. It does the same for every world that shows the tree, and leaves the world alone. -/
theorem searchAll_ofMemory_cases (hash : Hasher) (view : ω → MemoryTree) (t : MemoryTree)
    (root : Path) (excludes patterns : List String) (found : OrderedMap PathKey Path) :
    (∃ lists, List.Forall₂ (fun pattern paths => t.glob root pattern excludes = .ok paths)
        patterns lists ∧
      ∀ w, view w = t → searchAll (.ofMemory hash view) root excludes patterns found w =
        (.ok (addFound (.ofMemory hash view) found lists.flatten), w)) ∨
    ∃ pattern ∈ patterns, ∃ fault, t.glob root pattern excludes = .error fault ∧
      ∀ w, view w = t →
        searchAll (.ofMemory hash view) root excludes patterns found w =
          (.error (.invalidPattern fault), w) := by
  induction patterns generalizing found with
  | nil => exact Or.inl ⟨[], .nil, fun w _ => rfl⟩
  | cons pattern rest ih =>
    have hglob (w : ω) (hw : view w = t) :
        (Backing.ofMemory hash view).glob root pattern excludes w =
          ((t.glob root pattern excludes).mapError .invalidPattern, w) := by
      rw [← hw]
      rfl
    cases hfirst : t.glob root pattern excludes with
    | error fault =>
      refine Or.inr ⟨pattern, List.mem_cons_self, fault, hfirst, fun w hw => ?_⟩
      rw [searchAll, hglob w hw, hfirst]
      rfl
    | ok paths =>
      rcases ih (addFound (.ofMemory hash view) found paths) with
        ⟨lists, hlists, hsearch⟩ | ⟨failing, hfailing, fault, hfault, hsearch⟩
      · refine Or.inl ⟨paths :: lists, .cons hfirst hlists, fun w hw => ?_⟩
        rw [searchAll, hglob w hw, hfirst, List.flatten_cons, addFound_append]
        exact hsearch w hw
      · refine Or.inr ⟨failing, List.mem_cons_of_mem _ hfailing, fault, hfault, fun w hw => ?_⟩
        rw [searchAll, hglob w hw, hfirst]
        exact hsearch w hw

/-- What patterns find one after the other is files at or below the directory. -/
theorem mem_filesUnder_of_globs {t : MemoryTree} {root : Path} {excludes patterns : List String}
    {lists : List (List Path)}
    (h : List.Forall₂ (fun pattern paths => t.glob root pattern excludes = .ok paths)
      patterns lists) : ∀ p ∈ lists.flatten, p ∈ t.filesUnder root.normalize := by
  induction h with
  | nil => exact nofun
  | cons hfirst _ ih =>
    rw [List.flatten_cons, List.forall_mem_append]
    exact ⟨fun p hp => MemoryTree.mem_filesUnder_of_glob hfirst hp, ih⟩

/-- A search of a tree in memory for patterns that compile finds files at or below the directory,
and the same for every world that shows the tree, which it leaves alone. -/
theorem searchAll_ofMemory (hash : Hasher) (view : ω → MemoryTree) (t : MemoryTree) (root : Path)
    {excludes : List String} (patterns : List String)
    (h : ∀ pattern ∈ patterns, ∃ set, PatternSet.compile [pattern] excludes = .ok set) :
    ∃ result : OrderedMap PathKey Path, (∀ q ∈ result.pairs, q.2 ∈ t.filesUnder root.normalize) ∧
      ∀ w, view w = t →
        searchAll (.ofMemory hash view) root excludes patterns .empty w = (.ok result, w) := by
  rcases searchAll_ofMemory_cases hash view t root excludes patterns .empty with
    ⟨lists, hlists, hsearch⟩ | ⟨pattern, hpattern, fault, hfault, -⟩
  · refine ⟨_, fun q hq => ?_, hsearch⟩
    exact mem_filesUnder_of_globs hlists _ ((mem_addFound _ hq).resolve_left nofun)
  · obtain ⟨paths, hpaths⟩ := t.exists_glob root (h pattern hpattern)
    exact nomatch hfault.symm.trans hpaths

/-- A discovery in a tree in memory by patterns that compile finds files at or below the directory,
the same in every overlay whose world shows the tree, and leaves the world alone. -/
theorem discover_ofMemory (hash : Hasher) (view : ω → MemoryTree) (t : MemoryTree) (root : Path)
    {includes excludes : List String}
    (h : ∀ pattern ∈ includes, ∃ set, PatternSet.compile [pattern] excludes = .ok set) :
    ∃ files : List Path, (∀ p ∈ files, p ∈ t.filesUnder root.normalize) ∧
      ∀ o : Overlay ω, view o.world = t → ∃ o',
        o.discover (.ofMemory hash view) root includes excludes = (.ok files, o') ∧
          o'.world = o.world ∧ o'.journal = o.journal := by
  obtain ⟨result, hresult, hsearch⟩ := searchAll_ofMemory hash view t root includes h
  refine ⟨result.pairs.map (·.2), fun p hp => ?_, fun o ho => ?_⟩
  · obtain ⟨q, hq, rfl⟩ := List.mem_map.mp hp
    exact hresult q hq
  · rw [discover, hsearch o.world ho]
    refine ⟨_, rfl, ?_⟩
    -- Recording entries changes neither the world nor the journal.
    exact List.foldlRecOn (motive := fun o' : Overlay ω => o'.world = o.world ∧
      o'.journal = o.journal) result.pairs _ ⟨rfl, rfl⟩ fun _ ih _ _ => ih

end Overlay

end TreePlan
