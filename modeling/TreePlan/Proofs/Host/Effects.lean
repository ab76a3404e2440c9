import TreePlan.Host.Effects
import TreePlan.Proofs.Host.Tree

/-!
# What is done to a host tree

Putting a file or a directory into a directory keeps a tree sound (`Sound.put`), and so does
removing a file (`Sound.drop`). Making a directory with those above it does nothing but put
directories at or above a place where nothing was (`HostTree.Grows`, `grows_makeDirectories`),
whether it succeeds or not. Writing puts a file where no directory is (`write_eq_ok`), and removing
takes a file away or reports that there is none (`removeFile_rooted`).
-/

namespace TreePlan.HostTree

open TreePlan.Path

variable {t : HostTree}

/-! ## Putting and dropping -/

/-- What stands where after a node has been put. -/
theorem node?_put {place : Location} (h : place ≠ []) (node : HostNode) (place' : Location) :
    (t.put place node).node? place' = if place = place' then some node else t.node? place' := by
  by_cases hnil : place' = []
  · rw [hnil, node?_nil, node?_nil, if_neg h]
  · rw [node?_of_ne_nil _ hnil, node?_of_ne_nil _ hnil]
    exact OrderedMap.get?_put _ _ _ _

/-- What stands where after a place has been cleared. -/
theorem node?_drop {place : Location} (h : place ≠ []) (place' : Location) :
    (t.drop (· == place)).node? place' = if place = place' then none else t.node? place' := by
  by_cases hnil : place' = []
  · rw [hnil, node?_nil, node?_nil, if_neg h]
  · rw [node?_of_ne_nil _ hnil, node?_of_ne_nil _ hnil, drop, OrderedMap.get?_filterKeys]
    by_cases hplace : place = place'
    · simp [hplace]
    · simp [hplace, Ne.symm hplace]

/-- A tree stays sound when a file or a directory is put into a directory, unless a file replaces a
directory. -/
theorem Sound.put (ht : t.Sound) {place : Location} (hne : place ≠ [])
    (hparent : t.node? place.dropLast = some .directory) {node : HostNode}
    (hkind : (kindOf node).isSome) (hkeeps : t.node? place = some .directory → node = .directory) :
    (t.put place node).Sound where
  isSome_kind place' node' hnode' := by
    rw [node?_put hne] at hnode'
    split at hnode'
    · rwa [← Option.some.inj hnode']
    · exact ht.isSome_kind place' node' hnode'
  parent place' name hsome := by
    rw [node?_put hne] at hsome ⊢
    by_cases hchild : place = place' ++ [name]
    · -- What is put stands in a directory, which is another place.
      rw [hchild, List.dropLast_concat] at hparent
      rw [if_neg (by rw [hchild]; simp), hparent]
    · rw [if_neg hchild] at hsome
      have hdirectory := ht.parent place' name hsome
      split
      -- If something stands in what is replaced, that is a directory, and so is what replaces it.
      · rename_i hplace
        rw [hkeeps (hplace ▸ hdirectory)]
      · exact hdirectory

/-- A tree stays sound when a place without a directory is cleared. -/
theorem Sound.drop (ht : t.Sound) {place : Location} (hne : place ≠ [])
    (h : t.node? place ≠ some .directory) : (t.drop (· == place)).Sound where
  isSome_kind place' node hnode := by
    rw [node?_drop hne] at hnode
    split at hnode
    · exact nomatch hnode
    · exact ht.isSome_kind place' node hnode
  parent place' name hsome := by
    rw [node?_drop hne] at hsome ⊢
    split at hsome
    · exact nomatch hsome
    · have hdirectory := ht.parent place' name hsome
      -- What something stands in is a directory, so it is not what has been cleared.
      have hplace : place ≠ place' := fun hplace => h (hplace ▸ hdirectory)
      rw [if_neg hplace]
      exact hdirectory

/-! ## Making directories -/

/-- Nothing becomes of a tree but that there are directories at or above a place where nothing
was. -/
structure Grows (place : Location) (t t' : HostTree) : Prop where
  /-- The tree is sound afterwards. -/
  sound : t'.Sound
  /-- What stands anywhere stood there before, or is a new directory at or above the place. -/
  node?_eq : ∀ place', t'.node? place' = t.node? place' ∨
    (place' <+: place ∧ t.node? place' = none ∧ t'.node? place' = some .directory)

/-- A tree may stay as it is. -/
theorem Sound.grows (ht : t.Sound) (place : Location) : t.Grows place t :=
  ⟨ht, fun _ => Or.inl rfl⟩

/-- Directories may be made in several steps. -/
theorem Grows.trans {place : Location} {t₁ t₂ : HostTree} (h : t.Grows place t₁)
    (h' : t₁.Grows place t₂) : t.Grows place t₂ where
  sound := h'.sound
  node?_eq place' := by
    rcases h'.node?_eq place' with hkept' | ⟨hinit, hnone, hdirectory⟩
    · rcases h.node?_eq place' with hkept | ⟨hinit, hnone, hdirectory⟩
      · exact Or.inl (hkept'.trans hkept)
      · exact Or.inr ⟨hinit, hnone, hkept'.trans hdirectory⟩
    · rcases h.node?_eq place' with hkept | ⟨-, -, hdirectory'⟩
      · exact Or.inr ⟨hinit, hkept.symm.trans hnone, hdirectory⟩
      -- What has been made a directory is not made one again.
      · rw [hdirectory'] at hnone
        exact nomatch hnone

/-- Where directories come to be, files are as they were. -/
theorem Grows.file_iff {place : Location} {t' : HostTree} (h : t.Grows place t') (place' : Location)
    (content : List UInt8) :
    t'.node? place' = some (.file content) ↔ t.node? place' = some (.file content) := by
  rcases h.node?_eq place' with hkept | ⟨-, hnone, hdirectory⟩
  · rw [hkept]
  · rw [hnone, hdirectory]
    exact ⟨nofun, nofun⟩

/-- A directory is made where nothing was. -/
theorem grows_of_makeDirectory (ht : t.Sound) {place names : Location} (hinit : names <+: place)
    (hnames : ∀ n ∈ names, Plain n) {t' : HostTree}
    (h : t.makeDirectory (rooted names) = .ok t') : t.Grows place t' := by
  have hleads := lookup_rooted ht .entry false hnames
  unfold makeDirectory at h
  generalize t.lookup .entry false (rooted names) = outcome at hleads h
  cases hleads with
  | node => exact nomatch h
  | missing => exact nomatch h
  | refused => exact nomatch h
  | vacant hne hparent hnone =>
    rw [← Except.ok.inj h]
    refine ⟨ht.put hne hparent rfl fun _ => rfl, fun place' => ?_⟩
    rw [node?_put hne]
    split
    · rename_i hplace
      exact Or.inr ⟨hplace ▸ hinit, hplace ▸ hnone, rfl⟩
    · exact Or.inl rfl

/-- Making a directory again makes a directory where nothing was, or nothing. -/
theorem grows_makeLast (ht : t.Sound) {place names : Location} (hinit : names <+: place)
    (hnames : ∀ n ∈ names, Plain n) : t.Grows place (t.makeLast (rooted names)).2 := by
  unfold makeLast
  split
  · rename_i t' hmade
    exact grows_of_makeDirectory ht hinit hnames hmade
  · split <;> exact ht.grows place

/-- Making directories makes directories at or above a place, if all of them are. -/
theorem grows_makeAll {place : Location} {above : List Path} {p : Path} (ht : t.Sound)
    (h : ∀ q ∈ p :: above, ∃ names, names <+: place ∧ (∀ n ∈ names, Plain n) ∧ q = rooted names) :
    t.Grows place (t.makeAll p above).2 := by
  induction above generalizing p t with
  | nil =>
    obtain ⟨names, hinit, hnames, rfl⟩ := h p List.mem_cons_self
    unfold makeAll
    split
    · exact ht.grows place
    · split
      · rename_i t' hmade
        exact grows_of_makeDirectory ht hinit hnames hmade
      · rename_i hrest
        cases hrest
      · split <;> exact ht.grows place
  | cons parent rest ih =>
    rw [List.forall_mem_cons] at h
    obtain ⟨⟨names, hinit, hnames, rfl⟩, habove⟩ := h
    unfold makeAll
    split
    · exact ht.grows place
    · split
      · rename_i t' hmade
        exact grows_of_makeDirectory ht hinit hnames hmade
      · rename_i parent' rest' _ hrest
        obtain ⟨rfl, rfl⟩ := List.cons.inj hrest
        -- The directories above come first, and then this one again.
        have hgrown := ih ht habove
        split
        · rename_i error t' hfailed
          rwa [hfailed] at hgrown
        · rename_i t' hmade
          rw [hmade] at hgrown
          exact hgrown.trans (grows_makeLast hgrown.sound hinit hnames)
      · split <;> exact ht.grows place

/-- The paths above an absolute path in normal form have the first of its names. -/
theorem exists_prefix_of_mem_above {names : List (List UInt8)} (h : ∀ n ∈ names, Plain n)
    {q : Path} (hq : q ∈ above (rooted names)) : ∃ l, l <+: names ∧ q = rooted l := by
  unfold above at hq
  rw [if_pos (Or.inl (isAbsolute_rooted names)), List.append_nil] at hq
  obtain ⟨s, hs, rfl⟩ := List.mem_map.mp hq
  exact slice_stop_rooted h (List.mem_of_mem_dropLast (List.mem_reverse.mp hs))

/-- Making a directory with those above it makes directories at or above it where nothing was. -/
theorem grows_makeDirectories (ht : t.Sound) {place : Location} (h : ∀ n ∈ place, Plain n) :
    t.Grows place (t.makeDirectories (rooted place)).2 := by
  refine grows_makeAll ht (List.forall_mem_cons.mpr ⟨⟨place, List.prefix_rfl, h, rfl⟩, ?_⟩)
  intro q hq
  obtain ⟨names, hinit, rfl⟩ := exists_prefix_of_mem_above h hq
  exact ⟨names, hinit, fun n hn => h n (hinit.subset hn), rfl⟩

/-! ## Files -/

/-- A file is written into a directory where no directory is. -/
theorem write_eq_ok (ht : t.Sound) {names : Location} (hnames : ∀ n ∈ names, Plain n)
    {content : List UInt8} {t' : HostTree} (h : t.write (rooted names) content = .ok t') :
    names ≠ [] ∧ t' = t.put names (.file content) ∧ t'.Sound ∧
      ∃ asDirectory found, t.lookup .writing asDirectory (rooted names) = .ok found := by
  have hleads := lookup_rooted ht .writing (endsInSeparator (rooted names)) hnames
  unfold write openFile at h
  generalize hlookup : t.lookup .writing (endsInSeparator (rooted names)) (rooted names) = outcome
    at hleads h
  cases hleads with
  | missing => exact nomatch h
  | refused => exact nomatch h
  | vacant hne hparent hnone =>
    obtain rfl := Except.ok.inj h
    refine ⟨hne, rfl, ht.put hne hparent rfl fun hdirectory => ?_, _, _, hlookup⟩
    rw [hnone] at hdirectory
    exact nomatch hdirectory
  | @node node hnode =>
    cases node with
    | directory => exact nomatch h
    | link => exact nomatch h
    | file content' =>
      obtain rfl := Except.ok.inj h
      -- A file that is written over keeps its place in a directory.
      have hne := ne_nil_of_file hnode
      have hparent : t.node? names.dropLast = some .directory := by
        refine ht.parent names.dropLast (names.getLast hne) ?_
        rw [List.dropLast_append_getLast hne, hnode]
        rfl
      refine ⟨hne, rfl, ht.put hne hparent rfl fun hdirectory => ?_, _, _, hlookup⟩
      rw [hnode] at hdirectory
      exact nomatch hdirectory

/-- What removing a file does: there is a file, which is taken away; or there is nothing, and this
is reported; or something else is reported. -/
inductive Removes (t : HostTree) (place : Location) : Except IoError HostTree → Prop
  /-- The file is taken away. -/
  | removed {content : List UInt8} (h : t.node? place = some (.file content)) :
      Removes t place (.ok (t.drop (· == place)))
  /-- There is nothing. -/
  | missing {error : IoError} (hkind : error.kind = .notFound) (h : t.node? place = none) :
      Removes t place (.error error)
  /-- Something else is reported. -/
  | refused {error : IoError} (hkind : error.kind ≠ .notFound) : Removes t place (.error error)

/-- A file is removed, or there is nothing, or something else is reported. -/
theorem removeFile_rooted (ht : t.Sound) {names : Location} (hnames : ∀ n ∈ names, Plain n) :
    t.Removes names (t.removeFile (rooted names)) := by
  have hleads := lookup_rooted ht .entry false hnames
  unfold removeFile
  generalize t.lookup .entry false (rooted names) = outcome at hleads ⊢
  cases hleads with
  | vacant _ _ hnone => exact .missing rfl hnone
  | missing hnone => exact .missing rfl hnone
  | refused hkind => exact .refused hkind
  | @node node hnode =>
    cases node with
    | directory => exact .refused nofun
    | link target => exact absurd (ht.isSome_kind _ _ hnode) Bool.false_ne_true
    | file content =>
      have hne := ne_nil_of_file hnode
      dsimp only
      rw [endsInSeparator_rooted hnames hne, if_neg Bool.false_ne_true]
      exact .removed hnode

/-- A file at a path that has been opened in one tree can be read in another. -/
theorem readBytes_of_lookup {t₁ : HostTree} (ht : t.Sound) (ht₁ : t₁.Sound) {purpose : Purpose}
    {asDirectory : Bool} {names : Location} (hnames : ∀ n ∈ names, Plain n) {found : Found}
    (h₁ : t₁.lookup purpose asDirectory (rooted names) = .ok found) {content : List UInt8}
    (h : t.node? names = some (.file content)) :
    t.readBytes (rooted names) = .ok content := by
  unfold readBytes find
  rw [endsInSeparator_rooted hnames (ne_nil_of_file h), lookup_of_lookup ht ht₁ hnames h₁ h]

end TreePlan.HostTree
