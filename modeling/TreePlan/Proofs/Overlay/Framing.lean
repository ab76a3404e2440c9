import TreePlan.Proofs.Overlay.Growing

/-!
# What the operations of an overlay leave alone

An operation that fails has recorded nothing by then: whatever it asks of the backing it asks before
it changes a store (`stores_run_of_failed`). An operation that succeeds changes the stores in few
places, told here by what holds the same apart from one key (`OrderedMap.SameApart`): a classified
path is recorded only where nothing was, a listing relates only children of the listed key, and a
staging changes what stands under its own key. No store ever loses a key, so along every history the
sizes only grow (`grows_after`).
-/

namespace TreePlan

/-! ## Maps that agree apart from a key -/

namespace OrderedMap

variable {κ ν : Type} [DecidableEq κ]

/-- Apart from one key the maps hold the same, in the same order. -/
def SameApart (k : κ) (m m' : OrderedMap κ ν) : Prop :=
  m'.filterKeys (· ≠ k) = m.filterKeys (· ≠ k)

/-- Putting a value changes nothing apart from its key. -/
theorem sameApart_put (m : OrderedMap κ ν) (k : κ) (v : ν) : SameApart k m (m.put k v) := by
  obtain ⟨pairs, hnodup⟩ := m
  unfold SameApart filterKeys put
  congr 1
  dsimp only
  clear hnodup
  induction pairs with
  | nil => simp [putPair]
  | cons p rest ih =>
    rw [putPair]
    by_cases hp : p.1 = k
    · simp [hp]
    · rw [if_neg hp, List.filter_cons, List.filter_cons, ih]

/-- Putting a value takes no key away. -/
theorem size_le_size_put (m : OrderedMap κ ν) (k : κ) (v : ν) : m.size ≤ (m.put k v).size := by
  have hkeys (m : OrderedMap κ ν) : m.size = m.keys.length := (List.length_map _).symm
  rw [hkeys, hkeys, keys_put]
  split
  · exact Nat.le_refl _
  · rw [List.length_append]
    exact Nat.le_add_right _ _

end OrderedMap

/-- Relating a child changes nothing apart from the parent. -/
theorem Relations.sameApart_relate (r : Relations) (parent child : PathKey) :
    r.children.SameApart parent (r.relate parent child).children := by
  unfold relate
  split
  · rfl
  · exact OrderedMap.sameApart_put _ _ _

/-- Relating children of one parent changes nothing apart from the parent. -/
theorem Relations.sameApart_foldl_relate (children : List PathKey) (r : Relations)
    (parent : PathKey) :
    r.children.SameApart parent (children.foldl (·.relate parent ·) r).children := by
  induction children generalizing r with
  | nil => rfl
  | cons child rest ih => exact (ih _).trans (sameApart_relate r parent child)

/-! ## Stores that grow -/

/-- No size of the stores is less than before. -/
structure Stores.Grows (s s' : Stores) : Prop where
  /-- There are as many entries at least. -/
  entries : s.sizes.entries ≤ s'.sizes.entries
  /-- As many directories at least have children. -/
  listedDirectories : s.sizes.listedDirectories ≤ s'.sizes.listedDirectories
  /-- As many keys at least are staged. -/
  stagedChanges : s.sizes.stagedChanges ≤ s'.sizes.stagedChanges

namespace Stores.Grows

variable {s s' s'' : Stores}

/-- Stores that stay as they are grow. -/
theorem refl (s : Stores) : s.Grows s := ⟨Nat.le_refl _, Nat.le_refl _, Nat.le_refl _⟩

/-- Stores that grow and grow again have grown. -/
theorem trans (h : s.Grows s') (h' : s'.Grows s'') : s.Grows s'' :=
  ⟨Nat.le_trans h.entries h'.entries, Nat.le_trans h.listedDirectories h'.listedDirectories,
    Nat.le_trans h.stagedChanges h'.stagedChanges⟩

/-- Stores grow with an entry. -/
theorem record (s : Stores) (k : PathKey) (entry : Entry) :
    s.Grows { s with entries := s.entries.record k entry } :=
  ⟨OrderedMap.size_le_size_put _ _ _, Nat.le_refl _, Nat.le_refl _⟩

/-- Stores grow with a relation. -/
theorem relate (s : Stores) (parent child : PathKey) :
    s.Grows { s with relations := s.relations.relate parent child } := by
  refine ⟨Nat.le_refl _, ?_, Nat.le_refl _⟩
  show s.relations.size ≤ (s.relations.relate parent child).size
  unfold Relations.relate
  split
  · exact Nat.le_refl _
  · exact OrderedMap.size_le_size_put _ _ _

/-- Stores grow with a change. -/
theorem stage (s : Stores) (k : PathKey) (c : Change) :
    s.Grows { s with changes := s.changes.stage k c } :=
  ⟨Nat.le_refl _, Nat.le_refl _, OrderedMap.size_le_size_put _ _ _⟩

end Stores.Grows

/-! ## Kinds of operations -/

namespace Operation

variable {ω : Type}

/-- An answer says that the operation has failed: the path has not been classified, or there is an
error. -/
def Failed : (operation : Operation ω) → operation.Answer → Prop
  | classifyDirectory _, answer => answer = none
  | classifyFile _, answer => answer = none
  | classify _, answer => answer = none
  | list _, answer => ∃ error, answer = .error error
  | read _, answer => ∃ error, answer = .error error
  | discover _ _ _, answer => ∃ error, answer = .error error
  | _, _ => False

/-- The operation looks at the stores and at the world, and records nothing. -/
def OnlyLooks : Operation ω → Prop
  | read _ | key _ | isDirectory _ | isKnown _ | plan | sizes => True
  | _ => False

/-- The path that an operation classifies. -/
def classified? : Operation ω → Option Path
  | classifyDirectory path | classifyFile path | classify path => some path
  | _ => none

end Operation

namespace Overlay

variable {ω : Type} {b : Backing ω}

/-! ## Operations that fail, and operations that only look -/

/-- A directory that cannot be listed leaves the stores as they are. -/
theorem list_eq_error {directory : Path} {error : RunError} {o o' : Overlay ω}
    (h : o.list b directory = (.error error, o')) : o'.stores = o.stores := by
  unfold list at h
  split at h
  · obtain ⟨-, rfl⟩ := Prod.mk.inj h
    rfl
  · exact nomatch (Prod.mk.inj h).1

/-- A discovery that fails leaves the stores as they are, however many patterns have been searched
before. -/
theorem stores_of_discover_eq_error {directory : Path} {includes excludes : List String}
    {error : RunError} {o o' : Overlay ω}
    (h : o.discover b directory includes excludes = (.error error, o')) : o'.stores = o.stores := by
  unfold discover at h
  split at h
  · obtain ⟨-, rfl⟩ := Prod.mk.inj h
    rfl
  · exact nomatch (Prod.mk.inj h).1

/-- An operation that fails leaves the stores as they are. -/
theorem stores_run_of_failed {operation : Operation ω} {o : Overlay ω}
    (h : operation.Failed (operation.run b o).1) : (operation.run b o).2.stores = o.stores := by
  cases operation with
  | classifyDirectory path => exact classifyAs_eq_none (Prod.ext h rfl)
  | classifyFile path => exact classifyAs_eq_none (Prod.ext h rfl)
  | classify path => exact classify_eq_none (Prod.ext h rfl)
  | list directory =>
    obtain ⟨error, herror⟩ := h
    exact list_eq_error (Prod.ext herror rfl)
  | read path => exact stores_read path o
  | discover directory includes excludes =>
    obtain ⟨error, herror⟩ := h
    exact stores_of_discover_eq_error (Prod.ext herror rfl)
  | stageWrite | stageDelete | key | isDirectory | isKnown | plan | sizes | elapse => exact h.elim

/-- An operation that only looks leaves the stores as they are. -/
theorem stores_run_of_onlyLooks {operation : Operation ω} (h : operation.OnlyLooks)
    (o : Overlay ω) : (operation.run b o).2.stores = o.stores := by
  cases operation with
  | read path => exact stores_read path o
  | key | isDirectory | isKnown | plan | sizes => rfl
  | classifyDirectory | classifyFile | classify | list | discover | stageWrite | stageDelete
  | elapse => exact h.elim

/-! ## Operations that record -/

/-- The stores after a classification: as they were, or with an entry under a key that had none. -/
def RecordsNew (k : PathKey) (s s' : Stores) : Prop :=
  s' = s ∨ s.entries.get? k = none ∧ ∃ entry, s' = { s with entries := s.entries.record k entry }

/-- Classifying as one kind records the path at most, where nothing was. -/
theorem recordsNew_classifyAs (kind : EntryKind) (path : Path) (o : Overlay ω) :
    RecordsNew (b.hash path) o.stores (o.classifyAs b kind path).2.stores := by
  unfold classifyAs
  split
  · exact Or.inl rfl
  · next hnone =>
    split
    · exact Or.inl rfl
    · split
      · exact Or.inr ⟨hnone, _, rfl⟩
      · exact Or.inl rfl

/-- Classifying records the path at most, where nothing was. -/
theorem recordsNew_classify (path : Path) (o : Overlay ω) :
    RecordsNew (b.hash path) o.stores (o.classify b path).2.stores := by
  have hdirectory := recordsNew_classifyAs (b := b) .directory path o
  unfold classify classifyDirectory classifyFile
  split
  · next hfound =>
    rw [hfound] at hdirectory
    exact hdirectory
  · next now hfound =>
    -- What is not a directory has not been recorded as one.
    have hfile := recordsNew_classifyAs (b := b) .file path now
    rw [classifyAs_eq_none hfound] at hfile
    exact hfile

/-- A listing relates children of the directory only. -/
theorem sameApart_list (directory : Path) (o : Overlay ω) :
    o.stores.relations.children.SameApart (b.hash directory)
      (o.list b directory).2.stores.relations.children := by
  unfold list
  split
  · rfl
  · rw [relations_foldl_recordChild]
    exact Relations.sameApart_foldl_relate _ _ _

/-- A staging changes what stands under its key and relates nothing. -/
theorem sameApart_stageChange (path : Path) (c : Change) (o : Overlay ω) :
    (o.stageChange b path c).stores.relations = o.stores.relations ∧
      o.stores.entries.byKey.SameApart (b.hash path)
        (o.stageChange b path c).stores.entries.byKey ∧
      o.stores.changes.byKey.SameApart (b.hash path)
        (o.stageChange b path c).stores.changes.byKey :=
  ⟨rfl, OrderedMap.sameApart_put _ _ _, OrderedMap.sameApart_put _ _ _⟩

/-! ## Histories -/

/-- The stores grow while an overlay learns. -/
theorem Learns.grows {o o' : Overlay ω} (h : Learns b o o') : o.stores.Grows o'.stores := by
  induction h with
  | refl => exact .refl _
  | tail _ step ih =>
    cases step with
    | look | log => exact ih
    | record entry => exact ih.trans (.record _ _ entry)
    | relate parent entry => exact (ih.trans (.relate _ parent _)).trans (.record _ _ entry)

/-- The stores grow with every operation. -/
theorem grows_run (operation : Operation ω) (o : Overlay ω) :
    o.stores.Grows (operation.run b o).2.stores := by
  cases hs : operation.staging? b with
  | none => exact (Operation.run_learns b hs o).grows
  | some staged =>
    obtain ⟨path, -, hrun⟩ := Operation.run_of_staging b hs o
    rw [hrun]
    exact (Stores.Grows.record _ _ ⟨.file, path⟩).trans (.stage _ _ staged.2)

/-- The stores grow along every history. -/
theorem grows_after (history : List (Operation ω)) (o : Overlay ω) :
    o.stores.Grows (o.after b history).stores := by
  induction history generalizing o with
  | nil => exact .refl _
  | cons operation rest ih => exact (grows_run operation o).trans (ih _)

/-- What each operation of an overlay leaves alone. -/
structure Framed (b : Backing ω) (o : Overlay ω) : Prop where
  /-- An operation that fails leaves the stores as they are. -/
  of_failed : ∀ operation : Operation ω, operation.Failed (operation.run b o).1 →
    (operation.run b o).2.stores = o.stores
  /-- An operation that only looks leaves the stores as they are. -/
  of_onlyLooks : ∀ operation : Operation ω, operation.OnlyLooks →
    (operation.run b o).2.stores = o.stores
  /-- A classification adds one entry at most, under the key of the path if that had none. -/
  of_classified : ∀ operation : Operation ω, ∀ path, operation.classified? = some path →
    RecordsNew (b.hash path) o.stores (operation.run b o).2.stores
  /-- A discovery relates nothing and stages nothing. -/
  of_discover : ∀ directory includes excludes,
    (o.discover b directory includes excludes).2.stores.relations = o.stores.relations ∧
      (o.discover b directory includes excludes).2.stores.changes = o.stores.changes
  /-- A listing stages nothing, and relates nothing to other keys than that of the directory. -/
  of_list : ∀ directory, (o.list b directory).2.stores.changes = o.stores.changes ∧
    o.stores.relations.children.SameApart (b.hash directory)
      (o.list b directory).2.stores.relations.children
  /-- A staging changes the entry and the change under its own key. -/
  of_staging : ∀ operation : Operation ω, ∀ staged, operation.staging? b = some staged →
    (operation.run b o).2.stores.relations = o.stores.relations ∧
      o.stores.entries.byKey.SameApart staged.1 (operation.run b o).2.stores.entries.byKey ∧
      o.stores.changes.byKey.SameApart staged.1 (operation.run b o).2.stores.changes.byKey

/-- Whatever the backing answers, an operation of an overlay that fails, or that only looks, leaves
the stores as they are, any other changes no more than the stores and keys that are its own, and
along every history the sizes of the stores never decrease. -/
theorem framed_and_grows (b : Backing ω) (o : Overlay ω) :
    Framed b o ∧ ∀ history, o.stores.Grows (o.after b history).stores := by
  refine ⟨⟨fun _ => stores_run_of_failed, fun _ h => stores_run_of_onlyLooks h o,
    fun operation path h => ?_, fun directory includes excludes => ?_, fun directory => ?_,
    fun operation staged h => ?_⟩, fun history => grows_after history o⟩
  · cases operation with
    | classifyDirectory => exact Option.some.inj h ▸ recordsNew_classifyAs .directory _ o
    | classifyFile => exact Option.some.inj h ▸ recordsNew_classifyAs .file _ o
    | classify => exact Option.some.inj h ▸ recordsNew_classify _ o
    | _ => exact nomatch h
  · exact ⟨relations_discover directory includes excludes o,
      (discover_learns directory includes excludes o).changes_eq⟩
  · exact ⟨(list_learns directory o).changes_eq, sameApart_list directory o⟩
  · obtain ⟨path, hpath, hrun⟩ := Operation.run_of_staging b h o
    rw [hrun, ← hpath]
    exact sameApart_stageChange path staged.2 o

end Overlay

end TreePlan
