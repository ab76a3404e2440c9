import TreePlan.Proofs.Overlay.History

/-!
# Reachable overlays

An overlay is reachable if it comes from a new one by uses, changes of the world and events
(`Overlay.Reached`). A reachable overlay is coherent (`Reached.coherent`). More can be said over a
backing that always answers a question in the same way (`Backing.Steady`) and says of a path what it
shows of it in listings and searches (`Backing.Consistent`): what is recorded is what the backing
says, unless it is staged (`Reached.truthful`). So nothing is recorded of a path that is missing and
was never staged, whatever was looked at (`Reached.unknown_of_missing`).
-/

namespace TreePlan

variable {ω : Type}

namespace Backing

/-- The same question is always answered in the same way. -/
structure Steady (b : Backing ω) : Prop where
  /-- What a path is. -/
  stat : ∀ path w w', (b.stat path w).1 = (b.stat path w').1
  /-- What a directory holds. -/
  list : ∀ path w w', (b.list path w).1 = (b.list path w').1
  /-- What a file says. -/
  read : ∀ path w w', (b.read path w).1 = (b.read path w').1
  /-- What a pattern matches. -/
  glob : ∀ path pattern excludes w w',
    (b.glob path pattern excludes w).1 = (b.glob path pattern excludes w').1

/-- What is shown of a path in listings and searches, or of another path with its key, is what it
is. -/
structure Consistent (b : Backing ω) : Prop where
  /-- A child of a directory is what the listing says. -/
  list : ∀ directory w children, (b.list directory w).1 = .ok children → ∀ child ∈ children,
    ∀ kind, child.kind? = some kind →
      ∀ w', (b.stat (directory.push (.ofString child.name)) w').1 = .ok (some kind)
  /-- What a pattern matches is a file. -/
  glob : ∀ directory pattern excludes w files,
    (b.glob directory pattern excludes w).1 = .ok files → ∀ file ∈ files,
      ∀ w', (b.stat file w').1 = .ok (some .file)
  /-- Paths with one key are of one kind. -/
  hash : ∀ p q w kind, b.hash p = b.hash q → (b.stat p w).1 = .ok (some kind) →
    (b.stat q w).1 = .ok (some kind)

end Backing

namespace Overlay

/-- An overlay comes from a new one by uses, changes of the world and events. -/
inductive Reached (b : Backing ω) : Overlay ω → Prop
  /-- It is new. -/
  | new (w : ω) : Reached b (.new w)
  /-- It has been used, or the world has changed. -/
  | run {o : Overlay ω} (operation : Operation ω) (h : Reached b o) :
      Reached b (operation.run b o).2
  /-- Something has happened. -/
  | log {o : Overlay ω} (event : Event) (h : Reached b o) : Reached b (o.log b event)

variable {b : Backing ω} {o : Overlay ω}

/-- A reachable overlay is coherent. -/
theorem Reached.coherent (h : Reached b o) : Coherent b o := by
  induction h with
  | new w => exact coherent_new w
  | run operation _ ih => exact ih.run operation
  | log event _ ih => exact ⟨ih.hash_path, ih.known_of_staged⟩

/-! ## What is recorded -/

/-- What is recorded is what the backing says, unless it is staged. -/
def Truthful (b : Backing ω) (o : Overlay ω) : Prop :=
  ∀ k entry, o.stores.entries.get? k = some entry → (o.stores.changes.get? k).isSome ∨
    ∀ w, (b.stat entry.path w).1 = .ok (some entry.kind)

/-- Recording what the backing says keeps an overlay truthful. -/
theorem Truthful.record (h : Truthful b o) (k : PathKey) {entry : Entry}
    (hentry : ∀ w, (b.stat entry.path w).1 = .ok (some entry.kind)) :
    Truthful b (o.record k entry) := by
  intro k' entry' hk'
  rw [get?_record] at hk'
  split at hk'
  · rw [← Option.some.inj hk']
    exact Or.inr hentry
  · exact h k' entry' hk'

/-- Staging keeps an overlay truthful. -/
theorem Truthful.stageChange (h : Truthful b o) (path : Path) (c : Change) :
    Truthful b (o.stageChange b path c) := by
  intro k entry hk
  rw [entries_stageChange] at hk
  rw [get?_stageChange]
  by_cases hpath : b.hash path = k
  · rw [if_pos hpath]
    exact Or.inl rfl
  · rw [if_neg hpath] at hk ⊢
    exact h k entry hk

/-- Classifying as one kind keeps an overlay truthful. -/
theorem Truthful.classifyAs (hs : b.Steady) (h : Truthful b o) (kind : EntryKind) (path : Path) :
    Truthful b (o.classifyAs b kind path).2 := by
  unfold Overlay.classifyAs
  split
  · exact h
  · split
    · exact h
    · rename_i found w hfound
      split
      · rename_i hkind
        subst hkind
        refine Truthful.record (o := { o with world := w }) h _ fun w' => ?_
        rw [hs.stat path w' o.world, hfound]
      · exact h

/-- Classifying keeps an overlay truthful. -/
theorem Truthful.classify (hs : b.Steady) (h : Truthful b o) (path : Path) :
    Truthful b (o.classify b path).2 :=
  kept_classify path (fun kind _ hnow => hnow.classifyAs hs kind path) h

/-- Listing keeps an overlay truthful. -/
theorem Truthful.list (hc : b.Consistent) (h : Truthful b o) (directory : Path) :
    Truthful b (o.list b directory).2 := by
  have hshown := hc.list directory o.world
  unfold Overlay.list
  generalize b.list directory o.world = answer at hshown ⊢
  obtain ⟨listed, w⟩ := answer
  cases listed with
  | error => exact h
  | ok children =>
    refine List.foldlRecOn (motive := Truthful b) children (recordChild b directory) h
      fun o' ho' child hchild => ?_
    unfold recordChild
    split
    · exact ho'
    · rename_i kind hkind
      exact Truthful.record (o := o'.relate _ _) ho' _ (hshown children rfl child hchild kind hkind)

/-- What a search finds was found before, or a pattern matches it. -/
theorem forall_searchAll {P : Path → Prop} {directory : Path} {excludes : List String}
    (hglob : ∀ pattern w files, (b.glob directory pattern excludes w).1 = .ok files →
      ∀ file ∈ files, P file) (includes : List String) {found result : OrderedMap PathKey Path}
    {w w' : ω} (hfound : ∀ p ∈ found.pairs, P p.2)
    (h : searchAll b directory excludes includes found w = (.ok result, w')) :
    ∀ p ∈ result.pairs, P p.2 := by
  induction includes generalizing found w with
  | nil =>
    obtain ⟨hresult, -⟩ := Prod.mk.inj h
    exact Except.ok.inj hresult ▸ hfound
  | cons pattern rest ih =>
    have hmatched := hglob pattern w
    rw [searchAll] at h
    split at h
    · cases (Prod.mk.inj h).1
    · rename_i files w₁ hfiles
      rw [hfiles] at hmatched
      refine ih ?_ h
      refine List.foldlRecOn (motive := fun m : OrderedMap PathKey Path => ∀ p ∈ m.pairs, P p.2)
        files (fun m p => m.putIfAbsent (b.hash p) p) hfound fun m hm file hfile p hp => ?_
      rcases OrderedMap.mem_putIfAbsent hp with rfl | hp
      · exact hmatched files rfl file hfile
      · exact hm p hp

/-- Discovering keeps an overlay truthful. -/
theorem Truthful.discover (hc : b.Consistent) (h : Truthful b o) (directory : Path)
    (includes excludes : List String) :
    Truthful b (o.discover b directory includes excludes).2 := by
  unfold Overlay.discover
  split
  · exact h
  · rename_i found w hsearch
    have hfiles := forall_searchAll (hc.glob directory · excludes) includes
      (fun _ hp => absurd hp List.not_mem_nil) hsearch
    exact List.foldlRecOn (motive := Truthful b) found.pairs
      (fun o p => o.record p.1 ⟨.file, p.2⟩) h fun o' ho' p hp => ho'.record p.1 (hfiles p hp)

/-- A reachable overlay over a steady and consistent backing is truthful. -/
theorem Reached.truthful (hs : b.Steady) (hc : b.Consistent) (h : Reached b o) :
    Truthful b o := by
  induction h with
  | new w => exact fun _ _ hk => nomatch hk
  | log event _ ih => exact ih
  | run operation _ ih =>
    cases operation with
    | classifyDirectory path => exact ih.classifyAs hs .directory path
    | classifyFile path => exact ih.classifyAs hs .file path
    | classify path => exact ih.classify hs path
    | list directory => exact ih.list hc directory
    | read path =>
      intro k entry hk
      rw [Operation.run, stores_read] at hk ⊢
      exact ih k entry hk
    | discover directory includes excludes => exact ih.discover hc directory includes excludes
    | stageWrite path data => exact ih.stageChange path (.write data)
    | stageDelete path => exact ih.stageChange path .delete
    | key | isDirectory | isKnown | plan | sizes | elapse => exact ih

/-- Nothing is recorded of a path that is neither a file nor a directory and was never staged. -/
theorem Reached.unknown_of_missing (hs : b.Steady) (hc : b.Consistent) (h : Reached b o)
    {path : Path} (hunstaged : o.stores.changes.get? (b.hash path) = none)
    (hmissing : ∀ kind, (b.stat path o.world).1 ≠ .ok (some kind)) :
    o.stores.entries.get? (b.hash path) = none := by
  cases hfound : o.stores.entries.get? (b.hash path) with
  | none => rfl
  | some entry =>
    have hpath := h.coherent.hash_path _ entry hfound
    rcases h.truthful hs hc _ entry hfound with hstaged | hentry
    · rw [hunstaged] at hstaged
      exact nomatch hstaged
    · exact absurd (hc.hash _ _ _ _ hpath (hentry o.world)) (hmissing entry.kind)

end Overlay

end TreePlan
