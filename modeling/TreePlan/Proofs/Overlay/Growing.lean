import TreePlan.Proofs.Overlay.History

/-!
# Listings only grow

A listing answers with the children that are related to the directory, by the paths that are
recorded for them. Which children are related is told by the history alone: those that a listing of
a directory with that key has ever shown (`sightings`), each at its first place, since only listings
relate and nothing takes a relation back (`childrenOf_after`). And no child is left out, since what
is related is recorded under its own key, whatever has been recorded there since (`Overlay.Traced`).
So the keys of a listing are the sightings without their repetitions, and an earlier listing is a
beginning of a later one (`list_after_new`).
-/

namespace TreePlan

variable {ω : Type}

/-! ## What listings show -/

/-- The keys of the files and directories among the children that are shown of a directory. -/
def shownKeys (b : Backing ω) (directory : Path) (children : List Listed) : List PathKey :=
  children.filterMap fun child =>
    child.kind?.map fun _ => b.hash (directory.push (.ofString child.name))

/-- The keys of the children that an operation is shown of the directories with a key: of the
listed one, if it can be listed. -/
def Operation.sightings (b : Backing ω) (k : PathKey) : Operation ω → Overlay ω → List PathKey
  | .list directory, o =>
    if b.hash directory = k then
      match (b.list directory o.world).1 with
      | .ok children => shownKeys b directory children
      | .error _ => []
    else []
  | _, _ => []

/-- Only listing is shown something. -/
theorem Operation.sightings_eq_nil {b : Backing ω} {operation : Operation ω}
    (h : ∀ directory, operation ≠ .list directory) (k : PathKey) (o : Overlay ω) :
    operation.sightings b k o = [] := by
  cases operation with
  | list directory => exact absurd rfl (h directory)
  | _ => rfl

namespace Overlay

/-- The keys of the children that the operations of a history are shown of the directories with a
key, oldest first. -/
def sightings (b : Backing ω) (k : PathKey) : List (Operation ω) → Overlay ω → List PathKey
  | [], _ => []
  | operation :: rest, o => operation.sightings b k o ++ sightings b k rest (operation.run b o).2

variable {b : Backing ω}

/-- What one history and then another are shown. -/
theorem sightings_append (k : PathKey) (before rest : List (Operation ω)) (o : Overlay ω) :
    sightings b k (before ++ rest) o =
      sightings b k before o ++ sightings b k rest (o.after b before) := by
  induction before generalizing o with
  | nil => rfl
  | cons operation before ih =>
    rw [List.cons_append, sightings, ih, ← List.append_assoc]
    rfl

/-! ## What is related -/

/-- Classifying relates nothing. -/
theorem relations_classifyAs (kind : EntryKind) (path : Path) (o : Overlay ω) :
    (o.classifyAs b kind path).2.stores.relations = o.stores.relations := by
  unfold classifyAs
  split
  · rfl
  · split
    · rfl
    · split <;> rfl

/-- Classifying as a directory or else as a file relates nothing. -/
theorem relations_classify (path : Path) (o : Overlay ω) :
    (o.classify b path).2.stores.relations = o.stores.relations :=
  kept_classify (P := fun now => now.stores.relations = o.stores.relations) path
    (fun kind now h => (relations_classifyAs kind path now).trans h) rfl

/-- Discovering relates nothing. -/
theorem relations_discover (directory : Path) (includes excludes : List String) (o : Overlay ω) :
    (o.discover b directory includes excludes).2.stores.relations = o.stores.relations := by
  unfold discover
  split
  · rfl
  · exact List.foldlRecOn (motive := fun o' : Overlay ω => o'.stores.relations = o.stores.relations)
      _ _ rfl fun _ ih _ _ => ih

/-- Recording children relates the files and directories among them, one after the other. -/
theorem relations_foldl_recordChild (directory : Path) (children : List Listed) (o : Overlay ω) :
    (children.foldl (recordChild b directory) o).stores.relations =
      (shownKeys b directory children).foldl (·.relate (b.hash directory) ·)
        o.stores.relations := by
  induction children generalizing o with
  | nil => rfl
  | cons child rest ih =>
    rw [List.foldl_cons, ih, shownKeys, shownKeys, List.filterMap_cons, recordChild]
    cases child.kind? <;> rfl

/-- Only listing relates something. -/
theorem relations_run {operation : Operation ω} (h : ∀ directory, operation ≠ .list directory)
    (o : Overlay ω) : (operation.run b o).2.stores.relations = o.stores.relations := by
  cases operation with
  | list directory => exact absurd rfl (h directory)
  | classifyDirectory path => exact relations_classifyAs .directory path o
  | classifyFile path => exact relations_classifyAs .file path o
  | classify path => exact relations_classify path o
  | discover directory includes excludes => exact relations_discover directory includes excludes o
  | read path => exact congrArg Stores.relations (stores_read path o)
  | stageWrite | stageDelete | key | isDirectory | isKnown | plan | sizes | elapse => rfl

/-- The children of a key after an operation: those that it had, and those that the operation is
shown. -/
theorem childrenOf_run {k : PathKey} {seen : List PathKey} (operation : Operation ω)
    {o : Overlay ω} (h : o.stores.relations.childrenOf k = seen.eraseDups) :
    (operation.run b o).2.stores.relations.childrenOf k =
      (seen ++ operation.sightings b k o).eraseDups := by
  by_cases hlist : ∃ directory, operation = .list directory
  · obtain ⟨directory, rfl⟩ := hlist
    rw [Operation.run, list, Operation.sightings]
    obtain ⟨listed, w⟩ := b.list directory o.world
    cases listed with
    | error =>
      dsimp only
      rw [ite_self, List.append_nil]
      exact h
    | ok children =>
      dsimp only
      rw [relations_foldl_recordChild]
      split
      · rename_i hk
        subst hk
        exact Relations.childrenOf_foldl_relate _ h
      · rename_i hk
        rw [Relations.childrenOf_foldl_relate_of_ne _ hk, List.append_nil]
        exact h
  · have hother : ∀ directory, operation ≠ .list directory := fun directory he =>
      hlist ⟨directory, he⟩
    rw [relations_run hother, Operation.sightings_eq_nil hother, List.append_nil, h]

/-- The children of a key after a history: those that it had, and those that the history is
shown. -/
theorem childrenOf_after {k : PathKey} {seen : List PathKey} (history : List (Operation ω))
    {o : Overlay ω} (h : o.stores.relations.childrenOf k = seen.eraseDups) :
    (o.after b history).stores.relations.childrenOf k =
      (seen ++ sightings b k history o).eraseDups := by
  induction history generalizing o seen with
  | nil =>
    rw [sightings, List.append_nil]
    exact h
  | cons operation rest ih =>
    rw [sightings, ← List.append_assoc]
    exact ih (childrenOf_run operation h)

/-! ## What is recorded of it -/

/-- What is related is recorded. -/
def Traced (o : Overlay ω) : Prop :=
  ∀ parent, ∀ k ∈ o.stores.relations.childrenOf parent, (o.stores.entries.get? k).isSome

variable {o o' : Overlay ω}

/-- Learning leaves a record of what is related. -/
theorem Traced.learns (hl : Learns b o o') (h : Traced o) : Traced o' := by
  induction hl with
  | refl => exact h
  | @tail p _ _ step ih =>
    have hrecorded {entry : Entry} {k : PathKey} (hk : (p.stores.entries.get? k).isSome) :
        ((p.record (b.hash entry.path) entry).stores.entries.get? k).isSome := by
      rw [get?_record]
      split
      · rfl
      · exact hk
    cases step with
    | look | log => exact ih
    | record entry => exact fun parent k hk => hrecorded (ih parent k hk)
    | relate parent entry =>
      intro parent' k hk
      rw [show ((p.relate parent (b.hash entry.path)).record (b.hash entry.path)
        entry).stores.relations = p.stores.relations.relate parent (b.hash entry.path) from rfl,
        Relations.childrenOf_relate] at hk
      by_cases hnew : k = b.hash entry.path
      · subst hnew
        rw [get?_record, if_pos rfl]
        rfl
      · -- Any other child was related before.
        refine hrecorded (ih parent' k ?_)
        split at hk
        · rename_i hparent
          subst hparent
          split at hk
          · exact hk
          · exact (List.mem_append.mp hk).resolve_right
              fun hlast => hnew (List.mem_singleton.mp hlast)
        · exact hk

/-- Staging leaves a record of what is related. -/
theorem Traced.stageChange (h : Traced o) (path : Path) (c : Change) :
    Traced (o.stageChange b path c) := by
  intro parent k hk
  rw [entries_stageChange]
  split
  · rfl
  · exact h parent k hk

/-- A use of an overlay leaves a record of what is related. -/
theorem Traced.run (h : Traced o) (operation : Operation ω) : Traced (operation.run b o).2 := by
  cases hs : operation.staging? b with
  | none => exact h.learns (Operation.run_learns b hs o)
  | some staged =>
    obtain ⟨path, -, hrun⟩ := Operation.run_of_staging b hs o
    rw [hrun]
    exact h.stageChange path staged.2

/-- A history leaves a record of what is related. -/
theorem Traced.after (h : Traced o) (history : List (Operation ω)) :
    Traced (o.after b history) := by
  induction history generalizing o with
  | nil => exact h
  | cons operation rest ih => exact ih (h.run operation)

/-- The paths that are recorded for the children of a directory have the keys of the children. -/
theorem map_hash_childPaths (hc : Coherent b o) (ht : Traced o) (directory : Path) :
    (o.childPaths b directory).map b.hash =
      o.stores.relations.childrenOf (b.hash directory) := by
  have hpath : ∀ k ∈ o.stores.relations.childrenOf (b.hash directory),
      ((o.stores.entries.get? k).map (·.path)).map b.hash = some k := by
    intro k hk
    obtain ⟨entry, hentry⟩ := Option.isSome_iff_exists.mp (ht _ k hk)
    rw [hentry, Option.map_some, Option.map_some, hc.hash_path k entry hentry]
  calc (o.childPaths b directory).map b.hash
      = (o.stores.relations.childrenOf (b.hash directory)).filterMap fun k =>
          ((o.stores.entries.get? k).map (·.path)).map b.hash := List.map_filterMap
    _ = (o.stores.relations.childrenOf (b.hash directory)).filterMap some :=
        List.filterMap_congr hpath
    _ = o.stores.relations.childrenOf (b.hash directory) := List.filterMap_some

/-! ## Listings -/

/-- A listing that succeeds answers with the paths of the children after it, and is shown what the
backing shows. -/
theorem list_eq_ok {directory : Path} {paths : List Path}
    (h : (o.list b directory).1 = .ok paths) :
    ∃ children, (b.list directory o.world).1 = .ok children ∧
      paths = ((Operation.list directory).run b o).2.childPaths b directory ∧
      (Operation.list directory).sightings b (b.hash directory) o =
        shownKeys b directory children := by
  rw [Operation.run, Operation.sightings, if_pos rfl]
  unfold list at h ⊢
  generalize b.list directory o.world = answer at h ⊢
  obtain ⟨listed, w⟩ := answer
  cases listed with
  | error => exact nomatch h
  | ok children => exact ⟨children, rfl, (Except.ok.inj h).symm, rfl⟩

/-- The keys of a listing after a history of a new overlay: those of the children ever shown, this
time included, each at its first place. -/
theorem map_hash_list (b : Backing ω) (w : ω) (history : List (Operation ω)) {directory : Path}
    {paths : List Path} (h : (((Overlay.new w).after b history).list b directory).1 = .ok paths) :
    paths.map b.hash =
      (sightings b (b.hash directory) (history ++ [.list directory]) (.new w)).eraseDups := by
  obtain ⟨-, -, hpaths, -⟩ := list_eq_ok h
  have hcoherent : Coherent b ((Overlay.new w).after b history) := (coherent_new w).after history
  have htraced : Traced ((Overlay.new w).after b history) :=
    Traced.after (fun _ _ hk => absurd hk List.not_mem_nil) history
  have hafter : (Overlay.new w).after b (history ++ [.list directory]) =
      ((Operation.list directory).run b ((Overlay.new w).after b history)).2 :=
    List.foldl_append ..
  have hnone : (Overlay.new w).stores.relations.childrenOf (b.hash directory) =
      ([] : List PathKey).eraseDups := rfl
  rw [hpaths, map_hash_childPaths (hcoherent.run _) (htraced.run _), ← hafter,
    childrenOf_after _ hnone, List.nil_append]

/-- A listing after a history of a new overlay, under any spelling of the directory and whatever the
hasher, has exactly the children that were ever shown of a directory with that key, in the order in
which they were first seen, and each key once; so it has every file and directory that it is shown
itself. Whatever happens between, what a later listing under that key answers with begins with
these keys. -/
theorem list_after_new (b : Backing ω) (w : ω) (history : List (Operation ω)) (directory : Path)
    (paths : List Path)
    (h : (((Overlay.new w).after b history).list b directory).1 = .ok paths) :
    paths.map b.hash =
        (sightings b (b.hash directory) (history ++ [.list directory]) (.new w)).eraseDups ∧
      (paths.map b.hash).Nodup ∧
      (∀ children, (b.list directory ((Overlay.new w).after b history).world).1 = .ok children →
        ∀ child ∈ children, child.kind?.isSome →
          b.hash (directory.push (.ofString child.name)) ∈ paths.map b.hash) ∧
      ∀ between directory' paths', b.hash directory' = b.hash directory →
        (((Overlay.new w).after b (history ++ .list directory :: between)).list b directory').1 =
          .ok paths' → paths.map b.hash <+: paths'.map b.hash := by
  have hkeys := map_hash_list b w history h
  refine ⟨hkeys, ?_, fun children hchildren child hchild hkind => ?_,
    fun between directory' paths' hkey hlater => ?_⟩
  · rw [hkeys]
    exact OrderedMap.nodup_eraseDups _
  · obtain ⟨shown, hshown, -, hsightings⟩ := list_eq_ok h
    obtain rfl := Except.ok.inj (hshown.symm.trans hchildren)
    obtain ⟨kind, hkind⟩ := Option.isSome_iff_exists.mp hkind
    rw [hkeys, List.mem_eraseDups, sightings_append, List.mem_append, sightings, sightings,
      List.append_nil, hsightings]
    exact Or.inr (List.mem_filterMap.mpr ⟨child, hchild, by rw [hkind]; rfl⟩)
  · -- The later history begins with the earlier one and its listing.
    have hsplit : history ++ .list directory :: between ++ [.list directory'] =
        (history ++ [.list directory]) ++ (between ++ [.list directory']) := by
      rw [List.append_assoc, List.append_assoc, List.singleton_append, List.cons_append]
    rw [hkeys, map_hash_list b w _ hlater, hkey, hsplit, sightings_append _ (history ++ _),
      List.eraseDups_append]
    exact List.prefix_append _ _

/-- The backing of a world that is what every directory holds, with the last byte of a path for its
key: children whose names end alike collide. -/
def sameEverywhere : Backing (List Listed) where
  hash p := ⟨Vector.replicate 32 (p.bytes.getLastD 0)⟩
  stat _ w := (.ok (some .directory), w)
  list _ w := (.ok w, w)
  read _ w := (.ok "", w)
  glob _ _ _ w := (.ok [], w)

/-- The second of two children takes the place of the first, a staged write takes the place of both,
and by then the directory holds something else: the listing under another spelling begins with the
key that they share. -/
theorem list_after_new_replaced :
    [Path.ofString "/r/b.rst"].map sameEverywhere.hash <+:
      [Path.ofString "/r/c.txt", .ofString "/other/r/d.md"].map sameEverywhere.hash :=
  (list_after_new sameEverywhere [⟨"a.txt", some .file⟩, ⟨"b.rst", some .directory⟩] []
    (.ofString "/r") [.ofString "/r/b.rst"] (by rfl)).2.2.2
    [.stageWrite (.ofString "/r/c.txt") "", .elapse fun _ => [⟨"d.md", some .file⟩, ⟨"e", none⟩]]
    (.ofString "/other/r") [.ofString "/r/c.txt", .ofString "/other/r/d.md"] rfl (by rfl)

end Overlay

end TreePlan
