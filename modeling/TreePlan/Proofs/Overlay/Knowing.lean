import TreePlan.Proofs.Overlay.History

/-!
# What an overlay knows after a history

The entries of an overlay answer for the past: under a key stands what was found last under it. What
an operation finds is told without the entries (`Operation.findings`), by the answers of the backing
and by what was found before: a listing finds the children that it is shown, a discovery the files
that it answers with, a staging its file, and classifying finds something only under a key under
which nothing was found before. An operation records what it finds and nothing else
(`entries_run`), so the entries after a history are its findings, recorded one after the other
(`entries_after`), and the last finding under a key decides (`known_after_new`). The backing may
answer differently each time, and keys may collide.
-/

namespace TreePlan

variable {ω : Type}

/-! ## Recording findings -/

namespace Entries

/-- The entries after findings have been recorded under their keys, one after the other. -/
def recordAll (hash : Hasher) (s : Entries) (found : List Entry) : Entries :=
  found.foldl (fun s e => s.record (hash e.path) e) s

/-- Findings after others are recorded after them. -/
theorem recordAll_append (hash : Hasher) (s : Entries) (found more : List Entry) :
    s.recordAll hash (found ++ more) = (s.recordAll hash found).recordAll hash more :=
  List.foldl_append

/-- Under a key stands the last finding with that key, or else what stood there before. -/
theorem get?_recordAll (hash : Hasher) (s : Entries) (found : List Entry) (k : PathKey) :
    (s.recordAll hash found).get? k =
      (found.filter (hash ·.path = k)).getLast?.or (s.get? k) := by
  have hbyKey : (s.recordAll hash found).byKey =
      (found.map fun e => (hash e.path, e)).foldl (fun m p => m.put p.1 p.2) s.byKey := by
    rw [List.foldl_map]
    exact (List.foldl_hom byKey fun _ _ => rfl).symm
  rw [get?, hbyKey, OrderedMap.get?_foldl_put, List.filter_map, List.getLast?_map, Option.map_map]
  exact congrArg (Option.or · _) (Option.map_id_fun ▸ rfl)

/-- Something stands under a key exactly when something was found under it, if there was nothing
before. -/
theorem isSome_get?_recordAll (hash : Hasher) (found : List Entry) (k : PathKey) :
    ((empty.recordAll hash found).get? k).isSome ↔ ∃ e ∈ found, hash e.path = k := by
  rw [get?_recordAll, show empty.get? k = none from rfl, Option.or_none, List.getLast?_isSome]
  simp only [ne_eq, List.filter_eq_nil_iff, decide_eq_true_eq, not_forall, not_not, exists_prop]

end Entries

/-! ## What operations find -/

/-- What classifying a path as one kind finds after earlier findings: nothing if one of them has the
key of the path, and else the path, if the backing says that it is of that kind. -/
def foundAs (b : Backing ω) (found : List Entry) (kind : EntryKind) (path : Path) (w : ω) :
    List Entry :=
  if ∃ e ∈ found, b.hash e.path = b.hash path then []
  else match (b.stat path w).1 with
    | .ok shown => if shown = some kind then [⟨kind, path⟩] else []
    | .error _ => []

/-- A child that is shown of a directory, as an entry, if it is a file or a directory. -/
def Listed.entry? (directory : Path) (child : Listed) : Option Entry :=
  child.kind?.map fun kind => ⟨kind, directory.push (.ofString child.name)⟩

/-- What a listing finds by what it is shown. -/
def foundListed (directory : Path) : Except IoError (List Listed) → List Entry
  | .ok children => children.filterMap (Listed.entry? directory)
  | .error _ => []

/-- What a discovery finds by what it is answered with. -/
def foundFiles : Except RunError (List Path) → List Entry
  | .ok paths => paths.map fun path => ⟨.file, path⟩
  | .error _ => []

/-- What an operation finds after earlier findings, in the order in which it finds it. -/
def Operation.findings (b : Backing ω) (found : List Entry) : Operation ω → Overlay ω → List Entry
  | .classifyDirectory path, o => foundAs b found .directory path o.world
  | .classifyFile path, o => foundAs b found .file path o.world
  | .classify path, o =>
    let first := foundAs b found .directory path o.world
    -- The backing is asked again, and may have changed its mind.
    first ++ foundAs b (found ++ first) .file path (o.classifyDirectory b path).2.world
  | .list directory, o => foundListed directory (b.list directory o.world).1
  | .discover directory includes excludes, o =>
    foundFiles (o.discover b directory includes excludes).1
  | .stageWrite path _, _ => [⟨.file, path⟩]
  | .stageDelete path, _ => [⟨.file, path⟩]
  | _, _ => []

namespace Overlay

/-- The findings of a history after earlier findings, those included, oldest first. -/
def findings (b : Backing ω) : List (Operation ω) → List Entry → Overlay ω → List Entry
  | [], found, _ => found
  | operation :: rest, found, o =>
    findings b rest (found ++ operation.findings b found o) (operation.run b o).2

variable {b : Backing ω} {o : Overlay ω} {found : List Entry}

/-! ## What operations record -/

/-- Classifying as one kind records what it finds. -/
theorem entries_classifyAs (h : o.stores.entries = Entries.empty.recordAll b.hash found)
    (kind : EntryKind) (path : Path) :
    (o.classifyAs b kind path).2.stores.entries =
      Entries.empty.recordAll b.hash (found ++ foundAs b found kind path o.world) := by
  have hknown := Entries.isSome_get?_recordAll b.hash found (b.hash path)
  rw [← h] at hknown
  unfold foundAs
  cases hentry : o.stores.entries.get? (b.hash path) with
  | some entry =>
    rw [hentry] at hknown
    rw [classifyAs_of_get? kind hentry, if_pos (hknown.mp rfl), List.append_nil, h]
  | none =>
    rw [hentry] at hknown
    rw [if_neg fun hfound => nomatch hknown.mpr hfound]
    unfold classifyAs
    rw [hentry]
    obtain ⟨shown, w⟩ := b.stat path o.world
    cases shown with
    | error => exact h.trans (by rw [List.append_nil])
    | ok shown =>
      dsimp only
      split
      · rw [Entries.recordAll_append, ← h]
        rfl
      · exact h.trans (by rw [List.append_nil])

/-- Classifying as a directory or else as a file records what it finds. -/
theorem entries_classify (h : o.stores.entries = Entries.empty.recordAll b.hash found)
    (path : Path) :
    (o.classify b path).2.stores.entries =
      Entries.empty.recordAll b.hash
        (found ++ (Operation.classify path).findings b found o) := by
  have hfirst := entries_classifyAs h .directory path
  unfold classify Operation.findings classifyDirectory classifyFile
  dsimp only
  cases hdirectory : o.classifyAs b .directory path with
  | mk entry now =>
    rw [hdirectory] at hfirst
    cases entry with
    | some entry =>
      -- The path is known now, so nothing more is found.
      have hentry := get?_of_classifyAs hdirectory
      have hknown := Entries.isSome_get?_recordAll b.hash
        (found ++ foundAs b found .directory path o.world) (b.hash path)
      rw [← hfirst, hentry] at hknown
      rw [show foundAs b (found ++ foundAs b found .directory path o.world) .file path now.world =
        [] from if_pos (hknown.mp rfl), List.append_nil]
      exact hfirst
    | none =>
      rw [← List.append_assoc]
      exact entries_classifyAs hfirst .file path

/-- Recording children records the files and directories among them. -/
theorem entries_foldl_recordChild (directory : Path) (children : List Listed) (o : Overlay ω) :
    (children.foldl (recordChild b directory) o).stores.entries =
      o.stores.entries.recordAll b.hash (children.filterMap (Listed.entry? directory)) := by
  induction children generalizing o with
  | nil => rfl
  | cons child rest ih =>
    rw [List.foldl_cons, ih, List.filterMap_cons, recordChild, Listed.entry?]
    cases child.kind? <;> rfl

/-- Listing records what it finds. -/
theorem entries_list (directory : Path) (o : Overlay ω) :
    (o.list b directory).2.stores.entries =
      o.stores.entries.recordAll b.hash (foundListed directory (b.list directory o.world).1) := by
  unfold list
  obtain ⟨shown, w⟩ := b.list directory o.world
  cases shown with
  | error => rfl
  | ok children => exact entries_foldl_recordChild directory children _

/-- Recording paths as files under their keys records findings. -/
theorem entries_foldl_record {pairs : List (PathKey × Path)}
    (hown : ∀ p ∈ pairs, b.hash p.2 = p.1) (o : Overlay ω) :
    (pairs.foldl (fun o p => o.record p.1 ⟨.file, p.2⟩) o).stores.entries =
      o.stores.entries.recordAll b.hash (foundFiles (.ok (pairs.map (·.2)))) := by
  induction pairs generalizing o with
  | nil => rfl
  | cons p rest ih =>
    rw [List.forall_mem_cons] at hown
    rw [List.foldl_cons, ih hown.2, ← hown.1]
    rfl

/-- Discovering records what it finds. -/
theorem entries_discover (directory : Path) (includes excludes : List String) (o : Overlay ω) :
    (o.discover b directory includes excludes).2.stores.entries =
      o.stores.entries.recordAll b.hash
        (foundFiles (o.discover b directory includes excludes).1) := by
  unfold discover
  cases hsearch : searchAll b directory excludes includes .empty o.world with
  | mk result w =>
    cases result with
    | error => rfl
    | ok paths =>
      have hown := hash_of_mem_searchAll includes (by simp [OrderedMap.empty]) hsearch
      exact entries_foldl_record hown _

/-- An operation records what it finds. -/
theorem entries_run (h : o.stores.entries = Entries.empty.recordAll b.hash found)
    (operation : Operation ω) :
    (operation.run b o).2.stores.entries =
      Entries.empty.recordAll b.hash (found ++ operation.findings b found o) := by
  cases operation with
  | classifyDirectory path => exact entries_classifyAs h .directory path
  | classifyFile path => exact entries_classifyAs h .file path
  | classify path => exact entries_classify h path
  | list directory =>
    rw [Entries.recordAll_append, ← h]
    exact entries_list directory o
  | discover directory includes excludes =>
    rw [Entries.recordAll_append, ← h]
    exact entries_discover directory includes excludes o
  | stageWrite | stageDelete =>
    rw [Entries.recordAll_append, ← h]
    rfl
  | read path =>
    rw [Entries.recordAll_append, ← h]
    exact congrArg Stores.entries (stores_read path o)
  | key | isDirectory | isKnown | plan | sizes | elapse =>
    rw [Entries.recordAll_append, ← h]
    rfl

/-- The entries after a history are its findings, recorded one after the other. -/
theorem entries_after (history : List (Operation ω))
    (h : o.stores.entries = Entries.empty.recordAll b.hash found) :
    (o.after b history).stores.entries =
      Entries.empty.recordAll b.hash (findings b history found o) := by
  induction history generalizing o found with
  | nil => exact h
  | cons operation rest ih => exact ih (entries_run h operation)

/-! ## What is known -/

/-- What was found last under a key. -/
def lastFound? (b : Backing ω) (found : List Entry) (k : PathKey) : Option Entry :=
  (found.filter (b.hash ·.path = k)).getLast?

/-- An overlay knows what was found, and of each key what was found last. -/
structure Recalls (b : Backing ω) (found : List Entry) (o : Overlay ω) : Prop where
  /-- A path is known exactly when something was found under its key. -/
  isKnown_iff : ∀ path, o.isKnown b path = true ↔ ∃ e ∈ found, b.hash e.path = b.hash path
  /-- What was found last under a key is recorded there. -/
  get?_eq : ∀ k, o.stores.entries.get? k = lastFound? b found k
  /-- A path is known as a directory exactly when what was found last under its key is one. -/
  isDirectory_iff : ∀ path, o.isDirectory b path = true ↔
    ∃ e, lastFound? b found (b.hash path) = some e ∧ e.kind = .directory
  /-- What is recorded has the key that it is recorded under. -/
  hash_path : ∀ k e, o.stores.entries.get? k = some e → b.hash e.path = k
  /-- A path that is known is classified as it is recorded, of whatever kind, and nothing changes,
  whatever the world is and whichever backing with the same keys would be asked. -/
  classify_known : ∀ path e, o.stores.entries.get? (b.hash path) = some e →
    ∀ (b' : Backing ω) (w : ω), b'.hash = b.hash →
      { o with world := w }.classifyDirectory b' path = (some e, { o with world := w }) ∧
      { o with world := w }.classifyFile b' path = (some e, { o with world := w }) ∧
      { o with world := w }.classify b' path = (some e, { o with world := w })
  /-- A path that is not known is not classified as a kind that the backing does not say it is of,
  and nothing is recorded. -/
  classifyAs_unknown : ∀ path kind, o.isKnown b path = false →
    (b.stat path o.world).1 ≠ .ok (some kind) →
      (o.classifyAs b kind path).1 = none ∧ (o.classifyAs b kind path).2.stores = o.stores
  /-- A path that is not known is not classified at all if the backing says at first that it is no
  directory and then that it is no file, and nothing is recorded. -/
  classify_unknown : ∀ path, o.isKnown b path = false →
    (b.stat path o.world).1 ≠ .ok (some .directory) →
    (b.stat path (o.classifyDirectory b path).2.world).1 ≠ .ok (some .file) →
      (o.classify b path).1 = none ∧ (o.classify b path).2.stores = o.stores
  /-- No use of the overlay empties a key. -/
  isSome_run : ∀ (operation : Operation ω) k, (o.stores.entries.get? k).isSome →
    ((operation.run b o).2.stores.entries.get? k).isSome

/-- A path is known if something is recorded under its key. -/
theorem isKnown_eq (path : Path) (o : Overlay ω) :
    o.isKnown b path = (o.stores.entries.get? (b.hash path)).isSome := rfl

/-- Classifying a path that is not known as a kind that the backing does not say it is of finds and
records nothing. -/
theorem classifyAs_of_stat_ne {kind : EntryKind} {path : Path} (h : o.isKnown b path = false)
    (hstat : (b.stat path o.world).1 ≠ .ok (some kind)) :
    ∃ now, o.classifyAs b kind path = (none, now) := by
  rw [isKnown_eq, Option.isSome_eq_false_iff, Option.isNone_iff_eq_none] at h
  unfold classifyAs
  rw [h]
  generalize b.stat path o.world = answer at hstat
  obtain ⟨shown, w⟩ := answer
  cases shown with
  | error => exact ⟨_, rfl⟩
  | ok shown =>
    dsimp only at hstat ⊢
    rw [if_neg fun he => hstat (congrArg Except.ok he)]
    exact ⟨_, rfl⟩

/-- No use of an overlay empties a key. -/
theorem isSome_get?_run (operation : Operation ω) {k : PathKey}
    (h : (o.stores.entries.get? k).isSome) :
    ((operation.run b o).2.stores.entries.get? k).isSome := by
  cases hs : operation.staging? b with
  | none => exact (Operation.run_learns b hs o).isSome_get? h
  | some staged =>
    obtain ⟨path, -, hrun⟩ := Operation.run_of_staging b hs o
    rw [hrun, entries_stageChange]
    split
    · rfl
    · exact h

/-- After a history of a new overlay, whatever the backing answered and whatever the hasher, a path
is known exactly when the history found something under its key, and recorded is what it found last
there. What is known is classified without regard to the backing and stays known, and what is
not is recorded only with the kind that was asked for. -/
theorem known_after_new (b : Backing ω) (w : ω) (history : List (Operation ω)) :
    Recalls b (findings b history [] (.new w)) ((Overlay.new w).after b history) := by
  have hentries : ((Overlay.new w).after b history).stores.entries =
      Entries.empty.recordAll b.hash (findings b history [] (.new w)) :=
    entries_after history rfl
  have hcoherent : Coherent b ((Overlay.new w).after b history) := (coherent_new w).after history
  have hget (k : PathKey) : ((Overlay.new w).after b history).stores.entries.get? k =
      lastFound? b (findings b history [] (.new w)) k := by
    rw [hentries, Entries.get?_recordAll]
    exact Option.or_none
  generalize (Overlay.new w).after b history = o at hentries hcoherent hget ⊢
  generalize findings b history [] (.new w) = found at hentries hget ⊢
  refine ⟨fun path => ?_, hget, fun path => ?_, hcoherent.hash_path,
    fun path e he b' w' hkeys => ?_, fun path kind hunknown hstat => ?_,
    fun path hunknown hdirectory hfile => ?_,
    fun operation k hknown => isSome_get?_run operation hknown⟩
  · rw [isKnown_eq, hentries]
    exact Entries.isSome_get?_recordAll b.hash found (b.hash path)
  · rw [isDirectory, Entries.kind?, hget, beq_iff_eq, Option.map_eq_some_iff]
  · rw [← hkeys] at he
    exact ⟨classifyAs_of_get? (o := { o with world := w' }) .directory he,
      classifyAs_of_get? (o := { o with world := w' }) .file he,
      classify_of_get? (o := { o with world := w' }) he⟩
  · obtain ⟨now, hnow⟩ := classifyAs_of_stat_ne hunknown hstat
    rw [hnow]
    exact ⟨rfl, classifyAs_eq_none hnow⟩
  · obtain ⟨now, hnow⟩ := classifyAs_of_stat_ne hunknown hdirectory
    rw [classifyDirectory, hnow] at hfile
    have hsame : now.stores = o.stores := classifyAs_eq_none hnow
    have hunknown' : now.isKnown b path = false := by rw [isKnown_eq, hsame]; exact hunknown
    obtain ⟨last, hlast⟩ := classifyAs_of_stat_ne hunknown' hfile
    have hclassify : o.classify b path = (none, last) := by
      unfold classify classifyDirectory classifyFile
      rw [hnow]
      exact hlast
    rw [hclassify]
    exact ⟨rfl, classify_eq_none hclassify⟩

/-- The backing of a world that every path is, and in which every path is a file once something has
been asked about it. All paths share one key. -/
def fickle : Backing (Option EntryKind) where
  hash _ := default
  stat _ w := (.ok w, some .file)
  list _ w := (.ok [⟨"b", w⟩], w)
  read _ w := (.ok "", w)
  glob _ _ _ w := (.ok [], w)

/-- A history in which a path is classified before a directory is listed. -/
def fickleHistory : List (Operation (Option EntryKind)) :=
  [.classify (.ofString "a"), .elapse fun _ => some .directory, .list (.ofString "c"),
    .classifyFile (.ofString "d")]

/-- A path that is neither a file nor a directory is found as a file when the backing is asked
again. Then a listing shows a directory with the same key, so every path is known as a directory,
and is classified as the one that was listed, although the backing would say that it is a file. -/
theorem known_after_new_fickle :
    findings fickle fickleHistory [] (.new none) =
        [⟨.file, .ofString "a"⟩, ⟨.directory, .ofString "c/b"⟩] ∧
      ((Overlay.new none).after fickle fickleHistory).isDirectory fickle (.ofString "e") = true ∧
      (((Overlay.new none).after fickle fickleHistory).classifyFile fickle (.ofString "e")).1 =
        some ⟨.directory, .ofString "c/b"⟩ := by
  have hrecalls := known_after_new fickle none fickleHistory
  have hfindings : findings fickle fickleHistory [] (.new none) =
      [⟨.file, .ofString "a"⟩, ⟨.directory, .ofString "c/b"⟩] := by rfl
  have hlast : lastFound? fickle (findings fickle fickleHistory [] (.new none)) default =
      some ⟨.directory, .ofString "c/b"⟩ := by
    rw [hfindings]
    rfl
  refine ⟨hfindings, (hrecalls.isDirectory_iff (.ofString "e")).mpr ⟨_, hlast, rfl⟩, ?_⟩
  rw [(hrecalls.classify_known (.ofString "e") _ ((hrecalls.get?_eq _).trans hlast) fickle
    ((Overlay.new none).after fickle fickleHistory).world rfl).2.1]

end Overlay

end TreePlan
