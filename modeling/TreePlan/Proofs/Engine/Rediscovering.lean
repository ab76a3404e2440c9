import TreePlan.Proofs.Engine.Discovering
import TreePlan.Proofs.Overlay.Still

/-!
# Finding files again

A run over files leaves the root and the files recorded as they were found (`Overlay.Recorded`), so
a second run in the same steady worlds finds the same files in the same order and records nothing
that was not recorded (`Finds.again`), or it misses the root again (`Misses.again`).

Whether the second run also does the same depends on the files. If the traversal of a file settles
something about it, which the traversals of the other files leave settled (`Overlay.Settles`), then
it is settled for all files when the run is over (`FilesOnly.settles`). If the traversal of a
settled file stores nothing new (`Overlay.Repeated`), a second run stores nothing new, and it ends
with the plan of the first (`FilesOnly.repeats`).
-/

namespace TreePlan

variable {ω : Type} {b : Backing ω} {W : ω → Prop}

namespace Overlay

variable {o o' o₁ : Overlay ω}

/-! ## Recording again -/

/-- Recording what is recorded changes nothing. -/
theorem stores_record {k : PathKey} {entry : Entry} (h : o.stores.entries.get? k = some entry) :
    (o.record k entry).stores = o.stores := by
  have hsame : o.stores.entries.byKey.put k entry = o.stores.entries.byKey :=
    OrderedMap.put_eq_self h
  unfold record Entries.record
  rw [hsame]

/-- Staging what is staged for a recorded file changes nothing. -/
theorem stores_stageChange {path : Path} {c : Change}
    (hentry : o.stores.entries.get? (b.hash path) = some ⟨.file, path⟩)
    (hchange : o.stores.changes.get? (b.hash path) = some c) :
    (o.stageChange b path c).stores = o.stores := by
  have hrecorded := stores_record hentry
  have hsame : o.stores.changes.byKey.put (b.hash path) c = o.stores.changes.byKey :=
    OrderedMap.put_eq_self hchange
  unfold stageChange stage Changes.stage
  rw [hrecorded, hsame]

/-- Recording files that are recorded changes nothing. -/
theorem stores_foldl_record (found : List (PathKey × Path))
    (h : ∀ p ∈ found, o.stores.entries.get? p.1 = some ⟨.file, p.2⟩) :
    (found.foldl (fun o p => o.record p.1 ⟨.file, p.2⟩) o).stores = o.stores :=
  List.foldlRecOn (motive := fun now : Overlay ω => now.stores = o.stores) found _ rfl
    fun _ hnow p hp => (stores_record (hnow ▸ h p hp)).trans hnow

/-- Recording files does not change the world. -/
theorem world_foldl_record (found : List (PathKey × Path)) (o : Overlay ω) :
    (found.foldl (fun o p => o.record p.1 ⟨.file, p.2⟩) o).world = o.world :=
  List.foldlRecOn (motive := fun now : Overlay ω => now.world = o.world) found _ rfl
    fun _ hnow _ _ => hnow

/-- Discovering does not leave steady worlds. -/
theorem world_discover (hs : b.SteadyIn W) (directory : Path) (includes excludes : List String)
    (ho : W o.world) : W (o.discover b directory includes excludes).2.world := by
  have hsearch := hs.world_searchAll directory excludes includes .empty ho
  unfold discover
  split
  · rename_i herror
    rw [herror] at hsearch
    exact hsearch
  · rename_i hfound
    rw [hfound] at hsearch
    rw [world_foldl_record]
    exact hsearch

/-- In steady worlds, files that are still recorded as they were discovered are discovered again. -/
theorem discover_again (hs : b.SteadyIn W) {directory : Path} {includes excludes : List String}
    {files : List Path} (h : o.discover b directory includes excludes = (.ok files, o₁))
    (ho : W o.world) (ho' : W o'.world)
    (hfiles : ∀ p ∈ files, o'.stores.entries.get? (b.hash p) = some ⟨.file, p⟩) :
    ∃ o₂, o'.discover b directory includes excludes = (.ok files, o₂) ∧ o₂.stores = o'.stores := by
  unfold discover at h
  split at h
  · exact nomatch (Prod.mk.inj h).1
  · rename_i found w hsearch
    obtain ⟨hfound, -⟩ := Prod.mk.inj h
    obtain rfl := Except.ok.inj hfound
    have hown := hash_of_mem_searchAll includes (by simp [OrderedMap.empty]) hsearch
    obtain ⟨w', hagain⟩ : ∃ w', searchAll b directory excludes includes .empty o'.world =
        (.ok found, w') := by
      have hsame := hs.fst_searchAll directory excludes includes .empty ho' ho
      rw [hsearch] at hsame
      exact ⟨(searchAll b directory excludes includes .empty o'.world).2, Prod.ext hsame rfl⟩
    unfold discover
    rw [hagain]
    refine ⟨_, rfl, stores_foldl_record found.pairs fun p hp => ?_⟩
    rw [← hown p hp]
    exact hfiles p.2 (List.mem_map_of_mem hp)

/-! ## Recorded files -/

/-- The root and the files of a run are recorded: the only file is the root, or the root is a
directory with another key than the files. -/
inductive Recorded (b : Backing ω) (root : Path) (o : Overlay ω) : List Path → Prop
  /-- The root is a file. -/
  | root {entry : Entry} (hroot : o.stores.entries.get? (b.hash root) = some entry)
      (hkind : entry.kind = .file) : Recorded b root o [root]
  /-- The root is a directory. -/
  | discovered {entry : Entry} {files : List Path}
      (hroot : o.stores.entries.get? (b.hash root) = some entry) (hkind : entry.kind = .directory)
      (hapart : b.hash root ∉ files.map b.hash)
      (hfiles : ∀ p ∈ files, o.stores.entries.get? (b.hash p) = some ⟨.file, p⟩) :
      Recorded b root o files

/-- The root and the files stay recorded if no entry is replaced but that of a file, by the file. -/
theorem Recorded.keep {root p : Path} {files : List Path} (h : Recorded b root o files)
    (hp : p ∈ files) (hentries : ∀ k, (o.stores.entries.get? k).isSome →
      o'.stores.entries.get? k = o.stores.entries.get? k ∨
        k = b.hash p ∧ o'.stores.entries.get? k = some ⟨.file, p⟩) :
    Recorded b root o' files := by
  cases h with
  | @root entry hroot hkind =>
    rcases hentries (b.hash root) (by rw [hroot]; rfl) with hsame | ⟨-, hfile⟩
    · exact .root (hsame.trans hroot) hkind
    · exact .root hfile rfl
  | @discovered entry files hroot hkind hapart hfiles =>
    refine .discovered ?_ hkind hapart fun q hq => ?_
    · rcases hentries (b.hash root) (by rw [hroot]; rfl) with hsame | ⟨hkey, -⟩
      · exact hsame.trans hroot
      · exact absurd (hkey ▸ List.mem_map_of_mem hp) hapart
    · rcases hentries (b.hash q) (by rw [hfiles q hq]; rfl) with hsame | ⟨hkey, hfile⟩
      · exact hsame.trans (hfiles q hq)
      · -- The entry was that of the file before.
        have hentry := hfiles q hq
        rw [hkey, hfiles p hp] at hentry
        exact hfile.trans hentry

/-- The root and the files are recorded in the stores. -/
theorem Recorded.congr {root : Path} {files : List Path} (h : Recorded b root o files)
    (hstores : o'.stores = o.stores) : Recorded b root o' files := by
  cases h with
  | root hroot hkind => exact .root (hstores ▸ hroot) hkind
  | discovered hroot hkind hapart hfiles =>
    exact .discovered (hstores ▸ hroot) hkind hapart (hstores ▸ hfiles)

/-- The files are recorded. -/
theorem Recorded.isSome_get? {root p : Path} {files : List Path} (h : Recorded b root o files)
    (hp : p ∈ files) : (o.stores.entries.get? (b.hash p)).isSome := by
  cases h with
  | root hroot =>
    rw [List.mem_singleton.mp hp, hroot]
    rfl
  | discovered _ _ _ hfiles =>
    rw [hfiles p hp]
    rfl

/-- What the traversal of a file does: it replaces no entry but that of the file, it settles what is
to be settled, and it leaves that settled for the files with other keys. -/
structure Settles (b : Backing ω) (S : Path → Stores → Prop) (p : Path) (o o' : Overlay ω) :
    Prop where
  /-- No entry is replaced but that of the file, by the file. -/
  entries : ∀ k, (o.stores.entries.get? k).isSome →
    o'.stores.entries.get? k = o.stores.entries.get? k ∨
      k = b.hash p ∧ o'.stores.entries.get? k = some ⟨.file, p⟩
  /-- It is settled for the file. -/
  settled : S p o'.stores
  /-- It stays settled for the recorded files with other keys. -/
  still : ∀ q, b.hash q ≠ b.hash p → (o.stores.entries.get? (b.hash q)).isSome →
    S q o.stores → S q o'.stores

/-- What a second run over files does: it stores nothing new, but announces the traversals again,
deletes some of the files again and notes failures of some. -/
structure Repeated (deletes fails : Path → Bool) (files : List Path) (o o' : Overlay ω) :
    Prop where
  /-- Nothing new is stored. -/
  stores_eq : o'.stores = o.stores
  /-- Every file is traversed. -/
  traversed : o'.done .traverseFile = o.done .traverseFile ++ files
  /-- Which files are deleted. -/
  deleted : o'.done .delete = o.done .delete ++ files.filter deletes
  /-- No content is staged. -/
  written : o'.done .stageData = o.done .stageData
  /-- Which files are failures. -/
  failed : o'.abandoned.map (·.1) = o.abandoned.map (·.1) ++ files.filter fails

variable {deletes fails : Path → Bool} {files rest : List Path}

/-- Learning is a second run over no files if nothing new is learnt. -/
theorem Learns.repeated (h : Learns b o o') (hstores : o'.stores = o.stores) :
    Repeated deletes fails [] o o' where
  stores_eq := hstores
  traversed := (h.done_eq _).trans (List.append_nil _).symm
  deleted := (h.done_eq _).trans (List.append_nil _).symm
  written := h.done_eq _
  failed := by rw [h.abandoned_eq, List.filter_nil, List.append_nil]

/-- A second run over files may go on over more files. -/
theorem Repeated.trans (h : Repeated deletes fails files o o₁)
    (h' : Repeated deletes fails rest o₁ o') : Repeated deletes fails (files ++ rest) o o' where
  stores_eq := h'.stores_eq.trans h.stores_eq
  traversed := by rw [h'.traversed, h.traversed, List.append_assoc]
  deleted := by rw [h'.deleted, h.deleted, List.filter_append, List.append_assoc]
  written := h'.written.trans h.written
  failed := by rw [h'.failed, h.failed, List.filter_append, List.append_assoc]

end Overlay

namespace Engine

open Overlay

variable {σ : Type} {e : Engine ω σ} {root : Path} {options options' : Options}
  {state state' : Option σ} {o o' o₁ : Overlay ω} {files : List Path} {plan : Plan}

/-! ## The second run -/

/-- The root has another key than the files that are discovered under it. -/
def Apart (e : Engine ω σ) (root : Path) (o : Overlay ω) : Prop :=
  ∀ files o₁, e.Discovers root o files o₁ → e.backing.hash root ∉ files.map e.backing.hash

/-- Finding files does not leave steady worlds. -/
theorem Finds.world (hs : e.backing.SteadyIn W) (h : e.Finds root o files o₁) (ho : W o.world) :
    W o₁.world := by
  have henclosed := hs.toEncloses
  cases h with
  | root hroot => exact henclosed.world_log _ (henclosed.world_of_classify hroot ho)
  | discovered h =>
    obtain ⟨-, hroot, -, hfiles⟩ := h
    have hstarted := henclosed.world_log (.passStarted 1 root)
      (henclosed.world_of_classify hroot ho)
    have hdiscovered := world_discover hs root e.transform.includes e.transform.excludes hstarted
    rw [hfiles] at hdiscovered
    exact henclosed.world_log _ hdiscovered

/-- A run that is over has not left worlds that asking does not leave. -/
theorem Closes.world (h : e.backing.Encloses W) (hcloses : e.Closes root o o') (ho : W o.world) :
    W o'.world := by
  cases hcloses with
  | directory => exact h.world_log _ (h.world_log _ ho)
  | file => exact h.world_log _ ho

/-- A run that is over repeats nothing more. -/
theorem Closes.repeated (hcloses : e.Closes root o o') (deletes fails : Path → Bool) :
    Repeated deletes fails [] o o' where
  stores_eq := hcloses.stores_eq
  traversed := by
    have hkind : CommandKind.traverseDirectory ≠ .traverseFile := nofun
    exact (hcloses.done_eq hkind).trans (List.append_nil _).symm
  deleted := by
    have hkind : CommandKind.traverseDirectory ≠ .delete := nofun
    exact (hcloses.done_eq hkind).trans (List.append_nil _).symm
  written := by
    have hkind : CommandKind.traverseDirectory ≠ .stageData := nofun
    exact hcloses.done_eq hkind
  failed := by rw [hcloses.abandoned_eq, List.filter_nil, List.append_nil]

/-- Files that are found are recorded, if the root has another key than they. -/
theorem Finds.recorded (hapart : e.Apart root o) (h : e.Finds root o files o₁) :
    Recorded e.backing root o₁ files := by
  cases h with
  | @root entry o₁ hroot hkind =>
    have hentry := get?_of_classify hroot
    exact .root hentry hkind
  | discovered h =>
    have hnot := hapart _ _ h
    have hknown (p : Path) (hp : p ∈ files) := h.get?_eq_some hp
    obtain ⟨-, hroot, hkind, hfiles⟩ := h
    have hentry := get?_of_classify hroot
    exact .discovered (((discover_eq_ok hfiles).2.2 _ hnot).trans hentry) hkind hnot hknown

/-- In steady worlds, files are found again while they are recorded as they were found, and nothing
is recorded that was not. -/
theorem Finds.again (hs : e.backing.SteadyIn W) (h : e.Finds root o files o₁) (ho : W o.world)
    (ho' : W o'.world) (hrecorded : Recorded e.backing root o' files) :
    ∃ o₂, e.Finds root o' files o₂ ∧ o₂.stores = o'.stores := by
  cases hrecorded with
  | root hroot hkind => exact ⟨_, .root (classify_of_get? hroot) hkind, rfl⟩
  | discovered hroot hkind hapart hfiles =>
    cases h with
    | root => exact absurd (List.mem_singleton.mpr rfl) hapart
    | discovered h =>
      obtain ⟨hincludes, hfound, -, hdiscovered⟩ := h
      have henclosed := hs.toEncloses
      have hstarted := henclosed.world_log (.passStarted 1 root)
        (henclosed.world_of_classify hfound ho)
      obtain ⟨o₂, hagain, hstores⟩ := discover_again hs hdiscovered hstarted
        (henclosed.world_log (.passStarted 1 root) ho') hfiles
      exact ⟨_, .discovered (.discover hincludes (classify_of_get? hroot) hkind hagain), hstores⟩

/-- In steady worlds, a root that is missing is missing again, and nothing is recorded. -/
theorem Misses.again (hs : e.backing.SteadyIn W) {result : Except RunError Plan}
    (h : e.Misses root o result o') (ho : W o.world) :
    ∃ o₂, e.Misses root o' result o₂ ∧ Learns e.backing o' o₂ ∧ o₂.stores = o'.stores := by
  obtain @⟨o₁, hroot⟩ := h
  have hworld : W (o₁.log e.backing (.rootMissing root)).world :=
    hs.world_log _ (hs.world_of_classify hroot ho)
  have hstores := classify_eq_none hroot
  have hmissing := (hs.classify_eq_none_iff ho ho).mp (congrArg Prod.fst hroot)
  have hagain : ((o₁.log e.backing (.rootMissing root)).classify e.backing root).1 = none := by
    refine (hs.classify_eq_none_iff hworld ho).mpr ⟨?_, hmissing.2⟩
    rw [← hmissing.1, ← hstores]
    rfl
  have hroot' : (o₁.log e.backing (.rootMissing root)).classify e.backing root =
      (none, ((o₁.log e.backing (.rootMissing root)).classify e.backing root).2) :=
    Prod.ext hagain rfl
  have hstores' := classify_eq_none hroot'
  exact ⟨_, .miss hroot', (learns_of_classify hroot').tail (.log _ _ rfl), hstores'⟩

/-- In some worlds, the traversal of a recorded file settles what is to be settled. -/
def SettlesFiles (e : Engine ω σ) (W : ω → Prop) (S : Path → Stores → Prop) (options : Options)
    (state : Option σ) : Prop :=
  ∀ p o, (o.stores.entries.get? (e.backing.hash p)).isSome → Coherent e.backing o → W o.world →
    ∃ o', e.Works state [.command (.traverseFile p options)] o (.ok ()) o' ∧ W o'.world ∧
      Settles e.backing S p o o'

/-- In some worlds, the traversal of a recorded file for which all is settled stores nothing new. -/
def RepeatsFiles (e : Engine ω σ) (W : ω → Prop) (S : Path → Stores → Prop)
    (deletes fails : Path → Bool) (options : Options) (state : Option σ) : Prop :=
  ∀ p o, (o.stores.entries.get? (e.backing.hash p)).isSome → Coherent e.backing o → W o.world →
    S p o.stores → ∃ o', e.Works state [.command (.traverseFile p options)] o (.ok ()) o' ∧
      W o'.world ∧ Repeated deletes fails [p] o o'

/-- What the traversals of files settle is settled for all files of a run that ends well, unless the
root is missing, and the root and the files are recorded then. -/
theorem FilesOnly.settles (he : e.FilesOnly) (hincludes : e.transform.includes.isEmpty = false)
    (hs : e.backing.SteadyIn W) (hc : Coherent e.backing o) (ho : W o.world)
    (hapart : e.Apart root o) {S : Path → Stores → Prop}
    (hstep : e.SettlesFiles W S options state) (h : e.Ends root options state o (.ok plan) o') :
    e.Misses root o (.ok plan) o' ∨ ∃ files o₁, e.Finds root o files o₁ ∧ plan = o'.plan ∧
      W o'.world ∧ Recorded e.backing root o' files ∧ ∀ p ∈ files, S p o'.stores := by
  refine (he.misses_or_finds hincludes h).imp_right ?_
  rintro ⟨files, o₁, hfinds, hends⟩
  obtain ⟨o₂, hworks, -, hworld, hrecorded, hsettled⟩ := works_files options state
    (P := fun before o => Coherent e.backing o ∧ W o.world ∧ Recorded e.backing root o files ∧
      ∀ q ∈ before, S q o.stores)
    hfinds.nodup (fun p hp => hfinds.isSome_get? hp)
    (by
      rintro before p rest o hfiles hnew hknown - ⟨hc, ho, hrecorded, hsettled⟩
      have hp : p ∈ files := hfiles ▸ List.mem_append_right _ List.mem_cons_self
      obtain ⟨o', hworks, ho', hsettles⟩ := hstep p o hknown hc ho
      refine ⟨o', hworks, hc.moves hworks.moves, ho', hrecorded.keep hp hsettles.entries, ?_⟩
      intro q hq
      rcases List.mem_append.mp hq with hq | hq
      · have hne : e.backing.hash q ≠ e.backing.hash p :=
          fun hkey => hnew (hkey ▸ List.mem_map_of_mem hq)
        exact hsettles.still q hne (hrecorded.isSome_get? (hfiles ▸ List.mem_append_left _ hq))
          (hsettled q hq)
      · exact List.mem_singleton.mp hq ▸ hsettles.settled)
    ⟨hc.learns hfinds.learns, hfinds.world hs ho, hfinds.recorded hapart, nofun⟩
  obtain ⟨rfl, hcloses⟩ := hends o₂ hworks
  have hstores := hcloses.stores_eq
  refine ⟨files, o₁, hfinds, ?_, hcloses.world hs.toEncloses hworld, ?_, ?_⟩
  · rw [Overlay.plan, Overlay.plan, hstores]
  · exact hrecorded.congr hstores
  · rw [hstores]
    exact hsettled

/-- If the traversal of a settled file stores nothing new, a second run after one that ended well
stores nothing new and ends with the same plan. -/
theorem FilesOnly.repeats (he : e.FilesOnly) (hincludes : e.transform.includes.isEmpty = false)
    (hs : e.backing.SteadyIn W) (hr : Reached e.backing o) (ho : W o.world)
    (hapart : e.Apart root o) {S : Path → Stores → Prop} {deletes fails : Path → Bool}
    (hstep : e.SettlesFiles W S options state)
    (hagain : e.RepeatsFiles W S deletes fails options' state')
    (h : e.Ends root options state o (.ok plan) o') :
    ∃ files o₂, e.Ends root options' state' o' (.ok plan) o₂ ∧
      Repeated deletes fails files o' o₂ := by
  have hc : Coherent e.backing o' := (h.reached hr).coherent
  rcases he.settles hincludes hs hr.coherent ho hapart hstep h with
    hmisses | ⟨files, o₁, hfinds, hplan, hworld, hrecorded, hsettled⟩
  · obtain ⟨o₂, hmisses', hlearns, hstores⟩ := hmisses.again hs ho
    exact ⟨[], o₂, ends_iff_runs.mpr (Or.inl hmisses'), hlearns.repeated hstores⟩
  · obtain ⟨o₂, hfinds', hstores⟩ := hfinds.again hs ho hworld hrecorded
    obtain ⟨o₃, hworks, -, -, hrepeated⟩ := works_files options' state'
      (P := fun before o => Coherent e.backing o ∧ W o.world ∧ Repeated deletes fails before o' o)
      hfinds'.nodup (fun p hp => hfinds'.isSome_get? hp)
      (by
        rintro before p rest o hfiles - hknown - ⟨hc, ho, hrepeated⟩
        have hp : p ∈ files := hfiles ▸ List.mem_append_right _ List.mem_cons_self
        have hsettled' : S p o.stores := by
          rw [hrepeated.stores_eq]
          exact hsettled p hp
        obtain ⟨o', hworks, ho', hone⟩ := hagain p o hknown hc ho hsettled'
        exact ⟨o', hworks, hc.moves hworks.moves, ho', hrepeated.trans hone⟩)
      ⟨hc.learns hfinds'.learns, hfinds'.world hs hworld, hfinds'.learns.repeated hstores⟩
    obtain ⟨o₄, hends, hcloses⟩ := hfinds'.ends he hworks
    have hwhole := hrepeated.trans (hcloses.repeated deletes fails)
    rw [List.append_nil] at hwhole
    refine ⟨files, o₄, ?_, hwhole⟩
    rw [hplan, Overlay.plan, ← hrepeated.stores_eq]
    exact hends

end Engine

end TreePlan
