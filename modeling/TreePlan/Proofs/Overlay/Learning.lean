import Mathlib.Logic.Relation
import TreePlan.Handler
import TreePlan.Proofs.Store

/-!
# What asking does to an overlay

Classifying, listing, reading and discovering change an overlay only by small steps in which it
learns something: the world moves on, a log line is left, an entry is recorded under the key of its
path, a child is related to a parent. `Learning` is one such step and `Learns` any number of them.
Every question is answered by such steps (`classify_learns`, `list_learns`, `read_learns`,
`discover_learns`), and so is every handler, which can do no more than ask (`run_learns`).

What no step of learning changes, no question and no handler changes: what is staged
(`Learns.changes_eq`) and what callers have been told (`Learns.reports_eq`). What is known stays
known (`Learns.isSome_get?`), and what is found is known then (`get?_of_classify`).
-/

namespace TreePlan

/-- Whether callers are told of an event: of completed commands and of abandoned branches. The
other events are for the log only. -/
def Event.isReport : Event → Bool
  | .executed _ _ => true
  | .abandoned _ _ => true
  | _ => false

namespace Overlay

variable {ω : Type}

/-- What callers have been told, oldest first. -/
def reports (o : Overlay ω) : List Event := o.journal.filter (·.isReport)

/-- One step in which an overlay learns something. -/
inductive Learning (b : Backing ω) : Overlay ω → Overlay ω → Prop
  /-- The world moves on. -/
  | look (o : Overlay ω) (w : ω) : Learning b o { o with world := w }
  /-- A line is left for the log. -/
  | log (o : Overlay ω) (event : Event) (h : event.isReport = false) :
      Learning b o (o.log b event)
  /-- An entry is recorded under the key of its path. -/
  | record (o : Overlay ω) (entry : Entry) :
      Learning b o (o.record (b.hash entry.path) entry)
  /-- A child is related to a parent and recorded. -/
  | relate (o : Overlay ω) (parent : PathKey) (entry : Entry) :
      Learning b o
        ((o.relate parent (b.hash entry.path)).record (b.hash entry.path) entry)

/-- Any number of steps in which an overlay learns something. -/
abbrev Learns (b : Backing ω) : Overlay ω → Overlay ω → Prop :=
  Relation.ReflTransGen (Learning b)

variable {b : Backing ω}

/-! ## Questions -/

/-- Moving the world on is learning. -/
theorem look_learns (o : Overlay ω) (w : ω) : Learns b o { o with world := w } :=
  .single (.look o w)

/-- Moving the world on and leaving a line for the log is learning. -/
theorem look_log_learns (o : Overlay ω) (w : ω) (event : Event) (h : event.isReport = false) :
    Learns b o ({ o with world := w }.log b event) :=
  (look_learns o w).tail (.log _ event h)

/-- Classifying as one kind is learning. -/
theorem classifyAs_learns (kind : EntryKind) (path : Path) (o : Overlay ω) :
    Learns b o (o.classifyAs b kind path).2 := by
  unfold classifyAs
  split
  · exact .refl
  · split
    · exact look_log_learns o _ _ rfl
    · split
      · exact (look_learns o _).tail (.record _ ⟨kind, path⟩)
      · exact look_learns o _

/-- Classifying keeps what classifying as one kind or the other keeps. -/
theorem kept_classify {P : Overlay ω → Prop} (path : Path)
    (hkept : ∀ kind o, P o → P (o.classifyAs b kind path).2) (ho : P o) :
    P (o.classify b path).2 := by
  have hdirectory := hkept .directory o ho
  unfold classify classifyDirectory classifyFile
  split
  · rename_i hfound
    rw [hfound] at hdirectory
    exact hdirectory
  · rename_i hfound
    rw [hfound] at hdirectory
    exact hkept .file _ hdirectory

/-- Classifying is learning. -/
theorem classify_learns (path : Path) (o : Overlay ω) : Learns b o (o.classify b path).2 :=
  kept_classify path (fun kind now h => h.trans (classifyAs_learns kind path now)) .refl

/-- Recording a listed child is learning. -/
theorem recordChild_learns (directory : Path) (o : Overlay ω) (child : Listed) :
    Learns b o (o.recordChild b directory child) := by
  unfold recordChild
  split
  · exact .refl
  · exact .single (.relate o _ ⟨_, _⟩)

/-- Listing is learning. -/
theorem list_learns (directory : Path) (o : Overlay ω) : Learns b o (o.list b directory).2 := by
  have hchildren (children : List Listed) : ∀ o : Overlay ω,
      Learns b o (children.foldl (recordChild b directory) o) := by
    induction children with
    | nil => exact fun _ => .refl
    | cons child rest ih => exact fun o => (recordChild_learns directory o child).trans (ih _)
  unfold list
  split
  · exact look_learns o _
  · exact (look_learns o _).trans (hchildren _ _)

/-- Reading is learning. -/
theorem read_learns (path : Path) (o : Overlay ω) : Learns b o (o.read b path).2 := by
  unfold read
  split
  · exact .refl
  · exact .refl
  · split
    · exact look_learns o _
    · exact look_log_learns o _ _ rfl

/-- Reading leaves the stores as they are. -/
theorem stores_read (path : Path) (o : Overlay ω) : (o.read b path).2.stores = o.stores := by
  unfold read
  split
  · rfl
  · rfl
  · split <;> rfl

/-- Found paths stand under their own keys when those found before do. -/
theorem hash_of_mem_addFound {found : OrderedMap PathKey Path} (paths : List Path)
    (h : ∀ p ∈ found.pairs, b.hash p.2 = p.1) :
    ∀ p ∈ (addFound b found paths).pairs, b.hash p.2 = p.1 := by
  induction paths generalizing found with
  | nil => exact h
  | cons path rest ih =>
    refine ih fun p hp => ?_
    rcases OrderedMap.mem_putIfAbsent hp with rfl | hp
    · rfl
    · exact h p hp

/-- A search finds paths under their own keys. -/
theorem hash_of_mem_searchAll {directory : Path} {excludes : List String} (includes : List String)
    {found result : OrderedMap PathKey Path} {w w' : ω}
    (hfound : ∀ p ∈ found.pairs, b.hash p.2 = p.1)
    (h : searchAll b directory excludes includes found w = (.ok result, w')) :
    ∀ p ∈ result.pairs, b.hash p.2 = p.1 := by
  induction includes generalizing found w with
  | nil =>
    simp only [searchAll, Prod.mk.injEq, Except.ok.injEq] at h
    exact h.1 ▸ hfound
  | cons pattern rest ih =>
    rw [searchAll] at h
    split at h
    · simp at h
    · exact ih (hash_of_mem_addFound _ hfound) h

/-- Discovering is learning. -/
theorem discover_learns (directory : Path) (includes excludes : List String) (o : Overlay ω) :
    Learns b o (o.discover b directory includes excludes).2 := by
  have hrecord (found : List (PathKey × Path)) : (∀ p ∈ found, b.hash p.2 = p.1) →
      ∀ o : Overlay ω, Learns b o (found.foldl (fun o p => o.record p.1 ⟨.file, p.2⟩) o) := by
    induction found with
    | nil => exact fun _ _ => .refl
    | cons p rest ih =>
      intro h o
      have hp : b.hash p.2 = p.1 := h p List.mem_cons_self
      have hstep : Learning b o (o.record p.1 ⟨.file, p.2⟩) := hp ▸ .record o ⟨.file, p.2⟩
      exact .head hstep (ih (fun q hq => h q (List.mem_cons_of_mem p hq)) _)
  unfold discover
  split
  · exact look_learns o _
  · rename_i hsearch
    have hfound := hash_of_mem_searchAll includes (by simp [OrderedMap.empty]) hsearch
    exact (look_learns o _).trans (hrecord _ hfound _)

/-! ## Questions without an answer -/

/-- A path that is not of one kind leaves the stores as they are. -/
theorem classifyAs_eq_none {kind : EntryKind} {path : Path} {o o' : Overlay ω}
    (h : o.classifyAs b kind path = (none, o')) : o'.stores = o.stores := by
  unfold classifyAs at h
  split at h
  · exact nomatch (Prod.mk.inj h).1
  · split at h
    · obtain ⟨-, rfl⟩ := Prod.mk.inj h
      rfl
    · split at h
      · exact nomatch (Prod.mk.inj h).1
      · obtain ⟨-, rfl⟩ := Prod.mk.inj h
        rfl

/-- A path that is neither a directory nor a file leaves the stores as they are. -/
theorem classify_eq_none {path : Path} {o o' : Overlay ω} (h : o.classify b path = (none, o')) :
    o'.stores = o.stores := by
  unfold classify at h
  split at h
  · exact nomatch (Prod.mk.inj h).1
  · rename_i o₁ hdirectory
    exact (classifyAs_eq_none h).trans (classifyAs_eq_none hdirectory)

/-- Only a path that is staged for deletion cannot be read, and trying changes nothing. -/
theorem read_eq_error {path : Path} {error : RunError} {o o' : Overlay ω}
    (h : o.read b path = (.error error, o')) :
    error = .fileDeleted path ∧ o' = o ∧ o.stores.changes.get? (b.hash path) = some .delete := by
  unfold read at h
  split at h
  · exact nomatch h
  · rename_i hstaged
    obtain ⟨herror, rfl⟩ := Prod.mk.inj h
    exact ⟨(Except.error.inj herror).symm, rfl, hstaged⟩
  · split at h <;> exact nomatch h

/-- Discovery fails with the error of a search only. -/
theorem discover_eq_error {directory : Path} {includes excludes : List String} {error : RunError}
    {o o' : Overlay ω} (h : o.discover b directory includes excludes = (.error error, o')) :
    ∃ cause : SearchError, error = cause.toRunError := by
  unfold discover at h
  split at h
  · exact ⟨_, (Except.error.inj (Prod.mk.inj h).1).symm⟩
  · exact nomatch h

end Overlay

/-! ## Handlers -/

section Handlers

open Overlay

variable {ω Q α : Type} {A : Q → Type} {b : Backing ω}

/-- A program learns when the answers to its questions do. -/
theorem Program.run_learns {answer : (q : Q) → Overlay ω → A q × Overlay ω}
    (h : ∀ q o, Learns b o (answer q o).2) (p : Program ω Q A α) (o : Overlay ω) :
    Learns b o (p.run b answer o).2 := by
  induction p generalizing o with
  | done result => exact .refl
  | note text next ih => exact .head (.log o (.noted text) rfl) (ih _)
  | look next ih => exact ih _ o
  | touch change next ih => exact (look_learns o _).trans (ih _)
  | ask question next ih => exact (h question o).trans (ih _ _)

/-- Answering a file handler is learning. -/
theorem FileQuery.answer_learns (q : FileQuery) (o : Overlay ω) :
    Learns b o (q.answer b o).2 := by
  cases q with
  | isDirectory path => exact .refl
  | isKnown path => exact .refl
  | classify path => exact classify_learns path o
  | read path => exact read_learns path o

/-- Answering a directory handler is learning. -/
theorem DirectoryQuery.answer_learns (q : DirectoryQuery) (o : Overlay ω) :
    Learns b o (q.answer b o).2 := by
  cases q with
  | file query => exact query.answer_learns o
  | list path => exact list_learns path o

/-- A handler of contents only learns. -/
theorem DataProgram.run_learns (p : DataProgram ω α) (o : Overlay ω) :
    Learns b o (p.run b o).2 :=
  Program.run_learns (fun q _ => nomatch q) _ o

/-- A file handler only learns. -/
theorem FileProgram.run_learns (p : FileProgram ω α) (o : Overlay ω) :
    Learns b o (p.run b o).2 :=
  Program.run_learns FileQuery.answer_learns _ o

/-- A directory handler only learns. -/
theorem DirectoryProgram.run_learns (p : DirectoryProgram ω α) (o : Overlay ω) :
    Learns b o (p.run b o).2 :=
  Program.run_learns DirectoryQuery.answer_learns _ o

end Handlers

/-! ## What learning keeps -/

namespace Overlay

variable {ω : Type} {b : Backing ω} {o o' : Overlay ω}

/-- Learning stages nothing. -/
theorem Learns.changes_eq (h : Learns b o o') : o'.stores.changes = o.stores.changes := by
  induction h with
  | refl => rfl
  | tail _ step ih =>
    rw [← ih]
    cases step <;> rfl

/-- Callers are told nothing while an overlay learns. -/
theorem Learns.reports_eq (h : Learns b o o') : o'.reports = o.reports := by
  induction h with
  | refl => rfl
  | tail _ step ih =>
    rw [← ih]
    cases step with
    | log event hevent => simp [reports, Overlay.log, hevent]
    | look | record | relate => rfl

/-- What is known when an entry is recorded: the key of the entry, and what was known before. -/
theorem get?_record (o : Overlay ω) (k k' : PathKey) (entry : Entry) :
    (o.record k entry).stores.entries.get? k' =
      if k = k' then some entry else o.stores.entries.get? k' :=
  OrderedMap.get?_put _ _ _ _

/-- What is known stays known. -/
theorem Learns.isSome_get? (h : Learns b o o') {k : PathKey}
    (hk : (o.stores.entries.get? k).isSome) : (o'.stores.entries.get? k).isSome := by
  induction h with
  | refl => exact hk
  | tail _ step ih =>
    cases step with
    | look | log => exact ih
    | record entry =>
      rw [get?_record]
      split
      · rfl
      · exact ih
    | relate parent entry =>
      rw [get?_record]
      split
      · rfl
      · exact ih

/-- What is found as one kind is what is recorded then. -/
theorem get?_of_classifyAs {kind : EntryKind} {path : Path} {entry : Entry}
    (h : o.classifyAs b kind path = (some entry, o')) :
    o'.stores.entries.get? (b.hash path) = some entry := by
  unfold classifyAs at h
  split at h
  · rename_i found hfound
    obtain ⟨hentry, rfl⟩ := Prod.mk.inj h
    rw [hfound, hentry]
  · split at h
    · exact nomatch h
    · split at h
      · obtain ⟨hentry, rfl⟩ := Prod.mk.inj h
        rw [get?_record, if_pos rfl, hentry]
      · exact nomatch h

/-- What is found is what is recorded then. -/
theorem get?_of_classify {path : Path} {entry : Entry}
    (h : o.classify b path = (some entry, o')) :
    o'.stores.entries.get? (b.hash path) = some entry := by
  -- The path is found as a directory, or else as a file.
  unfold classify at h
  split at h
  · rename_i found o₁ hdirectory
    obtain ⟨hfound, rfl⟩ := Prod.mk.inj h
    exact get?_of_classifyAs (hfound ▸ hdirectory)
  · exact get?_of_classifyAs h

/-- What is found is recorded. -/
theorem isSome_of_classify {path : Path} {entry : Entry}
    (h : o.classify b path = (some entry, o')) :
    (o'.stores.entries.get? (b.hash path)).isSome := by
  rw [get?_of_classify h]
  rfl

/-! ## Classifying what is recorded -/

/-- What is recorded is found as it is recorded, without asking the backing. -/
theorem classifyAs_of_get? {path : Path} {entry : Entry} (kind : EntryKind)
    (h : o.stores.entries.get? (b.hash path) = some entry) :
    o.classifyAs b kind path = (some entry, o) := by
  unfold classifyAs
  rw [h]

/-- What is recorded is found as it is recorded, as a directory or as a file. -/
theorem classify_of_get? {path : Path} {entry : Entry}
    (h : o.stores.entries.get? (b.hash path) = some entry) :
    o.classify b path = (some entry, o) := by
  unfold classify classifyDirectory
  rw [classifyAs_of_get? .directory h]

/-- Classifying as one kind makes nothing known but the path. -/
theorem eq_or_isSome_of_classifyAs (kind : EntryKind) (path : Path) {k : PathKey}
    (h : ((o.classifyAs b kind path).2.stores.entries.get? k).isSome) :
    k = b.hash path ∨ (o.stores.entries.get? k).isSome := by
  unfold classifyAs at h
  split at h
  · exact Or.inr h
  · split at h
    · exact Or.inr h
    · split at h
      · rw [get?_record] at h
        split at h
        · rename_i hk
          exact Or.inl hk.symm
        · exact Or.inr h
      · exact Or.inr h

/-- Classifying makes nothing known but the path. -/
theorem eq_or_isSome_of_classify (path : Path) {k : PathKey} :
    ((o.classify b path).2.stores.entries.get? k).isSome →
      k = b.hash path ∨ (o.stores.entries.get? k).isSome :=
  kept_classify (P := fun now => (now.stores.entries.get? k).isSome →
      k = b.hash path ∨ (o.stores.entries.get? k).isSome) path
    (fun kind _ hnow h => (eq_or_isSome_of_classifyAs kind path h).elim Or.inl hnow) Or.inr

end Overlay

end TreePlan
