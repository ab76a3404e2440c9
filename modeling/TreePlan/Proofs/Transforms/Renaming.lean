import TreePlan.Proofs.Engine.Discovering
import TreePlan.Proofs.Handler
import TreePlan.Proofs.Text.Utf8
import TreePlan.Transforms.RenameExtension

/-!
# What renaming stages

A run that renames extensions does one of three things with a file (`Overlay.Renaming`): nothing if
the file has another extension, a failure if something is known or found at the target, and else it
stages the deletion of the file and a write of its content at the target. The handler of the file
orders the deletion and the handing over of the target; as nothing is known at the target, it is not
staged for deletion, so handing it over succeeds, and the handler of contents stages the content
that the options carry (`Engine.moving_works`). Only a file that was staged for deletion before the
run may stay although there is nothing at its target, as it cannot be read (`Overlay.Gone`).

A file is read through the overlay, which takes a file that cannot be read to be empty. So content
is kept as far as it can be read (`Engine.moving_keeps`), and a file that cannot be read is lost
(`Engine.moving_loses_unreadable`).
-/

namespace TreePlan

variable {ω : Type} {b : Backing ω}

namespace Overlay

/-! ## Known entries -/

/-- Classifying replaces no entry. -/
theorem get?_classifyAs (kind : EntryKind) (path : Path) {o : Overlay ω} {k : PathKey}
    (h : (o.stores.entries.get? k).isSome) :
    (o.classifyAs b kind path).2.stores.entries.get? k = o.stores.entries.get? k := by
  unfold classifyAs
  split
  · rfl
  · rename_i hunknown
    split
    · rfl
    · split
      · -- The entry is recorded under a key that was not known.
        have hne : b.hash path ≠ k := by
          rintro rfl
          rw [hunknown] at h
          exact nomatch h
        rw [get?_record, if_neg hne]
      · rfl

/-- Classifying as a directory or else as a file replaces no entry. -/
theorem get?_classify (path : Path) {o : Overlay ω} {k : PathKey}
    (h : (o.stores.entries.get? k).isSome) :
    (o.classify b path).2.stores.entries.get? k = o.stores.entries.get? k :=
  kept_classify (P := fun now => now.stores.entries.get? k = o.stores.entries.get? k) path
    (fun kind _ hnow => (get?_classifyAs kind path (hnow ▸ h)).trans hnow) rfl

/-- A path that is neither a directory nor a file is not known. -/
theorem get?_of_classify_eq_none {path : Path} {o o' : Overlay ω}
    (h : o.classify b path = (none, o')) : o.stores.entries.get? (b.hash path) = none := by
  cases hknown : o.stores.entries.get? (b.hash path) with
  | none => rfl
  | some entry =>
    rw [classify_of_get? hknown] at h
    exact nomatch (Prod.mk.inj h).1

/-- A content is what the backing says of a file at a moment, or it is empty, the backing cannot
read the file then, and the journal says so: the overlay at the moment, and the overlay with the
journal. -/
def ReadAs (b : Backing ω) (p : Path) (content : String) (now o : Overlay ω) : Prop :=
  (b.read p now.world).1 = .ok content ∨ content = "" ∧ ∃ cause,
    (b.read p now.world).1 = .error cause ∧ .readAsEmpty p cause ∈ o.journal

/-- A path that is not staged can be read: it says what the backing says, and a path that cannot be
read is empty. -/
theorem read_of_unstaged {path : Path} {o : Overlay ω}
    (h : o.stores.changes.get? (b.hash path) = none) :
    ∃ content, (o.read b path).1 = .ok content ∧ ReadAs b path content o (o.read b path).2 := by
  unfold read
  rw [h]
  dsimp only
  split
  · rename_i content w hread
    exact ⟨content, rfl, Or.inl (congrArg Prod.fst hread)⟩
  · rename_i cause w hread
    exact ⟨"", rfl, Or.inr ⟨rfl, cause, congrArg Prod.fst hread,
      List.mem_append_right _ List.mem_cons_self⟩⟩

/-! ## Renaming -/

/-- The overlay after a file has been moved to a target: its deletion and its content at the target
are staged. -/
def afterMoving (b : Backing ω) (p t : Path) (content : String) (o : Overlay ω) : Overlay ω :=
  let deleted := (o.stageDelete b p).log b (.executed .delete p)
  let written := ((deleted.read b t).2.stageWrite b t content).log b (.executed .stageData t)
  (written.log b (.executed .materialize t)).log b (.executed .traverseFile p)

/-- What is done with one file: the extensions, the file, the overlay before, and the overlay
after. -/
inductive Renaming (b : Backing ω) (source target : List UInt8) (p : Path) (o : Overlay ω) :
    Overlay ω → Prop
  /-- The file has another extension. -/
  | other (hsource : p.extension? ≠ some source) :
      Renaming b source target p o (o.log b (.executed .traverseFile p))
  /-- There is something at the target, so the handler fails. -/
  | taken {t : Path} {entry : Entry} {o₁ : Overlay ω} (hsource : p.extension? = some source)
      (htarget : p.withExtension? target = some t) (hclassify : o.classify b t = (some entry, o₁)) :
      Renaming b source target p o
        ((o₁.log b (.abandoned p (.stated (t.toText ++ " already exists")))).log b
          (.executed .traverseFile p))
  /-- There is nothing at the target, so the file is moved. -/
  | moved {t : Path} {content : String} {o₁ o₂ : Overlay ω} (hsource : p.extension? = some source)
      (htarget : p.withExtension? target = some t) (hclassify : o.classify b t = (none, o₁))
      (hread : o₁.read b p = (.ok content, o₂)) :
      Renaming b source target p o (o₂.afterMoving b p t content)

/-- A file is not moved, though there is nothing at its target, because it has been staged for
deletion: the extensions, the file, the overlay before, and the overlay after. -/
inductive Gone (b : Backing ω) (source target : List UInt8) (p : Path) (o : Overlay ω) :
    Overlay ω → Prop
  /-- The handler fails when it reads the file. -/
  | gone {t : Path} {o₁ : Overlay ω} (hsource : p.extension? = some source)
      (htarget : p.withExtension? target = some t) (hclassify : o.classify b t = (none, o₁))
      (hdeleted : o.stores.changes.get? (b.hash p) = some .delete) :
      Gone b source target p o
        ((o₁.log b (.abandoned p (.stated (RunError.fileDeleted p).message))).log b
          (.executed .traverseFile p))

/-- Moving a file is some moves. -/
theorem afterMoving_moves (p t : Path) (content : String) (o : Overlay ω) :
    Moves b o (o.afterMoving b p t content) := by
  have hdeleted := Relation.ReflTransGen.single (Move.carry (b := b) o p .delete)
  have hread := hdeleted.trans (read_learns t _).moves
  have hwritten := hread.tail (.carry _ t (.write content))
  exact (hwritten.tail (.announce _ .content t)).tail (.announce _ .file p)

/-- What is staged after a file has been moved: its deletion, its content at the target, and what
was staged under other keys. -/
theorem get?_afterMoving (p t : Path) (content : String) (o : Overlay ω) (k : PathKey) :
    (o.afterMoving b p t content).stores.changes.get? k =
      if b.hash t = k then some (.write content)
      else if b.hash p = k then some .delete else o.stores.changes.get? k := by
  have hstores := stores_read (b := b) t ((o.stageDelete b p).log b (.executed .delete p))
  have hwrite := get?_stageChange (b := b) t (.write content)
    (((o.stageDelete b p).log b (.executed .delete p)).read b t).2 k
  rw [hstores] at hwrite
  refine hwrite.trans ?_
  congr 1
  exact get?_stageChange p .delete o k

/-- What is recorded after a file has been moved: the file, the target, and what was recorded under
other keys. -/
theorem entries_afterMoving (p t : Path) (content : String) (o : Overlay ω) (k : PathKey) :
    (o.afterMoving b p t content).stores.entries.get? k =
      if b.hash t = k then some ⟨.file, t⟩
      else if b.hash p = k then some ⟨.file, p⟩ else o.stores.entries.get? k := by
  have hstores := stores_read (b := b) t ((o.stageDelete b p).log b (.executed .delete p))
  have hwrite := entries_stageChange (b := b) t (.write content)
    (((o.stageDelete b p).log b (.executed .delete p)).read b t).2 k
  rw [hstores] at hwrite
  refine hwrite.trans ?_
  congr 1
  exact entries_stageChange p .delete o k

/-- What is staged for known keys other than that of the file is left alone. -/
theorem Renaming.get?_eq {source target : List UInt8} {p : Path} {o o' : Overlay ω}
    (h : Renaming b source target p o o') {k : PathKey} (hknown : (o.stores.entries.get? k).isSome)
    (hk : b.hash p ≠ k) : o'.stores.changes.get? k = o.stores.changes.get? k := by
  cases h with
  | other => rfl
  | @taken t entry o₁ _ _ hclassify =>
    have hchanges := (classify_learns (b := b) t o).changes_eq
    rw [hclassify] at hchanges
    exact congrArg (Changes.get? · k) hchanges
  | @moved t content o₁ o₂ _ _ hclassify hread =>
    have hstores := classify_eq_none hclassify
    have hunknown := get?_of_classify_eq_none hclassify
    have hstores' := stores_read (b := b) p o₁
    rw [hread] at hstores'
    have htk : b.hash t ≠ k := by
      rintro rfl
      rw [hunknown] at hknown
      exact nomatch hknown
    rw [get?_afterMoving, if_neg htk, if_neg hk, hstores', hstores]

/-! ## What is kept -/

/-- Every file whose deletion is staged has its content staged at its target, as it was read when
its turn came: the extension, when the turn of a file came, and the overlay. -/
def Kept (b : Backing ω) (target : List UInt8) (turn : Path → Overlay ω → Prop) (o : Overlay ω) :
    Prop :=
  ∀ k, o.stores.changes.get? k = some .delete → ∃ p t content now,
    o.stores.entries.get? k = some ⟨.file, p⟩ ∧ p.withExtension? target = some t ∧
      o.stores.entries.get? (b.hash t) = some ⟨.file, t⟩ ∧
      o.stores.changes.get? (b.hash t) = some (.write content) ∧
      turn p now ∧ ReadAs b p content (now.classify b t).2 o

variable {turn : Path → Overlay ω → Prop}

/-- A content stays what has been read. -/
theorem ReadAs.mono {p : Path} {content : String} {now o o' : Overlay ω}
    (h : ReadAs b p content now o) (hjournal : o.journal <+: o'.journal) :
    ReadAs b p content now o' := by
  refine h.imp_right fun ⟨hempty, cause, hread, hcause⟩ => ⟨hempty, cause, hread, ?_⟩
  exact hjournal.subset hcause

/-- Content stays kept while nothing is staged and no entry is replaced. -/
theorem Kept.mono {target : List UInt8} {o o' : Overlay ω} (h : Kept b target turn o)
    (hc : Coherent b o) (hchanges : o'.stores.changes = o.stores.changes)
    (hentries : ∀ k, (o.stores.entries.get? k).isSome →
      o'.stores.entries.get? k = o.stores.entries.get? k)
    (hjournal : o.journal <+: o'.journal) : Kept b target turn o' := by
  intro k hk
  rw [hchanges] at hk
  obtain ⟨p, t, content, now, hp, ht, hknown, hstaged, hturn, hread⟩ := h k hk
  refine ⟨p, t, content, now, ?_, ht, ?_, by rw [hchanges, hstaged], hturn, hread.mono hjournal⟩
  · rw [hentries k (hc.known_of_staged k (by rw [hk]; rfl)), hp]
  · rw [hentries _ (hc.known_of_staged _ (by rw [hstaged]; rfl)), hknown]

/-- Content stays kept when a file with a key that is not staged is moved to a target with a key
that is not known. -/
theorem Kept.afterMoving {target : List UInt8} {p t : Path} {content : String}
    {now o : Overlay ω} (h : Kept b target turn o) (hc : Coherent b o)
    (hunstaged : o.stores.changes.get? (b.hash p) = none)
    (hunknown : o.stores.entries.get? (b.hash t) = none) (ht : p.withExtension? target = some t)
    (hturn : turn p now) (hread : ReadAs b p content (now.classify b t).2 o) :
    Kept b target turn (o.afterMoving b p t content) := by
  have hjournal := (afterMoving_moves (b := b) p t content o).prefix_journal
  -- What is staged has other keys than the file and the target.
  have hstaged (k : PathKey) (hk : (o.stores.changes.get? k).isSome) :
      b.hash t ≠ k ∧ b.hash p ≠ k := by
    constructor
    · rintro rfl
      rw [hc.unstaged_of_unknown hunknown] at hk
      exact nomatch hk
    · rintro rfl
      rw [hunstaged] at hk
      exact nomatch hk
  intro k hk
  rw [get?_afterMoving] at hk
  split at hk
  · exact nomatch hk
  · rename_i htk
    split at hk
    · rename_i hpk
      subst hpk
      refine ⟨p, t, content, now, ?_, ht, ?_, ?_, hturn, hread.mono hjournal⟩
      · rw [entries_afterMoving, if_neg htk, if_pos rfl]
      · rw [entries_afterMoving, if_pos rfl]
      · rw [get?_afterMoving, if_pos rfl]
    · rename_i hpk
      obtain ⟨p', t', content', now', hp', ht', hknown, hwritten, hturn', hread'⟩ := h k hk
      obtain ⟨htt', hpt'⟩ := hstaged (b.hash t') (by rw [hwritten]; rfl)
      refine ⟨p', t', content', now', ?_, ht', ?_, ?_, hturn', hread'.mono hjournal⟩
      · rw [entries_afterMoving, if_neg htk, if_neg hpk, hp']
      · rw [entries_afterMoving, if_neg htt', if_neg hpt', hknown]
      · rw [get?_afterMoving, if_neg htt', if_neg hpt', hwritten]

/-- Content stays kept whatever is done with a file at which nothing is staged when its turn
comes. -/
theorem Renaming.kept {source target : List UInt8} {p : Path} {o o' : Overlay ω}
    (h : Renaming b source target p o o') (hc : Coherent b o) (hkept : Kept b target turn o)
    (hunstaged : o.stores.changes.get? (b.hash p) = none) (hturn : turn p o) :
    Kept b target turn o' := by
  cases h with
  | other => exact hkept.mono hc rfl (fun _ _ => rfl) (List.prefix_append _ _)
  | @taken t entry o₁ _ _ hclassify =>
    have hlearns := classify_learns (b := b) t o
    have hentries (k : PathKey) (hk : (o.stores.entries.get? k).isSome) :=
      get?_classify (b := b) t hk
    rw [hclassify] at hlearns hentries
    refine hkept.mono hc hlearns.changes_eq hentries (hlearns.prefix_journal.trans ?_)
    exact (List.prefix_append _ _).trans (List.prefix_append _ _)
  | @moved t content o₁ o₂ _ ht hclassify hread =>
    have hstores := classify_eq_none hclassify
    have hunknown := get?_of_classify_eq_none hclassify
    have hstores' := stores_read (b := b) p o₁
    have hlearns : Learns b o o₂ := by
      have hboth := (classify_learns (b := b) t o).trans (read_learns p _)
      rw [hclassify, hread] at hboth
      exact hboth
    have hunstaged' : o₁.stores.changes.get? (b.hash p) = none := hstores ▸ hunstaged
    obtain ⟨content', hcontent', hreadAs⟩ := read_of_unstaged hunstaged'
    rw [hread] at hstores' hcontent' hreadAs
    obtain rfl := Except.ok.inj hcontent'
    have hsame : o₂.stores = o.stores := hstores'.trans hstores
    refine Kept.afterMoving ?_ (hc.learns hlearns) ?_ ?_ ht hturn ?_
    · exact hkept.mono hc hlearns.changes_eq (fun k _ => by rw [hsame]) hlearns.prefix_journal
    · rw [hsame]
      exact hunstaged
    · rw [hsame]
      exact hunknown
    · rw [hclassify]
      exact hreadAs

/-- A deletion in the plan comes with a write of the content at the target. -/
theorem Kept.of_mem_plan {target : List UInt8} {o : Overlay ω} (h : Kept b target turn o)
    {p : Path} (hp : .delete p ∈ o.plan) : ∃ t content now, p.withExtension? target = some t ∧
      .write t content ∈ o.plan ∧ turn p now ∧ ReadAs b p content (now.classify b t).2 o := by
  obtain ⟨⟨k, c⟩, hmem, hstep⟩ := List.mem_filterMap.mp hp
  obtain ⟨entry, hentry, hdelete⟩ := Option.map_eq_some_iff.mp hstep
  cases c with
  | write data => exact nomatch hdelete
  | delete =>
    have hstaged : o.stores.changes.get? k = some .delete :=
      (OrderedMap.get?_eq_some_iff _ _ _).mpr hmem
    obtain ⟨p', t, content, now, hp', ht, hknown, hwritten, hturn, hread⟩ := h k hstaged
    obtain rfl : p' = p := by
      rw [hp'] at hentry
      obtain rfl := Option.some.inj hentry
      exact PlanStep.delete.inj hdelete
    refine ⟨t, content, now, ht, List.mem_filterMap.mpr ⟨(b.hash t, .write content), ?_, ?_⟩,
      hturn, hread⟩
    · exact (OrderedMap.get?_eq_some_iff _ _ _).mp hwritten
    · dsimp only
      rw [hknown]
      rfl

end Overlay

open Overlay

/-! ## The handler of a file -/

section Handler

variable {source target : String} {v : Visit Unit} {t : Path} {o o₁ o₂ : Overlay ω}

/-- The handler orders nothing for a file with another extension. -/
theorem run_moveFile_other (target : String)
    (h : v.path.extension? ≠ some (Utf8.encode source.toList)) :
    (moveFile source target v).run b o = (.ok [], o) := by
  unfold moveFile
  rw [if_neg h]
  rfl

/-- The handler fails if there is something at the target. -/
theorem run_moveFile_taken {entry : Entry}
    (hsource : v.path.extension? = some (Utf8.encode source.toList))
    (htarget : v.path.withExtension? (Utf8.encode target.toList) = some t)
    (hclassify : o.classify b t = (some entry, o₁)) :
    (moveFile source target v).run b o =
      (.error (.stated (t.toText ++ " already exists")), o₁) := by
  unfold moveFile
  rw [if_pos hsource, htarget]
  dsimp only
  rw [FileProgram.run_bind, FileProgram.run_classify, hclassify]
  rfl

/-- The handler orders the deletion of the file and the handing over of the target, with the content
of the file in its options. -/
theorem run_moveFile_moved {content : String}
    (hsource : v.path.extension? = some (Utf8.encode source.toList))
    (htarget : v.path.withExtension? (Utf8.encode target.toList) = some t)
    (hclassify : o.classify b t = (none, o₁)) (hread : o₁.read b v.path = (.ok content, o₂)) :
    (moveFile source target v).run b o =
      (.ok [.delete v.path, .materialize t (v.options.put contentOption content)], o₂) := by
  unfold moveFile
  rw [if_pos hsource, htarget]
  dsimp only
  rw [FileProgram.run_bind, FileProgram.run_classify, hclassify]
  dsimp only [Option.isSome_none]
  rw [if_neg Bool.false_ne_true, FileProgram.run_bind, FileProgram.run_read, hread]
  rfl

/-- The handler fails if there is nothing at the target, but the file has been staged for
deletion. -/
theorem run_moveFile_gone (hsource : v.path.extension? = some (Utf8.encode source.toList))
    (htarget : v.path.withExtension? (Utf8.encode target.toList) = some t)
    (hclassify : o.classify b t = (none, o₁))
    (hread : o₁.read b v.path = (.error (.fileDeleted v.path), o₁)) :
    (moveFile source target v).run b o =
      (.error (.stated (RunError.fileDeleted v.path).message), o₁) := by
  unfold moveFile
  rw [if_pos hsource, htarget]
  dsimp only
  rw [FileProgram.run_bind, FileProgram.run_classify, hclassify]
  dsimp only [Option.isSome_none]
  rw [if_neg Bool.false_ne_true, FileProgram.run_bind, FileProgram.run_read, hread]

end Handler

namespace Engine

/-! ## One file -/

/-- The engine that moves discovered files from one extension to another. -/
def moving (b : Backing ω) (d : Discovery) (source target : String)
    (dependencies : Dependencies) : Engine ω Unit :=
  ⟨b, extensionRename ω d source target, dependencies⟩

section Runs

variable (d : Discovery) (source target : String) (dependencies : Dependencies) (options : Options)
  (state : Option Unit) {root : Path} {o o₁ o₂ : Overlay ω} {files : List Path}

/-- The engine works on files only if there is something to discover. -/
theorem moving_filesOnly (h : d.includes.isEmpty = false) :
    (moving b d source target dependencies).FilesOnly := ⟨h, fun _ _ => rfl, fun _ _ => rfl⟩

/-- The handler of files is the one that moves them. -/
theorem handleFile_moving (v : Visit Unit) :
    (moving b d source target dependencies).transform.handleFile v =
      moveFile (bareExtension source) (bareExtension target) v := rfl

/-- What follows when files are moved and the handler of a recorded file orders something. -/
theorem perform_moving_ok {p : Path} {commands : List FileCommand}
    (h : (o.stores.entries.get? (b.hash p)).isSome)
    (hrun : (moveFile (bareExtension source) (bareExtension target)
      ((moving b d source target dependencies).visit state p options)).run b o =
        (.ok commands, o₁)) :
    (moving b d source target dependencies).perform state (.command (.traverseFile p options)) o =
      (.ok (commands.map (.command ·.widen) ++ [.announcement .file p]), o₁) := by
  rw [← handleFile_moving] at hrun
  exact perform_traverseFile_ok h hrun

/-- What follows when files are moved and the handler of a recorded file fails. -/
theorem perform_moving_error {p : Path} {failure : Failure}
    (h : (o.stores.entries.get? (b.hash p)).isSome)
    (hrun : (moveFile (bareExtension source) (bareExtension target)
      ((moving b d source target dependencies).visit state p options)).run b o =
        (.error failure, o₁)) :
    (moving b d source target dependencies).perform state (.command (.traverseFile p options)) o =
      (.ok [.announcement .file p], o₁.log b (.abandoned p failure)) := by
  rw [← handleFile_moving] at hrun
  exact perform_traverseFile_error h hrun

/-- Handing over a target at which nothing is staged stages the content that the options carry. -/
theorem moving_works_target {t : Path} {content : String}
    (hoptions : options.get? contentOption = some content)
    (h : o.stores.changes.get? (b.hash t) = none) :
    (moving b d source target dependencies).Works state [.command (.materialize t options)] o
      (.ok ()) ((((o.read b t).2.stageWrite b t content).log b (.executed .stageData t)).log b
        (.executed .materialize t)) := by
  obtain ⟨data, hdata, -⟩ := read_of_unstaged h
  have hstep : (moving b d source target dependencies).perform state
      (.command (.materialize t options)) o =
        (.ok [.command (.stage t content), .announcement .content t], (o.read b t).2) := by
    rw [perform_materialize (Prod.ext hdata rfl) rfl]
    unfold moving extensionRename visit
    dsimp only
    rw [hoptions]
    rfl
  exact works_of_perform hstep (.step rfl (.step rfl (.done _)))

/-- A recorded file with the extension that can be read is moved to a target of which nothing is
known. -/
theorem moving_works_moved (hc : Coherent b o) {p t : Path} {content : String}
    (hknown : (o.stores.entries.get? (b.hash p)).isSome)
    (hsource : p.extension? = some (Utf8.encode (bareExtension source).toList))
    (ht : p.withExtension? (Utf8.encode (bareExtension target).toList) = some t)
    (hclassify : o.classify b t = (none, o₁)) (hread : o₁.read b p = (.ok content, o₂)) :
    (moving b d source target dependencies).Works state [.command (.traverseFile p options)] o
      (.ok ()) (o₂.afterMoving b p t content) := by
  -- The target is not known, so it is not the file, and nothing is staged there.
  have hunknown := get?_of_classify_eq_none hclassify
  have hne : b.hash p ≠ b.hash t := by
    intro he
    rw [he, hunknown] at hknown
    exact nomatch hknown
  have htarget := hc.unstaged_of_unknown hunknown
  have hstores := classify_eq_none hclassify
  have hstores' := stores_read (b := b) p o₁
  rw [hread] at hstores'
  have hstep := perform_moving_ok d source target dependencies options state hknown
    (run_moveFile_moved hsource ht hclassify hread)
  have hoptions : (options.put contentOption content).get? contentOption = some content := by
    rw [OrderedMap.get?_put, if_pos rfl]
  have hdeleted : ((o₂.stageDelete b p).log b (.executed .delete p)).stores.changes.get?
      (b.hash t) = none := by
    have hstaged := get?_stageChange (b := b) p .delete o₂ (b.hash t)
    rw [if_neg hne, hstores', hstores, htarget] at hstaged
    exact hstaged
  -- The file is deleted first, and then its target is handed over.
  have hhanded := moving_works_target d source target dependencies _ state hoptions hdeleted
  exact works_of_perform hstep (.step rfl (hhanded.append_ok (.step rfl (.done _))))

/-- One of the three things is done with a recorded file, unless it has been staged for deletion and
there is nothing at its target. -/
theorem moving_works_or_gone (htarget : Path.separator ∉ Utf8.encode (bareExtension target).toList)
    (hc : Coherent b o) {p : Path} (hknown : (o.stores.entries.get? (b.hash p)).isSome) :
    ∃ o', (moving b d source target dependencies).Works state
        [.command (.traverseFile p options)] o (.ok ()) o' ∧
      (Renaming b (Utf8.encode (bareExtension source).toList)
          (Utf8.encode (bareExtension target).toList) p o o' ∨
        Gone b (Utf8.encode (bareExtension source).toList)
          (Utf8.encode (bareExtension target).toList) p o o') := by
  by_cases hsource : p.extension? = some (Utf8.encode (bareExtension source).toList)
  · obtain ⟨t, ht⟩ :
        ∃ t, p.withExtension? (Utf8.encode (bareExtension target).toList) = some t := by
      unfold Path.withExtension?
      rw [if_neg htarget]
      exact ⟨_, rfl⟩
    obtain ⟨found, o₁, hclassify⟩ : ∃ found o₁, o.classify b t = (found, o₁) := ⟨_, _, rfl⟩
    obtain ⟨result, o₂, hread⟩ : ∃ result o₂, o₁.read b p = (result, o₂) := ⟨_, _, rfl⟩
    cases found with
    | some entry =>
      have hstep := perform_moving_error d source target dependencies options state hknown
        (run_moveFile_taken hsource ht hclassify)
      exact ⟨_, works_of_perform hstep (.step rfl (.done _)),
        Or.inl (.taken hsource ht hclassify)⟩
    | none =>
      cases result with
      | ok content =>
        have hworks := moving_works_moved d source target dependencies options state hc hknown
          hsource ht hclassify hread
        exact ⟨_, hworks, Or.inl (.moved hsource ht hclassify hread)⟩
      | error error =>
        obtain ⟨rfl, rfl, hdeleted⟩ := read_eq_error hread
        rw [classify_eq_none hclassify] at hdeleted
        have hstep := perform_moving_error d source target dependencies options state hknown
          (run_moveFile_gone hsource ht hclassify hread)
        exact ⟨_, works_of_perform hstep (.step rfl (.done _)),
          Or.inr (.gone hsource ht hclassify hdeleted)⟩
  · have hstep := perform_moving_ok d source target dependencies options state hknown
      (run_moveFile_other (bareExtension target) hsource)
    exact ⟨_, works_of_perform hstep (.step rfl (.done _)), Or.inl (.other hsource)⟩

/-- One of the three things is done with a recorded file at which nothing is staged. -/
theorem moving_works (htarget : Path.separator ∉ Utf8.encode (bareExtension target).toList)
    (hc : Coherent b o) {p : Path} (hknown : (o.stores.entries.get? (b.hash p)).isSome)
    (hunstaged : o.stores.changes.get? (b.hash p) = none) :
    ∃ o', (moving b d source target dependencies).Works state
        [.command (.traverseFile p options)] o (.ok ()) o' ∧
      Renaming b (Utf8.encode (bareExtension source).toList)
        (Utf8.encode (bareExtension target).toList) p o o' := by
  obtain ⟨o', hworks, hrenaming | hgone⟩ := moving_works_or_gone d source target dependencies
    options state htarget hc hknown
  · exact ⟨o', hworks, hrenaming⟩
  · obtain ⟨-, -, -, hdeleted⟩ := hgone
    exact nomatch hunstaged.symm.trans hdeleted

/-! ## The run -/

/-- An extension without a slash is written without a separator. -/
theorem separator_not_mem_bareExtension (h : '/' ∉ target.toList) :
    Path.separator ∉ Utf8.encode (bareExtension target).toList := by
  have hslash : '/' ∉ (bareExtension target).toList := by
    rw [bareExtension, String.toList_ofList]
    exact fun hmem => h ((List.dropWhile_suffix _).subset hmem)
  exact Utf8.not_mem_encode (by decide) hslash

/-- One of the three things is done with each of the files that a run finds, if nothing is staged at
them, when its turn comes, which is after the traversals of the files before it. What such a thing
keeps holds after the traversals of the files. -/
theorem moving_traversals (htarget : Path.separator ∉ Utf8.encode (bareExtension target).toList)
    (hfinds : (moving b d source target dependencies).Finds root o files o₁) (hc : Coherent b o₁)
    (hunstaged : ∀ p ∈ files, o₁.stores.changes.get? (b.hash p) = none)
    {P : List Path → Overlay ω → Prop} (hP : P [] o₁)
    (hstep : ∀ before p rest o o', before ++ p :: rest = files →
      (moving b d source target dependencies).Works state (traversals options before) o₁
        (.ok ()) o →
      Coherent b o → (∀ q ∈ files, (o.stores.entries.get? (b.hash q)).isSome) →
      o.stores.changes.get? (b.hash p) = none →
      Renaming b (Utf8.encode (bareExtension source).toList)
        (Utf8.encode (bareExtension target).toList) p o o' → P before o → P (before ++ [p]) o') :
    ∃ o₂, (moving b d source target dependencies).Works state (traversals options files) o₁
      (.ok ()) o₂ ∧ P files o₂ := by
  have hnodup : (files.map b.hash).Nodup := hfinds.nodup
  have hknown (q : Path) (hq : q ∈ files) : (o₁.stores.entries.get? (b.hash q)).isSome :=
    hfinds.isSome_get? hq
  -- The files that are left stay recorded, and nothing is staged at them.
  obtain ⟨o₂, hworks, -, -, -, hend⟩ := works_files (e := moving b d source target dependencies)
    options state
    (P := fun before o => Coherent b o ∧ (∀ q ∈ files, (o.stores.entries.get? (b.hash q)).isSome) ∧
      (∀ q ∈ files, b.hash q ∉ before.map b.hash → o.stores.changes.get? (b.hash q) = none) ∧
      P before o)
    hnodup hknown
    (by
      rintro before p rest o' hfiles hnew - hbefore ⟨hc', hknown', hunstaged', hP'⟩
      have hp : p ∈ files := hfiles ▸ List.mem_append_right _ List.mem_cons_self
      obtain ⟨o₂, hworks, hrenaming⟩ := moving_works d source target dependencies options state
        htarget hc' (hknown' p hp) (hunstaged' p hp hnew)
      refine ⟨o₂, hworks, hc'.moves hworks.moves,
        fun q hq => hworks.moves.isSome_get? (hknown' q hq), fun q hq hnot => ?_,
        hstep before p rest o' o₂ hfiles hbefore hc' hknown' (hunstaged' p hp hnew) hrenaming
          hP'⟩
      rw [List.map_append, List.mem_append, not_or, List.map_singleton, List.mem_singleton] at hnot
      rw [hrenaming.get?_eq (hknown' q hq) (Ne.symm hnot.2)]
      exact hunstaged' q hq hnot.1)
    ⟨hc, hknown, fun q hq _ => hunstaged q hq, hP⟩
  exact ⟨o₂, hworks, hend⟩

/-- A run that renames extensions from a new overlay keeps content as far as it can be read: a file
that the plan deletes is one of those that were found, and it is written at its target, with what the
file system said of it when its turn came and the target had been looked up, or with nothing if it
could not be read then. -/
theorem moving_keeps (b : Backing ω) (includes excludes : List String) (source target : String)
    (dependencies : Dependencies) (root : Path) (options : Options) (previous : Option Unit) (w : ω)
    (htarget : '/' ∉ target.toList) {plan : Plan} {o' : Overlay ω}
    (h : (moving b (.new includes excludes) source target dependencies).Ends root options previous
      (.new w) (.ok plan) o') {p : Path} (hp : .delete p ∈ plan) :
    ∃ files o₁ now t content,
      (moving b (.new includes excludes) source target dependencies).Finds root (.new w) files o₁ ∧
      (moving b (.new includes excludes) source target dependencies).Turn options previous o₁ files
        p now ∧
      p.withExtension? (Utf8.encode (bareExtension target).toList) = some t ∧
      .write t content ∈ plan ∧ ReadAs b p content (now.classify b t).2 o' := by
  have hincludes := Discovery.isEmpty_includes includes excludes
  have hfiles : (moving b (.new includes excludes) source target dependencies).FilesOnly :=
    moving_filesOnly (.new includes excludes) source target dependencies hincludes
  rcases hfiles.of_ends hincludes h with rfl | ⟨files, o₁, hfinds, hplan⟩
  · exact nomatch hp
  · have hlearns : Learns b (.new w) o₁ := hfinds.learns
    have hempty : o₁.stores.changes = .empty := hlearns.changes_eq
    have hunstaged (k : PathKey) : o₁.stores.changes.get? k = none := by
      rw [hempty]
      rfl
    obtain ⟨o₂, hworks, hkept⟩ := moving_traversals (.new includes excludes) source target
      dependencies options previous (separator_not_mem_bareExtension target htarget) hfinds
      ((coherent_new w).learns hlearns) (fun q _ => hunstaged _)
      (P := fun _ o => Kept b (Utf8.encode (bareExtension target).toList)
        ((moving b (.new includes excludes) source target dependencies).Turn options previous o₁
          files) o)
      (fun k hk => nomatch (hunstaged k).symm.trans hk)
      fun before q after _ _ hfiles hbefore hc _ hnone hrenaming hkept =>
        hrenaming.kept hc hkept hnone ⟨before, after, hfiles.symm, hbefore⟩
    obtain ⟨rfl, hmoves⟩ := hplan o₂ hworks
    obtain ⟨t, content, now, ht, hwrite, hturn, hread⟩ := hkept.of_mem_plan hp
    exact ⟨files, o₁, now, t, content, hfinds, hturn, ht, hwrite,
      hread.mono hmoves.prefix_journal⟩

end Runs

/-- A directory with one file that cannot be read as text. -/
def unreadable : Backing Unit :=
  .ofView (fun p => ⟨Vector.replicate 32 (p.bytes.getLast?.getD 0)⟩) id
    (fun _ p => if p = .ofString "r" then .ok (some .directory) else .error (.absent p))
    (fun _ _ => .ok []) (fun _ _ => .error .notText)
    (fun _ _ _ _ => .ok [.ofString "r/a.txt"])

/-- The plan of a run that renames the file that cannot be read. -/
def unreadablePlan : Plan := [.delete (.ofString "r/a.txt"), .write (.ofString "r/a.md") ""]

/-- A file that cannot be read comes out empty at its target, and the journal says so. -/
theorem moving_keeps_unreadable :
    ∃ o', (moving unreadable (.new [] []) "txt" "md" .empty).Ends (.ofString "r") .empty none
        (.new ()) (.ok unreadablePlan) o' ∧
      ∃ files o₁ now t content,
        (moving unreadable (.new [] []) "txt" "md" .empty).Finds (.ofString "r") (.new ()) files
          o₁ ∧
        (moving unreadable (.new [] []) "txt" "md" .empty).Turn .empty none o₁ files
          (.ofString "r/a.txt") now ∧
        (Path.ofString "r/a.txt").withExtension? (Utf8.encode (bareExtension "md").toList) =
          some t ∧
        .write t content ∈ unreadablePlan ∧
          ReadAs unreadable (.ofString "r/a.txt") content (now.classify unreadable t).2 o' := by
  have hends : ∃ o', (moving unreadable (.new [] []) "txt" "md" .empty).Ends (.ofString "r") .empty
      none (.new ()) (.ok unreadablePlan) o' := ⟨_, 4, 1, rfl⟩
  obtain ⟨o', h⟩ := hends
  exact ⟨o', h, moving_keeps unreadable [] [] "txt" "md" .empty (.ofString "r") .empty none ()
    (by decide) h List.mem_cons_self⟩

/-- A file that cannot be read is deleted all the same, although nothing is known of its content. -/
theorem moving_loses_unreadable :
    ∃ o', (moving unreadable (.new [] []) "txt" "md" .empty).Ends (.ofString "r") .empty none
        (.new ()) (.ok unreadablePlan) o' ∧
      .delete (.ofString "r/a.txt") ∈ unreadablePlan ∧
        ∀ w content, (unreadable.read (.ofString "r/a.txt") w).1 ≠ .ok content :=
  ⟨_, ⟨4, 1, rfl⟩, List.mem_cons_self, fun _ _ => nofun⟩

end Engine

end TreePlan
