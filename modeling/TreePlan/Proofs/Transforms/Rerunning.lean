import Mathlib
import TreePlan.Proofs.Engine.Rediscovering
import TreePlan.Proofs.Transforms.Removing
import TreePlan.Proofs.Transforms.Renaming

/-!
# Removing and renaming again

In worlds that stay as they are, a second removal or renaming over the same overlay changes nothing
(`Engine.removing_moving_again`). A removed file is staged for deletion under its own path, so it is
staged again as it is (`Overlay.Dropped`). A file with the extension is refused: either something is
known at its target, as is when it was moved, or it was staged for deletion from the start, and
nothing is found at its target (`Overlay.Refused`). In both cases its handler fails, and what makes
it fail lasts, whatever is done with the other files.
-/

namespace TreePlan

variable {ω : Type} {b : Backing ω} {W : ω → Prop}

namespace Overlay

variable {source target : List UInt8} {p q : Path} {o o' o₁ o₂ : Overlay ω}

/-! ## Removed files -/

/-- A file is staged for deletion under its own path. -/
structure Dropped (b : Backing ω) (p : Path) (s : Stores) : Prop where
  /-- It is staged for deletion. -/
  get?_changes : s.changes.get? (b.hash p) = some .delete
  /-- It is recorded as a file under its own path. -/
  get?_entries : s.entries.get? (b.hash p) = some ⟨.file, p⟩

/-- Removing a file drops it, and no other file is picked up. -/
theorem settles_afterRemoving (p : Path) (o : Overlay ω) :
    Settles b (Dropped b) p o (o.afterRemoving b p) where
  entries k _ := by
    have hentries := entries_stageChange (b := b) p .delete o k
    by_cases hk : b.hash p = k
    · exact Or.inr ⟨hk.symm, hentries.trans (if_pos hk)⟩
    · exact Or.inl (hentries.trans (if_neg hk))
  settled :=
    ⟨(get?_stageChange p .delete o _).trans (if_pos rfl),
      (entries_stageChange p .delete o _).trans (if_pos rfl)⟩
  still q hne _ hdropped :=
    ⟨(get?_stageChange p .delete o _).trans ((if_neg hne.symm).trans hdropped.get?_changes),
      (entries_stageChange p .delete o _).trans ((if_neg hne.symm).trans hdropped.get?_entries)⟩

/-- Removing a dropped file stores nothing new. -/
theorem repeated_afterRemoving (h : Dropped b p o.stores) :
    Repeated (fun _ => true) (fun _ => false) [p] o (o.afterRemoving b p) where
  stores_eq := stores_stageChange h.get?_entries h.get?_changes
  traversed := by
    have hkind : CommandKind.delete ≠ .traverseFile := by decide
    rw [afterRemoving, done_executed_self, done_executed_of_ne hkind]
    rfl
  deleted := by
    have hkind : CommandKind.traverseFile ≠ .delete := by decide
    rw [afterRemoving, done_executed_of_ne hkind, done_executed_self]
    rfl
  written := by
    have hkind : CommandKind.traverseFile ≠ .stageData := by decide
    have hkind' : CommandKind.delete ≠ .stageData := by decide
    rw [afterRemoving, done_executed_of_ne hkind, done_executed_of_ne hkind']
    rfl
  failed := by
    rw [afterRemoving, abandoned_executed, abandoned_executed]
    exact (List.append_nil _).symm

/-! ## Refused files -/

/-- A file is not moved: it has another extension, or something is known at its target, or it is
staged for deletion, and nothing is found at its target. -/
inductive Refused (b : Backing ω) (W : ω → Prop) (source target : List UInt8) (p : Path)
    (s : Stores) : Prop
  /-- The file has another extension. -/
  | other (hsource : p.extension? ≠ some source)
  /-- Something is known at the target. -/
  | taken {t : Path} (htarget : p.withExtension? target = some t)
      (hknown : (s.entries.get? (b.hash t)).isSome)
  /-- The file is staged for deletion. -/
  | gone {t : Path} (htarget : p.withExtension? target = some t)
      (hdeleted : s.changes.get? (b.hash p) = some .delete)
      (hmissing : ∀ w, W w → ∀ kind, (b.stat t w).1 ≠ .ok (some kind))

/-- A file stays refused if what is known stays known, and what is staged for the file stays
staged. -/
theorem Refused.mono (h : Refused b W source target q o.stores)
    (hknown : ∀ k, (o.stores.entries.get? k).isSome → (o'.stores.entries.get? k).isSome)
    (hstaged : o'.stores.changes.get? (b.hash q) = o.stores.changes.get? (b.hash q)) :
    Refused b W source target q o'.stores := by
  cases h with
  | other hsource => exact .other hsource
  | taken htarget htaken => exact .taken htarget (hknown _ htaken)
  | gone htarget hdeleted hmissing => exact .gone htarget (hstaged.trans hdeleted) hmissing

/-- Whatever is done with a file, no entry is replaced but that of the file, by the file. -/
theorem Renaming.entries_eq (h : Renaming b source target p o o') {k : PathKey}
    (hk : (o.stores.entries.get? k).isSome) :
    o'.stores.entries.get? k = o.stores.entries.get? k ∨
      k = b.hash p ∧ o'.stores.entries.get? k = some ⟨.file, p⟩ := by
  cases h with
  | other => exact Or.inl rfl
  | @taken t entry o₁ _ _ hclassify =>
    have hentries := get?_classify (b := b) t hk
    rw [hclassify] at hentries
    exact Or.inl hentries
  | @moved t content o₁ o₂ _ _ hclassify hread =>
    have hunknown := get?_of_classify_eq_none hclassify
    have hstores := stores_read (b := b) p o₁
    rw [hread, classify_eq_none hclassify] at hstores
    have hne : b.hash t ≠ k := by
      rintro rfl
      rw [hunknown] at hk
      exact nomatch hk
    rw [entries_afterMoving, if_neg hne, show o₂.stores = o.stores from hstores]
    by_cases hpk : b.hash p = k
    · exact Or.inr ⟨hpk.symm, if_pos hpk⟩
    · exact Or.inl (if_neg hpk)

/-- Whatever is done with a file, it is refused then. -/
theorem Renaming.refused (h : Renaming b source target p o o') :
    Refused b W source target p o'.stores := by
  cases h with
  | other hsource => exact .other hsource
  | taken _ htarget hclassify =>
    have hknown := isSome_of_classify hclassify
    exact .taken htarget hknown
  | @moved t content o₁ o₂ _ htarget =>
    refine .taken htarget ?_
    rw [entries_afterMoving, if_pos rfl]
    rfl

/-- Whatever is done with a file does not leave worlds that asking does not leave. -/
theorem Renaming.world (hb : b.Encloses W) (h : Renaming b source target p o o') (ho : W o.world) :
    W o'.world := by
  cases h with
  | other => exact hb.world_log _ ho
  | taken _ _ hclassify =>
    exact hb.world_log _ (hb.world_log _ (hb.world_of_classify hclassify ho))
  | @moved t content o₁ o₂ _ _ hclassify hread =>
    have hworld := hb.world_read p (hb.world_of_classify hclassify ho)
    rw [hread] at hworld
    have hdeleted : W ((o₂.stageDelete b p).log b (.executed .delete p)).world :=
      hb.world_log (o := o₂.stageDelete b p) _ hworld
    have htarget := hb.world_read t hdeleted
    exact hb.world_log _ (hb.world_log _ (hb.world_log _ htarget))

/-- Whatever is done with a file, it is refused then, and the refused files with other keys stay
refused. -/
theorem Renaming.settles (W : ω → Prop) (h : Renaming b source target p o o')
    (hmoves : Moves b o o') : Settles b (Refused b W source target) p o o' where
  entries _ hk := h.entries_eq hk
  settled := h.refused
  still _ hne hknown hrefused :=
    hrefused.mono (fun _ hk => hmoves.isSome_get? hk) (h.get?_eq hknown hne.symm)

/-- A file that has been staged for deletion stays as it is. -/
theorem Gone.stores_eq (h : Gone b source target p o o') : o'.stores = o.stores := by
  obtain ⟨-, -, hclassify, -⟩ := h
  have hstores := classify_eq_none hclassify
  exact hstores

/-- A file that has been staged for deletion is refused. -/
theorem Gone.refused (hs : b.SteadyIn W) (h : Gone b source target p o o') (ho : W o.world) :
    Refused b W source target p o'.stores := by
  have hstores := h.stores_eq
  obtain ⟨-, htarget, hclassify, hdeleted⟩ := h
  refine .gone htarget (by rw [hstores, hdeleted]) fun w hw => ?_
  exact ((hs.classify_eq_none_iff ho hw).mp (congrArg Prod.fst hclassify)).2

/-- Reading a file that has been staged for deletion does not leave worlds that asking does not
leave. -/
theorem Gone.world (hb : b.Encloses W) (h : Gone b source target p o o') (ho : W o.world) :
    W o'.world := by
  obtain ⟨-, -, hclassify, -⟩ := h
  exact hb.world_log _ (hb.world_log _ (hb.world_of_classify hclassify ho))

/-- A file that has been staged for deletion is refused, and the refused files stay refused. -/
theorem Gone.settles (hs : b.SteadyIn W) (h : Gone b source target p o o') (ho : W o.world) :
    Settles b (Refused b W source target) p o o' where
  entries k _ := Or.inl (by rw [h.stores_eq])
  settled := h.refused hs ho
  still q _ _ hrefused := by
    rw [h.stores_eq]
    exact hrefused

/-! ## Refused again -/

/-- A traversal of a file that does nothing is announced. -/
theorem repeated_executed {deletes fails : Path → Bool} (hdeletes : deletes p = false)
    (hfails : fails p = false) :
    Repeated deletes fails [p] o (o.log b (.executed .traverseFile p)) where
  stores_eq := rfl
  traversed := done_executed_self _ _ _
  deleted := by
    have hkind : CommandKind.traverseFile ≠ .delete := nofun
    rw [done_executed_of_ne hkind, List.filter_singleton, hdeletes]
    exact (List.append_nil _).symm
  written := by
    have hkind : CommandKind.traverseFile ≠ .stageData := nofun
    exact done_executed_of_ne hkind _ _
  failed := by
    rw [abandoned_executed, List.filter_singleton, hfails]
    exact (List.append_nil _).symm

/-- A failure of a file is noted before its traversal is announced. -/
theorem repeated_abandoned {deletes fails : Path → Bool} (hdeletes : deletes p = false)
    (hfails : fails p = true) (failure : Failure) :
    Repeated deletes fails [p] o
      ((o.log b (.abandoned p failure)).log b (.executed .traverseFile p)) where
  stores_eq := rfl
  traversed := by
    rw [done_executed_self, done_abandoned]
  deleted := by
    have hkind : CommandKind.traverseFile ≠ .delete := nofun
    rw [done_executed_of_ne hkind, done_abandoned, List.filter_singleton, hdeletes]
    exact (List.append_nil _).symm
  written := by
    have hkind : CommandKind.traverseFile ≠ .stageData := nofun
    rw [done_executed_of_ne hkind, done_abandoned]
  failed := by
    rw [abandoned_executed, abandoned_log, List.filter_singleton, hfails, List.map_append]
    rfl

/-- If something is found at the target of a refused file, it is known. -/
theorem Refused.known (hs : b.SteadyIn W) (h : Refused b W source target p o.stores)
    (ho : W o.world) (hsource : p.extension? = some source) {t : Path}
    (htarget : p.withExtension? target = some t) (hfound : (o.classify b t).1 ≠ none) :
    (o.stores.entries.get? (b.hash t)).isSome := by
  cases h with
  | other hother => exact absurd hsource hother
  | taken htarget' hknown =>
    obtain rfl := Option.some.inj (htarget.symm.trans htarget')
    exact hknown
  | gone htarget' _ hmissing =>
    obtain rfl := Option.some.inj (htarget.symm.trans htarget')
    rw [← Option.ne_none_iff_isSome]
    exact fun hunknown =>
      hfound ((hs.classify_eq_none_iff ho ho).mpr ⟨hunknown, hmissing _ ho⟩)

/-- A refused file is not moved. -/
theorem Refused.not_moved (h : Refused b W source target p o.stores)
    (hsource : p.extension? = some source) {t : Path} {content : String}
    (htarget : p.withExtension? target = some t) (hclassify : o.classify b t = (none, o₁)) :
    o₁.read b p ≠ (.ok content, o₂) := by
  cases h with
  | other hother => exact absurd hsource hother
  | taken htarget' hknown =>
    obtain rfl := Option.some.inj (htarget.symm.trans htarget')
    rw [get?_of_classify_eq_none hclassify] at hknown
    exact nomatch hknown
  | gone _ hdeleted _ =>
    unfold read
    rw [classify_eq_none hclassify, hdeleted]
    exact nofun

/-- Nothing is done with a refused file, but its handler fails if the file has the extension. -/
theorem Renaming.repeated (hs : b.SteadyIn W) (h : Renaming b source target p o o')
    (ho : W o.world) (hrefused : Refused b W source target p o.stores) :
    Repeated (fun _ => false) (fun p => p.extension? = some source) [p] o o' := by
  cases h with
  | other hsource => exact repeated_executed rfl (decide_eq_false hsource)
  | taken hsource htarget hclassify =>
    have hknown := hrefused.known hs ho hsource htarget (by rw [hclassify]; exact nofun)
    obtain ⟨entry, hentry⟩ := Option.isSome_iff_exists.mp hknown
    obtain ⟨-, rfl⟩ := Prod.mk.inj (hclassify.symm.trans (classify_of_get? hentry))
    exact repeated_abandoned rfl (decide_eq_true hsource) _
  | moved hsource htarget hclassify hread =>
    exact absurd hread (hrefused.not_moved hsource htarget hclassify)

/-- The handler that reads a file that has been staged for deletion fails again. -/
theorem Gone.repeated (h : Gone b source target p o o') :
    Repeated (fun _ => false) (fun p => p.extension? = some source) [p] o o' := by
  obtain @⟨t, o₁, hsource, -, hclassify, -⟩ := h
  have hlearns := classify_learns (b := b) t o
  rw [hclassify] at hlearns
  exact (hlearns.repeated (classify_eq_none hclassify)).trans
    (repeated_abandoned rfl (decide_eq_true hsource) _)

end Overlay

namespace Engine

open Overlay

/-! ## Second runs -/

section Runs

variable (d : Discovery) (source target : String) (dependencies : Dependencies) (options : Options)
  (state : Option Unit)

/-- Files that are removed are dropped. -/
theorem removing_settles (hb : b.Encloses W) :
    (removing b d dependencies).SettlesFiles W (Dropped b) options state := by
  intro p o hknown _ ho
  refine ⟨_, removing_works d dependencies options state hknown, ?_, settles_afterRemoving p o⟩
  exact hb.world_log _ (hb.world_log (o := o.stageDelete b p) _ ho)

/-- Dropped files are removed again, and nothing new is stored. -/
theorem removing_repeats (hb : b.Encloses W) :
    (removing b d dependencies).RepeatsFiles W (Dropped b) (fun _ => true) (fun _ => false) options
      state := by
  intro p o hknown _ ho hdropped
  have hrepeated := repeated_afterRemoving (b := b) hdropped
  refine ⟨_, removing_works d dependencies options state hknown, ?_, hrepeated⟩
  exact hb.world_log _ (hb.world_log (o := o.stageDelete b p) _ ho)

/-- Files are moved or refused, and refused then. -/
theorem moving_settles (hs : b.SteadyIn W)
    (htarget : Path.separator ∉ Utf8.encode (bareExtension target).toList) :
    (moving b d source target dependencies).SettlesFiles W
      (Refused b W (Utf8.encode (bareExtension source).toList)
        (Utf8.encode (bareExtension target).toList)) options state := by
  intro p o hknown hc ho
  obtain ⟨o', hworks, hrenaming | hgone⟩ := moving_works_or_gone d source target dependencies
    options state htarget hc hknown
  · exact ⟨o', hworks, hrenaming.world hs.toEncloses ho, hrenaming.settles W hworks.moves⟩
  · exact ⟨o', hworks, hgone.world hs.toEncloses ho, hgone.settles hs ho⟩

/-- Refused files are refused again, and nothing new is stored. -/
theorem moving_repeats (hs : b.SteadyIn W)
    (htarget : Path.separator ∉ Utf8.encode (bareExtension target).toList) :
    (moving b d source target dependencies).RepeatsFiles W
      (Refused b W (Utf8.encode (bareExtension source).toList)
        (Utf8.encode (bareExtension target).toList)) (fun _ => false)
      (fun p => p.extension? = some (Utf8.encode (bareExtension source).toList)) options state := by
  intro p o hknown hc ho hrefused
  obtain ⟨o', hworks, hrenaming | hgone⟩ := moving_works_or_gone d source target dependencies
    options state htarget hc hknown
  · exact ⟨o', hworks, hrenaming.world hs.toEncloses ho, hrenaming.repeated hs ho hrefused⟩
  · exact ⟨o', hworks, hgone.world hs.toEncloses ho, hgone.repeated⟩

end Runs

/-- In worlds that stay as they are, running a removal or a renaming of extensions again over the
same overlay changes nothing, if it ended well and the root has another key than the files that are
discovered under it: it ends with the same plan, and the stores are as they were. A second renaming
stages nothing, and of the files that it traverses those with the extension are failures, each
once. -/
theorem removing_moving_again (hs : b.SteadyIn W) (includes excludes : List String)
    (dependencies : Dependencies) (root : Path) (options options' : Options)
    (state state' : Option Unit) {o o' : Overlay ω} (hr : Reached b o) (ho : W o.world)
    {plan : Plan} :
    ((removing b (.new includes excludes) dependencies).Apart root o →
      (removing b (.new includes excludes) dependencies).Ends root options state o (.ok plan) o' →
      ∃ o₂, (removing b (.new includes excludes) dependencies).Ends root options' state' o'
        (.ok plan) o₂ ∧ o₂.stores = o'.stores) ∧
    ∀ source target : String, '/' ∉ target.toList →
      (moving b (.new includes excludes) source target dependencies).Apart root o →
      (moving b (.new includes excludes) source target dependencies).Ends root options state o
        (.ok plan) o' →
      ∃ files o₂, (moving b (.new includes excludes) source target dependencies).Ends root options'
          state' o' (.ok plan) o₂ ∧ o₂.stores = o'.stores ∧
        o₂.done .delete = o'.done .delete ∧ o₂.done .stageData = o'.done .stageData ∧
        o₂.done .traverseFile = o'.done .traverseFile ++ files ∧
        o₂.abandoned.map (·.1) = o'.abandoned.map (·.1) ++
          files.filter (·.extension? = some (Utf8.encode (bareExtension source).toList)) := by
  have hincludes := Discovery.isEmpty_includes includes excludes
  refine ⟨fun hapart h => ?_, fun source target hslash hapart h => ?_⟩
  · have hfiles := removing_filesOnly (b := b) (.new includes excludes) dependencies hincludes
    obtain ⟨files, o₂, hends, hrepeated⟩ := hfiles.repeats hincludes hs hr ho hapart
      (removing_settles (.new includes excludes) dependencies options state hs.toEncloses)
      (removing_repeats (.new includes excludes) dependencies options' state' hs.toEncloses) h
    exact ⟨o₂, hends, hrepeated.stores_eq⟩
  · have htarget := separator_not_mem_bareExtension target hslash
    have hfiles := moving_filesOnly (b := b) (.new includes excludes) source target dependencies
      hincludes
    obtain ⟨files, o₂, hends, hrepeated⟩ := hfiles.repeats hincludes hs hr ho hapart
      (moving_settles (.new includes excludes) source target dependencies options state hs htarget)
      (moving_repeats (.new includes excludes) source target dependencies options' state' hs
        htarget) h
    have hdeleted := hrepeated.deleted
    rw [List.filter_false, List.append_nil] at hdeleted
    exact ⟨files, o₂, hends, hrepeated.stores_eq, hdeleted, hrepeated.written,
      hrepeated.traversed, hrepeated.failed⟩

/-- A directory with two files. -/
def twoTexts : Backing Unit :=
  .ofView (fun p => ⟨Vector.replicate 32 p.bytes.sum⟩) id
    (fun _ p => if p = .ofString "r" then .ok (some .directory) else .error (.absent p))
    (fun _ _ => .ok []) (fun _ _ => .ok "text")
    (fun _ _ _ _ => .ok [.ofString "r/a.txt", .ofString "r/b.txt"])

/-- The overlay in which the first file is staged for deletion. -/
def firstDropped : Overlay Unit := (Overlay.new ()).stageDelete twoTexts (.ofString "r/a.txt")

/-- The plan of a run that removes the files. -/
def removingPlan : Plan := [.delete (.ofString "r/a.txt"), .delete (.ofString "r/b.txt")]

/-- The plan of a run that renames the files, of which the first cannot be read. -/
def movingPlan : Plan :=
  [.delete (.ofString "r/a.txt"), .delete (.ofString "r/b.txt"), .write (.ofString "r/b.md") "text"]

/-- The directory stays as it is. -/
theorem steadyIn_twoTexts : twoTexts.SteadyIn fun _ => True where
  stat _ _ _ := trivial
  list _ _ _ := trivial
  read _ _ _ := trivial
  notice _ _ _ := trivial
  glob _ _ _ _ _ := trivial
  fst_stat _ _ _ _ _ := rfl
  fst_list _ _ _ _ _ := rfl
  fst_read _ _ _ _ _ := rfl
  fst_glob _ _ _ _ _ _ _ := rfl

/-- The directory has another key than the files. -/
theorem apart_twoTexts {σ : Type} (t : Transform Unit σ) (dependencies : Dependencies)
    (o : Overlay Unit) (h : t.includes = ["**/*"]) :
    (Engine.mk twoTexts t dependencies).Apart (.ofString "r") o := by
  intro files o₁ hdiscovers
  obtain ⟨-, -, -, hfiles⟩ := hdiscovers
  rw [show (Engine.mk twoTexts t dependencies).transform.includes = ["**/*"] from h] at hfiles
  obtain rfl : [Path.ofString "r/a.txt", .ofString "r/b.txt"] = files :=
    Except.ok.inj (congrArg Prod.fst hfiles)
  have hkey : twoTexts.hash (.ofString "r") ∉
      [Path.ofString "r/a.txt", .ofString "r/b.txt"].map twoTexts.hash := by decide
  exact hkey

/-- The second removal deletes the files again. The first renaming moves the second file, and the
second renaming refuses both: the first cannot be read, and the target of the second is there. -/
theorem removing_moving_again_twoTexts :
    (∃ o', (removing twoTexts (.new [] []) .empty).Ends (.ofString "r") .empty none firstDropped
        (.ok removingPlan) o' ∧
      ∃ o₂, (removing twoTexts (.new [] []) .empty).Ends (.ofString "r") .empty none o'
        (.ok removingPlan) o₂ ∧ o₂.stores = o'.stores) ∧
    ∃ o', (moving twoTexts (.new [] []) "txt" "md" .empty).Ends (.ofString "r") .empty none
        firstDropped (.ok movingPlan) o' ∧
      ∃ files o₂, (moving twoTexts (.new [] []) "txt" "md" .empty).Ends (.ofString "r") .empty none
          o' (.ok movingPlan) o₂ ∧ o₂.stores = o'.stores ∧
        o₂.done .delete = o'.done .delete ∧ o₂.done .stageData = o'.done .stageData ∧
        o₂.done .traverseFile = o'.done .traverseFile ++ files ∧
        o₂.abandoned.map (·.1) = o'.abandoned.map (·.1) ++
          files.filter (·.extension? = some (Utf8.encode (bareExtension "txt").toList)) := by
  have hreached : Reached twoTexts firstDropped :=
    .run (.stageDelete (.ofString "r/a.txt")) (.new ())
  have hremoving : ∃ o', (removing twoTexts (.new [] []) .empty).Ends (.ofString "r") .empty none
      firstDropped (.ok removingPlan) o' := ⟨_, 4, 1, rfl⟩
  have hmoving : ∃ o', (moving twoTexts (.new [] []) "txt" "md" .empty).Ends (.ofString "r") .empty
      none firstDropped (.ok movingPlan) o' := ⟨_, 4, 1, rfl⟩
  obtain ⟨o₁, hends₁⟩ := hremoving
  obtain ⟨o₂, hends₂⟩ := hmoving
  refine ⟨⟨o₁, hends₁, ?_⟩, o₂, hends₂, ?_⟩
  · exact (removing_moving_again steadyIn_twoTexts [] [] .empty (.ofString "r") .empty .empty none
      none hreached trivial).1 (apart_twoTexts _ _ _ rfl) hends₁
  · exact (removing_moving_again steadyIn_twoTexts [] [] .empty (.ofString "r") .empty .empty none
      none hreached trivial).2 "txt" "md" (by decide) (apart_twoTexts _ _ _ rfl) hends₂

end Engine

end TreePlan
