import Mathlib
import TreePlan.Plan.Apply
import TreePlan.Proofs.Host.Effects

/-!
# Applying a plan to a host

Steps are carried out one after the other, and one may need a directory where another has just
removed a file. Still, what a plan makes of a tree of directories and files can be read off its
steps if their paths are different (`Plan.Realized`): a step leaves every file at another place as
it is (`Carries.file_iff`), so what a step has settled stays settled (`CarriedOut.settled`),
whatever the order and the nesting of the paths. A step that fails leaves at most directories above
its own file behind (`PlanStep.Leaves`), and a plan that is stopped has been realized up to that
step (`Plan.realized_of_apply`).
-/

namespace TreePlan

open TreePlan.Path HostTree

/-- The place that a step is about. -/
def PlanStep.place (step : PlanStep) : Location := namesOf step.path

/-- The step is about an absolute path in normal form. -/
def PlanStep.Normal (step : PlanStep) : Prop :=
  step.path.isAbsolute = true ∧ step.path.normalize = step.path

instance (step : PlanStep) : Decidable step.Normal := inferInstanceAs (Decidable (_ ∧ _))

/-- Whether a step is a write. -/
def PlanStep.isWrite : PlanStep → Bool
  | .write _ _ => true
  | .delete _ => false

/-- Whether a step is a deletion. -/
def PlanStep.isDelete : PlanStep → Bool
  | .write _ _ => false
  | .delete _ => true

/-! ## Places -/

/-- A step about an absolute path in normal form is about the path with the names of its place. -/
theorem PlanStep.Normal.rooted_place {step : PlanStep} (h : step.Normal) :
    (∀ n ∈ step.place, Plain n) ∧ step.path = rooted step.place := by
  obtain ⟨names, hnames, hpath⟩ := normalize_of_isAbsolute h.1
  rw [h.2] at hpath
  have hplace : step.place = names := by rw [place, hpath, namesOf_rooted hnames]
  rw [hplace]
  exact ⟨hnames, hpath⟩

/-- Steps about different paths are about different places. -/
theorem PlanStep.place_ne {step step' : PlanStep} (h : step.Normal) (h' : step'.Normal)
    (hne : step.path ≠ step'.path) : step.place ≠ step'.place := by
  intro he
  rw [h.rooted_place.2, h'.rooted_place.2, he] at hne
  exact hne rfl

/-! ## Steps -/

/-- What a step that does not fail does: to which tree, to which counts, the step, and the tree and
the counts afterwards. -/
inductive Carries (t : HostTree) (done : Applied) : PlanStep → HostTree → Applied → Prop
  /-- A file is removed. -/
  | removed {path : Path} {content : List UInt8}
      (h : t.node? (PlanStep.delete path).place = some (.file content)) :
      Carries t done (.delete path) (t.drop (· == (PlanStep.delete path).place))
        { done with deleted := done.deleted + 1 }
  /-- Nothing is there to be removed. -/
  | absent {path : Path} (h : t.node? (PlanStep.delete path).place = none) :
      Carries t done (.delete path) t { done with missing := done.missing + 1 }
  /-- Directories are made above a file, and then it is written. -/
  | written {path : Path} {data : String} {t₁ t' : HostTree}
      (hgrows : t.Grows (PlanStep.write path data).place.dropLast t₁)
      (hne : (PlanStep.write path data).place ≠ [])
      (hput : t' = t₁.put (PlanStep.write path data).place (.file (Utf8.encode data.toList)))
      (hsound : t'.Sound)
      (hopens : ∃ asDirectory found, t₁.lookup .writing asDirectory path = .ok found) :
      Carries t done (.write path data) t' { done with written := done.written + 1 }

/-- What a step that fails leaves behind: at most directories above the file to be written. -/
def PlanStep.Leaves (t t' : HostTree) : PlanStep → Prop
  | .delete _ => t' = t
  | .write path _ => t.Grows (namesOf path).dropLast t'

variable {t t' : HostTree} {done done' : Applied} {step : PlanStep}

/-- Making the directories above an absolute path in normal form makes directories above its place
where nothing was. -/
theorem grows_above (ht : t.Sound) {names : Location} (hnames : ∀ n ∈ names, Plain n) :
    t.Grows names.dropLast
      (((rooted names).parent?.map t.makeDirectories).getD (.ok (), t)).2 := by
  rcases List.eq_nil_or_concat names with rfl | ⟨above, n, rfl⟩
  · exact ht.grows _
  · rw [List.concat_eq_append] at hnames ⊢
    have habove : ∀ m ∈ above, Plain m := fun m hm => hnames m (List.mem_append_left _ hm)
    rw [parent?_rooted habove (hnames n (by simp)), List.dropLast_concat]
    exact grows_makeDirectories ht habove

/-- A step about an absolute path in normal form is carried out, or it fails and leaves at most
directories behind. -/
theorem PlanStep.apply_cases (ht : t.Sound) (h : step.Normal) (done : Applied) :
    (∃ done' t', step.apply t done = (.ok done', t') ∧ Carries t done step t' done') ∨
      ∃ e t', step.apply t done = (.error e, t') ∧ step.Leaves t t' := by
  obtain ⟨hnames, hpath⟩ := h.rooted_place
  cases step with
  | delete path =>
    rw [show (PlanStep.delete path).path = path from rfl] at hpath
    have hremoves := removeFile_rooted ht hnames
    rw [← hpath] at hremoves
    unfold apply
    dsimp only
    generalize t.removeFile path = outcome at hremoves ⊢
    cases hremoves with
    | removed hfile => exact Or.inl ⟨_, _, rfl, .removed hfile⟩
    | missing hkind hnone => exact Or.inl ⟨_, _, if_pos hkind, .absent hnone⟩
    | refused hkind => exact Or.inr ⟨_, _, if_neg hkind, rfl⟩
  | write path data =>
    rw [show (PlanStep.write path data).path = path from rfl] at hpath
    have hgrows := grows_above ht hnames
    rw [← hpath] at hgrows
    unfold apply
    dsimp only
    generalize (path.parent?.map t.makeDirectories).getD (.ok (), t) = made at hgrows ⊢
    obtain ⟨outcome, t₁⟩ := made
    cases outcome with
    | error e => exact Or.inr ⟨_, _, rfl, hgrows⟩
    -- The file is written last, so nothing but directories has been made if this fails.
    | ok =>
      dsimp only
      cases hwrite : t₁.write path (Utf8.encode data.toList) with
      | error e => exact Or.inr ⟨_, _, rfl, hgrows⟩
      | ok t' =>
        rw [hpath] at hwrite
        obtain ⟨hne, hput, hsound, hopens⟩ := write_eq_ok hgrows.sound hnames hwrite
        rw [← hpath] at hopens
        exact Or.inl ⟨_, _, rfl, .written hgrows hne hput hsound hopens⟩

namespace Carries

/-- A step keeps a tree sound. -/
theorem sound (h : Carries t done step t' done') (ht : t.Sound) : t'.Sound := by
  cases h with
  | removed hfile => exact ht.drop (ne_nil_of_file hfile) (by rw [hfile]; exact nofun)
  | absent => exact ht
  | written _ _ _ hsound => exact hsound

/-- A step leaves every file at another place as it is. -/
theorem file_iff (h : Carries t done step t' done') {place : Location} (hne : step.place ≠ place)
    (content : List UInt8) :
    t'.node? place = some (.file content) ↔ t.node? place = some (.file content) := by
  cases h with
  | removed hfile => rw [node?_drop (ne_nil_of_file hfile), if_neg hne]
  | absent => exact Iff.rfl
  | written hgrows hnil hput =>
    rw [hput, node?_put hnil, if_neg hne]
    exact hgrows.file_iff place content

end Carries

/-- What a step is to bring about: a file with the content to be written, or no file. -/
def PlanStep.Settled (t : HostTree) (step : PlanStep) : Prop :=
  match step with
  | .write _ data => t.node? step.place = some (.file (Utf8.encode data.toList))
  | .delete _ => ∀ content, t.node? step.place ≠ some (.file content)

/-- A step that is carried out brings about what it is to. -/
theorem Carries.settled (h : Carries t done step t' done') : step.Settled t' := by
  cases h with
  | removed hfile =>
    intro content
    rw [node?_drop (ne_nil_of_file hfile), if_pos rfl]
    exact nofun
  | absent hnone =>
    intro content
    rw [hnone]
    exact nofun
  | written _ hne hput =>
    show t'.node? _ = _
    rw [hput, node?_put hne, if_pos rfl]

/-- What a step has brought about stays so while the files at its place are as they were. -/
theorem PlanStep.Settled.of_file_iff (h : step.Settled t)
    (hiff : ∀ content, t'.node? step.place = some (.file content) ↔
      t.node? step.place = some (.file content)) : step.Settled t' := by
  cases step with
  | write path data => exact (hiff _).mpr h
  | delete path => exact fun content hfile => h content ((hiff content).mp hfile)

/-! ## Plans -/

/-- Carrying out one more step after a plan. -/
theorem Plan.apply_append_singleton (plan : Plan) (step : PlanStep) (t : HostTree) :
    Plan.apply (plan ++ [step]) t =
      match plan.apply t with
      | (.error e, t) => (.error e, t)
      | (.ok done, t) => step.apply t done := by
  have hfrom (done : Applied) (t : HostTree) :
      applyWith PlanStep.apply done (plan ++ [step]) t =
        match applyWith PlanStep.apply done plan t with
        | (.error e, t) => (.error e, t)
        | (.ok done, t) => step.apply t done := by
    -- The counts are handed on from step to step, so the induction is over all of them.
    induction plan generalizing done t with
    | nil =>
      rw [List.nil_append, applyWith, applyWith]
      dsimp only
      obtain ⟨outcome, t'⟩ := step.apply t done
      cases outcome <;> rfl
    | cons first rest ih =>
      rw [List.cons_append, applyWith, applyWith]
      obtain ⟨outcome, t'⟩ := first.apply t done
      cases outcome with
      | error e => rfl
      | ok done => exact ih done t'
  exact hfrom {} t

/-- A plan that is carried out: on which tree, the plan, the counts, and the tree afterwards. -/
inductive CarriedOut (t : HostTree) : Plan → Applied → HostTree → Prop
  /-- There are no steps. -/
  | nil : CarriedOut t [] {} t
  /-- One more step is carried out. -/
  | snoc {plan : Plan} {step : PlanStep} {done done' : Applied} {t₁ t' : HostTree}
      (hplan : CarriedOut t plan done t₁) (happly : plan.apply t = (.ok done, t₁))
      (hstep : Carries t₁ done step t' done') : CarriedOut t (plan ++ [step]) done' t'

/-- A plan that is stopped at a step: on which tree, the plan, and the tree afterwards. -/
inductive StoppedAt (t : HostTree) (plan : Plan) (t' : HostTree) : Prop
  /-- The steps before it are carried out, and it leaves at most directories behind. -/
  | step {before after : Plan} {step : PlanStep} {done : Applied} {t₁ : HostTree}
      (hplan : plan = before ++ step :: after) (happly : before.apply t = (.ok done, t₁))
      (hbefore : CarriedOut t before done t₁) (hstep : step.Leaves t₁ t')

variable {plan : Plan}

/-- A plan keeps a tree sound. -/
theorem CarriedOut.sound (h : CarriedOut t plan done t') (ht : t.Sound) : t'.Sound := by
  induction h with
  | nil => exact ht
  | snoc _ _ hstep ih => exact hstep.sound ih

/-- A plan is carried out, or it is stopped at a step. -/
theorem Plan.apply_cases (ht : t.Sound) (h : ∀ step ∈ plan, step.Normal) :
    (∃ done t', plan.apply t = (.ok done, t') ∧ CarriedOut t plan done t') ∨
      ∃ e t', plan.apply t = (.error e, t') ∧ StoppedAt t plan t' := by
  -- From the last step back, so that the steps before it are applied to the same tree.
  induction plan using List.reverseRecOn with
  | nil => exact Or.inl ⟨{}, t, rfl, .nil⟩
  | append_singleton plan step ih =>
    rw [List.forall_mem_append, List.forall_mem_singleton] at h
    rw [Plan.apply_append_singleton]
    rcases ih h.1 with ⟨done, t₁, happly, hplan⟩ | ⟨e, t', happly, hstopped⟩
    · rw [happly]
      rcases PlanStep.apply_cases (hplan.sound ht) h.2 done with
        ⟨done', t', hstep, hcarries⟩ | ⟨e, t', hstep, hleaves⟩
      · exact Or.inl ⟨done', t', hstep, hplan.snoc happly hcarries⟩
      · exact Or.inr ⟨e, t', hstep, .step rfl happly hplan hleaves⟩
    · rw [happly]
      obtain ⟨rfl, hbefore, hcarried, hleaves⟩ := hstopped
      exact Or.inr ⟨e, t', rfl, .step (List.append_assoc _ _ _) hbefore hcarried hleaves⟩

namespace CarriedOut

/-- A plan leaves every file at the place of none of its steps as it is. -/
theorem file_iff (h : CarriedOut t plan done t') {place : Location}
    (hne : ∀ step ∈ plan, step.place ≠ place) (content : List UInt8) :
    t'.node? place = some (.file content) ↔ t.node? place = some (.file content) := by
  induction h with
  | nil => exact Iff.rfl
  | snoc _ _ hstep ih =>
    rw [List.forall_mem_append, List.forall_mem_singleton] at hne
    exact (hstep.file_iff hne.2 content).trans (ih hne.1)

/-- A plan with different paths brings about what its steps are to. -/
theorem settled (h : CarriedOut t plan done t') (hnormal : ∀ step ∈ plan, step.Normal)
    (hnodup : (plan.map (·.path)).Nodup) : ∀ step ∈ plan, step.Settled t' := by
  induction h with
  | nil => exact nofun
  | @snoc plan last _ _ _ _ _ _ hstep ih =>
    rw [List.forall_mem_append, List.forall_mem_singleton] at hnormal ⊢
    rw [List.map_append, List.nodup_append] at hnodup
    refine ⟨fun step hmem => ?_, hstep.settled⟩
    -- The last step is about another place, so what has been settled before stays so.
    have hne : last.path ≠ step.path := fun he =>
      hnodup.2.2 step.path (List.mem_map_of_mem hmem) last.path (List.mem_singleton_self _) he.symm
    have hplace := PlanStep.place_ne hnormal.2 (hnormal.1 step hmem) hne
    exact (ih hnormal.1 hnodup.1 step hmem).of_file_iff (hstep.file_iff hplace)

/-- A path that is written has been opened in a tree of directories and files. -/
theorem exists_lookup (h : CarriedOut t plan done t') {path : Path} {data : String}
    (hmem : .write path data ∈ plan) :
    ∃ t₁ : HostTree, t₁.Sound ∧
      ∃ asDirectory found, t₁.lookup .writing asDirectory path = .ok found := by
  induction h with
  | nil => exact nomatch hmem
  | snoc hplan _ hstep ih =>
    rcases List.mem_append.mp hmem with hmem | hmem
    · exact ih hmem
    · obtain rfl := List.mem_singleton.mp hmem
      cases hstep with
      | written hgrows _ _ _ hopens => exact ⟨_, hgrows.sound, hopens⟩

/-- The counts of writes and deletions. -/
theorem counts (h : CarriedOut t plan done t') :
    done.written = plan.countP (·.isWrite) ∧
      done.deleted + done.missing = plan.countP (·.isDelete) := by
  induction h with
  | nil => exact ⟨rfl, rfl⟩
  | snoc _ _ hstep ih =>
    rw [List.countP_append, List.countP_append, ← ih.1, ← ih.2]
    cases hstep with
    | removed | absent =>
      refine ⟨rfl, ?_⟩
      rw [show [PlanStep.delete _].countP (·.isDelete) = 1 from rfl]
      dsimp only
      omega
    | written => exact ⟨rfl, rfl⟩

end CarriedOut

/-- Whether a step of a plan is a deletion whose target is absent when its turn comes. -/
def Plan.absentAt (plan : Plan) (t : HostTree) (i : Nat) : Bool :=
  match plan[i]? with
  | some (.delete path) => ((Plan.apply (plan.take i) t).2.node? (namesOf path)).isNone
  | _ => false

/-- Whether a target is absent depends on the steps before it only. -/
theorem Plan.absentAt_append {plan rest : Plan} {i : Nat} (h : i < plan.length) :
    Plan.absentAt (plan ++ rest) t i = plan.absentAt t i := by
  rw [absentAt, absentAt, List.getElem?_append_left h, List.take_append_of_le_length h.le]

/-- Whether the target of the last step is absent is seen when the others have been carried out. -/
theorem Plan.absentAt_last {plan : Plan} {step : PlanStep} (happly : (Plan.apply plan t).2 = t') :
    Plan.absentAt (plan ++ [step]) t plan.length =
      (step.isDelete && (t'.node? step.place).isNone) := by
  rw [absentAt, List.getElem?_concat_length, List.take_left, happly]
  cases step <;> rfl

/-- The count of deletions whose target was gone. -/
theorem CarriedOut.missing_eq (h : CarriedOut t plan done t') :
    done.missing = (List.range plan.length).countP (plan.absentAt t) := by
  induction h with
  | nil => rfl
  | @snoc plan step done done' t₁ t' _ happly hstep ih =>
    -- The last step has no part in what was absent when the others had their turns.
    have hbefore : (List.range plan.length).countP (Plan.absentAt (plan ++ [step]) t) =
        (List.range plan.length).countP (plan.absentAt t) :=
      List.countP_congr fun i hi => by
        rw [Plan.absentAt_append (List.mem_range.mp hi)]
    rw [List.length_append, List.length_singleton, List.range_succ, List.countP_append, hbefore,
      ← ih, List.countP_singleton, Plan.absentAt_last (congrArg Prod.snd happly)]
    cases hstep with
    | removed hfile =>
      rw [hfile]
      rfl
    | absent hnone =>
      rw [hnone]
      rfl
    | written => rfl

/-- What a plan makes of a tree of directories and files: of which tree, the counts, and the tree
afterwards. -/
structure Plan.Realized (plan : Plan) (t : HostTree) (done : Applied) (t' : HostTree) : Prop where
  /-- It is again a tree of directories and files. -/
  sound : t'.Sound
  /-- What was to be written can be read. -/
  written : ∀ path data, .write path data ∈ plan →
    t'.readBytes path = .ok (Utf8.encode data.toList)
  /-- There is no file where one was to be deleted. -/
  deleted : ∀ path, .delete path ∈ plan → ∀ content, t'.node? (namesOf path) ≠ some (.file content)
  /-- Everywhere else there are the same files with the same contents. -/
  kept : ∀ place, (∀ step ∈ plan, step.place ≠ place) → ∀ content,
    t'.node? place = some (.file content) ↔ t.node? place = some (.file content)
  /-- Writes are counted. -/
  written_eq : done.written = plan.countP (·.isWrite)
  /-- Deletions are counted. -/
  deleted_eq : done.deleted + done.missing = plan.countP (·.isDelete)
  /-- Deletions of what was absent when their turn came are counted apart. -/
  missing_eq : done.missing = (List.range plan.length).countP (plan.absentAt t)

/-- A plan with different paths that is carried out is realized. -/
theorem CarriedOut.realized (h : CarriedOut t plan done t') (ht : t.Sound)
    (hnormal : ∀ step ∈ plan, step.Normal) (hnodup : (plan.map (·.path)).Nodup) :
    plan.Realized t done t' where
  sound := h.sound ht
  written path data hmem := by
    have hsettled := h.settled hnormal hnodup _ hmem
    obtain ⟨hnames, hpath⟩ := (hnormal _ hmem).rooted_place
    -- The path was opened when the file was written, so it is not refused when the file is read.
    obtain ⟨t₁, ht₁, asDirectory, found, hlookup⟩ := h.exists_lookup hmem
    rw [show (PlanStep.write path data).path = path from rfl] at hpath
    rw [hpath] at hlookup ⊢
    exact readBytes_of_lookup (h.sound ht) ht₁ hnames hlookup hsettled
  deleted path hmem := h.settled hnormal hnodup _ hmem
  kept place hne := h.file_iff hne
  written_eq := h.counts.1
  deleted_eq := h.counts.2
  missing_eq := h.missing_eq

/-- A plan about different absolute paths in normal form, applied to a tree of directories and
files. If it succeeds, what was to be written can be read, there is no file where one was to be
deleted, every other file is as it was, and the steps are counted by what they have done. If it
fails, the steps before one of its steps have been realized, and this step leaves at most
directories above the file that it was to write. -/
theorem Plan.realized_of_apply {plan : Plan} {t : HostTree} (ht : t.Sound)
    (hnormal : ∀ step ∈ plan, step.Normal) (hnodup : (plan.map (·.path)).Nodup) :
    (∀ done t', plan.apply t = (.ok done, t') → plan.Realized t done t') ∧
      ∀ e t', plan.apply t = (.error e, t') →
        ∃ before step after done t₁, plan = before ++ step :: after ∧
          Plan.apply before t = (.ok done, t₁) ∧ Plan.Realized before t done t₁ ∧
          step.Leaves t₁ t' := by
  rcases Plan.apply_cases ht hnormal with ⟨done, t₁, happly, hcarried⟩ | ⟨e, t₁, happly, hstopped⟩
  · refine ⟨fun done' t' h => ?_, fun e t' h => ?_⟩
    · obtain ⟨hdone, rfl⟩ := Prod.mk.inj (happly.symm.trans h)
      obtain rfl := Except.ok.inj hdone
      exact hcarried.realized ht hnormal hnodup
    · exact nomatch (Prod.mk.inj (happly.symm.trans h)).1
  · refine ⟨fun done' t' h => ?_, fun e' t' h => ?_⟩
    · exact nomatch (Prod.mk.inj (happly.symm.trans h)).1
    · obtain ⟨-, rfl⟩ := Prod.mk.inj (happly.symm.trans h)
      obtain ⟨rfl, hbefore, hcarried, hstep⟩ := hstopped
      rw [List.forall_mem_append] at hnormal
      rw [List.map_append, List.nodup_append] at hnodup
      exact ⟨_, _, _, _, _, rfl, hbefore, hcarried.realized ht hnormal.1 hnodup.1, hstep⟩

/-- A tree with a file at the root of the machine and another in a directory. -/
def nestedHost : HostTree where
  nodes := .ofList [([[97]], .file [120]), ([[100]], .directory), ([[100], [107]], .file [111])]
  workingDirectory := []

/-- A plan that writes a file below one that it has deleted, and writes over another file. -/
def nestedPlan : Plan :=
  [.delete (.ofString "/a"), .write (.ofString "/a/b") "y", .delete (.ofString "/gone"),
    .write (.ofString "/d/k") "new"]

/-- A directory takes the place of the deleted file, the file that is gone is counted, and the plan
is realized. -/
theorem Plan.realized_of_apply_nestedPlan :
    ∃ t', Plan.apply nestedPlan nestedHost = (.ok ⟨2, 1, 1⟩, t') ∧
      Plan.Realized nestedPlan nestedHost ⟨2, 1, 1⟩ t' := by
  have happly : (Plan.apply nestedPlan nestedHost).1 = .ok ⟨2, 1, 1⟩ := by cbv
  have hends : Plan.apply nestedPlan nestedHost =
      (.ok ⟨2, 1, 1⟩, (Plan.apply nestedPlan nestedHost).2) := Prod.ext happly rfl
  exact ⟨_, hends,
    (Plan.realized_of_apply (sound_of_forall (by decide)) (by decide) (by decide)).1 _ _ hends⟩

end TreePlan
