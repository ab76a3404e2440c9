import TreePlan.Proofs.Engine.Run
import TreePlan.Proofs.Overlay.Alike

/-!
# Two engines side by side

Two engines match through a relation `R` between their overlays (`Engine.Matches`) if related
overlays remember the same and every step of one engine is a step of the other that leads to related
overlays. The tasks that follow need not be quite the same: a command to do nothing may follow in
one of them and not in the other, as the machine just drops it (`works_congr`). Runs of engines that
match end with the same result and with related overlays: of the machine (`Matches.works`), of a
pass (`Matches.sweeps`) and of the engine as a whole (`Matches.ends`).
-/

namespace TreePlan

/-- A task that does nothing and leads to nothing. -/
def Task.isNoop : Task → Bool
  | .command .noop => true
  | _ => false

/-- The tasks of a stack that do something. -/
def busy (stack : List Task) : List Task := stack.filter (!·.isNoop)

/-- Of two stacks on top of each other, those tasks that do something. -/
theorem busy_append (upper lower : List Task) : busy (upper ++ lower) = busy upper ++ busy lower :=
  List.filter_append _ _

namespace Engine

/-! ## Tasks that do nothing -/

section Busy

variable {ω σ : Type} {e : Engine ω σ} {state : Option σ} {o o' : Overlay ω}
  {result : Except RunError Unit}

/-- The machine drops a command to do nothing. -/
theorem works_noop_cons_iff {rest : List Task} :
    e.Works state (.command .noop :: rest) o result o' ↔ e.Works state rest o result o' := by
  constructor
  · intro h
    cases h with
    | fail hp => exact nomatch (Prod.mk.inj hp).1
    | step hp hrest =>
      obtain ⟨htasks, rfl⟩ := Prod.mk.inj hp
      rw [← Except.ok.inj htasks] at hrest
      exact hrest
  · exact fun h => .step rfl h

/-- The machine does what a stack does by the tasks that do something. -/
theorem works_busy_iff {stack : List Task} :
    e.Works state (busy stack) o result o' ↔ e.Works state stack o result o' := by
  induction stack generalizing o with
  | nil => exact Iff.rfl
  | cons task rest ih =>
    cases hn : task.isNoop with
    | false =>
      have hbusy : busy (task :: rest) = [task] ++ busy rest := by
        rw [busy, List.filter_cons, hn]
        rfl
      rw [hbusy, show task :: rest = [task] ++ rest from rfl, works_append_iff, works_append_iff]
      simp only [ih]
    | true =>
      have htask : task = .command .noop := by
        unfold Task.isNoop at hn
        split at hn
        · rfl
        · exact nomatch hn
      rw [htask, works_noop_cons_iff]
      exact ih

/-- Stacks that differ in tasks that do nothing are done alike. -/
theorem works_congr {stack stack' : List Task} (h : busy stack = busy stack') :
    e.Works state stack o result o' ↔ e.Works state stack' o result o' := by
  rw [← works_busy_iff, h, works_busy_iff]

end Busy

/-! ## Matching -/

variable {ω₁ ω₂ σ : Type}

/-- Every step of one engine is a step of the other, through a relation between their overlays. -/
structure Matches (R : Overlay ω₁ → Overlay ω₂ → Prop) (e₁ : Engine ω₁ σ) (e₂ : Engine ω₂ σ) :
    Prop where
  /-- Related overlays remember the same. -/
  stores : ∀ o₁ o₂, R o₁ o₂ → o₁.stores = o₂.stores
  /-- Related overlays classify alike. -/
  classify : ∀ path o₁ o₂, R o₁ o₂ →
    Agree R (o₁.classify e₁.backing path) (o₂.classify e₂.backing path)
  /-- A line for the log keeps overlays related. -/
  log : ∀ event o₁ o₂, event.isReport = false → R o₁ o₂ →
    R (o₁.log e₁.backing event) (o₂.log e₂.backing event)
  /-- Tasks fail alike, or the same follows but for tasks that do nothing. -/
  perform : ∀ state task o₁ o₂, R o₁ o₂ →
    (e₁.perform state task o₁).1.map busy = (e₂.perform state task o₂).1.map busy ∧
      R (e₁.perform state task o₁).2 (e₂.perform state task o₂).2
  /-- The same states are made. -/
  initializeState : ∀ options previous o₁ o₂, R o₁ o₂ →
    Agree R ((e₁.transform.initializeState options previous).run e₁.backing o₁)
      ((e₂.transform.initializeState options previous).run e₂.backing o₂)
  /-- The same decisions are made. -/
  handleFinish : ∀ options state o₁ o₂, R o₁ o₂ →
    Agree R ((e₁.transform.handleFinish options state).run e₁.backing o₁)
      ((e₂.transform.handleFinish options state).run e₂.backing o₂)

variable {R : Overlay ω₁ → Overlay ω₂ → Prop} {e₁ : Engine ω₁ σ} {e₂ : Engine ω₂ σ}

/-- Matching goes both ways. -/
theorem Matches.symm (h : Matches R e₁ e₂) : Matches (fun o₂ o₁ => R o₁ o₂) e₂ e₁ where
  stores o₂ o₁ hR := (h.stores o₁ o₂ hR).symm
  classify path o₂ o₁ hR := (h.classify path o₁ o₂ hR).imp_left Eq.symm
  log event o₂ o₁ he hR := h.log event o₁ o₂ he hR
  perform state task o₂ o₁ hR := (h.perform state task o₁ o₂ hR).imp_left Eq.symm
  initializeState options previous o₂ o₁ hR :=
    (h.initializeState options previous o₁ o₂ hR).imp_left Eq.symm
  handleFinish options state o₂ o₁ hR :=
    (h.handleFinish options state o₁ o₂ hR).imp_left Eq.symm

/-- What one does with a result, the other does with the same result. -/
theorem exists_of_agree {α : Type} {a : α} {o₁ : Overlay ω₁} {x : α × Overlay ω₁}
    {y : α × Overlay ω₂} (h : Agree R x y) (hx : x = (a, o₁)) : ∃ o₂, y = (a, o₂) ∧ R o₁ o₂ := by
  obtain ⟨a', o₂⟩ := y
  rw [hx] at h
  obtain ⟨rfl, hR⟩ : a = a' ∧ R o₁ o₂ := h
  exact ⟨o₂, rfl, hR⟩

/-- Machines of engines that match do a stack alike. -/
theorem Matches.works (h : Matches R e₁ e₂) {state : Option σ} {stack : List Task}
    {o₁ o₁' : Overlay ω₁} {o₂ : Overlay ω₂} {result : Except RunError Unit}
    (hw : e₁.Works state stack o₁ result o₁') (hR : R o₁ o₂) :
    ∃ o₂', e₂.Works state stack o₂ result o₂' ∧ R o₁' o₂' := by
  induction hw generalizing o₂ with
  | done o => exact ⟨o₂, .done o₂, hR⟩
  | @fail task rest o o' error hp =>
    obtain ⟨hsame, hR'⟩ := h.perform state task o o₂ hR
    rw [hp] at hsame hR'
    generalize hp₂ : e₂.perform state task o₂ = performed at hsame hR'
    obtain ⟨next, o₂'⟩ := performed
    cases next with
    | ok tasks => exact nomatch hsame
    | error error' =>
      obtain rfl := Except.error.inj hsame
      exact ⟨o₂', .fail hp₂, hR'⟩
  | @step task rest tasks o o₃ o' result hp _ ih =>
    obtain ⟨hsame, hR'⟩ := h.perform state task o o₂ hR
    rw [hp] at hsame hR'
    generalize hp₂ : e₂.perform state task o₂ = performed at hsame hR'
    obtain ⟨next, o₄⟩ := performed
    cases next with
    | error error => exact nomatch hsame
    | ok tasks' =>
      -- The stacks after the step differ in commands to do nothing, which the machine drops.
      obtain ⟨o₂', hrest, hend⟩ := ih hR'
      have hbusy : busy (tasks ++ rest) = busy (tasks' ++ rest) := by
        rw [busy_append, busy_append, show busy tasks = busy tasks' from Except.ok.inj hsame]
      exact ⟨o₂', .step hp₂ ((works_congr hbusy).mp hrest), hend⟩

section Runs

variable {root : Path} {options : Options} {number : Nat} {previous state : Option σ}
  {o₁ o₁' : Overlay ω₁} {o₂ : Overlay ω₂}

/-- Passes of engines that match sweep alike. -/
theorem Matches.sweeps (h : Matches R e₁ e₂) {result : Except RunError Unit}
    (hs : e₁.Sweeps root options number previous o₁ state result o₁') (hR : R o₁ o₂) :
    ∃ o₂', e₂.Sweeps root options number previous o₂ state result o₂' ∧ R o₁' o₂' := by
  obtain ⟨hroot, hstate, hworks⟩ := hs
  obtain ⟨p₂, hroot₂, hp⟩ := exists_of_agree (h.classify root _ _ hR) hroot
  obtain ⟨q₂, hstate₂, hq⟩ :=
    exists_of_agree (h.initializeState options previous _ _ hp) hstate
  obtain ⟨o₂', hworks₂, hend⟩ := h.works hworks (h.log (.passStarted number root) _ _ rfl hq)
  exact ⟨o₂', .sweep hroot₂ hstate₂ hworks₂, hend⟩

/-- Runs of engines that match end alike, from each pass on. -/
theorem Matches.runs (h : Matches R e₁ e₂) {result : Except RunError Plan}
    (hr : e₁.Runs root options number previous o₁ result o₁') (hR : R o₁ o₂) :
    ∃ o₂', e₂.Runs root options number previous o₂ result o₂' ∧ R o₁' o₂' := by
  induction hr generalizing o₂ with
  | @stateFails number previous _ _ _ _ _ hroot hstate =>
    obtain ⟨p₂, hroot₂, hp⟩ := exists_of_agree (h.classify root _ _ hR) hroot
    obtain ⟨q₂, hstate₂, hq⟩ :=
      exists_of_agree (h.initializeState options previous _ _ hp) hstate
    exact ⟨q₂, .stateFails hroot₂ hstate₂, hq⟩
  | sweepFails hsweep =>
    obtain ⟨p₂, hsweep₂, hp⟩ := h.sweeps hsweep hR
    exact ⟨p₂, .sweepFails hsweep₂, hp⟩
  | @finishFails _ _ state _ _ _ _ hsweep hfinish =>
    obtain ⟨p₂, hsweep₂, hp⟩ := h.sweeps hsweep hR
    obtain ⟨q₂, hfinish₂, hq⟩ := exists_of_agree (h.handleFinish options state _ _ hp) hfinish
    exact ⟨q₂, .finishFails hsweep₂ hfinish₂, hq⟩
  | @stops number _ state _ _ p₁ hsweep hfinish =>
    obtain ⟨p₂, hsweep₂, hp⟩ := h.sweeps hsweep hR
    obtain ⟨q₂, hfinish₂, hq⟩ := exists_of_agree (h.handleFinish options state _ _ hp) hfinish
    -- The plan and the line for the log are read off the stores alone.
    have hstores := h.stores _ _ hq
    have hplan : p₁.plan = q₂.plan := by rw [Overlay.plan, Overlay.plan, hstores]
    have hsizes : p₁.sizes = q₂.sizes := by rw [Overlay.sizes, Overlay.sizes, hstores]
    rw [hplan, hsizes]
    exact ⟨_, .stops hsweep₂ hfinish₂, h.log _ _ _ rfl hq⟩
  | @repeats _ _ state _ _ _ _ _ hsweep hfinish _ ih =>
    obtain ⟨p₂, hsweep₂, hp⟩ := h.sweeps hsweep hR
    obtain ⟨q₂, hfinish₂, hq⟩ := exists_of_agree (h.handleFinish options state _ _ hp) hfinish
    obtain ⟨o₂', hnext, hend⟩ := ih hq
    exact ⟨o₂', .repeats hsweep₂ hfinish₂ hnext, hend⟩

/-- Runs of engines that match end alike. -/
theorem Matches.ends (h : Matches R e₁ e₂) {result : Except RunError Plan}
    (hr : e₁.Ends root options previous o₁ result o₁') (hR : R o₁ o₂) :
    ∃ o₂', e₂.Ends root options previous o₂ result o₂' ∧ R o₁' o₂' := by
  rcases ends_iff_runs.mp hr with hmiss | hruns
  · obtain ⟨hroot⟩ := hmiss
    obtain ⟨p₂, hroot₂, hp⟩ := exists_of_agree (h.classify root _ _ hR) hroot
    exact ⟨_, ends_iff_runs.mpr (Or.inl (.miss hroot₂)), h.log (.rootMissing root) _ _ rfl hp⟩
  · obtain ⟨o₂', hruns₂, hend⟩ := h.runs hruns hR
    exact ⟨o₂', ends_iff_runs.mpr (Or.inr hruns₂), hend⟩

end Runs

end Engine

end TreePlan
