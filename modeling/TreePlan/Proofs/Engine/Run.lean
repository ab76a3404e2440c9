import TreePlan.Proofs.Engine.Moves
import TreePlan.Proofs.Overlay.Reached

/-!
# Runs without bounds

A run takes a bound on the depth of commands and one on the number of passes. `Engine.Ends` says how
a run ends for bounds that suffice. The same is said without bounds: either the root is missing from
the start (`Engine.Misses`), or the run is a number of passes of which only the last is final
(`Engine.Runs`), and a pass sweeps the root, that is, it finds the root, makes a state and carries
out the root command (`Engine.Sweeps`). The two agree (`ends_iff_runs`), so what is to be shown of
all runs is shown by induction on the passes.

In a later pass the root is never missing. A sweep leaves the root recorded, since it changes an
overlay only by the moves of the engine, and what is known stays known (`Sweeps.isSome_root`); and
what is recorded is found without asking the backing.

A property of overlays that is kept by all that the engine does is kept by its runs (`Ends.kept`).
So runs lead from reachable overlays to reachable ones (`Ends.reached`).

Greater bounds change no ending (`executeFrom_mono`), so a run ends in one way only (`Ends.unique`).
-/

namespace TreePlan

namespace Engine

variable {ω σ : Type} (e : Engine ω σ) (root : Path) (options : Options)

/-- A pass finds the root, makes a state and carries out the root command: the number of the pass,
the state before it, from which overlay, the state made, how the root command ends and with which
overlay. -/
inductive Sweeps (number : Nat) (previous : Option σ) (o : Overlay ω) :
    Option σ → Except RunError Unit → Overlay ω → Prop
  /-- All of it. -/
  | sweep {entry : Entry} {state : Option σ} {result : Except RunError Unit} {o₁ o₂ o₃ : Overlay ω}
      (hroot : o.classify e.backing root = (some entry, o₁))
      (hstate : (e.transform.initializeState options previous).run e.backing o₁ = (.ok state, o₂))
      (hworks : e.Works state [.command (rootCommand root options entry.kind)]
        (o₂.log e.backing (.passStarted number root)) result o₃) :
      Sweeps number previous o state result o₃

/-- The root is neither a file nor a directory: from which overlay, how the run ends and with which
overlay. -/
inductive Misses (o : Overlay ω) : Except RunError Plan → Overlay ω → Prop
  /-- There is nothing to plan. -/
  | miss {o₁ : Overlay ω} (hroot : o.classify e.backing root = (none, o₁)) :
      Misses o (.ok []) (o₁.log e.backing (.rootMissing root))

/-- A run from one of its passes on, all of which find the root: the number of the pass, the state
before it, from which overlay, how the run ends and with which overlay. -/
inductive Runs : Nat → Option σ → Overlay ω → Except RunError Plan → Overlay ω → Prop
  /-- No state can be made. -/
  | stateFails {number : Nat} {previous : Option σ} {o o₁ o₂ : Overlay ω} {entry : Entry}
      {failure : Failure} (hroot : o.classify e.backing root = (some entry, o₁))
      (hstate : (e.transform.initializeState options previous).run e.backing o₁ =
        (.error failure, o₂)) :
      Runs number previous o (.error (.initializeState failure)) o₂
  /-- The root command fails. -/
  | sweepFails {number : Nat} {previous state : Option σ} {o o₁ : Overlay ω} {error : RunError}
      (hsweep : e.Sweeps root options number previous o state (.error error) o₁) :
      Runs number previous o (.error error) o₁
  /-- No decision can be made. -/
  | finishFails {number : Nat} {previous state : Option σ} {o o₁ o₂ : Overlay ω}
      {failure : Failure} (hsweep : e.Sweeps root options number previous o state (.ok ()) o₁)
      (hfinish : (e.transform.handleFinish options state).run e.backing o₁ =
        (.error failure, o₂)) :
      Runs number previous o (.error (.finish failure)) o₂
  /-- This pass is the last. -/
  | stops {number : Nat} {previous state : Option σ} {o o₁ o₂ : Overlay ω}
      (hsweep : e.Sweeps root options number previous o state (.ok ()) o₁)
      (hfinish : (e.transform.handleFinish options state).run e.backing o₁ = (.ok .stop, o₂)) :
      Runs number previous o (.ok o₂.plan)
        (o₂.log e.backing (.finished number o₂.plan.length o₂.sizes.entries))
  /-- Another pass follows. -/
  | repeats {number : Nat} {previous state : Option σ} {o o₁ o₂ o' : Overlay ω}
      {result : Except RunError Plan}
      (hsweep : e.Sweeps root options number previous o state (.ok ()) o₁)
      (hfinish : (e.transform.handleFinish options state).run e.backing o₁ = (.ok .again, o₂))
      (hnext : Runs (number + 1) state o₂ result o') : Runs number previous o result o'

/-- A run ends for some bounds: the state before it, from which overlay, how it ends and with which
overlay. -/
def Ends (previous : Option σ) (o : Overlay ω) (result : Except RunError Plan) (o' : Overlay ω) :
    Prop :=
  ∃ depth passes, e.execute depth passes root options previous o = some (result, o')

variable {e root options}

/-! ## Moves -/

open Overlay

/-- Looking for a root keeps what asking keeps. -/
theorem kept_of_classify {P : Overlay ω → Prop} (h : KeptByAsking e.backing P) {path : Path}
    {found : Option Entry} {o o₁ : Overlay ω} (hroot : o.classify e.backing path = (found, o₁))
    (ho : P o) : P o₁ := by
  have hkept := h.ask (.classify path) rfl ho
  rw [Operation.run, hroot] at hkept
  exact hkept

/-- A root that is looked for is learnt of. -/
theorem learns_of_classify {path : Path} {found : Option Entry} {o o₁ : Overlay ω}
    (h : o.classify e.backing path = (found, o₁)) : Learns e.backing o o₁ :=
  kept_of_classify (keptByAsking_learns o) h .refl

/-- A root that is recorded is found. -/
theorem not_misses {o o' : Overlay ω} {result : Except RunError Plan}
    (h : (o.stores.entries.get? (e.backing.hash root)).isSome) : ¬e.Misses root o result o' := by
  rintro ⟨hroot⟩
  obtain ⟨entry, hentry⟩ := Option.isSome_iff_exists.mp h
  unfold classify classifyDirectory classifyAs at hroot
  rw [hentry] at hroot
  exact nomatch hroot

/-- A program between the sweeps keeps what asking keeps. -/
theorem kept_of_run {P : Overlay ω → Prop} (h : KeptByAsking e.backing P) {α : Type}
    {program : DataProgram ω α} {outcome : Except Failure α} {o o₁ : Overlay ω}
    (hrun : program.run e.backing o = (outcome, o₁)) (ho : P o) : P o₁ := by
  have hkept := DataProgram.run_kept h program ho
  rw [hrun] at hkept
  exact hkept

/-- A program between the sweeps only learns. -/
theorem learns_of_run {α : Type} {program : DataProgram ω α} {outcome : Except Failure α}
    {o o₁ : Overlay ω} (h : program.run e.backing o = (outcome, o₁)) : Learns e.backing o o₁ :=
  kept_of_run (keptByAsking_learns o) h .refl

/-- A sweep keeps what runs keep. -/
theorem Sweeps.kept {P : Overlay ω → Prop} (h : KeptByRuns e.backing P) {number : Nat}
    {previous state : Option σ} {o o₁ : Overlay ω} {result : Except RunError Unit}
    (hs : e.Sweeps root options number previous o state result o₁) (ho : P o) : P o₁ := by
  obtain ⟨hroot, hstate, hworks⟩ := hs
  have hfound := kept_of_classify h.toKeptByAsking hroot ho
  have hmade := kept_of_run h.toKeptByAsking hstate hfound
  exact hworks.kept h (h.log rfl hmade)

/-- A sweep leaves the root recorded. -/
theorem Sweeps.isSome_root {number : Nat} {previous state : Option σ} {o o₁ : Overlay ω}
    {result : Except RunError Unit} (h : e.Sweeps root options number previous o state result o₁) :
    (o₁.stores.entries.get? (e.backing.hash root)).isSome := by
  obtain ⟨hroot, hstate, hworks⟩ := h
  have hknown := (learns_of_run hstate).isSome_get? (isSome_of_classify hroot)
  exact hworks.moves.isSome_get? hknown

/-- A run keeps what runs keep. -/
theorem Runs.kept {P : Overlay ω → Prop} (h : KeptByRuns e.backing P) {number : Nat}
    {previous : Option σ} {o o' : Overlay ω} {result : Except RunError Plan}
    (hr : e.Runs root options number previous o result o') (ho : P o) : P o' := by
  have hasked := h.toKeptByAsking
  induction hr with
  | stateFails hroot hstate => exact kept_of_run hasked hstate (kept_of_classify hasked hroot ho)
  | sweepFails hsweep => exact hsweep.kept h ho
  | finishFails hsweep hfinish => exact kept_of_run hasked hfinish (hsweep.kept h ho)
  | stops hsweep hfinish => exact h.log rfl (kept_of_run hasked hfinish (hsweep.kept h ho))
  | repeats hsweep hfinish _ ih => exact ih (kept_of_run hasked hfinish (hsweep.kept h ho))

/-- A run is some moves. -/
theorem Runs.moves {number : Nat} {previous : Option σ} {o o' : Overlay ω}
    {result : Except RunError Plan} (h : e.Runs root options number previous o result o') :
    Moves e.backing o o' :=
  h.kept (keptByRuns_moves o) .refl

/-! ## Bounds -/

/-- What passes do to some depth, they do without bounds. -/
theorem runs_of_executeFrom {depth passes number : Nat} {previous : Option σ} {o o' : Overlay ω}
    {result : Except RunError Plan}
    (h : e.executeFrom depth root options passes number previous o = some (result, o')) :
    e.Misses root o result o' ∨ e.Runs root options number previous o result o' := by
  induction passes generalizing number previous o with
  | zero => exact nomatch h
  | succ passes ih =>
    unfold executeFrom at h
    split at h
    · rename_i o₁ hroot
      obtain ⟨rfl, rfl⟩ := Prod.mk.inj (Option.some.inj h)
      exact Or.inl (.miss hroot)
    · rename_i entry o₁ hroot
      split at h
      · rename_i failure o₂ hstate
        obtain ⟨rfl, rfl⟩ := Prod.mk.inj (Option.some.inj h)
        exact Or.inr (.stateFails hroot hstate)
      · rename_i state o₂ hstate
        split at h
        · exact nomatch h
        · rename_i error o₃ hdispatch
          obtain ⟨rfl, rfl⟩ := Prod.mk.inj (Option.some.inj h)
          exact Or.inr (.sweepFails (.sweep hroot hstate (works_of_dispatch hdispatch)))
        · rename_i o₃ hdispatch
          have hsweep := Sweeps.sweep hroot hstate (works_of_dispatch hdispatch)
          split at h
          · rename_i failure o₄ hfinish
            obtain ⟨rfl, rfl⟩ := Prod.mk.inj (Option.some.inj h)
            exact Or.inr (.finishFails hsweep hfinish)
          · rename_i o₄ hfinish
            -- The sweep has left the root recorded.
            have hknown := (learns_of_run hfinish).isSome_get? hsweep.isSome_root
            exact Or.inr (.repeats hsweep hfinish ((ih h).resolve_left (not_misses hknown)))
          · rename_i o₄ hfinish
            obtain ⟨rfl, rfl⟩ := Prod.mk.inj (Option.some.inj h)
            exact Or.inr (.stops hsweep hfinish)

/-- A sweep needs some depth only, and then goes on as the pass does. -/
theorem Sweeps.exists_depth {number : Nat} {previous state : Option σ} {o o₁ : Overlay ω}
    {result : Except RunError Unit} (h : e.Sweeps root options number previous o state result o₁) :
    ∃ least, ∀ depth ≥ least, ∀ passes,
      e.executeFrom depth root options (passes + 1) number previous o =
        match result with
        | .error error => some (.error error, o₁)
        | .ok () =>
          match (e.transform.handleFinish options state).run e.backing o₁ with
          | (.error failure, o₂) => some (.error (.finish failure), o₂)
          | (.ok .again, o₂) => e.executeFrom depth root options passes (number + 1) state o₂
          | (.ok .stop, o₂) =>
            some (.ok o₂.plan,
              o₂.log e.backing (.finished number o₂.plan.length o₂.sizes.entries)) := by
  obtain ⟨hroot, hstate, hworks⟩ := h
  obtain ⟨least, hleast⟩ := (carries_iff_works e _ _ _ _ _).mpr hworks
  refine ⟨least, fun depth hdepth passes => ?_⟩
  have hdispatch := e.dispatch_within _ hdepth _ _ _ hleast
  rw [executeFrom, hroot]
  dsimp only
  rw [hstate]
  dsimp only
  rw [hdispatch]
  cases result <;> rfl

/-- A run without bounds has bounds that suffice. -/
theorem Runs.exists_bounds {number : Nat} {previous : Option σ} {o o' : Overlay ω}
    {result : Except RunError Plan} (h : e.Runs root options number previous o result o') :
    ∃ least passes, ∀ depth ≥ least,
      e.executeFrom depth root options passes number previous o = some (result, o') := by
  induction h with
  | stateFails hroot hstate =>
    refine ⟨0, 1, fun depth _ => ?_⟩
    rw [executeFrom, hroot]
    dsimp only
    rw [hstate]
  | sweepFails hsweep =>
    obtain ⟨least, hleast⟩ := hsweep.exists_depth
    exact ⟨least, 1, fun depth hdepth => hleast depth hdepth 0⟩
  | finishFails hsweep hfinish =>
    obtain ⟨least, hleast⟩ := hsweep.exists_depth
    refine ⟨least, 1, fun depth hdepth => ?_⟩
    rw [hleast depth hdepth 0]
    dsimp only
    rw [hfinish]
  | stops hsweep hfinish =>
    obtain ⟨least, hleast⟩ := hsweep.exists_depth
    refine ⟨least, 1, fun depth hdepth => ?_⟩
    rw [hleast depth hdepth 0]
    dsimp only
    rw [hfinish]
  | repeats hsweep hfinish _ ih =>
    obtain ⟨least, hleast⟩ := hsweep.exists_depth
    obtain ⟨least', passes, hrest⟩ := ih
    -- The greater depth suffices for this pass and for those after it.
    refine ⟨max least least', passes + 1, fun depth hdepth => ?_⟩
    rw [hleast depth (Nat.le_trans (Nat.le_max_left _ _) hdepth) passes]
    dsimp only
    rw [hfinish]
    exact hrest depth (Nat.le_trans (Nat.le_max_right _ _) hdepth)

/-- Ending for some bounds is ending without bounds. -/
theorem ends_iff_runs {previous : Option σ} {o o' : Overlay ω} {result : Except RunError Plan} :
    e.Ends root options previous o result o' ↔
      e.Misses root o result o' ∨ e.Runs root options 1 previous o result o' := by
  constructor
  · rintro ⟨depth, passes, h⟩
    exact runs_of_executeFrom h
  · rintro (hmiss | h)
    · obtain ⟨hroot⟩ := hmiss
      exact ⟨0, 1, by rw [execute, executeFrom, hroot]⟩
    obtain ⟨least, passes, hbounds⟩ := h.exists_bounds
    exact ⟨least, passes, hbounds least (Nat.le_refl least)⟩

/-- An engine keeps what runs keep. -/
theorem Ends.kept {P : Overlay ω → Prop} (h : KeptByRuns e.backing P) {previous : Option σ}
    {o o' : Overlay ω} {result : Except RunError Plan}
    (hends : e.Ends root options previous o result o') (ho : P o) : P o' := by
  rcases ends_iff_runs.mp hends with hmiss | hruns
  · obtain ⟨hroot⟩ := hmiss
    exact h.log rfl (kept_of_classify h.toKeptByAsking hroot ho)
  · exact hruns.kept h ho

/-- Whether an overlay is reachable is kept by all that the engine does. -/
theorem keptByRuns_reached (b : Backing ω) : KeptByRuns b (Reached b) where
  ask operation _ _ ho := ho.run operation
  log _ _ ho := ho.log _
  announce _ _ _ ho := ho.log _
  abandon _ _ _ ho := ho.log _
  carry path c _ ho := by
    cases c with
    | write data => exact (ho.run (.stageWrite path data)).log _
    | delete => exact (ho.run (.stageDelete path)).log _

/-- A run leads from reachable overlays to reachable ones. -/
theorem Ends.reached {previous : Option σ} {o o' : Overlay ω} {result : Except RunError Plan}
    (h : e.Ends root options previous o result o') (ho : Reached e.backing o) :
    Reached e.backing o' :=
  h.kept (keptByRuns_reached e.backing) ho

/-! ## One ending -/

/-- Greater bounds change no ending of a run. -/
theorem executeFrom_mono {depth depth' passes passes' : Nat} (hdepth : depth ≤ depth')
    (hpasses : passes ≤ passes') {number : Nat} {previous : Option σ} {o : Overlay ω}
    {found : Except RunError Plan × Overlay ω}
    (h : e.executeFrom depth root options passes number previous o = some found) :
    e.executeFrom depth' root options passes' number previous o = some found := by
  induction passes generalizing passes' number previous o with
  | zero => exact nomatch h
  | succ passes ih =>
    obtain ⟨passes', rfl⟩ : ∃ n, passes' = n + 1 := ⟨passes' - 1, by omega⟩
    unfold executeFrom at h ⊢
    split at h
    · exact h
    · split at h
      · exact h
      · split at h
        · exact nomatch h
        · rename_i error o' hdispatch
          rw [e.dispatch_within _ hdepth _ _ _ hdispatch]
          exact h
        · rename_i o' hdispatch
          rw [e.dispatch_within _ hdepth _ _ _ hdispatch]
          dsimp only
          split at h
          · exact h
          · exact ih (Nat.le_of_succ_le_succ hpasses) h
          · exact h

/-- A run ends in one way only. -/
theorem Ends.unique {previous : Option σ} {o o₁ o₂ : Overlay ω}
    {result₁ result₂ : Except RunError Plan} (h₁ : e.Ends root options previous o result₁ o₁)
    (h₂ : e.Ends root options previous o result₂ o₂) : result₁ = result₂ ∧ o₁ = o₂ := by
  obtain ⟨depth₁, passes₁, h₁⟩ := h₁
  obtain ⟨depth₂, passes₂, h₂⟩ := h₂
  have h₁' := executeFrom_mono (Nat.le_max_left depth₁ depth₂) (Nat.le_max_left passes₁ passes₂) h₁
  have h₂' := executeFrom_mono (Nat.le_max_right depth₁ depth₂) (Nat.le_max_right passes₁ passes₂)
    h₂
  exact Prod.mk.inj (Option.some.inj (h₁'.symm.trans h₂'))

end Engine

end TreePlan
