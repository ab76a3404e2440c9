import TreePlan.Proofs.Engine.Tale

/-!
# Passes

A run that ends well makes passes. Each begins with a state made from that of the pass before, calls
handlers that are all shown this state, and ends with a decision under it; every decision but the
last is to go on. `passCalls` is the list of these calls, and it is what is seen of the run
(`Tale.calls`). The plan is drawn once, from the overlay at the end (`Runs.plan_eq`), so it holds
the changes of all passes.
-/

namespace TreePlan

variable {ω σ : Type}

/-- What a handler is told, if a call is of a handler. -/
def Call.visit? : Call σ → Option (Visit σ)
  | .directory v _ => some v
  | .file v _ => some v
  | .content v _ _ => some v
  | _ => none

/-- The call, if a call is seen. -/
def Happening.call? : Happening σ → Option (Call σ)
  | .call c => some c
  | .event _ => none

/-- The calls that are seen. -/
def calls (seen : Record σ) : List (Call σ) := seen.filterMap (·.call?)

/-- A pass: the state that it runs under and the calls of handlers in it. -/
structure Pass (σ : Type) where
  /-- The state. -/
  state : Option σ
  /-- The calls of handlers. -/
  handlers : List (Call σ)

/-- Every handler of the pass is shown the state of the pass. -/
def Pass.Uniform (p : Pass σ) : Prop :=
  ∀ call ∈ p.handlers, ∃ v, call.visit? = some v ∧ v.state = p.state

/-- The calls of passes after a state: for each pass that of its state, those of its handlers, and
that of its decision, which is to stop for the last pass and to go on for the others. -/
def passCalls (options : Options) : (previous : Option σ) → List (Pass σ) → List (Call σ)
  | _, [] => []
  | previous, [p] =>
    .newState options previous (.ok p.state) ::
      (p.handlers ++ [.decision options p.state (.ok .stop)])
  | previous, p :: q :: rest =>
    .newState options previous (.ok p.state) ::
      (p.handlers ++ .decision options p.state (.ok .again) ::
        passCalls options p.state (q :: rest))

/-- No call is seen among lines for the log. -/
theorem calls_of_quiet {told : Record σ} (h : Quiet told) : calls told = [] := by
  rw [calls, List.filterMap_eq_nil_iff]
  intro happening hmem
  obtain ⟨event, rfl, -⟩ := h happening hmem
  rfl

/-- The calls of two records are those of the first and then those of the second. -/
theorem calls_append (told told' : Record σ) : calls (told ++ told') = calls told ++ calls told' :=
  List.filterMap_append

/-- A call is seen before the calls that are seen after it. -/
theorem calls_call (call : Call σ) (told : Record σ) :
    calls (.call call :: told) = call :: calls told := rfl

namespace Engine

variable {e : Engine ω σ} {state : Option σ}

/-- Every handler that a step calls is shown the state. -/
theorem Tells.visits {task : Task} {next : Except RunError (List Task)} {told : Record σ}
    (h : e.Tells state task next told) : (Pass.mk state (calls told)).Uniform := by
  have hquiet {told : Record σ} (h : Quiet told) : (Pass.mk state (calls told)).Uniform := by
    rw [calls_of_quiet h]
    exact fun _ hmem => nomatch hmem
  have hcall {told rest : Record σ} {call : Call σ} (h : Quiet told) {v : Visit σ}
      (hv : call.visit? = some v) (hstate : v.state = state) (hrest : calls rest = []) :
      (Pass.mk state (calls (told ++ .call call :: rest))).Uniform := by
    rw [calls_append, calls_of_quiet h, List.nil_append, calls_call, hrest]
    intro call' hmem
    rw [List.mem_singleton.mp hmem]
    exact ⟨v, hv, hstate⟩
  cases h with
  | quiet h => exact hquiet h
  | refused h => exact hquiet h
  | discovered files h => exact hquiet h
  | deleted | written | announced => exact fun _ hmem => nomatch hmem
  | directory commands h => exact hcall h rfl rfl rfl
  | directoryFails failure h => exact hcall h rfl rfl rfl
  | file commands h => exact hcall h rfl rfl rfl
  | fileFails failure h => exact hcall h rfl rfl rfl
  | content data command h => exact hcall h rfl rfl rfl
  | contentFails data failure h => exact hcall h rfl rfl rfl

/-- Every handler that a run of the machine calls is shown the state. -/
theorem Trace.visits {stack : List Task} {result : Except RunError Unit} {told : Record σ}
    (h : e.Trace state stack result told) : (Pass.mk state (calls told)).Uniform := by
  induction h with
  | done => exact fun _ hmem => nomatch hmem
  | fail h => exact h.visits
  | @step task rest tasks result told told' h _ ih =>
    rw [calls_append]
    exact List.forall_mem_append.mpr ⟨h.visits, ih⟩

variable {root : Path} {options : Options}

/-- A sweep calls for a state and then for handlers, which are all shown this state. -/
theorem SweepTale.calls {previous : Option σ} {result : Except RunError Unit} {told : Record σ}
    (h : e.SweepTale root options previous state result told) :
    ∃ p : Pass σ, p.state = state ∧ p.Uniform ∧
      TreePlan.calls told = .newState options previous (.ok state) :: p.handlers := by
  obtain ⟨kind, hquiet, hquiet', htrace⟩ := h
  refine ⟨⟨state, _⟩, rfl, htrace.visits, ?_⟩
  rw [calls_append, calls_of_quiet hquiet, List.nil_append, calls_call, calls_append,
    calls_of_quiet hquiet', List.nil_append]

/-- The calls that are seen of a run that ends well are those of its passes. -/
theorem Tale.calls {previous : Option σ} {plan : Plan} {told : Record σ}
    (h : e.Tale root options previous (.ok plan) told) :
    ∃ passes : List (Pass σ), passes ≠ [] ∧ (∀ p ∈ passes, p.Uniform) ∧
      TreePlan.calls told = passCalls options previous passes := by
  generalize hr : (.ok plan : Except RunError Plan) = result at h
  induction h with
  | stateFails => exact nomatch hr
  | sweepFails => exact nomatch hr
  | finishFails => exact nomatch hr
  | stops _ hsweep hquiet hquiet' =>
    obtain ⟨p, rfl, huniform, hcalls⟩ := hsweep.calls
    refine ⟨[p], nofun, List.forall_mem_singleton.mpr huniform, ?_⟩
    rw [calls_append, hcalls, calls_append, calls_of_quiet hquiet, List.nil_append, calls_call,
      calls_of_quiet hquiet']
    rfl
  | repeats hsweep hquiet _ ih =>
    obtain ⟨p, rfl, huniform, hcalls⟩ := hsweep.calls
    -- The passes that follow are at least one, so this one is not the last.
    obtain ⟨passes, hne, hall, hrest⟩ := ih hr
    refine ⟨p :: passes, nofun, List.forall_mem_cons.mpr ⟨huniform, hall⟩, ?_⟩
    obtain ⟨q, rest, rfl⟩ := List.exists_cons_of_ne_nil hne
    rw [calls_append, hcalls, calls_append, calls_of_quiet hquiet, List.nil_append, calls_call,
      hrest]
    rfl

/-- A run of passes that ends well draws the plan from the overlay at the end. -/
theorem Runs.plan_eq {number : Nat} {previous : Option σ} {plan : Plan} {o o' : Overlay ω}
    (h : e.Runs root options number previous o (.ok plan) o') : plan = o'.plan := by
  generalize hr : (.ok plan : Except RunError Plan) = result at h
  induction h with
  | stateFails => exact nomatch hr
  | sweepFails => exact nomatch hr
  | finishFails => exact nomatch hr
  | stops => exact Except.ok.inj hr
  | repeats _ _ _ ih => exact ih hr

/-- A sweep finds the root. -/
theorem Sweeps.isSome_classify {number : Nat} {previous : Option σ}
    {result : Except RunError Unit} {o o₁ : Overlay ω}
    (h : e.Sweeps root options number previous o state result o₁) :
    (o.classify e.backing root).1.isSome := by
  obtain ⟨hroot⟩ := h
  rw [hroot]
  rfl

/-- A run of passes finds the root. -/
theorem Runs.isSome_classify {number : Nat} {previous : Option σ} {result : Except RunError Plan}
    {o o' : Overlay ω} (h : e.Runs root options number previous o result o') :
    (o.classify e.backing root).1.isSome := by
  cases h with
  | stateFails hroot =>
    rw [hroot]
    rfl
  | sweepFails h => exact h.isSome_classify
  | finishFails h => exact h.isSome_classify
  | stops h => exact h.isSome_classify
  | repeats h => exact h.isSome_classify

/-- A run without a root leaves the stores as they are and plans nothing. -/
theorem Misses.nothing {result : Except RunError Plan} {o o' : Overlay ω}
    (h : e.Misses root o result o') :
    (o.classify e.backing root).1 = none ∧ result = .ok [] ∧ o'.stores = o.stores := by
  obtain ⟨hroot⟩ := h
  have hstores := Overlay.classify_eq_none hroot
  refine ⟨?_, rfl, hstores⟩
  rw [hroot]

/-- A run that ends well without a root: the overlay that it begins with, the plan, the overlay that
it ends with, and what is seen of it. -/
structure PlansNothing (e : Engine ω σ) (root : Path) (o : Overlay ω) (plan : Plan)
    (o' : Overlay ω) (seen : Record σ) : Prop where
  /-- The root is neither a file nor a directory at the start. -/
  root_none : (o.classify e.backing root).1 = none
  /-- The plan is empty. -/
  plan_nil : plan = []
  /-- The stores are as they were. -/
  stores_eq : o'.stores = o.stores
  /-- Nothing is called, and callers are told nothing. -/
  quiet : Quiet seen

/-- A run that ends well with a root: the state before it, the overlay that it begins with, the
plan, the overlay that it ends with, and what is seen of it. -/
structure MakesPasses (e : Engine ω σ) (root : Path) (options : Options) (previous : Option σ)
    (o : Overlay ω) (plan : Plan) (o' : Overlay ω) (seen : Record σ) : Prop where
  /-- The root is a file or a directory at the start. -/
  isSome_root : (o.classify e.backing root).1.isSome
  /-- What is called is called by passes, each under one state. -/
  passes : ∃ passes : List (Pass σ), passes ≠ [] ∧ (∀ p ∈ passes, p.Uniform) ∧
    calls seen = passCalls options previous passes
  /-- The plan is drawn from the overlay at the end. -/
  plan_eq : plan = o'.plan
  /-- What was staged before stays staged, in its place. -/
  keys_prefix : o.stores.changes.byKey.keys <+: o'.stores.changes.byKey.keys
  /-- What any pass has announced to be staged is in the plan. -/
  announced : ∃ told, o'.reports = o.reports ++ told ∧
    ∀ (c : Change) path, .executed c.kind path ∈ told →
      ∃ step ∈ plan, e.backing.hash step.path = e.backing.hash path
  /-- All that is staged is in the plan, if the overlay was coherent. -/
  plan_keys : Overlay.Coherent e.backing o →
    plan.map (fun step => e.backing.hash step.path) = o'.stores.changes.byKey.keys

/-- A run of passes that ends well. -/
theorem Runs.makesPasses {previous : Option σ} {plan : Plan} {o o' : Overlay ω} {seen : Record σ}
    (h : e.Runs root options 1 previous o (.ok plan) o')
    (htale : e.Tale root options previous (.ok plan) seen) :
    e.MakesPasses root options previous o plan o' seen where
  isSome_root := h.isSome_classify
  passes := htale.calls
  plan_eq := h.plan_eq
  keys_prefix := h.moves.keys_prefix
  announced := by
    obtain ⟨told, hreports, hplanned⟩ := h.moves.announced_planned
    refine ⟨told, hreports, fun c path hmem => ?_⟩
    rw [h.plan_eq]
    exact (hplanned c path hmem).exists_step
  plan_keys hc := by
    rw [h.plan_eq]
    exact (hc.moves h.moves).plan_keys

/-- A run that ends well does one of two things. Without a root at the start it plans nothing, calls
nothing, tells nothing and leaves the stores as they are. Otherwise it makes at least one pass. The
state of each is made from that of the pass before, the first from the state before the run; every
handler and the decision of a pass are shown its state; the decision is to stop for the last pass
only. The plan is drawn from the overlay at the end and holds the changes of all passes. -/
theorem passes_of_ends {previous : Option σ} {plan : Plan} {o o' : Overlay ω}
    (h : e.Ends root options previous o (.ok plan) o') :
    (∃ seen, e.EndsSeen root options previous o (.ok plan) o' seen) ∧
      ∀ seen, e.EndsSeen root options previous o (.ok plan) o' seen →
        e.PlansNothing root o plan o' seen ∨
          e.MakesPasses root options previous o plan o' seen := by
  refine ⟨h.exists_seen, fun seen hseen => ?_⟩
  rcases hseen.tale with ⟨hmiss, hquiet⟩ | ⟨hruns, htale⟩
  · obtain ⟨hroot, hplan, hstores⟩ := hmiss.nothing
    exact Or.inl ⟨hroot, Except.ok.inj hplan, hstores, hquiet⟩
  · exact Or.inr (hruns.makesPasses htale)

/-- An engine over a single file that appends to its content in each of two passes. -/
def appendsTwice : Engine Unit Nat where
  backing := .ofView (fun _ => default) id (fun _ _ => .ok (some .file)) (fun _ _ => .ok [])
    (fun _ _ => .ok "a") (fun _ _ _ _ => .ok [])
  transform :=
    { handleData := fun v data => pure (.stage v.path (data ++ "!"))
      initializeState := fun _ previous => pure (some (previous.getD 0 + 1))
      handleFinish := fun _ state => pure (if state = some 2 then .stop else .again) }

/-- The second pass of a run reads what the first has staged, and makes passes as any other. -/
theorem passes_of_ends_appendsTwice :
    ∃ o', appendsTwice.Ends (.ofString "a") .empty none (.new ())
        (.ok [.write (.ofString "a") "a!!"]) o' ∧
      (∃ seen, appendsTwice.EndsSeen (.ofString "a") .empty none (.new ())
        (.ok [.write (.ofString "a") "a!!"]) o' seen) ∧
      ∀ seen, appendsTwice.EndsSeen (.ofString "a") .empty none (.new ())
          (.ok [.write (.ofString "a") "a!!"]) o' seen →
        appendsTwice.PlansNothing (.ofString "a") (.new ()) [.write (.ofString "a") "a!!"] o'
            seen ∨
          appendsTwice.MakesPasses (.ofString "a") .empty none (.new ())
            [.write (.ofString "a") "a!!"] o' seen := by
  have hends : ∃ o', appendsTwice.Ends (.ofString "a") .empty none (.new ())
      (.ok [.write (.ofString "a") "a!!"]) o' := ⟨_, 4, 2, rfl⟩
  obtain ⟨o', h⟩ := hends
  exact ⟨o', h, passes_of_ends h⟩

end Engine

end TreePlan
