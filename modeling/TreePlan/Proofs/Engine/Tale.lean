import TreePlan.Proofs.Engine.Watching

/-!
# What a run shows

The watched engine matches the engine (`watched_matches`), so the runs of the one are the runs of
the other (`ends_watched_iff`). What a run of the machine shows is a trace: what its steps tell, one
after the other (`Engine.Trace`). What a run of passes shows is a tale: for every pass its state,
the trace of its sweep and its decision (`Engine.Tale`). Traces and tales are made of tasks, calls
and events only, without any overlay.
-/

namespace TreePlan

namespace Engine

variable {ω σ : Type} (e : Engine ω σ)

/-! ## The watched engine and the engine -/

/-- The watched engine matches the engine. -/
theorem watched_matches : Matches (fun o₁ o₂ => o₁.unwatched = o₂) e.watched e where
  stores o₁ o₂ h := h ▸ rfl
  classify path o₁ o₂ h := by
    subst h
    have hnow := Overlay.quietSince_unwatched o₁
    exact (hnow.classify (e.backing.watched_alike _) path).imp_right
      Overlay.QuietSince.unwatched_eq
  log event o₁ o₂ _ h := by
    subst h
    rfl
  perform state task o₁ o₂ h := by
    subst h
    obtain ⟨hnext, hunwatched, -⟩ := e.perform_watched state task o₁
    exact ⟨congrArg (·.map busy) hnext, hunwatched⟩
  initializeState options previous o₁ o₂ h := by
    subst h
    exact (DataProgram.run_recorded (e.transform.initializeState options previous)
      (.newState options previous) (Overlay.quietSince_unwatched o₁)).imp_right (·.1)
  handleFinish options state o₁ o₂ h := by
    subst h
    exact (DataProgram.run_recorded (e.transform.handleFinish options state)
      (.decision options state) (Overlay.quietSince_unwatched o₁)).imp_right (·.1)

/-- The engine ends as the watched engine does, from the overlay beneath and with it. -/
theorem ends_watched_iff {root : Path} {options : Options} {previous : Option σ}
    (o : Overlay (Watched ω σ)) {o' : Overlay ω} {result : Except RunError Plan} :
    e.Ends root options previous o.unwatched result o' ↔
      ∃ v, e.watched.Ends root options previous o result v ∧ v.unwatched = o' := by
  constructor
  · exact fun h => e.watched_matches.symm.ends h rfl
  · rintro ⟨v, h, rfl⟩
    obtain ⟨o', h', rfl⟩ := e.watched_matches.ends h rfl
    exact h'

/-- The machine of the engine works as that of the watched engine does, from the overlay beneath and
to it. -/
theorem works_watched_iff {state : Option σ} {stack : List Task} (o : Overlay (Watched ω σ))
    {o' : Overlay ω} {result : Except RunError Unit} :
    e.Works state stack o.unwatched result o' ↔
      ∃ v, e.watched.Works state stack o result v ∧ v.unwatched = o' := by
  constructor
  · exact fun h => e.watched_matches.symm.works h rfl
  · rintro ⟨v, h, rfl⟩
    obtain ⟨o', h', rfl⟩ := e.watched_matches.works h rfl
    exact h'

/-! ## Traces -/

/-- What a run of the machine shows: from which stack, how it ends, and what is seen meanwhile. -/
inductive Trace (state : Option σ) :
    List Task → Except RunError Unit → Record σ → Prop
  /-- Nothing is left to do. -/
  | done : Trace state [] (.ok ()) []
  /-- The task on top fails. -/
  | fail {task : Task} {rest : List Task} {error : RunError} {told : Record σ}
      (h : e.Tells state task (.error error) told) :
      Trace state (task :: rest) (.error error) told
  /-- The task on top is popped, and what follows from it is pushed. -/
  | step {task : Task} {rest tasks : List Task} {result : Except RunError Unit}
      {told told' : Record σ} (h : e.Tells state task (.ok tasks) told)
      (hrest : Trace state (tasks ++ rest) result told') :
      Trace state (task :: rest) result (told ++ told')

variable {e} {state : Option σ}

/-- The machine shows a trace. -/
theorem Works.trace {stack : List Task} {result : Except RunError Unit}
    {o o' : Overlay (Watched ω σ)} (h : e.watched.Works state stack o result o') :
    ∃ told, e.Trace state stack result told ∧ o'.world.seen = o.world.seen ++ told := by
  induction h with
  | done o => exact ⟨[], .done, (List.append_nil _).symm⟩
  | @fail task rest o o' error hp =>
    obtain ⟨hnext, -, told, htells, hseen⟩ := e.perform_watched state task o
    rw [hp] at hnext hseen
    rw [← hnext] at htells
    exact ⟨told, .fail htells, hseen⟩
  | @step task rest tasks o o₁ o' result hp _ ih =>
    obtain ⟨hnext, -, told, htells, hseen⟩ := e.perform_watched state task o
    rw [hp] at hnext hseen
    rw [← hnext] at htells
    obtain ⟨told', htrace, hseen'⟩ := ih
    refine ⟨told ++ told', .step htells htrace, ?_⟩
    rw [hseen', hseen, List.append_assoc]

/-- An announcement on top of the stack is the next thing that is seen. -/
theorem Trace.of_announcement {parent : ParentKind} {path : Path} {rest : List Task}
    {result : Except RunError Unit} {told : Record σ}
    (h : e.Trace state (.announcement parent path :: rest) result told) :
    ∃ told', told = .event (.executed parent.kind path) :: told' ∧
      e.Trace state rest result told' := by
  cases h with
  | fail h =>
    cases h with
    | directoryFails _ _ _ htask => rcases htask with htask | htask <;> exact nomatch htask
  | step h hrest =>
    generalize htasks : (Except.ok _ : Except RunError (List Task)) = next at h
    cases h with
    | quiet _ htask => exact absurd rfl (htask parent path)
    | announced =>
      rw [Except.ok.inj htasks] at hrest
      exact ⟨_, rfl, hrest⟩
    | directory _ _ htask => rcases htask with htask | htask <;> exact nomatch htask
    | directoryFails _ _ _ htask => rcases htask with htask | htask <;> exact nomatch htask

/-! ## Tales -/

section Tales

variable (e) (root : Path) (options : Options)

/-- What a sweep shows: the state before it and its own, how the root command ends, and what is seen
meanwhile. -/
inductive SweepTale (previous state : Option σ) :
    Except RunError Unit → Record σ → Prop
  /-- The state is made, and the root command is carried out. -/
  | sweep {told told' trace : Record σ} {result : Except RunError Unit}
      (kind : EntryKind) (hquiet : Quiet told) (hquiet' : Quiet told')
      (htrace : e.Trace state [.command (rootCommand root options kind)] result trace) :
      SweepTale previous state result
        (told ++ .call (.newState options previous (.ok state)) :: (told' ++ trace))

/-- What a run of passes shows: the state before it, how it ends, and what is seen meanwhile. -/
inductive Tale : Option σ → Except RunError Plan → Record σ → Prop
  /-- No state can be made. -/
  | stateFails {previous : Option σ} {told : Record σ} (failure : Failure)
      (hquiet : Quiet told) :
      Tale previous (.error (.initializeState failure))
        (told ++ [.call (.newState options previous (.error failure))])
  /-- The root command fails. -/
  | sweepFails {previous state : Option σ} {sweep : Record σ} {error : RunError}
      (hsweep : e.SweepTale root options previous state (.error error) sweep) :
      Tale previous (.error error) sweep
  /-- No decision can be made. -/
  | finishFails {previous state : Option σ} {sweep told : Record σ} (failure : Failure)
      (hsweep : e.SweepTale root options previous state (.ok ()) sweep) (hquiet : Quiet told) :
      Tale previous (.error (.finish failure))
        (sweep ++ (told ++ [.call (.decision options state (.error failure))]))
  /-- This pass is the last. -/
  | stops {previous state : Option σ} {sweep told told' : Record σ} (plan : Plan)
      (hsweep : e.SweepTale root options previous state (.ok ()) sweep) (hquiet : Quiet told)
      (hquiet' : Quiet told') :
      Tale previous (.ok plan)
        (sweep ++ (told ++ .call (.decision options state (.ok .stop)) :: told'))
  /-- Another pass follows. -/
  | repeats {previous state : Option σ} {sweep told rest : Record σ}
      {result : Except RunError Plan}
      (hsweep : e.SweepTale root options previous state (.ok ()) sweep) (hquiet : Quiet told)
      (hnext : Tale state result rest) :
      Tale previous result
        (sweep ++ (told ++ .call (.decision options state (.ok .again)) :: rest))

end Tales

variable {root : Path} {options : Options}

/-- While a root is looked for, only lines for the log are seen. -/
theorem seen_of_classify {path : Path} {found : Option Entry} {o o₁ : Overlay (Watched ω σ)}
    (h : o.classify e.watched.backing path = (found, o₁)) :
    ∃ told, Quiet told ∧ o₁.world.seen = o.world.seen ++ told := by
  have hclassify := (Overlay.quietSince_unwatched o).classify (e.backing.watched_alike _) path
  rw [show o.classify e.backing.watched path = (found, o₁) from h] at hclassify
  exact hclassify.2.world.2

/-- While a program between the sweeps runs, only lines for the log are seen, and then its call. -/
theorem seen_of_run {α : Type} {program : DataProgram ω α} {call : Except Failure α → Call σ}
    {outcome : Except Failure α} {o o₁ : Overlay (Watched ω σ)}
    (h : DataProgram.run e.watched.backing (program.recorded call) o = (outcome, o₁)) :
    ∃ told, Quiet told ∧ o₁.world.seen = o.world.seen ++ (told ++ [.call (call outcome)]) := by
  have hrun := program.run_recorded (b := e.backing) call (Overlay.quietSince_unwatched o)
  rw [show DataProgram.run e.backing.watched (program.recorded call) o = (outcome, o₁) from h]
    at hrun
  obtain ⟨houtcome, -, hseen⟩ := hrun
  rw [← houtcome] at hseen
  exact hseen

/-- An event is seen. -/
theorem seen_log (event : Event) (o : Overlay (Watched ω σ)) :
    (o.log e.watched.backing event).world.seen = o.world.seen ++ [.event event] := rfl

/-- A sweep shows the tale of a sweep. -/
theorem Sweeps.tale {number : Nat} {previous : Option σ} {result : Except RunError Unit}
    {o o₁ : Overlay (Watched ω σ)}
    (h : e.watched.Sweeps root options number previous o state result o₁) :
    ∃ told, e.SweepTale root options previous state result told ∧
      o₁.world.seen = o.world.seen ++ told := by
  obtain ⟨hroot, hstate, hworks⟩ := h
  obtain ⟨told, hquiet, hclassified⟩ := seen_of_classify hroot
  obtain ⟨told', hquiet', hstated⟩ := seen_of_run hstate
  obtain ⟨trace, htrace, hworked⟩ := hworks.trace
  refine ⟨_, .sweep _ (hquiet.append hquiet') (quiet_singleton (.passStarted number root) rfl)
    htrace, ?_⟩
  rw [hworked, seen_log, hstated, hclassified]
  simp only [List.append_assoc, List.cons_append, List.nil_append]

/-- A run of passes shows a tale. -/
theorem Runs.tale {number : Nat} {previous : Option σ} {result : Except RunError Plan}
    {o o' : Overlay (Watched ω σ)}
    (h : e.watched.Runs root options number previous o result o') :
    ∃ told, e.Tale root options previous result told ∧
      o'.world.seen = o.world.seen ++ told := by
  induction h with
  | stateFails hroot hstate =>
    obtain ⟨told, hquiet, hclassified⟩ := seen_of_classify hroot
    obtain ⟨told', hquiet', hstated⟩ := seen_of_run hstate
    refine ⟨_, .stateFails _ (hquiet.append hquiet'), ?_⟩
    rw [hstated, hclassified, List.append_assoc, List.append_assoc]
  | sweepFails hsweep =>
    obtain ⟨told, htale, hswept⟩ := hsweep.tale
    exact ⟨told, .sweepFails htale, hswept⟩
  | finishFails hsweep hfinish =>
    obtain ⟨told, htale, hswept⟩ := hsweep.tale
    obtain ⟨told', hquiet, hdecided⟩ := seen_of_run hfinish
    refine ⟨_, .finishFails _ htale hquiet, ?_⟩
    rw [hdecided, hswept, List.append_assoc]
  | @stops number _ _ _ _ p hsweep hfinish =>
    obtain ⟨told, htale, hswept⟩ := hsweep.tale
    obtain ⟨told', hquiet, hdecided⟩ := seen_of_run hfinish
    refine ⟨_, .stops _ htale hquiet
      (quiet_singleton (.finished number p.plan.length p.sizes.entries) rfl), ?_⟩
    rw [seen_log, hdecided, hswept]
    simp only [List.append_assoc, List.cons_append, List.nil_append]
  | repeats hsweep hfinish _ ih =>
    obtain ⟨told, htale, hswept⟩ := hsweep.tale
    obtain ⟨told', hquiet, hdecided⟩ := seen_of_run hfinish
    obtain ⟨rest, hnext, hended⟩ := ih
    refine ⟨_, .repeats htale hquiet hnext, ?_⟩
    rw [hended, hdecided, hswept]
    simp only [List.append_assoc, List.cons_append, List.nil_append]

/-! ## Whole runs -/

section WholeRuns

variable (e) (root options)

/-- A run ends, and this is what is seen of it: the state before it, from which overlay, how it
ends, with which overlay, and what is seen. -/
def EndsSeen (previous : Option σ) (o : Overlay ω) (result : Except RunError Plan)
    (o' : Overlay ω) (seen : Record σ) : Prop :=
  ∃ v, e.watched.Ends root options previous o.watched result v ∧ v.unwatched = o' ∧
    v.world.seen = seen

end WholeRuns

variable {previous : Option σ} {o o' : Overlay ω} {result : Except RunError Plan}

/-- Something is seen of every run. -/
theorem Ends.exists_seen (h : e.Ends root options previous o result o') :
    ∃ seen, e.EndsSeen root options previous o result o' seen := by
  obtain ⟨v, hv, hunwatched⟩ := (e.ends_watched_iff o.watched).mp h
  exact ⟨v.world.seen, v, hv, hunwatched, rfl⟩

/-- What is seen of a run without a root is lines for the log, and of any other run it is a tale. -/
theorem EndsSeen.tale {seen : Record σ}
    (h : e.EndsSeen root options previous o result o' seen) :
    (e.Misses root o result o' ∧ Quiet seen) ∨
      (e.Runs root options 1 previous o result o' ∧ e.Tale root options previous result seen) := by
  obtain ⟨v, hends, rfl, rfl⟩ := h
  rcases ends_iff_runs.mp hends with hmiss | hruns
  · -- What is seen before the root is missed are lines for the log.
    obtain ⟨hroot⟩ := hmiss
    rename_i p
    obtain ⟨told, hquiet, hseen⟩ := seen_of_classify hroot
    obtain ⟨q, hroot', rfl⟩ := exists_of_agree (e.watched_matches.classify root _ _ rfl) hroot
    refine Or.inl ⟨.miss hroot', ?_⟩
    rw [seen_log, hseen]
    exact hquiet.append (quiet_singleton (.rootMissing root) rfl)
  · obtain ⟨q, hruns', rfl⟩ := e.watched_matches.runs hruns rfl
    obtain ⟨told, htale, hseen⟩ := hruns.tale
    rw [hseen]
    exact Or.inr ⟨hruns', htale⟩

end Engine

end TreePlan
