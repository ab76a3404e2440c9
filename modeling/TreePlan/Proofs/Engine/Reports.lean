import TreePlan.Proofs.Engine.Tale

/-!
# Reports of failures

In the record of a run, the report of a failure stands where it belongs and nowhere else
(`Contained`): right after the call of a file or data handler that failed, with its path and its
reason, and right before the announcement of the command that the handler was called for. A failed
handler leaves the announcement on top of the stack, so the announcement is the next thing the
machine shows (`Trace.of_announcement`), and by induction every trace is contained
(`Trace.contained`), and then every tale (`Tale.contained`).
-/

namespace TreePlan

/-- Whether an event is the report of a failure. -/
def Event.isFailure : Event → Bool
  | .abandoned _ _ => true
  | _ => false

variable {ω σ : Type}

/-- What was called for which path and why it failed, if the call of a file or data handler has
failed. -/
def Call.failure? : Call σ → Option (ParentKind × Path × Failure)
  | .file v (.error failure) => some (.file, v.path, failure)
  | .content v _ (.error failure) => some (.content, v.path, failure)
  | _ => none

/-- Every failure of a file or data handler is reported at once, and then its command is announced.
Nothing else is reported. -/
inductive Contained : Record σ → Prop
  /-- Nothing has been seen. -/
  | nil : Contained []
  /-- Something happens that is not a report. -/
  | event {event : Event} {rest : Record σ} (h : event.isFailure = false)
      (hrest : Contained rest) : Contained (.event event :: rest)
  /-- A call does not fail, or is not one of a file or data handler. -/
  | call {call : Call σ} {rest : Record σ} (h : call.failure? = none) (hrest : Contained rest) :
      Contained (.call call :: rest)
  /-- A file or data handler fails. -/
  | failure {call : Call σ} {parent : ParentKind} {path : Path} {failure : Failure}
      {rest : Record σ} (h : call.failure? = some (parent, path, failure))
      (hrest : Contained rest) :
      Contained (.call call :: .event (.abandoned path failure) ::
        .event (.executed parent.kind path) :: rest)

/-- What is contained may be followed by what is contained. -/
theorem Contained.append {told told' : Record σ} (h : Contained told) (h' : Contained told') :
    Contained (told ++ told') := by
  induction h with
  | nil => exact h'
  | event h _ ih => exact .event h ih
  | call h _ ih => exact .call h ih
  | failure h _ ih => exact .failure h ih

/-- An event is not needed for what comes after it to be contained. -/
theorem Contained.of_event {event : Event} {rest : Record σ}
    (h : Contained (.event event :: rest)) : Contained rest := by
  cases h with
  | event _ hrest => exact hrest

/-- Lines for the log are contained. -/
theorem Quiet.contained {told : Record σ} (h : Quiet told) : Contained told := by
  induction told with
  | nil => exact .nil
  | cons happening rest ih =>
    obtain ⟨event, rfl, hevent⟩ := h happening List.mem_cons_self
    have hfailure : event.isFailure = false := by
      cases event with
      | abandoned path failure => exact nomatch hevent
      | _ => rfl
    exact .event hfailure (ih fun x hx => h x (List.mem_cons_of_mem _ hx))

namespace Engine

variable {e : Engine ω σ} {state : Option σ}

/-- What is seen of a failure is contained, if what comes after its announcement is. -/
theorem contained_of_failure {call : Call σ} {parent : ParentKind} {path : Path}
    {failure : Failure} {rest : List Task} {result : Except RunError Unit} {told told' : Record σ}
    (hquiet : Quiet told) (h : call.failure? = some (parent, path, failure))
    (htrace : e.Trace state (.announcement parent path :: rest) result told')
    (hrest : Contained told') :
    Contained (told ++ [.call call, .event (.abandoned path failure)] ++ told') := by
  obtain ⟨told'', rfl, -⟩ := htrace.of_announcement
  rw [List.append_assoc]
  exact hquiet.contained.append (.failure h hrest.of_event)

/-- What a run of the machine shows is contained. -/
theorem Trace.contained {stack : List Task} {result : Except RunError Unit} {told : Record σ}
    (h : e.Trace state stack result told) : Contained told := by
  have hcall {told : Record σ} {call : Call σ} (hquiet : Quiet told) (h : call.failure? = none) :
      Contained (told ++ [.call call]) := hquiet.contained.append (.call h .nil)
  induction h with
  | done => exact .nil
  | fail h =>
    cases h with
    | refused hquiet => exact hquiet.contained
    | directoryFails failure hquiet => exact hcall hquiet rfl
  | step h hrest ih =>
    generalize htasks : (Except.ok _ : Except RunError (List Task)) = next at h
    cases h with
    | quiet hquiet => exact hquiet.contained.append ih
    | refused => exact nomatch htasks
    | discovered files hquiet => exact hquiet.contained.append ih
    | deleted | written | announced => exact .event rfl ih
    | directory commands hquiet => exact (hcall hquiet rfl).append ih
    | directoryFails => exact nomatch htasks
    | file commands hquiet => exact (hcall hquiet rfl).append ih
    -- A failed handler orders nothing, so the announcement is on top of the stack now.
    | fileFails failure hquiet =>
      obtain rfl := Except.ok.inj htasks
      exact contained_of_failure hquiet rfl hrest ih
    | content data command hquiet => exact (hcall hquiet rfl).append ih
    | contentFails data failure hquiet =>
      obtain rfl := Except.ok.inj htasks
      exact contained_of_failure hquiet rfl hrest ih

variable {root : Path} {options : Options} {previous : Option σ}

/-- What a sweep shows is contained. -/
theorem SweepTale.contained {result : Except RunError Unit} {told : Record σ}
    (h : e.SweepTale root options previous state result told) : Contained told := by
  obtain ⟨kind, hquiet, hquiet', htrace⟩ := h
  exact hquiet.contained.append (.call rfl (hquiet'.contained.append htrace.contained))

/-- What a run of passes shows is contained. -/
theorem Tale.contained {result : Except RunError Plan} {told : Record σ}
    (h : e.Tale root options previous result told) : Contained told := by
  induction h with
  | stateFails failure hquiet => exact hquiet.contained.append (.call rfl .nil)
  | sweepFails hsweep => exact hsweep.contained
  | finishFails failure hsweep hquiet =>
    exact hsweep.contained.append (hquiet.contained.append (.call rfl .nil))
  | stops plan hsweep hquiet hquiet' =>
    exact hsweep.contained.append (hquiet.contained.append (.call rfl hquiet'.contained))
  | repeats hsweep hquiet _ ih =>
    exact hsweep.contained.append (hquiet.contained.append (.call rfl ih))

end Engine

end TreePlan
