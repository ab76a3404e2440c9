import TreePlan.Proofs.Engine.Tale

/-!
# Order and failure

The machine says in which order things are done, and so the recursion keeps that order. A command
and all it leads to are done before the next sibling begins (`works_append_iff`), and the last thing
seen of a command that has led to others is its announcement (`Trace.concludes`).

An error ends everything. The machine has reached the task that fails by steps that did not
(`works_error_iff`), and there are three ways to fail (`Engine.Fails`): the handler of a directory
fails, discovery fails, or a path is handed over that is staged for deletion. The failing step only
learns (`Fails.learns`), so nothing is staged or announced by it, and the only call that it shows is
that of the handler of the directory that the error names (`Tells.lastCall`).
-/

namespace TreePlan

variable {ω σ : Type}

/-- What is announced when a command is done. -/
def Command.announced? : Command → Option (CommandKind × Path)
  | .traverseDirectory path _ => some (.traverseDirectory, path)
  | .traverseFile path _ => some (.traverseFile, path)
  | .materialize path _ => some (.materialize, path)
  | .delete path => some (.delete, path)
  | .stage path _ => some (.stageData, path)
  | .noop => none

/-- The directory and the reason, if the handler of a directory has failed. -/
def Happening.directoryFailure? : Happening σ → Option (Path × Failure)
  | .call (.directory v (.error failure)) => some (v.path, failure)
  | _ => none

/-- What is seen of a command ends with its announcement, or there was nothing to do. -/
inductive Concludes (c : Command) : Record σ → Prop
  /-- There was nothing to do. -/
  | quiet {told : Record σ} (hquiet : Quiet told) : Concludes c told
  /-- The announcement comes last. -/
  | announced {kind : CommandKind} {path : Path} (before : Record σ) {after : Record σ}
      (hannounced : c.announced? = some (kind, path)) (hquiet : Quiet after) :
      Concludes c (before ++ .event (.executed kind path) :: after)

/-- What is seen of a step that fails: the call of the handler of the directory that the error
names, and no call if it names none. -/
inductive LastCall : RunError → Record σ → Prop
  /-- No handler is called. -/
  | refused {error : RunError} {told : Record σ} (hquiet : Quiet told)
      (herror : ∀ path failure, error ≠ .directoryHandler path failure) : LastCall error told
  /-- The handler of a directory fails. -/
  | directory (v : Visit σ) (failure : Failure) {told : Record σ} (hquiet : Quiet told) :
      LastCall (.directoryHandler v.path failure)
        (told ++ [.call (.directory v (.error failure))])

namespace Engine

variable (e : Engine ω σ) (state : Option σ)

/-! ## Steps of the machine -/

/-- One step of the machine: the task on top is popped, and what follows from it is pushed. -/
inductive Step : List Task × Overlay ω → List Task × Overlay ω → Prop
  /-- The task on top does not fail. -/
  | step {task : Task} {rest tasks : List Task} {o o₁ : Overlay ω}
      (h : e.perform state task o = (.ok tasks, o₁)) : Step (task :: rest, o) (tasks ++ rest, o₁)

/-- Any number of steps of the machine. -/
abbrev Reaches : List Task × Overlay ω → List Task × Overlay ω → Prop :=
  Relation.ReflTransGen (e.Step state)

/-- How a task fails: from which overlay, with which error and with which overlay. -/
inductive Fails : Task → Overlay ω → RunError → Overlay ω → Prop
  /-- The handler of a directory fails. -/
  | directory {task : Task} {path : Path} {options : Options} {entry : Entry}
      {failure : Failure} {o o₁ o₂ : Overlay ω}
      (htask : task = .command (.traverseDirectory path options) ∨
        task = .ownHandler path options)
      (hclassify : o.classifyDirectory e.backing path = (some entry, o₁))
      (hrun : (e.transform.handleDirectory (e.visit state path options)).run e.backing o₁ =
        (.error failure, o₂)) :
      Fails task o (.directoryHandler path failure) o₂
  /-- A search for files fails. -/
  | discovery {path : Path} {options : Options} {cause : SearchError} {o o₁ : Overlay ω}
      (hdiscover : o.discover e.backing path e.transform.includes e.transform.excludes =
        (.error cause.toRunError, o₁)) :
      Fails (.command (.traverseDirectory path options)) o cause.toRunError o₁
  /-- A path is handed over that is staged for deletion. -/
  | deleted {path : Path} {options : Options} {o : Overlay ω}
      (hstaged : o.stores.changes.get? (e.backing.hash path) = some .delete) :
      Fails (.command (.materialize path options)) o (.fileDeleted path) o

variable {e state}

/-- There is no other way to fail for the handler of a directory than to fail. -/
theorem fails_of_performDirectory {task : Task} {path : Path} {options : Options}
    {error : RunError} {o o' : Overlay ω}
    (htask : task = .command (.traverseDirectory path options) ∨ task = .ownHandler path options)
    (h : e.performDirectory state path options o = (.error error, o')) :
    e.Fails state task o error o' := by
  unfold performDirectory at h
  split at h
  · exact nomatch (Prod.mk.inj h).1
  · rename_i hclassify
    split at h
    · split at h
      · rename_i hrun
        obtain ⟨herror, rfl⟩ := Prod.mk.inj h
        obtain rfl := Except.error.inj herror
        exact .directory htask hclassify hrun
      · exact nomatch (Prod.mk.inj h).1
    · exact nomatch (Prod.mk.inj h).1

/-- There are three ways to fail. -/
theorem fails_of_perform {task : Task} {error : RunError} {o o' : Overlay ω}
    (h : e.perform state task o = (.error error, o')) : e.Fails state task o error o' := by
  unfold perform at h
  split at h
  · split at h
    · exact fails_of_performDirectory (Or.inl rfl) h
    · unfold performDiscovery at h
      split at h
      · rename_i hdiscover
        obtain ⟨herror, rfl⟩ := Prod.mk.inj h
        obtain rfl := Except.error.inj herror
        obtain ⟨cause, rfl⟩ := Overlay.discover_eq_error hdiscover
        exact .discovery hdiscover
      · exact nomatch (Prod.mk.inj h).1
  · unfold performFile at h
    split at h <;> exact nomatch (Prod.mk.inj h).1
  · unfold performContent at h
    split at h
    · rename_i hread
      obtain ⟨herror, rfl⟩ := Prod.mk.inj h
      obtain rfl := Except.error.inj herror
      obtain ⟨rfl, rfl, hstaged⟩ := Overlay.read_eq_error hread
      exact .deleted hstaged
    · exact nomatch (Prod.mk.inj h).1
  · exact nomatch (Prod.mk.inj h).1
  · exact nomatch (Prod.mk.inj h).1
  · exact nomatch (Prod.mk.inj h).1
  · exact fails_of_performDirectory (Or.inr rfl) h
  · exact nomatch (Prod.mk.inj h).1

/-- A step that fails only learns. -/
theorem Fails.learns {task : Task} {error : RunError} {o o' : Overlay ω}
    (h : e.Fails state task o error o') : Overlay.Learns e.backing o o' := by
  cases h with
  | @directory _ path options entry failure _ o₁ _ htask hclassify hrun =>
    have hfound := Overlay.classifyAs_learns (b := e.backing) .directory path o
    rw [show o.classifyAs e.backing .directory path = (some entry, o₁) from hclassify] at hfound
    have hhandled := DirectoryProgram.run_learns (b := e.backing)
      (e.transform.handleDirectory (e.visit state path options)) o₁
    rw [hrun] at hhandled
    exact hfound.trans hhandled
  | @discovery path options cause _ _ hdiscover =>
    have hlearns := Overlay.discover_learns (b := e.backing) path e.transform.includes
      e.transform.excludes o
    rw [hdiscover] at hlearns
    exact hlearns
  | deleted hstaged => exact .refl

/-- The machine fails where a task fails that it reaches by steps. -/
theorem works_error_iff {stack : List Task} {error : RunError} {o o' : Overlay ω} :
    e.Works state stack o (.error error) o' ↔
      ∃ task rest o₁, e.Reaches state (stack, o) (task :: rest, o₁) ∧
        e.perform state task o₁ = (.error error, o') := by
  constructor
  · intro h
    generalize hr : (.error error : Except RunError Unit) = result at h
    induction h with
    | done => exact nomatch hr
    | @fail task rest o o' error' hp =>
      obtain rfl := Except.error.inj hr
      exact ⟨task, rest, o, .refl, hp⟩
    | step hp _ ih =>
      obtain ⟨task, rest, o₁, hreaches, herror⟩ := ih hr
      exact ⟨task, rest, o₁, .head (.step hp) hreaches, herror⟩
  · rintro ⟨task, rest, o₁, hreaches, herror⟩
    -- By induction on the steps from the first one on, as the run of the machine goes.
    generalize hx : (stack, o) = x at hreaches
    induction hreaches using Relation.ReflTransGen.head_induction_on generalizing stack o with
    | refl =>
      obtain ⟨rfl, rfl⟩ := Prod.mk.inj hx
      exact .fail herror
    | head hstep _ ih =>
      obtain ⟨hp⟩ := hstep
      obtain ⟨rfl, rfl⟩ := Prod.mk.inj hx
      exact .step hp (ih rfl)

/-! ## What is seen last -/

/-- What is seen of the upper part of a stack comes before what is seen of the lower part. -/
theorem Trace.of_append {upper lower : List Task} {told : Record σ}
    (h : e.Trace state (upper ++ lower) (.ok ()) told) :
    ∃ before after, told = before ++ after ∧ e.Trace state lower (.ok ()) after := by
  generalize hstack : upper ++ lower = stack at h
  generalize hr : (.ok () : Except RunError Unit) = result at h
  induction h generalizing upper with
  | done =>
    obtain ⟨rfl, rfl⟩ := List.append_eq_nil_iff.mp hstack
    exact ⟨[], [], rfl, .done⟩
  | fail => exact nomatch hr
  | @step task rest tasks result told told' htells hrest ih =>
    cases upper with
    | nil =>
      subst hr
      obtain rfl : lower = task :: rest := hstack
      exact ⟨[], told ++ told', rfl, .step htells hrest⟩
    | cons top upper =>
      obtain ⟨rfl, rfl⟩ := List.cons.inj hstack
      obtain ⟨before, after, rfl, hafter⟩ := ih (List.append_assoc tasks upper lower) hr
      exact ⟨told ++ before, after, (List.append_assoc told before after).symm, hafter⟩

/-- Of commands and the announcement of what has led to them, the announcement is seen after the
commands. -/
theorem Trace.of_orders {orders rest : List Task} {parent : ParentKind} {path : Path}
    {told : Record σ}
    (h : e.Trace state (orders ++ .announcement parent path :: rest) (.ok ()) told) :
    ∃ before after, told = before ++ .event (.executed parent.kind path) :: after ∧
      e.Trace state rest (.ok ()) after := by
  obtain ⟨before, after, rfl, hafter⟩ := h.of_append
  obtain ⟨after', rfl, hrest⟩ := hafter.of_announcement
  exact ⟨before, after', rfl, hrest⟩

/-- Of an empty stack nothing is seen. -/
theorem Trace.eq_nil {result : Except RunError Unit} {told : Record σ}
    (h : e.Trace state [] result told) : told = [] := by
  cases h with
  | done => rfl

/-- What is seen of commands and the announcement of what has led to them ends with the
announcement. -/
theorem Trace.concludes_orders {c : Command} {orders : List Task} {parent : ParentKind}
    {path : Path} {told told' : Record σ}
    (h : e.Trace state (orders ++ [.announcement parent path] ++ []) (.ok ()) told')
    (hc : c.announced? = some (parent.kind, path)) : Concludes c (told ++ told') := by
  rw [List.append_assoc] at h
  obtain ⟨before, after, rfl, hrest⟩ := h.of_orders
  rw [hrest.eq_nil, ← List.append_assoc]
  exact .announced _ hc quiet_nil

/-- What is seen of the handler of a directory ends with the announcement, or there was nothing to
do. -/
theorem Trace.concludes_ownHandler {c : Command} {path : Path} {options : Options}
    {told : Record σ} (hc : c.announced? = some (.traverseDirectory, path))
    (h : e.Trace state [.ownHandler path options] (.ok ()) told) : Concludes c told := by
  cases h with
  | step h hrest =>
    generalize htasks : (Except.ok _ : Except RunError (List Task)) = next at h
    cases h with
    | quiet hquiet =>
      rw [Except.ok.inj htasks] at hrest
      rw [hrest.eq_nil, List.append_nil]
      exact .quiet hquiet
    | directory commands hquiet htask =>
      obtain ⟨rfl, rfl⟩ : path = _ ∧ options = _ := by
        rcases htask with htask | htask
        · exact nomatch htask
        · exact Task.ownHandler.inj htask
      rw [Except.ok.inj htasks] at hrest
      exact hrest.concludes_orders hc
    | directoryFails => exact nomatch htasks

/-- The last thing that is seen of a command is its announcement, or there was nothing to do. -/
theorem Trace.concludes {c : Command} {told : Record σ}
    (h : e.Trace state [.command c] (.ok ()) told) : Concludes c told := by
  cases h with
  | step h hrest =>
    generalize htasks : (Except.ok _ : Except RunError (List Task)) = next at h
    cases h with
    | quiet hquiet =>
      rw [Except.ok.inj htasks] at hrest
      rw [hrest.eq_nil, List.append_nil]
      exact .quiet hquiet
    | refused => exact nomatch htasks
    | @discovered path options _ files hquiet =>
      rw [Except.ok.inj htasks, List.append_assoc] at hrest
      -- The directory is announced for its files, and once more if its own handler runs.
      obtain ⟨before, after, rfl, hown⟩ := hrest.of_orders
      cases hown.concludes_ownHandler (c := .traverseDirectory path options) rfl with
      | quiet hafter =>
        rw [← List.append_assoc]
        exact .announced _ rfl hafter
      | announced before' hc hafter =>
        rw [← List.cons_append, ← List.append_assoc, ← List.append_assoc]
        exact .announced _ hc hafter
    | deleted path =>
      rw [Except.ok.inj htasks] at hrest
      rw [hrest.eq_nil]
      exact .announced [] rfl quiet_nil
    | written path data =>
      rw [Except.ok.inj htasks] at hrest
      rw [hrest.eq_nil]
      exact .announced [] rfl quiet_nil
    | directory commands hquiet htask =>
      rw [Except.ok.inj htasks] at hrest
      rcases htask with htask | htask
      · obtain rfl := Task.command.inj htask
        exact hrest.concludes_orders rfl
      · exact nomatch htask
    | directoryFails => exact nomatch htasks
    | file commands hquiet =>
      rw [Except.ok.inj htasks] at hrest
      exact hrest.concludes_orders rfl
    | @fileFails path options =>
      rw [Except.ok.inj htasks, ← List.nil_append [Task.announcement .file path]] at hrest
      exact hrest.concludes_orders rfl
    | @content path options _ data command =>
      rw [Except.ok.inj htasks, ← List.singleton_append] at hrest
      exact hrest.concludes_orders rfl
    | @contentFails path options =>
      rw [Except.ok.inj htasks, ← List.nil_append [Task.announcement .content path]] at hrest
      exact hrest.concludes_orders rfl

/-! ## What is seen of a failure -/

/-- Before a last call, if it is not of a failed handler of a directory, none is seen. -/
theorem directoryFailures_of_quiet {told loud : Record σ} (hquiet : Quiet told)
    (hloud : loud.filterMap (·.directoryFailure?) = []) :
    (told ++ loud).filterMap (·.directoryFailure?) = [] := by
  rw [List.filterMap_append, hloud, List.append_nil, List.filterMap_eq_nil_iff]
  intro happening hmem
  obtain ⟨event, rfl, -⟩ := hquiet happening hmem
  rfl

/-- In a step that does not fail, no handler of a directory fails. -/
theorem Tells.directoryFailures_eq_nil {task : Task} {tasks : List Task} {told : Record σ}
    (h : e.Tells state task (.ok tasks) told) : told.filterMap (·.directoryFailure?) = [] := by
  generalize htasks : (Except.ok _ : Except RunError (List Task)) = next at h
  cases h with
  | quiet hquiet => exact List.append_nil told ▸ directoryFailures_of_quiet hquiet rfl
  | refused => exact nomatch htasks
  | discovered files hquiet => exact List.append_nil told ▸ directoryFailures_of_quiet hquiet rfl
  | deleted | written | announced => rfl
  | directory commands hquiet => exact directoryFailures_of_quiet hquiet rfl
  | directoryFails => exact nomatch htasks
  | file commands hquiet => exact directoryFailures_of_quiet hquiet rfl
  | fileFails failure hquiet => exact directoryFailures_of_quiet hquiet rfl
  | content data command hquiet => exact directoryFailures_of_quiet hquiet rfl
  | contentFails data failure hquiet => exact directoryFailures_of_quiet hquiet rfl

/-- A step that fails calls no handler, or that of the directory that the error names. -/
theorem Tells.lastCall {task : Task} {error : RunError} {told : Record σ}
    (h : e.Tells state task (.error error) told) : LastCall error told := by
  cases h with
  | refused hquiet herror => exact .refused hquiet herror
  | @directoryFails _ path options _ _ failure hquiet =>
    exact .directory (e.visit state path options) failure hquiet

/-- In steps that do not fail, no handler of a directory fails. -/
theorem Reaches.seen {x y : List Task × Overlay (Watched ω σ)}
    (h : e.watched.Reaches state x y) :
    ∃ told, y.2.world.seen = x.2.world.seen ++ told ∧
      told.filterMap (·.directoryFailure?) = [] := by
  induction h with
  | refl => exact ⟨[], (List.append_nil _).symm, rfl⟩
  | tail _ hstep ih =>
    obtain ⟨told, hseen, hnone⟩ := ih
    cases hstep with
    | @step task rest tasks o o₁ hp =>
      obtain ⟨hnext, -, told', htells, hseen'⟩ := e.perform_watched state task o
      rw [hp] at hnext hseen'
      rw [← hnext] at htells
      refine ⟨told ++ told', ?_, ?_⟩
      · rw [← List.append_assoc, ← hseen]
        exact hseen'
      · rw [List.filterMap_append, hnone, htells.directoryFailures_eq_nil]
        rfl

/-- A failing run stops at the task that fails. -/
structure StopsAt (e : Engine ω σ) (state : Option σ) (stack : List Task)
    (o : Overlay (Watched ω σ)) (error : RunError) (v : Overlay (Watched ω σ)) (task : Task)
    (rest : List Task) (o₁ : Overlay (Watched ω σ)) : Prop where
  /-- It is reached by steps that do not fail. -/
  reached : e.watched.Reaches state (stack, o) (task :: rest, o₁)
  /-- Then it fails, in one of three ways. -/
  fails : e.watched.Fails state task o₁ error v
  /-- Nothing is staged by the failing step, and what was staged before stays staged. -/
  changes : v.stores.changes = o₁.stores.changes
  /-- Nothing is announced or reported by it. -/
  reports : v.reports = o₁.reports
  /-- No handler of a directory fails before it, and the only call that it shows is that of the
  handler of the directory that the error names. -/
  seen : ∃ told last, o₁.world.seen = o.world.seen ++ told ∧
    v.world.seen = o.world.seen ++ (told ++ last) ∧
    told.filterMap (·.directoryFailure?) = [] ∧ LastCall error last

/-- A failing run stops at a task that fails. -/
theorem Works.exists_stopsAt {stack : List Task} {error : RunError}
    {o v : Overlay (Watched ω σ)} (h : e.watched.Works state stack o (.error error) v) :
    ∃ task rest o₁, e.StopsAt state stack o error v task rest o₁ := by
  -- The steps before show no failed handler of a directory, and the failing one shows its own.
  obtain ⟨task, rest, o₁, hreaches, hp⟩ := works_error_iff.mp h
  have hfails := fails_of_perform hp
  obtain ⟨told, hseen, hnone⟩ := hreaches.seen
  obtain ⟨hnext, -, last, htells, hseen'⟩ := e.perform_watched state task o₁
  rw [hp] at hnext hseen'
  rw [← hnext] at htells
  refine ⟨task, rest, o₁, hreaches, hfails, hfails.learns.changes_eq, hfails.learns.reports_eq,
    told, last, hseen, ?_, hnone, htells.lastCall⟩
  rw [hseen', hseen, List.append_assoc]

/-- The engine does what the machine does, in its order, and stops where it stops. What is seen of
the engine is seen of its recursion (the first part), and the recursion ends as the machine does,
with the same calls and events seen (the second part). A task on top of the stack is done with all
it leads to before the tasks below it, or it fails and they are not done at all (the third part).
What is seen of a command that is done ends with its announcement (the fourth part), and a failing
run stops at the task that fails (the last part). -/
theorem carries_iff_machine (e : Engine ω σ) (state : Option σ) (c : Command)
    (o : Overlay (Watched ω σ)) :
    (∀ result o', e.Carries state c o.unwatched result o' ↔
        ∃ v, e.watched.Carries state c o result v ∧ v.unwatched = o') ∧
      (∀ result v, e.watched.Carries state c o result v ↔
        e.watched.Works state [.command c] o result v) ∧
      (∀ task rest result v, e.watched.Works state (task :: rest) o result v ↔
        (∃ o₁, e.watched.Works state [task] o (.ok ()) o₁ ∧
            e.watched.Works state rest o₁ result v) ∨
          ∃ error, result = .error error ∧ e.watched.Works state [task] o (.error error) v) ∧
      (∀ v, e.watched.Carries state c o (.ok ()) v →
        ∃ told, v.world.seen = o.world.seen ++ told ∧ Concludes c told) ∧
      ∀ error v, e.watched.Carries state c o (.error error) v →
        ∃ task rest o₁, e.StopsAt state [.command c] o error v task rest o₁ := by
  have hmachine := e.watched.carries_iff_works state c o
  refine ⟨fun result o' => ?_, hmachine, fun task rest result v => ?_, fun v h => ?_,
    fun error v h => ?_⟩
  · rw [e.carries_iff_works, e.works_watched_iff]
    simp only [hmachine]
  · rw [← List.singleton_append, works_append_iff]
  · obtain ⟨told, htrace, hseen⟩ := ((hmachine _ v).mp h).trace
    exact ⟨told, hseen, htrace.concludes⟩
  · exact ((hmachine _ v).mp h).exists_stopsAt

/-- An engine over directories within each other of which the handler of the inner one fails. -/
def refusesInner : Engine Unit Unit where
  backing := .ofView (fun p => ⟨.replicate 32 p.bytes.length.toUInt8⟩) id
    (fun _ _ => .ok (some .directory)) (fun _ _ => .ok []) (fun _ _ => .ok "")
    (fun _ _ _ _ => .ok [])
  transform :=
    { handleDirectory := fun v =>
        if v.path = .ofString "a" then pure [.directory (.ofString "a/b") v.options]
        else throw (.stated "no") }

/-- A run that stops at the inner of two directories, and is named for it. -/
theorem carries_iff_machine_refusesInner :
    ∃ v, refusesInner.watched.Carries none (.traverseDirectory (.ofString "a") .empty)
        (.new ⟨(), []⟩) (.error (.directoryHandler (.ofString "a/b") (.stated "no"))) v ∧
      ∃ task rest o₁, refusesInner.StopsAt none
        [.command (.traverseDirectory (.ofString "a") .empty)] (.new ⟨(), []⟩)
        (.directoryHandler (.ofString "a/b") (.stated "no")) v task rest o₁ := by
  have hcarries : ∃ v, refusesInner.watched.Carries none
      (.traverseDirectory (.ofString "a") .empty) (.new ⟨(), []⟩)
      (.error (.directoryHandler (.ofString "a/b") (.stated "no"))) v := ⟨_, 3, rfl⟩
  obtain ⟨v, h⟩ := hcarries
  exact ⟨v, h, (carries_iff_machine refusesInner none
    (.traverseDirectory (.ofString "a") .empty) (.new ⟨(), []⟩)).2.2.2.2 _ v h⟩

end Engine

end TreePlan
