import TreePlan.Proofs.Engine.Passes
import TreePlan.Proofs.Overlay.History

/-!
# The account of a run

Callers are notified of every deletion and of every write once it is staged. What a run orders to
be staged can be read off what is seen of it (`orderedChanges`): a write is ordered by the handler
of contents, and a deletion is seen when it has been carried out. The account of a run says that
the notifications are those of the ordered changes, one for each and in their order, and that what
is staged in the end is what was staged before with the ordered changes staged one after the other.

A write that has been ordered is on top of the stack of the machine, and nothing comes between it
and its notification. So the account of a run of the machine begins with the change that is owed
(`Task.owed`), and it is kept by induction on the run (`Works.accounts`). Everything else that an
engine does between two runs of the machine stages nothing and notifies of nothing, so whole runs
are accounted for (`Runs.accounted`), and the plan is read off the account (`changes_of_ends`).
-/

namespace TreePlan

open Overlay

variable {ω σ : Type}

/-! ## What is seen of changes -/

/-- The change that is ordered when something happens: a write when the handler of contents orders
it, and a deletion when it has been carried out. -/
def Happening.ordered? : Happening σ → Option (Path × Change)
  | .call (.content _ _ (.ok (.stage path data))) => some (path, .write data)
  | .event (.executed .delete path) => some (path, .delete)
  | _ => none

/-- The notification that a change has been staged: the kind of the command and its path. -/
def Happening.notification? : Happening σ → Option (CommandKind × Path)
  | .event (.executed .delete path) => some (.delete, path)
  | .event (.executed .stageData path) => some (.stageData, path)
  | _ => none

/-- The changes that are ordered, with their paths. -/
def orderedChanges (seen : Record σ) : List (Path × Change) := seen.filterMap (·.ordered?)

/-- The notifications that a change has been staged. -/
def notifications (seen : Record σ) : List (CommandKind × Path) :=
  seen.filterMap (·.notification?)

/-- The kind of the last notification for a key. -/
def lastNotified? (hash : Hasher) (seen : Record σ) (k : PathKey) : Option CommandKind :=
  ((notifications seen).filter fun n => hash n.2 = k).getLast?.map (·.1)

/-- What callers are notified of when a change has been staged. -/
def notificationOf (p : Path × Change) : CommandKind × Path := (p.2.kind, p.1)

/-- What is staged after changes have been staged one after the other. -/
def Changes.stageAll (s : Changes) (hash : Hasher) (changes : List (Path × Change)) : Changes :=
  changes.foldl (fun s p => s.stage (hash p.1) p.2) s

/-- Staging changes after others is staging them all. -/
theorem Changes.stageAll_append (s : Changes) (hash : Hasher) (first rest : List (Path × Change)) :
    s.stageAll hash (first ++ rest) = (s.stageAll hash first).stageAll hash rest :=
  List.foldl_append

/-- The changes of two records are those of the first and then those of the second. -/
theorem orderedChanges_append (told told' : Record σ) :
    orderedChanges (told ++ told') = orderedChanges told ++ orderedChanges told' :=
  List.filterMap_append

/-- The notifications of two records are those of the first and then those of the second. -/
theorem notifications_append (told told' : Record σ) :
    notifications (told ++ told') = notifications told ++ notifications told' :=
  List.filterMap_append

/-- No change is seen in a record: none is ordered, and callers are notified of none. -/
structure Unchanging (told : Record σ) : Prop where
  /-- None is ordered. -/
  ordered_eq : orderedChanges told = []
  /-- Callers are notified of none. -/
  notifications_eq : notifications told = []

/-- No change is seen in two records in neither of which one is. -/
theorem Unchanging.append {told told' : Record σ} (h : Unchanging told) (h' : Unchanging told') :
    Unchanging (told ++ told') where
  ordered_eq := by rw [orderedChanges_append, h.ordered_eq, h'.ordered_eq, List.append_nil]
  notifications_eq := by
    rw [notifications_append, h.notifications_eq, h'.notifications_eq, List.append_nil]

/-- No change is seen among lines for the log. -/
theorem Quiet.unchanging {told : Record σ} (h : Quiet told) : Unchanging told := by
  constructor
  all_goals
    refine List.filterMap_eq_nil_iff.mpr fun happening hmem => ?_
    obtain ⟨event, rfl, hevent⟩ := h happening hmem
    cases event with
    | executed => exact nomatch hevent
    | _ => rfl

/-- An account of changes: those that are owed when it begins, what is staged then, what is seen,
and what is staged in the end. -/
structure Accounts (hash : Hasher) (owed : List (Path × Change)) (s : Changes) (told : Record σ)
    (s' : Changes) : Prop where
  /-- Callers are notified of what is owed and of what is ordered, once each and in this order. -/
  notifications_eq : notifications told = (owed ++ orderedChanges told).map notificationOf
  /-- What is owed and what is ordered is staged, in this order. -/
  changes_eq : s' = s.stageAll hash (owed ++ orderedChanges told)

/-! ## Tasks -/

/-- The changes that a task stages itself. -/
def Task.carried : Task → List (Path × Change)
  | .command (.delete path) => [(path, .delete)]
  | .command (.stage path data) => [(path, .write data)]
  | _ => []

/-- The changes of a task that have been ordered before it is done. -/
def Task.owed : Task → List (Path × Change)
  | .command (.stage path data) => [(path, .write data)]
  | _ => []

/-- The changes that are owed by what follows from a step. -/
def owedBy : Except RunError (List Task) → List (Path × Change)
  | .ok tasks => tasks.flatMap (·.owed)
  | .error _ => []

namespace Engine

variable {e : Engine ω σ} {state : Option σ}

/-- What a step that stages nothing itself shows: a change is ordered if it is owed by what follows,
and it is owed by the first task of that. -/
structure Orders (next : Except RunError (List Task)) (told : Record σ) : Prop where
  /-- What is ordered is what is owed then. -/
  ordered_eq : orderedChanges told = owedBy next
  /-- Callers are notified of nothing. -/
  notifications_eq : notifications told = []
  /-- Only the first of the tasks that follow owes something. -/
  tail_eq : ∀ tasks, next = .ok tasks → tasks.tail.flatMap (·.owed) = []

/-- Tasks of which none owes anything follow from a step that orders nothing. -/
theorem Orders.of_unchanging {next : Except RunError (List Task)} {told : Record σ}
    (h : Unchanging told) (hnext : ∀ tasks, next = .ok tasks → ∀ task ∈ tasks, task.owed = []) :
    Orders next told where
  ordered_eq := by
    rw [h.ordered_eq]
    cases next with
    | error => rfl
    | ok tasks => exact (List.flatMap_eq_nil_iff.mpr (hnext tasks rfl)).symm
  notifications_eq := h.notifications_eq
  tail_eq tasks he :=
    List.flatMap_eq_nil_iff.mpr fun task ht => hnext tasks he task (List.mem_of_mem_tail ht)

/-- Orders that are no writes, and then the announcement of their parent, owe nothing. -/
theorem owed_of_mem_orders {α : Type} {widen : α → Command}
    (h : ∀ c, (Task.command (widen c)).owed = []) {commands : List α} {parent : ParentKind}
    {path : Path} {task : Task}
    (ht : task ∈ commands.map (.command <| widen ·) ++ [.announcement parent path]) :
    task.owed = [] := by
  rw [List.mem_append, List.mem_map, List.mem_singleton] at ht
  rcases ht with ⟨c, -, rfl⟩ | rfl
  · exact h c
  · rfl

/-- What a task tells that stages nothing itself. -/
theorem Tells.orders {task : Task} {next : Except RunError (List Task)} {told : Record σ}
    (h : e.Tells state task next told) (htask : task.carried = []) : Orders next told := by
  -- What is seen of the call of a handler that orders no write.
  have hcalled {told rest : Record σ} (hq : Quiet told) (hrest : Unchanging rest) :
      Unchanging (told ++ rest) := hq.unchanging.append hrest
  cases h with
  | quiet hq =>
    refine .of_unchanging hq.unchanging fun tasks he task ht => ?_
    rw [← Except.ok.inj he] at ht
    exact nomatch ht
  | refused hq => exact .of_unchanging hq.unchanging nofun
  | discovered files hq =>
    refine .of_unchanging hq.unchanging fun tasks he task ht => ?_
    rw [← Except.ok.inj he, List.mem_append, List.mem_map] at ht
    rcases ht with ⟨file, -, rfl⟩ | ht
    · rfl
    · simp only [List.mem_cons, List.not_mem_nil, or_false] at ht
      rcases ht with rfl | rfl <;> rfl
  | deleted | written => exact nomatch htask
  | announced parent path =>
    refine .of_unchanging ?_ fun tasks he task ht => ?_
    · cases parent <;> exact ⟨rfl, rfl⟩
    · rw [← Except.ok.inj he] at ht
      exact nomatch ht
  | directory commands hq =>
    refine .of_unchanging (hcalled hq ⟨rfl, rfl⟩) fun tasks he task ht => ?_
    rw [← Except.ok.inj he] at ht
    exact owed_of_mem_orders (fun c => by cases c <;> rfl) ht
  | directoryFails failure hq => exact .of_unchanging (hcalled hq ⟨rfl, rfl⟩) nofun
  | file commands hq =>
    refine .of_unchanging (hcalled hq ⟨rfl, rfl⟩) fun tasks he task ht => ?_
    rw [← Except.ok.inj he] at ht
    exact owed_of_mem_orders (fun c => by cases c <;> rfl) ht
  | fileFails failure hq | contentFails data failure hq =>
    refine .of_unchanging (hcalled hq ⟨rfl, rfl⟩) fun tasks he task ht => ?_
    rw [← Except.ok.inj he, List.mem_singleton] at ht
    rw [ht]
    rfl
  | content data command hq =>
    -- The one handler that orders writes. Its order is on top of the stack afterwards.
    refine ⟨?_, ?_, fun tasks he => ?_⟩
    · rw [orderedChanges_append, hq.unchanging.ordered_eq]
      cases command <;> rfl
    · rw [notifications_append, hq.unchanging.notifications_eq]
      rfl
    · rw [← Except.ok.inj he]
      rfl

/-! ## Steps -/

/-- What a step does to changes: the task, what is staged before, how the step ends, what is seen
meanwhile, and what is staged then. -/
structure StepAccounts (hash : Hasher) (task : Task) (s : Changes)
    (next : Except RunError (List Task)) (told : Record σ) (s' : Changes) : Prop where
  /-- Callers are notified of what the task stages itself. -/
  notifications_eq : notifications told = task.carried.map notificationOf
  /-- That is staged. -/
  changes_eq : s' = s.stageAll hash task.carried
  /-- What was owed or is ordered is staged now or owed then. -/
  ordered_eq : task.owed ++ orderedChanges told = task.carried ++ owedBy next
  /-- Only the first of the tasks that follow owes something. -/
  tail_eq : ∀ tasks, next = .ok tasks → tasks.tail.flatMap (·.owed) = []

variable (e state)

/-- Noting the failure of a handler leaves the stores as they are. -/
theorem stores_contain {α : Type} (path : Path) (handled : Except Failure α × Overlay ω) :
    (e.contain path handled).2.stores = handled.2.stores := by
  obtain ⟨result, o⟩ := handled
  cases result <;> rfl

/-- The step of a file stages nothing. -/
theorem changes_performFile (path : Path) (options : Options) (o : Overlay ω) :
    (e.performFile state path options o).2.stores.changes = o.stores.changes := by
  have hclassify := (classifyAs_learns (b := e.backing) .file path o).changes_eq
  unfold performFile classifyFile
  generalize o.classifyAs e.backing .file path = found at hclassify ⊢
  obtain ⟨found, o₁⟩ := found
  cases found with
  | none => exact hclassify
  | some entry =>
    dsimp only [fileOrders]
    rw [stores_contain]
    exact (FileProgram.run_learns _ o₁).changes_eq.trans hclassify

/-- The step of a content stages nothing. -/
theorem changes_performContent (path : Path) (options : Options) (o : Overlay ω) :
    (e.performContent state path options o).2.stores.changes = o.stores.changes := by
  have hread := (read_learns (b := e.backing) path o).changes_eq
  unfold performContent
  generalize o.read e.backing path = content at hread ⊢
  obtain ⟨content, o₁⟩ := content
  cases content with
  | error error => exact hread
  | ok data =>
    dsimp only [dataOrders]
    rw [stores_contain]
    exact (DataProgram.run_learns _ o₁).changes_eq.trans hread

/-- A step stages what its task stages itself. -/
theorem changes_perform (task : Task) (o : Overlay ω) :
    (e.perform state task o).2.stores.changes =
      o.stores.changes.stageAll e.backing.hash task.carried := by
  cases task with
  | command c =>
    cases c with
    | traverseDirectory path options =>
      rw [perform]
      split
      · exact (e.performDirectory_learns state path options o).changes_eq
      · exact (e.performDiscovery_learns path options o).changes_eq
    | traverseFile path options => exact e.changes_performFile state path options o
    | materialize path options => exact e.changes_performContent state path options o
    | delete | stage | noop => rfl
  | ownHandler path options => exact (e.performDirectory_learns state path options o).changes_eq
  | announcement parent path => rfl

/-- What a step does to changes can be read off what is seen of it. -/
theorem perform_accounts (task : Task) (o : Overlay (Watched ω σ)) :
    ∃ told,
      (e.watched.perform state task o).2.world.seen = o.world.seen ++ told ∧
      StepAccounts e.backing.hash task o.stores.changes (e.watched.perform state task o).1 told
        (e.watched.perform state task o).2.stores.changes := by
  have hchanges := e.watched.changes_perform state task o
  -- A task that stages nothing itself orders what it tells, and the other two tell one thing.
  have hquiet (htask : task.carried = []) (howed : task.owed = []) :
      ∃ told,
        (e.watched.perform state task o).2.world.seen = o.world.seen ++ told ∧
        StepAccounts e.backing.hash task o.stores.changes (e.watched.perform state task o).1 told
          (e.watched.perform state task o).2.stores.changes := by
    obtain ⟨hnext, -, told, htells, hseen⟩ := e.perform_watched state task o
    rw [← hnext] at htells
    have horders := htells.orders htask
    refine ⟨told, hseen, ?_, hchanges, ?_, horders.tail_eq⟩
    · rw [horders.notifications_eq, htask, List.map_nil]
    · rw [howed, htask, horders.ordered_eq]
  cases task with
  | command c =>
    cases c with
    | traverseDirectory | traverseFile | materialize | noop => exact hquiet rfl rfl
    | delete path => exact ⟨_, rfl, rfl, hchanges, rfl, fun _ he => Except.ok.inj he ▸ rfl⟩
    | stage path data => exact ⟨_, rfl, rfl, hchanges, rfl, fun _ he => Except.ok.inj he ▸ rfl⟩
  | ownHandler | announcement => exact hquiet rfl rfl

/-! ## Runs of the machine -/

variable {e state}

/-- A run of the machine is accounted for: the account begins with what is owed by the stack, of
which only the top owes something. -/
theorem Works.accounts {stack : List Task} {result : Except RunError Unit}
    {o o' : Overlay (Watched ω σ)} (h : e.watched.Works state stack o result o')
    (hstack : stack.tail.flatMap (·.owed) = []) :
    ∃ told, o'.world.seen = o.world.seen ++ told ∧
      Accounts e.backing.hash (stack.flatMap (·.owed)) o.stores.changes told
        o'.stores.changes := by
  induction h with
  | done o => exact ⟨[], (List.append_nil _).symm, rfl, rfl⟩
  | @fail task rest o o' error hp =>
    obtain ⟨told, hseen, hstep⟩ := e.perform_accounts state task o
    rw [hp] at hseen hstep
    -- Nothing follows from the step, so what was owed or is ordered has been staged by it.
    have hall : (task :: rest).flatMap (·.owed) ++ orderedChanges told = task.carried := by
      rw [List.flatMap_cons, show rest.flatMap (·.owed) = [] from hstack, List.append_nil,
        hstep.ordered_eq]
      exact List.append_nil _
    refine ⟨told, hseen, ?_, ?_⟩
    · rw [hall, hstep.notifications_eq]
    · rw [hall]
      exact hstep.changes_eq
  | @step task rest tasks o o₁ o' result hp _ ih =>
    obtain ⟨told, hseen, hstep⟩ := e.perform_accounts state task o
    rw [hp] at hseen hstep
    have hrest : rest.flatMap (·.owed) = [] := hstack
    have htail : (tasks ++ rest).tail.flatMap (·.owed) = [] := by
      cases tasks with
      | nil => exact List.flatMap_eq_nil_iff.mpr fun t ht =>
          List.flatMap_eq_nil_iff.mp hrest t (List.mem_of_mem_tail ht)
      | cons top others =>
        rw [List.cons_append, List.tail_cons, List.flatMap_append, hrest, List.append_nil]
        exact hstep.tail_eq _ rfl
    obtain ⟨told', hseen', haccount⟩ := ih htail
    -- What was owed or is ordered by the step is staged by it or owed when the rest begins.
    have hall : (task :: rest).flatMap (·.owed) ++ orderedChanges (told ++ told') =
        task.carried ++ ((tasks ++ rest).flatMap (·.owed) ++ orderedChanges told') := by
      rw [List.flatMap_cons, hrest, List.append_nil, orderedChanges_append, ← List.append_assoc,
        hstep.ordered_eq, List.flatMap_append, hrest, List.append_nil, List.append_assoc]
      rfl
    refine ⟨told ++ told', by rw [hseen', hseen, List.append_assoc], ?_, ?_⟩
    · rw [hall, List.map_append, notifications_append, hstep.notifications_eq,
        haccount.notifications_eq]
    · rw [hall, Changes.stageAll_append, ← hstep.changes_eq]
      exact haccount.changes_eq

/-! ## Runs of passes -/

variable (e) in
/-- From one watched overlay to another, changes are accounted for by what is seen in between. -/
def Accounted (v v' : Overlay (Watched ω σ)) : Prop :=
  ∃ told, v'.world.seen = v.world.seen ++ told ∧
    Accounts e.backing.hash [] v.stores.changes told v'.stores.changes

/-- What is accounted for up to a time and from then on is accounted for. -/
theorem Accounted.trans {v v₁ v₂ : Overlay (Watched ω σ)} (h : e.Accounted v v₁)
    (h' : e.Accounted v₁ v₂) : e.Accounted v v₂ := by
  obtain ⟨told, hseen, hnotified, hchanges⟩ := h
  obtain ⟨told', hseen', hnotified', hchanges'⟩ := h'
  refine ⟨told ++ told', by rw [hseen', hseen, List.append_assoc], ?_, ?_⟩
  · rw [notifications_append, hnotified, hnotified', orderedChanges_append, List.nil_append,
      List.nil_append, List.nil_append, List.map_append]
  · rw [orderedChanges_append, List.nil_append, Changes.stageAll_append, hchanges']
    rw [List.nil_append, hchanges, List.nil_append]

/-- If no change is seen and nothing is staged, changes are accounted for. -/
theorem accounted_of_unchanging {v v' : Overlay (Watched ω σ)} {told : Record σ}
    (hseen : v'.world.seen = v.world.seen ++ told) (h : Unchanging told)
    (hchanges : v'.stores.changes = v.stores.changes) : e.Accounted v v' := by
  refine ⟨told, hseen, ?_, ?_⟩
  · rw [h.notifications_eq, h.ordered_eq]
    rfl
  · rw [h.ordered_eq]
    exact hchanges

/-- Looking for a root is accounted for. -/
theorem accounted_of_classify {path : Path} {found : Option Entry}
    {v v₁ : Overlay (Watched ω σ)} (h : v.classify e.watched.backing path = (found, v₁)) :
    e.Accounted v v₁ := by
  obtain ⟨told, hquiet, hseen⟩ := seen_of_classify h
  exact accounted_of_unchanging hseen hquiet.unchanging (learns_of_classify h).changes_eq

/-- A program between the sweeps is accounted for, if its call is not that of a handler of
contents. -/
theorem accounted_of_run {α : Type} {program : DataProgram ω α} {call : Except Failure α → Call σ}
    {outcome : Except Failure α} {v v₁ : Overlay (Watched ω σ)}
    (h : DataProgram.run e.watched.backing (program.recorded call) v = (outcome, v₁))
    (hcall : Unchanging [.call (call outcome)]) : e.Accounted v v₁ := by
  obtain ⟨told, hquiet, hseen⟩ := seen_of_run h
  exact accounted_of_unchanging hseen (hquiet.unchanging.append hcall)
    (learns_of_run h).changes_eq

/-- A line for the log is accounted for. -/
theorem accounted_log {event : Event} (h : event.isReport = false) (v : Overlay (Watched ω σ)) :
    e.Accounted v (v.log e.watched.backing event) :=
  accounted_of_unchanging (seen_log event v) (quiet_singleton event h).unchanging rfl

variable {root : Path} {options : Options}

/-- A sweep is accounted for. -/
theorem Sweeps.accounted {number : Nat} {previous : Option σ} {result : Except RunError Unit}
    {v v₁ : Overlay (Watched ω σ)}
    (h : e.watched.Sweeps root options number previous v state result v₁) :
    e.Accounted v v₁ := by
  obtain ⟨hroot, hstate, hworks⟩ := h
  rename_i entry p q
  have hworked : e.Accounted (q.log e.watched.backing (.passStarted number root)) v₁ := by
    obtain ⟨told, hseen, haccount⟩ := hworks.accounts rfl
    refine ⟨told, hseen, ?_⟩
    -- A sweep begins with the command to traverse its root, and that owes nothing.
    cases hkind : entry.kind <;> rw [hkind] at haccount <;> exact haccount
  exact (accounted_of_classify hroot).trans <| (accounted_of_run hstate ⟨rfl, rfl⟩).trans <|
    (accounted_log rfl q).trans hworked

/-- A run of passes is accounted for. -/
theorem Runs.accounted {number : Nat} {previous : Option σ} {result : Except RunError Plan}
    {v v' : Overlay (Watched ω σ)}
    (h : e.watched.Runs root options number previous v result v') : e.Accounted v v' := by
  induction h with
  | stateFails hroot hstate =>
    exact (accounted_of_classify hroot).trans (accounted_of_run hstate ⟨rfl, rfl⟩)
  | sweepFails hsweep => exact hsweep.accounted
  | finishFails hsweep hfinish =>
    exact hsweep.accounted.trans (accounted_of_run hfinish ⟨rfl, rfl⟩)
  | @stops number _ _ _ _ p hsweep hfinish =>
    exact (hsweep.accounted.trans (accounted_of_run hfinish ⟨rfl, rfl⟩)).trans (accounted_log rfl p)
  | repeats hsweep hfinish _ ih =>
    exact (hsweep.accounted.trans (accounted_of_run hfinish ⟨rfl, rfl⟩)).trans ih

/-- A run is accounted for, with or without a root. -/
theorem EndsSeen.accounts {previous : Option σ} {o o' : Overlay ω} {result : Except RunError Plan}
    {seen : Record σ} (h : e.EndsSeen root options previous o result o' seen) :
    Accounts e.backing.hash [] o.stores.changes seen o'.stores.changes := by
  obtain ⟨v, hends, rfl, rfl⟩ := h
  have haccounted : e.Accounted o.watched v := by
    rcases ends_iff_runs.mp hends with hmiss | hruns
    · obtain ⟨hroot⟩ := hmiss
      exact (accounted_of_classify hroot).trans (accounted_log rfl _)
    · exact hruns.accounted
  obtain ⟨told, hseen, haccount⟩ := haccounted
  -- Nothing has been seen when the run begins.
  rw [show v.world.seen = told from hseen]
  exact haccount

end Engine

/-! ## The plan of a run -/

/-- What the notifications of a run say of its plan: what is staged before the run, what is seen of
the run, and the plan. -/
structure PlanAccounts (hash : Hasher) (s : Changes) (seen : Record σ) (plan : Plan) : Prop where
  /-- The keys of the plan are those staged before, and then those that callers are notified of, in
  the order of their first notifications. -/
  keys_eq : plan.map (fun step => hash step.path) =
    (s.byKey.keys ++ (notifications seen).map (fun n => hash n.2)).eraseDups
  /-- A step is of the kind of the last notification for its key, and if there is none, of the kind
  that was staged before. -/
  kind_eq : ∀ step ∈ plan, some step.change.kind =
    (lastNotified? hash seen (hash step.path)).or ((s.get? (hash step.path)).map (·.kind))

/-- Staging changes one after the other is putting pairs one after the other. -/
theorem Changes.byKey_stageAll (s : Changes) (hash : Hasher) (changes : List (Path × Change)) :
    (s.stageAll hash changes).byKey =
      (changes.map fun p => (hash p.1, p.2)).foldl (fun m p => m.put p.1 p.2) s.byKey := by
  rw [stageAll, ← byKey_foldl_stage, List.foldl_map]

/-- If callers are notified of changes, the last notification for a key is that of the last change
for it. -/
theorem lastNotified?_of_notifications {hash : Hasher} {seen : Record σ}
    {changes : List (Path × Change)} (h : notifications seen = changes.map notificationOf)
    (k : PathKey) :
    lastNotified? hash seen k =
      (lastStaging? (changes.map fun p => (hash p.1, p.2)) k).map (·.kind) := by
  rw [lastNotified?, h, lastStaging?, List.filter_map, List.filter_map, List.getLast?_map,
    List.getLast?_map, Option.map_map, Option.map_map, Option.map_map]
  rfl

/-- The plan of a coherent overlay is accounted for when what is staged in it is. -/
theorem Accounts.planAccounts {ω : Type} {b : Backing ω} {s : Changes} {seen : Record σ}
    {o : Overlay ω} (h : Accounts b.hash [] s seen o.stores.changes) (hc : Coherent b o) :
    PlanAccounts b.hash s seen o.plan := by
  obtain ⟨hnotified, hchanges⟩ := h
  rw [List.nil_append] at hnotified hchanges
  refine ⟨?_, fun step hstep => ?_⟩
  · rw [hc.plan_keys, hchanges, Changes.byKey_stageAll, OrderedMap.keys_foldl_put_append, hnotified,
      List.map_map, List.map_map]
    rfl
  · have hstaged := hc.get?_of_mem_plan hstep
    rw [hchanges, Changes.get?, Changes.byKey_stageAll, OrderedMap.get?_foldl_put] at hstaged
    rw [lastNotified?_of_notifications hnotified, ← Option.map_or, ← Option.map_some]
    exact congrArg (Option.map (·.kind)) hstaged.symm

namespace Engine

variable {e : Engine ω σ} {root : Path} {options : Options}

/-- What is seen of a run accounts for what it does: the overlay that it begins with, how it ends,
the overlay that it ends with, and what is seen. -/
structure RunAccounts (e : Engine ω σ) (root : Path) (o : Overlay ω) (result : Except RunError Plan)
    (o' : Overlay ω) (seen : Record σ) : Prop where
  /-- Callers are notified of every change that is ordered, once each and in their order. -/
  notifications_eq : notifications seen = (orderedChanges seen).map notificationOf
  /-- What is staged at the end is what was staged at the start with these changes staged. -/
  changes_eq : o'.stores.changes = o.stores.changes.stageAll e.backing.hash (orderedChanges seen)
  /-- If the root is a file or a directory at the start, the notifications account for the plan. -/
  plan : ∀ plan, result = .ok plan → (o.classify e.backing root).1.isSome →
    Coherent e.backing o → PlanAccounts e.backing.hash o.stores.changes seen plan
  /-- If it is neither, the plan is empty, and callers are notified of nothing. -/
  no_root : (o.classify e.backing root).1 = none →
    result = .ok [] ∧ notifications seen = [] ∧ o'.stores = o.stores

/-- What is seen of any run accounts for what it does. -/
theorem EndsSeen.runAccounts {previous : Option σ} {o o' : Overlay ω}
    {result : Except RunError Plan} {seen : Record σ}
    (h : e.EndsSeen root options previous o result o' seen) :
    e.RunAccounts root o result o' seen := by
  have haccounts := h.accounts
  refine ⟨haccounts.notifications_eq, haccounts.changes_eq, ?_, fun hnone => ?_⟩
  · rintro plan rfl hroot hc
    rcases h.tale with ⟨hmiss, -⟩ | ⟨hruns, -⟩
    · rw [hmiss.nothing.1] at hroot
      exact nomatch hroot
    · rw [hruns.plan_eq]
      exact haccounts.planAccounts (hc.moves hruns.moves)
  · rcases h.tale with ⟨hmiss, hquiet⟩ | ⟨hruns, -⟩
    · obtain ⟨-, hplan, hstores⟩ := hmiss.nothing
      exact ⟨hplan, hquiet.unchanging.notifications_eq, hstores⟩
    · have hroot := hruns.isSome_classify
      rw [hnone] at hroot
      exact nomatch hroot

/-- Notifications account for what is staged. However a run ends, what is staged at its end is what
was staged at its start with the ordered changes staged one after the other, and callers are
notified of these changes, once each and in their order. So if the root is a file or a directory at
the start of a run that ends well, the keys of the plan are those staged at the start and then those
of the notifications, each at its first place, and a step is of the kind of the last notification
for its key; without a root, the plan is empty. Nothing that a handler can ask stages anything. -/
theorem changes_of_ends {previous : Option σ} {o o' : Overlay ω} {result : Except RunError Plan}
    (h : e.Ends root options previous o result o') :
    (∃ seen, e.EndsSeen root options previous o result o' seen) ∧
      (∀ seen, e.EndsSeen root options previous o result o' seen →
        e.RunAccounts root o result o' seen) ∧
      ∀ (query : DirectoryQuery) (p : Overlay ω),
        (query.answer e.backing p).2.stores.changes = p.stores.changes :=
  ⟨h.exists_seen, fun _ hseen => hseen.runAccounts,
    fun query p => (query.answer_learns p).changes_eq⟩

/-- An engine over files only, with a key for each length of a path. It writes the content of a file
elsewhere and then deletes another file. -/
def writesAndDeletes : Engine Unit Nat where
  backing := .ofView (fun p => ⟨Vector.replicate 32 (UInt8.ofNat p.bytes.length)⟩) id
    (fun _ _ => .ok (some .file)) (fun _ _ => .ok []) (fun _ _ => .ok "x") (fun _ _ _ _ => .ok [])
  transform :=
    { handleFile := fun v => pure [.materialize v.path .empty, .delete (.ofString "bb")]
      handleData := fun _ data => pure (.stage (.ofString "ccc") data) }

/-- The overlay over files only for which a write of the file to be deleted is staged. -/
def writeStaged : Overlay Unit :=
  (Overlay.new ()).stageWrite writesAndDeletes.backing (.ofString "bb") "old"

/-- The file that is staged for a write before the run keeps its place in the plan and is deleted,
and both changes of the run are accounted for. -/
theorem changes_of_ends_writesAndDeletes :
    ∃ o', writesAndDeletes.Ends (.ofString "a") .empty none writeStaged
        (.ok [.delete (.ofString "bb"), .write (.ofString "ccc") "x"]) o' ∧
      (∃ seen, writesAndDeletes.EndsSeen (.ofString "a") .empty none writeStaged
        (.ok [.delete (.ofString "bb"), .write (.ofString "ccc") "x"]) o' seen) ∧
      (∀ seen, writesAndDeletes.EndsSeen (.ofString "a") .empty none writeStaged
          (.ok [.delete (.ofString "bb"), .write (.ofString "ccc") "x"]) o' seen →
        writesAndDeletes.RunAccounts (.ofString "a") writeStaged
          (.ok [.delete (.ofString "bb"), .write (.ofString "ccc") "x"]) o' seen) ∧
      ∀ (query : DirectoryQuery) (p : Overlay Unit),
        (query.answer writesAndDeletes.backing p).2.stores.changes = p.stores.changes := by
  have hends : ∃ o', writesAndDeletes.Ends (.ofString "a") .empty none writeStaged
      (.ok [.delete (.ofString "bb"), .write (.ofString "ccc") "x"]) o' := ⟨_, 4, 2, rfl⟩
  obtain ⟨o', h⟩ := hends
  exact ⟨o', h, changes_of_ends h⟩

/-- An engine over nothing at all, with a key for each length of a path. -/
def findsNothing : Engine Unit Nat where
  backing := .ofView (fun p => ⟨Vector.replicate 32 (UInt8.ofNat p.bytes.length)⟩) id
    (fun _ _ => .ok none) (fun _ _ => .ok []) (fun _ _ => .ok "") (fun _ _ _ _ => .ok [])
  transform := {}

/-- The overlay over nothing for which a deletion is staged. -/
def deletionStaged : Overlay Unit :=
  (Overlay.new ()).stageDelete findsNothing.backing (.ofString "bb")

/-- Without a root, notifications do not account for the plan: the plan is empty although something
was staged before the run. -/
theorem not_planAccounts_findsNothing :
    Coherent findsNothing.backing deletionStaged ∧
      ∃ o' seen,
        findsNothing.EndsSeen (.ofString "a") .empty none deletionStaged (.ok []) o' seen ∧
        ¬PlanAccounts findsNothing.backing.hash deletionStaged.stores.changes seen [] := by
  have hends : ∃ o', findsNothing.Ends (.ofString "a") .empty none deletionStaged (.ok []) o' :=
    ⟨_, 1, 1, rfl⟩
  obtain ⟨o', h⟩ := hends
  obtain ⟨seen, hseen⟩ := h.exists_seen
  refine ⟨(coherent_new ()).stageChange _ _, o', seen, hseen, fun haccounts => ?_⟩
  -- The key that was staged before the run is missing from the plan.
  have hkeys := haccounts.keys_eq
  rw [show deletionStaged.stores.changes.byKey.keys =
    [findsNothing.backing.hash (.ofString "bb")] from rfl, List.singleton_append,
    List.eraseDups_cons] at hkeys
  exact nomatch hkeys

end Engine

end TreePlan
