import TreePlan.Proofs.Engine.Depth

/-!
# The engine as a stack machine

The engine carries out commands by recursion. Here is the same thing without recursion: a machine
with a stack of tasks. It pops one task, does what that task does itself (`Engine.perform`), and
pushes what follows from it in front of the other tasks: the commands that a handler ordered, and
after them the announcement that the parent is done. It stops when the stack is empty or at the
first error. `Engine.Works` is the run of the machine, and `carries_iff_works` says that it and the
recursion end alike.

Both directions go through `Engine.doTask`, which carries out any task by recursion. One more level
of recursion is one step of the machine followed by the tasks that the step pushes
(`follow_within_doTask`), so a run of the machine gives a depth by induction on the run, and a depth
gives a run by induction on the depth.
-/

namespace TreePlan

/-- The kinds of command that lead to other commands, and so are done some time after their own
step. -/
inductive ParentKind where
  /-- A directory is traversed. -/
  | directory
  /-- A file is traversed. -/
  | file
  /-- A content is handed over. -/
  | content
deriving DecidableEq

/-- The kind of command that is announced. -/
def ParentKind.kind : ParentKind → CommandKind
  | directory => .traverseDirectory
  | file => .traverseFile
  | content => .materialize

/-- What waits on the stack of the machine. -/
inductive Task where
  /-- A command is to be carried out. -/
  | command (command : Command)
  /-- The handler of a directory is to run, its files having been discovered and traversed. -/
  | ownHandler (path : Path) (options : Options)
  /-- A command that has led to others is done and is to be announced. -/
  | announcement (parent : ParentKind) (path : Path)
deriving DecidableEq

namespace Engine

variable {ω σ : Type} (e : Engine ω σ) (state : Option σ)

/-! ## The machine -/

/-- Runs the handler of a file; the commands that it orders, none if it fails. -/
def fileOrders (path : Path) (options : Options) (o : Overlay ω) : List FileCommand × Overlay ω :=
  let handled :=
    e.contain path ((e.transform.handleFile (e.visit state path options)).run e.backing o)
  (handled.1.getD [], handled.2)

/-- Runs the handler of contents; the command that it orders, none if it fails. -/
def dataOrders (path : Path) (options : Options) (data : String) (o : Overlay ω) :
    List DataCommand × Overlay ω :=
  let handled :=
    e.contain path ((e.transform.handleData (e.visit state path options) data).run e.backing o)
  (handled.1.toList, handled.2)

/-- Classifies a directory and runs its handler; the tasks that follow. -/
def performDirectory (path : Path) (options : Options) (o : Overlay ω) :
    Except RunError (List Task) × Overlay ω :=
  match o.classifyDirectory e.backing path with
  | (none, o) => (.ok [], o)
  | (some _, o) =>
    if e.transform.handlesDirectories then
      match (e.transform.handleDirectory (e.visit state path options)).run e.backing o with
      | (.error failure, o) => (.error (.directoryHandler path failure), o)
      | (.ok commands, o) =>
        (.ok (commands.map (.command ·.widen) ++ [.announcement .directory path]), o)
    else (.ok [], o)

/-- Discovers files under a directory; the tasks that follow, which end with its own handler. -/
def performDiscovery (path : Path) (options : Options) (o : Overlay ω) :
    Except RunError (List Task) × Overlay ω :=
  match o.discover e.backing path e.transform.includes e.transform.excludes with
  | (.error error, o) => (.error error, o)
  | (.ok files, o) =>
    (.ok (files.map (fun file => .command (.traverseFile file options)) ++
        [.announcement .directory path, .ownHandler path options]),
      o.log e.backing (.discovered files.length path))

/-- Classifies a file and runs its handler; the tasks that follow. -/
def performFile (path : Path) (options : Options) (o : Overlay ω) :
    Except RunError (List Task) × Overlay ω :=
  match o.classifyFile e.backing path with
  | (none, o) => (.ok [], o)
  | (some _, o) =>
    let ordered := e.fileOrders state path options o
    (.ok (ordered.1.map (.command ·.widen) ++ [.announcement .file path]), ordered.2)

/-- Reads a file and runs the handler of contents; the tasks that follow. -/
def performContent (path : Path) (options : Options) (o : Overlay ω) :
    Except RunError (List Task) × Overlay ω :=
  match o.read e.backing path with
  | (.error error, o) => (.error error, o)
  | (.ok data, o) =>
    let ordered := e.dataOrders state path options data o
    (.ok (ordered.1.map (.command ·.widen) ++ [.announcement .content path]), ordered.2)

/-- Does what a task does itself; the tasks that follow from it, or the error that ends the run. -/
def perform : Task → Overlay ω → Except RunError (List Task) × Overlay ω
  | .command (.traverseDirectory path options), o =>
    if e.transform.includes.isEmpty then e.performDirectory state path options o
    else e.performDiscovery path options o
  | .command (.traverseFile path options), o => e.performFile state path options o
  | .command (.materialize path options), o => e.performContent state path options o
  | .command (.delete path), o =>
    (.ok [], (o.stageDelete e.backing path).log e.backing (.executed .delete path))
  | .command (.stage path data), o =>
    (.ok [], (o.stageWrite e.backing path data).log e.backing (.executed .stageData path))
  | .command .noop, o => (.ok [], o)
  | .ownHandler path options, o => e.performDirectory state path options o
  | .announcement parent path, o => (.ok [], o.log e.backing (.executed parent.kind path))

/-- The machine empties a stack, or stops at the first error: from which overlay, how it ends, and
with which overlay. -/
inductive Works : List Task → Overlay ω → Except RunError Unit → Overlay ω → Prop
  /-- Nothing is left to do. -/
  | done (o : Overlay ω) : Works [] o (.ok ()) o
  /-- The task on top fails. -/
  | fail {task : Task} {rest : List Task} {o o' : Overlay ω} {error : RunError}
      (h : e.perform state task o = (.error error, o')) : Works (task :: rest) o (.error error) o'
  /-- The task on top is popped, and what follows from it is pushed. -/
  | step {task : Task} {rest tasks : List Task} {o o₁ o' : Overlay ω}
      {result : Except RunError Unit}
      (h : e.perform state task o = (.ok tasks, o₁)) (hrest : Works (tasks ++ rest) o₁ result o') :
      Works (task :: rest) o result o'

/-- A command is carried out by recursion to some depth. -/
def Carries (command : Command) (o : Overlay ω) (result : Except RunError Unit) (o' : Overlay ω) :
    Prop :=
  ∃ depth, e.dispatch state depth command o = some (result, o')

/-! ## Composition -/

variable {e state}

/-- A stack of which the upper part is emptied goes on with the lower part. -/
theorem Works.append_ok {upper lower : List Task} {o o₁ o' : Overlay ω}
    {result : Except RunError Unit} (hu : e.Works state upper o (.ok ()) o₁)
    (hl : e.Works state lower o₁ result o') : e.Works state (upper ++ lower) o result o' := by
  generalize hr : (.ok () : Except RunError Unit) = r at hu
  induction hu with
  | done => exact hl
  | fail h => exact nomatch hr
  | step h _ ih =>
    have hrest := ih hl hr
    rw [List.append_assoc] at hrest
    exact .step h hrest

/-- A stack of which the upper part fails fails. -/
theorem Works.append_error {upper : List Task} {o o' : Overlay ω} {error : RunError}
    (hu : e.Works state upper o (.error error) o') (lower : List Task) :
    e.Works state (upper ++ lower) o (.error error) o' := by
  generalize hr : (.error error : Except RunError Unit) = r at hu
  induction hu with
  | done => exact nomatch hr
  | fail h => exact .fail h
  | step h _ ih =>
    have hrest := ih hr
    rw [List.append_assoc] at hrest
    exact .step h hrest

/-- The machine empties the upper part of a stack before it touches the lower part. -/
theorem works_append_iff {upper lower : List Task} {o o' : Overlay ω}
    {result : Except RunError Unit} :
    e.Works state (upper ++ lower) o result o' ↔
      (∃ o₁, e.Works state upper o (.ok ()) o₁ ∧ e.Works state lower o₁ result o') ∨
        ∃ error, result = .error error ∧ e.Works state upper o (.error error) o' := by
  constructor
  · intro h
    -- By induction on the run of the whole stack, whatever part of it is the upper one.
    generalize hs : upper ++ lower = stack at h
    induction h generalizing upper with
    | done o =>
      obtain ⟨rfl, rfl⟩ := List.append_eq_nil_iff.mp hs
      exact Or.inl ⟨o, .done o, .done o⟩
    | @fail task rest o o' error hp =>
      cases upper with
      | nil =>
        rw [List.nil_append] at hs
        exact Or.inl ⟨o, .done o, hs ▸ .fail hp⟩
      | cons top upper =>
        obtain ⟨rfl, rfl⟩ := List.cons.inj hs
        exact Or.inr ⟨error, rfl, .fail hp⟩
    | @step task rest tasks o o₁ o' result hp hrest ih =>
      cases upper with
      | nil =>
        rw [List.nil_append] at hs
        exact Or.inl ⟨o, .done o, hs ▸ .step hp hrest⟩
      | cons top upper =>
        obtain ⟨rfl, rfl⟩ := List.cons.inj hs
        rcases ih (List.append_assoc tasks upper lower) with ⟨o₂, hu, hl⟩ | ⟨error, rfl, hu⟩
        · exact Or.inl ⟨o₂, .step hp hu, hl⟩
        · exact Or.inr ⟨error, rfl, .step hp hu⟩
  · rintro (⟨o₁, hu, hl⟩ | ⟨error, rfl, hu⟩)
    · exact hu.append_ok hl
    · exact hu.append_error lower

/-- The machine does one task by its step and then by what follows from it. -/
theorem works_of_perform {task : Task} {tasks : List Task} {o o₁ o' : Overlay ω}
    {result : Except RunError Unit} (h : e.perform state task o = (.ok tasks, o₁))
    (ht : e.Works state tasks o₁ result o') : e.Works state [task] o result o' :=
  .step h ((List.append_nil tasks).symm ▸ ht)

/-! ## The machine and the recursion -/

variable (e state)

/-- Carries out a task by recursion. -/
def doTask (depth : Nat) : Task → Overlay ω → Ending ω
  | .command c, o => e.dispatch state depth c o
  | .ownHandler path options, o =>
    e.runDirectoryHandler (e.dispatch state depth) state path options o
  | .announcement parent path, o => e.announce parent.kind path o

/-- Goes on after a step with what follows from it. -/
def follow (act : Task → Overlay ω → Ending ω) :
    Except RunError (List Task) × Overlay ω → Ending ω
  | (.ok tasks, o) => inSequence act tasks o
  | (.error error, o) => some (.error error, o)

/-- Commands followed by an announcement are the commands in sequence and then the announcement. -/
theorem inSequence_doTask {α : Type} (depth : Nat) (order : α → Command) (orders : List α)
    (parent : ParentKind) (path : Path) (o : Overlay ω) :
    inSequence (e.doTask state depth)
        (orders.map (fun a => .command (order a)) ++ [.announcement parent path]) o =
      (inSequence (e.dispatch state depth) (orders.map order) o).andThen
        (e.announce parent.kind path) := by
  rw [inSequence_append, inSequence_map, inSequence_map]
  exact congrArg _ (funext fun o => inSequence_singleton _ _ o)

/-- The handler of a directory by recursion: its step and then what follows. -/
theorem runDirectoryHandler_eq_follow (depth : Nat) (path : Path) (options : Options)
    (o : Overlay ω) :
    e.runDirectoryHandler (e.dispatch state depth) state path options o =
      follow (e.doTask state depth) (e.performDirectory state path options o) := by
  unfold runDirectoryHandler performDirectory
  obtain ⟨found, o⟩ := o.classifyDirectory e.backing path
  cases found with
  | none => rfl
  | some entry =>
    dsimp only
    split
    · obtain ⟨handled, o⟩ :=
        (e.transform.handleDirectory (e.visit state path options)).run e.backing o
      cases handled with
      | error failure => rfl
      | ok commands =>
        exact (e.inSequence_doTask state depth DirectoryCommand.widen commands .directory path
          o).symm
    · rfl

/-- The traversal of a file by recursion: its step and then what follows. -/
theorem traverseFile_eq_follow (depth : Nat) (path : Path) (options : Options) (o : Overlay ω) :
    e.traverseFile (e.dispatch state depth) state path options o =
      follow (e.doTask state depth) (e.performFile state path options o) := by
  unfold traverseFile performFile fileOrders
  obtain ⟨found, o⟩ := o.classifyFile e.backing path
  cases found with
  | none => rfl
  | some entry =>
    dsimp only [follow]
    rw [inSequence_doTask]
    obtain ⟨ordered, o⟩ :=
      e.contain path ((e.transform.handleFile (e.visit state path options)).run e.backing o)
    cases ordered with
    | none => rfl
    | some commands => rfl

/-- Handing over a content by recursion: its step and then what follows. -/
theorem materialize_eq_follow (depth : Nat) (path : Path) (options : Options) (o : Overlay ω) :
    e.materialize (e.dispatch state depth) state path options o =
      follow (e.doTask state depth) (e.performContent state path options o) := by
  unfold materialize performContent dataOrders
  obtain ⟨content, o⟩ := o.read e.backing path
  cases content with
  | error error => rfl
  | ok data =>
    dsimp only [follow]
    rw [inSequence_doTask]
    obtain ⟨ordered, o⟩ :=
      e.contain path ((e.transform.handleData (e.visit state path options) data).run e.backing o)
    cases ordered with
    | none => rfl
    | some command =>
      rw [Option.toList_some, List.map_singleton, inSequence_singleton]
      rfl

/-- The traversal of a directory by recursion: its step and then what follows. -/
theorem traverseDirectory_eq_follow (depth : Nat) (path : Path) (options : Options)
    (o : Overlay ω) :
    e.traverseDirectory (e.dispatch state depth) state path options o =
      follow (e.doTask state depth)
        (e.perform state (.command (.traverseDirectory path options)) o) := by
  unfold traverseDirectory perform performDiscovery
  split
  · exact e.runDirectoryHandler_eq_follow state depth path options o
  · dsimp only
    obtain ⟨discovered, o⟩ :=
      o.discover e.backing path e.transform.includes e.transform.excludes
    cases discovered with
    | error error => rfl
    | ok files =>
      dsimp only [follow]
      rw [← List.singleton_append, ← List.append_assoc, inSequence_append, inSequence_doTask]
      exact congrArg _ (funext fun o => (inSequence_singleton _ _ o).symm)

/-- One level of recursion is one step and then what follows. -/
theorem dispatch_succ_eq_follow (depth : Nat) (c : Command) (o : Overlay ω) :
    e.dispatch state (depth + 1) c o =
      follow (e.doTask state depth) (e.perform state (.command c) o) := by
  cases c with
  | traverseDirectory path options => exact e.traverseDirectory_eq_follow state depth path options o
  | traverseFile path options => exact e.traverseFile_eq_follow state depth path options o
  | materialize path options => exact e.materialize_eq_follow state depth path options o
  | delete | stage | noop => rfl

/-- One more level changes no ending of a task. -/
theorem doTask_within_succ (depth : Nat) (task : Task) (o : Overlay ω) :
    (e.doTask state depth task o).Within (e.doTask state (depth + 1) task o) := by
  cases task with
  | command c => exact e.dispatch_within_succ state depth c o
  | ownHandler path options =>
    exact e.runDirectoryHandler_within state (e.dispatch_within_succ state depth) path options o
  | announcement parent path => exact .refl _

/-- A step and then what follows is the task itself, one level further up. -/
theorem follow_within_doTask (depth : Nat) (task : Task) (o : Overlay ω) :
    (follow (e.doTask state depth) (e.perform state task o)).Within
      (e.doTask state (depth + 1) task o) := by
  cases task with
  | command c =>
    rw [← dispatch_succ_eq_follow]
    exact .refl _
  | ownHandler path options =>
    rw [show e.perform state (.ownHandler path options) o =
      e.performDirectory state path options o from rfl, ← runDirectoryHandler_eq_follow]
    exact e.doTask_within_succ state depth (.ownHandler path options) o
  | announcement parent path => exact .refl _

variable {e state}

/-- What the machine does, the recursion does to some depth. -/
theorem Works.exists_depth {stack : List Task} {o o' : Overlay ω} {result : Except RunError Unit}
    (h : e.Works state stack o result o') :
    ∃ depth, inSequence (e.doTask state depth) stack o = some (result, o') := by
  induction h with
  | done o => exact ⟨0, rfl⟩
  | @fail task rest o o' error hp =>
    have htask : e.doTask state 1 task o = some (.error error, o') :=
      e.follow_within_doTask state 0 task o _ (by rw [hp]; rfl)
    exact ⟨1, by rw [inSequence_cons, htask]; rfl⟩
  | @step task rest tasks o o₁ o' result hp _ ih =>
    -- The depth of the rest is deep enough for what follows from this step.
    obtain ⟨depth, hd⟩ := ih
    refine ⟨depth + 1, ?_⟩
    rw [inSequence_append] at hd
    have htask : (inSequence (e.doTask state depth) tasks o₁).Within
        (e.doTask state (depth + 1) task o) := by
      have hfollow := e.follow_within_doTask state depth task o
      rw [hp] at hfollow
      exact hfollow
    rw [inSequence_cons]
    exact htask.andThen (inSequence_within (e.doTask_within_succ state depth) rest) _ hd

/-- What the recursion does with every task of a stack, the machine does with the stack. -/
theorem works_of_inSequence {act : Task → Overlay ω → Ending ω} {stack : List Task}
    (h : ∀ task ∈ stack, ∀ o result o', act task o = some (result, o') →
      e.Works state [task] o result o') {o o' : Overlay ω} {result : Except RunError Unit}
    (hs : inSequence act stack o = some (result, o')) : e.Works state stack o result o' := by
  induction stack generalizing o with
  | nil =>
    obtain ⟨rfl, rfl⟩ := Prod.mk.inj (Option.some.inj hs)
    exact .done o
  | cons task rest ih =>
    rw [inSequence_cons] at hs
    have htask := h task List.mem_cons_self
    rcases Ending.andThen_eq_some_iff.mp hs with ⟨o₁, h₁, h₂⟩ | ⟨error, rfl, h₁⟩
    · exact (htask o _ o₁ h₁).append_ok (ih (fun t ht => h t (List.mem_cons_of_mem task ht)) h₂)
    · exact (htask o _ o' h₁).append_error rest

/-- What the recursion does after a step, the machine does from that step on. -/
theorem works_of_follow {act : Task → Overlay ω → Ending ω} {task : Task} {o o' : Overlay ω}
    {result : Except RunError Unit}
    (h : ∀ tasks o₁, e.perform state task o = (.ok tasks, o₁) → ∀ task ∈ tasks, ∀ o result o',
      act task o = some (result, o') → e.Works state [task] o result o')
    (hf : follow act (e.perform state task o) = some (result, o')) :
    e.Works state [task] o result o' := by
  cases hp : e.perform state task o with
  | mk next o₁ =>
    rw [hp] at hf
    cases next with
    | ok tasks => exact works_of_perform hp (works_of_inSequence (h tasks o₁ hp) hf)
    | error error =>
      obtain ⟨rfl, rfl⟩ := Prod.mk.inj (Option.some.inj hf)
      exact .fail hp

/-- The handler of a directory is not followed by the handler of a directory. -/
theorem ne_ownHandler_of_performDirectory {path : Path} {options : Options} {o o₁ : Overlay ω}
    {tasks : List Task} (h : e.performDirectory state path options o = (.ok tasks, o₁))
    {task : Task} (ht : task ∈ tasks) (path' : Path) (options' : Options) :
    task ≠ .ownHandler path' options' := by
  have hnil : (.ok [] : Except RunError (List Task)) = .ok tasks → False := by
    intro he
    rw [← Except.ok.inj he] at ht
    exact absurd ht List.not_mem_nil
  unfold performDirectory at h
  split at h
  · exact (hnil (Prod.mk.inj h).1).elim
  · split at h
    · split at h
      · exact nomatch (Prod.mk.inj h).1
      · rw [← Except.ok.inj (Prod.mk.inj h).1] at ht
        rcases List.mem_append.mp ht with ht | ht
        · obtain ⟨c, -, rfl⟩ := List.mem_map.mp ht
          exact nofun
        · rw [List.mem_singleton.mp ht]
          exact nofun
    · exact (hnil (Prod.mk.inj h).1).elim

/-- What the recursion does to some depth, the machine does. -/
theorem works_of_dispatch {depth : Nat} {c : Command} {o o' : Overlay ω}
    {result : Except RunError Unit} (h : e.dispatch state depth c o = some (result, o')) :
    e.Works state [.command c] o result o' := by
  induction depth generalizing c o result o' with
  | zero => exact nomatch h
  | succ depth ih =>
    have hannounced (parent : ParentKind) (path : Path) (o : Overlay ω)
        (result : Except RunError Unit) (o' : Overlay ω)
        (h : e.announce parent.kind path o = some (result, o')) :
        e.Works state [.announcement parent path] o result o' := by
      obtain ⟨rfl, rfl⟩ := Prod.mk.inj (Option.some.inj h)
      exact works_of_perform rfl (.done _)
    -- The handler of a directory leads to commands and an announcement only, so it comes before
    -- the tasks in general.
    have hown (path : Path) (options : Options) (o : Overlay ω) (result : Except RunError Unit)
        (o' : Overlay ω)
        (h : e.doTask state depth (.ownHandler path options) o = some (result, o')) :
        e.Works state [.ownHandler path options] o result o' := by
      rw [doTask, runDirectoryHandler_eq_follow] at h
      refine works_of_follow (fun tasks o₁ hp task ht o result o' hd => ?_) h
      cases task with
      | command c => exact ih hd
      | ownHandler path' options' =>
        exact absurd rfl (ne_ownHandler_of_performDirectory hp ht path' options')
      | announcement parent path => exact hannounced parent path o result o' hd
    rw [dispatch_succ_eq_follow] at h
    refine works_of_follow (fun tasks o₁ _ task _ o result o' hd => ?_) h
    cases task with
    | command c => exact ih hd
    | ownHandler path options => exact hown path options o result o' hd
    | announcement parent path => exact hannounced parent path o result o' hd

/-- The machine and the recursion end alike. -/
theorem carries_iff_works (e : Engine ω σ) (state : Option σ) (c : Command) (o : Overlay ω)
    (result : Except RunError Unit) (o' : Overlay ω) :
    e.Carries state c o result o' ↔ e.Works state [.command c] o result o' := by
  constructor
  · rintro ⟨depth, h⟩
    exact works_of_dispatch h
  · intro h
    obtain ⟨depth, hd⟩ := h.exists_depth
    rw [inSequence_singleton] at hd
    exact ⟨depth, hd⟩

end Engine

end TreePlan
