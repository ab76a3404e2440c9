import TreePlan.Proofs.Engine.Machine
import TreePlan.Proofs.Overlay.History

/-!
# What runs keep

However handlers behave, the engine works on an overlay through its operations, and leaves events.
It asks, and may leave lines for the log (`KeptByAsking`); it announces a command that has led to
others, notes a failed handler, and stages a change and announces it at once (`KeptByRuns`). A
property of overlays that all of this keeps is kept by the parts of a step, by one step of the
machine (`perform_kept`) and, by induction on the run, by a whole run (`Works.kept`).
-/

namespace TreePlan

/-- The kind of command that stages a change. -/
def Change.kind : Change → CommandKind
  | .write _ => .stageData
  | .delete => .delete

/-- A command that leads to others is not one that stages a change. -/
theorem Change.kind_ne_parentKind (c : Change) (parent : ParentKind) : c.kind ≠ parent.kind := by
  cases parent <;> cases c <;> simp [Change.kind, ParentKind.kind]

variable {ω : Type}

/-- Asking keeps a property of overlays. -/
structure KeptByAsking (b : Backing ω) (P : Overlay ω → Prop) : Prop where
  /-- An operation that stages nothing keeps it. -/
  ask : ∀ operation : Operation ω, operation.staging? b = none → ∀ {o}, P o →
    P (operation.run b o).2
  /-- A line for the log keeps it. -/
  log : ∀ {event : Event}, event.isReport = false → ∀ {o}, P o → P (o.log b event)

/-- All that the engine does keeps a property of overlays. -/
structure KeptByRuns (b : Backing ω) (P : Overlay ω → Prop) : Prop extends KeptByAsking b P where
  /-- Announcing a command that has led to others keeps it. -/
  announce : ∀ (parent : ParentKind) (path : Path) {o}, P o →
    P (o.log b (.executed parent.kind path))
  /-- Noting a failed handler keeps it. -/
  abandon : ∀ (path : Path) (failure : Failure) {o}, P o → P (o.log b (.abandoned path failure))
  /-- Staging a change and announcing it keeps it. -/
  carry : ∀ (path : Path) (c : Change) {o}, P o →
    P ((o.stageChange b path c).log b (.executed c.kind path))

/-! ## Handlers -/

section Handlers

variable {b : Backing ω} {P : Overlay ω → Prop} {o : Overlay ω}

/-- A program keeps what the answers to its questions keep. -/
theorem Program.run_kept {Q α : Type} {A : Q → Type}
    {answer : (q : Q) → Overlay ω → A q × Overlay ω} (h : KeptByAsking b P)
    (hanswer : ∀ q o, P o → P (answer q o).2) (p : Program ω Q A α) (ho : P o) :
    P (p.run b answer o).2 := by
  induction p generalizing o with
  | done result => exact ho
  | note text next ih => exact ih (h.log rfl ho)
  | look next ih => exact ih _ ho
  | touch change next ih => exact ih (h.ask (.elapse change) rfl ho)
  | ask question next ih => exact ih _ (hanswer question o ho)

/-- Answering a file handler keeps what asking keeps. -/
theorem FileQuery.answer_kept (h : KeptByAsking b P) (q : FileQuery) (o : Overlay ω) (ho : P o) :
    P (q.answer b o).2 := by
  cases q with
  | isDirectory | isKnown => exact ho
  | classify path => exact h.ask (.classify path) rfl ho
  | read path => exact h.ask (.read path) rfl ho

/-- Answering a directory handler keeps what asking keeps. -/
theorem DirectoryQuery.answer_kept (h : KeptByAsking b P) (q : DirectoryQuery) (o : Overlay ω)
    (ho : P o) : P (q.answer b o).2 := by
  cases q with
  | file query => exact query.answer_kept h o ho
  | list path => exact h.ask (.list path) rfl ho

/-- A handler of contents keeps what asking keeps. -/
theorem DataProgram.run_kept {α : Type} (h : KeptByAsking b P) (p : DataProgram ω α) (ho : P o) :
    P (p.run b o).2 :=
  Program.run_kept h (fun q _ _ => nomatch q) _ ho

/-- A file handler keeps what asking keeps. -/
theorem FileProgram.run_kept {α : Type} (h : KeptByAsking b P) (p : FileProgram ω α) (ho : P o) :
    P (p.run b o).2 :=
  Program.run_kept h (FileQuery.answer_kept h) _ ho

/-- A directory handler keeps what asking keeps. -/
theorem DirectoryProgram.run_kept {α : Type} (h : KeptByAsking b P) (p : DirectoryProgram ω α)
    (ho : P o) : P (p.run b o).2 :=
  Program.run_kept h (DirectoryQuery.answer_kept h) _ ho

end Handlers

namespace Engine

open Overlay

variable {σ : Type} {e : Engine ω σ} {state : Option σ} {P : Overlay ω → Prop} {o : Overlay ω}

/-! ## Steps -/

/-- Noting the failure of a handler, if it failed, keeps what runs keep. -/
theorem contain_kept {α : Type} (h : KeptByRuns e.backing P) (path : Path)
    {handled : Except Failure α × Overlay ω} (ho : P handled.2) :
    P (e.contain path handled).2 := by
  obtain ⟨result, o⟩ := handled
  cases result with
  | ok => exact ho
  | error failure => exact h.abandon path failure ho

/-- Running the handler of a directory keeps what asking keeps. -/
theorem performDirectory_kept (h : KeptByAsking e.backing P) (path : Path) (options : Options)
    (ho : P o) : P (e.performDirectory state path options o).2 := by
  have hclassify : P (o.classifyDirectory e.backing path).2 :=
    h.ask (.classifyDirectory path) rfl ho
  unfold performDirectory
  generalize o.classifyDirectory e.backing path = found at hclassify ⊢
  obtain ⟨found, o₁⟩ := found
  cases found with
  | none => exact hclassify
  | some entry =>
    dsimp only
    split
    · have hrun := DirectoryProgram.run_kept h
        (e.transform.handleDirectory (e.visit state path options)) hclassify
      generalize (e.transform.handleDirectory (e.visit state path options)).run e.backing o₁ =
        handled at hrun ⊢
      obtain ⟨handled, o₂⟩ := handled
      cases handled <;> exact hrun
    · exact hclassify

/-- Discovering files under a directory keeps what asking keeps. -/
theorem performDiscovery_kept (h : KeptByAsking e.backing P) (path : Path) (options : Options)
    (ho : P o) : P (e.performDiscovery path options o).2 := by
  have hdiscover :
      P (o.discover e.backing path e.transform.includes e.transform.excludes).2 :=
    h.ask (.discover path e.transform.includes e.transform.excludes) rfl ho
  unfold performDiscovery
  generalize o.discover e.backing path e.transform.includes e.transform.excludes =
    discovered at hdiscover ⊢
  obtain ⟨discovered, o₁⟩ := discovered
  cases discovered with
  | error error => exact hdiscover
  | ok files => exact h.log rfl hdiscover

/-- The step of a file keeps what runs keep. -/
theorem performFile_kept (h : KeptByRuns e.backing P) (path : Path) (options : Options)
    (ho : P o) : P (e.performFile state path options o).2 := by
  have hclassify : P (o.classifyFile e.backing path).2 :=
    h.ask (.classifyFile path) rfl ho
  unfold performFile
  generalize o.classifyFile e.backing path = found at hclassify ⊢
  obtain ⟨found, o₁⟩ := found
  cases found with
  | none => exact hclassify
  | some entry =>
    exact contain_kept h path (FileProgram.run_kept h.toKeptByAsking
      (e.transform.handleFile (e.visit state path options)) hclassify)

/-- The step of a content keeps what runs keep. -/
theorem performContent_kept (h : KeptByRuns e.backing P) (path : Path) (options : Options)
    (ho : P o) : P (e.performContent state path options o).2 := by
  have hread : P (o.read e.backing path).2 :=
    h.ask (.read path) rfl ho
  unfold performContent
  generalize o.read e.backing path = content at hread ⊢
  obtain ⟨content, o₁⟩ := content
  cases content with
  | error error => exact hread
  | ok data =>
    exact contain_kept h path (DataProgram.run_kept h.toKeptByAsking
      (e.transform.handleData (e.visit state path options) data) hread)

/-- One step of the machine keeps what runs keep. -/
theorem perform_kept (h : KeptByRuns e.backing P) (task : Task) (ho : P o) :
    P (e.perform state task o).2 := by
  cases task with
  | command c =>
    cases c with
    | traverseDirectory path options =>
      rw [perform]
      split
      · exact performDirectory_kept h.toKeptByAsking path options ho
      · exact performDiscovery_kept h.toKeptByAsking path options ho
    | traverseFile path options => exact performFile_kept h path options ho
    | materialize path options => exact performContent_kept h path options ho
    | delete path => exact h.carry path .delete ho
    | stage path data => exact h.carry path (.write data) ho
    | noop => exact ho
  | ownHandler path options => exact performDirectory_kept h.toKeptByAsking path options ho
  | announcement parent path => exact h.announce parent path ho

/-- A whole run of the machine keeps what runs keep. -/
theorem Works.kept (h : KeptByRuns e.backing P) {stack : List Task} {o' : Overlay ω}
    {result : Except RunError Unit} (hw : e.Works state stack o result o') (ho : P o) : P o' := by
  induction hw with
  | done => exact ho
  | @fail task rest o o' error hp =>
    have hstep : P (e.perform state task o).2 := perform_kept h task ho
    rw [hp] at hstep
    exact hstep
  | @step task rest tasks o o₁ o' result hp _ ih =>
    have hstep : P (e.perform state task o).2 := perform_kept h task ho
    rw [hp] at hstep
    exact ih hstep

end Engine

end TreePlan
