import TreePlan.Proofs.Engine.Reports

/-!
# Failures are contained

A failing file or data handler is no more than a handler that orders nothing, and a report. To say
so, an engine is compared with the tamed one, in which file and data handlers that would fail order
nothing instead (`Engine.tamed`); what they have asked and touched before stays. A handler may see
the world and never the listener who is told of failures, so the engine is taken with a listener
beside its world (`Engine.heard`), whoever that is. Then the two engines match but for the reports
of failures (`heard_matches_tamed`).

The tamed engine reports nothing, as no file or data handler of it fails (`Tale.calm`).
-/

namespace TreePlan

/-! ## Tamed engines -/

section Tamed

variable {ω σ κ : Type}

/-- The transform of which file and data handlers order nothing where they would fail. -/
def Transform.tamed (t : Transform ω σ) : Transform ω σ :=
  { t with
    handleFile := fun v => tryCatch (t.handleFile v) fun _ => pure []
    handleData := fun v data => tryCatch (t.handleData v data) fun _ => pure .noop }

/-- The engine of which file and data handlers order nothing where they would fail. -/
def Engine.tamed (e : Engine ω σ) : Engine ω σ := { e with transform := e.transform.tamed }

/-- The transform that does the same in the world within. -/
def Transform.beside (t : Transform ω σ) : Transform (Beside ω κ) σ where
  includes := t.includes
  excludes := t.excludes
  handlesDirectories := t.handlesDirectories
  handleDirectory v := (t.handleDirectory v).beside
  handleFile v := (t.handleFile v).beside
  handleData v data := (t.handleData v data).beside
  initializeState options previous := (t.initializeState options previous).beside
  handleFinish options state := (t.handleFinish options state).beside

/-- The engine with a listener beside its world. The listener is told of every event, the world of
every event but failures. -/
def Engine.heard (e : Engine ω σ) (listen : Event → κ → κ) : Engine (Beside ω κ) σ where
  backing := e.backing.beside fun event v =>
    ⟨if event.isFailure then v.world else e.backing.notice event v.world, listen event v.seen⟩
  transform := e.transform.beside
  dependencies := e.dependencies

/-- The worlds within are the same, whatever is beside them. -/
def SameWithin (v w : Beside ω κ) : Prop := v.world = w.world

/-- Overlays with a listener that are the same but for failures and what the listener makes of
them. -/
abbrev Overlay.SameButFailures : Overlay (Beside ω κ) → Overlay (Beside ω κ) → Prop :=
  Overlay.Alike SameWithin fun event => !event.isFailure

/-- A question to the world within has the same answer whatever is beside it. -/
theorem SameWithin.lift {α : Type} (question : ω → α × ω) {v w : Beside ω κ} (h : SameWithin v w) :
    Agree SameWithin (Beside.lift question v) (Beside.lift question w) :=
  ⟨congrArg (fun w => (question w).1) h, congrArg (fun w => (question w).2) h⟩

/-- A program that is caught where it fails does what it does anyway, and ends with what it is
caught with. -/
theorem Program.run_tryCatch {Q α : Type} {A : Q → Type} (b : Backing ω)
    (answer : (q : Q) → Overlay ω → A q × Overlay ω)
    (p : ExceptT Failure (Program ω Q A) α) (caught : α) (o : Overlay ω) :
    Program.run b answer (ExceptT.run (tryCatch p fun _ => pure caught)) o =
      (.ok ((Program.run b answer (ExceptT.run p) o).1.toOption.getD caught),
        (Program.run b answer (ExceptT.run p) o).2) := by
  refine (Program.run_bind b answer (ExceptT.run p) _ o).trans ?_
  cases (Program.run b answer (ExceptT.run p) o).1 with
  | ok a => rfl
  | error failure => rfl

/-- The tamed handler of a file never fails. -/
theorem Engine.run_tamed_handleFile (e : Engine ω σ) (v : Visit σ) (o : Overlay ω) :
    (e.tamed.transform.handleFile v).run e.tamed.backing o =
      (.ok (((e.transform.handleFile v).run e.backing o).1.toOption.getD []),
        ((e.transform.handleFile v).run e.backing o).2) :=
  Program.run_tryCatch e.backing (FileQuery.answer e.backing) (e.transform.handleFile v) [] o

/-- The tamed handler of contents never fails. -/
theorem Engine.run_tamed_handleData (e : Engine ω σ) (v : Visit σ) (data : String)
    (o : Overlay ω) :
    (e.tamed.transform.handleData v data).run e.tamed.backing o =
      (.ok (((e.transform.handleData v data).run e.backing o).1.toOption.getD .noop),
        ((e.transform.handleData v data).run e.backing o).2) :=
  Program.run_tryCatch e.backing DataQuery.answer (e.transform.handleData v data) .noop o

/-- A program in the world within does the same whatever is beside it. -/
theorem Program.beside_alike_beside {Q α : Type} {A : Q → Type} (p : Program ω Q A α) :
    Program.Alike (@SameWithin ω κ) p.beside p.beside := by
  induction p with
  | done result => exact .done result
  | note text next ih => exact .note text ih
  | look next ih =>
    refine .look fun v w h => ?_
    rw [show v.world = w.world from h]
    exact ih w.world
  | touch change next ih =>
    refine .touch (fun v w h => ?_) ih
    exact congrArg change h
  | ask question next ih => exact .ask question ih

end Tamed

namespace Engine

variable {ω σ κ : Type} (e : Engine ω σ) (listen : Event → κ → κ) {o₁ o₂ : Overlay (Beside ω κ)}

open Overlay

/-- An event is noticed in the world within whatever the listener makes of it. -/
theorem heard_notice (event : Event) {v w : Beside ω κ} (h : SameWithin v w) :
    SameWithin ((e.heard listen).backing.notice event v)
      ((e.heard listen).backing.notice event w) :=
  congrArg (fun w => if event.isFailure then w else e.backing.notice event w) h

/-- The backing with a listener answers from the world within whatever the listener makes of it. -/
theorem heard_alike : (e.heard listen).backing.Alike SameWithin (e.heard listen).backing where
  hash := rfl
  stat path _ _ h := h.lift (e.backing.stat path)
  list path _ _ h := h.lift (e.backing.list path)
  read path _ _ h := h.lift (e.backing.read path)
  glob path pattern excludes _ _ h := h.lift (e.backing.glob path pattern excludes)
  notice event _ _ _ h := e.heard_notice listen event h

/-- The same event keeps overlays the same but for failures. -/
theorem sameButFailures_log (h : SameButFailures o₁ o₂) (event : Event) :
    SameButFailures (o₁.log (e.heard listen).backing event)
      (o₂.log (e.heard listen).backing event) :=
  h.log_of_notice (e.heard_notice listen event h.world)

/-- The report of a failure keeps overlays the same but for failures. -/
theorem sameButFailures_abandoned (h : SameButFailures o₁ o₂) (path : Path) (failure : Failure) :
    SameButFailures (o₁.log (e.heard listen).backing (.abandoned path failure)) o₂ where
  stores := h.stores
  world := h.world
  journal := by
    rw [Overlay.log, List.filter_append, h.journal]
    exact List.append_nil _

/-- A program for contents or between sweeps does the same whatever the listener makes of
failures. -/
theorem dataProgram_agree {α : Type} (p : DataProgram ω α) (h : SameButFailures o₁ o₂) :
    Agree SameButFailures (DataProgram.run (e.heard listen).backing p.beside o₁)
      (DataProgram.run (e.heard listen).backing p.beside o₂) :=
  DataProgram.run_agree (e.heard_alike listen) (Program.beside_alike_beside (ExceptT.run p)) h

/-- The handler of a file does the same whatever the listener makes of failures. -/
theorem fileProgram_agree {α : Type} (p : FileProgram ω α) (h : SameButFailures o₁ o₂) :
    Agree SameButFailures (FileProgram.run (e.heard listen).backing p.beside o₁)
      (FileProgram.run (e.heard listen).backing p.beside o₂) :=
  FileProgram.run_agree (e.heard_alike listen) (Program.beside_alike_beside (ExceptT.run p)) h

/-- The handler of a directory does the same whatever the listener makes of failures. -/
theorem directoryProgram_agree {α : Type} (p : DirectoryProgram ω α) (h : SameButFailures o₁ o₂) :
    Agree SameButFailures (DirectoryProgram.run (e.heard listen).backing p.beside o₁)
      (DirectoryProgram.run (e.heard listen).backing p.beside o₂) :=
  DirectoryProgram.run_agree (e.heard_alike listen) (Program.beside_alike_beside (ExceptT.run p)) h

/-! ## Steps -/

variable (state : Option σ) (path : Path) (options : Options)

/-- The handler of a directory is not tamed. -/
theorem performDirectory_tamed (h : SameButFailures o₁ o₂) :
    Agree SameButFailures ((e.heard listen).performDirectory state path options o₁)
      ((e.heard listen).tamed.performDirectory state path options o₂) := by
  obtain ⟨found, p₁, p₂, h₁, h₂, hp⟩ :=
    (h.classifyAs (e.heard_alike listen) .directory path).exists_eq
  show Agree SameButFailures _ ((e.heard listen).performDirectory state path options o₂)
  unfold performDirectory classifyDirectory
  rw [h₁, h₂]
  cases found with
  | none => exact ⟨rfl, hp⟩
  | some entry =>
    dsimp only
    split
    · have hrun := e.directoryProgram_agree listen
        (e.transform.handleDirectory (e.visit state path options)) hp
      obtain ⟨outcome, q₁, q₂, hran₁, hran₂, hq⟩ := hrun.exists_eq
      rw [show (e.heard listen).transform.handleDirectory ((e.heard listen).visit state path
        options) = (e.transform.handleDirectory (e.visit state path options)).beside from rfl,
        hran₁, hran₂]
      cases outcome with
      | error failure => exact ⟨rfl, hq⟩
      | ok commands => exact ⟨rfl, hq⟩
    · exact ⟨rfl, hp⟩

/-- Discovering files under a directory is not tamed. -/
theorem performDiscovery_tamed (h : SameButFailures o₁ o₂) :
    Agree SameButFailures ((e.heard listen).performDiscovery path options o₁)
      ((e.heard listen).tamed.performDiscovery path options o₂) := by
  obtain ⟨found, p₁, p₂, h₁, h₂, hp⟩ := (h.discover (e.heard_alike listen) path
    e.transform.includes e.transform.excludes).exists_eq
  show Agree SameButFailures _ ((e.heard listen).performDiscovery path options o₂)
  unfold performDiscovery
  rw [show (e.heard listen).transform.includes = e.transform.includes from rfl,
    show (e.heard listen).transform.excludes = e.transform.excludes from rfl, h₁, h₂]
  cases found with
  | error error => exact ⟨rfl, hp⟩
  | ok files => exact ⟨rfl, e.sameButFailures_log listen hp _⟩

/-- The tamed handler of a file orders what the handler does, and nothing where it fails. -/
theorem fileOrders_tamed (h : SameButFailures o₁ o₂) :
    Agree SameButFailures ((e.heard listen).fileOrders state path options o₁)
      ((e.heard listen).tamed.fileOrders state path options o₂) := by
  have hrun := e.fileProgram_agree listen (e.transform.handleFile (e.visit state path options)) h
  obtain ⟨outcome, q₁, q₂, hran₁, hran₂, hq⟩ := hrun.exists_eq
  have htamed := (e.heard listen).run_tamed_handleFile (e.visit state path options) o₂
  unfold fileOrders
  rw [show ((e.heard listen).tamed.transform.handleFile ((e.heard listen).tamed.visit state path
      options)).run (e.heard listen).tamed.backing o₂ = _ from htamed,
    show (e.heard listen).transform.handleFile (e.visit state path options) =
      (e.transform.handleFile (e.visit state path options)).beside from rfl,
    show (e.heard listen).transform.handleFile ((e.heard listen).visit state path options) =
      (e.transform.handleFile (e.visit state path options)).beside from rfl, hran₁, hran₂]
  cases outcome with
  | error failure => exact ⟨rfl, e.sameButFailures_abandoned listen hq path failure⟩
  | ok commands => exact ⟨rfl, hq⟩

/-- The tamed handler of contents orders what the handler does, and to do nothing where it fails. -/
theorem dataOrders_tamed (data : String) (h : SameButFailures o₁ o₂) :
    busy (((e.heard listen).dataOrders state path options data o₁).1.map (.command ·.widen)) =
        busy (((e.heard listen).tamed.dataOrders state path options data o₂).1.map
          (.command ·.widen)) ∧
      SameButFailures ((e.heard listen).dataOrders state path options data o₁).2
        ((e.heard listen).tamed.dataOrders state path options data o₂).2 := by
  have hrun := e.dataProgram_agree listen
    (e.transform.handleData (e.visit state path options) data) h
  obtain ⟨outcome, q₁, q₂, hran₁, hran₂, hq⟩ := hrun.exists_eq
  -- Where the handler fails, the tamed one orders to do nothing, and `busy` drops that.
  have htamed := (e.heard listen).run_tamed_handleData (e.visit state path options) data o₂
  unfold dataOrders
  rw [show ((e.heard listen).tamed.transform.handleData ((e.heard listen).tamed.visit state path
      options) data).run (e.heard listen).tamed.backing o₂ = _ from htamed,
    show (e.heard listen).transform.handleData (e.visit state path options) data =
      (e.transform.handleData (e.visit state path options) data).beside from rfl,
    show (e.heard listen).transform.handleData ((e.heard listen).visit state path options) data =
      (e.transform.handleData (e.visit state path options) data).beside from rfl, hran₁, hran₂]
  cases outcome with
  | error failure => exact ⟨rfl, e.sameButFailures_abandoned listen hq path failure⟩
  | ok command => exact ⟨rfl, hq⟩

/-- The step of a file, tamed. -/
theorem performFile_tamed (h : SameButFailures o₁ o₂) :
    Agree SameButFailures ((e.heard listen).performFile state path options o₁)
      ((e.heard listen).tamed.performFile state path options o₂) := by
  obtain ⟨found, p₁, p₂, h₁, h₂, hp⟩ :=
    (h.classifyAs (e.heard_alike listen) .file path).exists_eq
  unfold performFile classifyFile
  rw [show (e.heard listen).tamed.backing = (e.heard listen).backing from rfl, h₁, h₂]
  cases found with
  | none => exact ⟨rfl, hp⟩
  | some entry =>
    obtain ⟨horders, hq⟩ := e.fileOrders_tamed listen state path options hp
    dsimp only
    rw [horders]
    exact ⟨rfl, hq⟩

/-- The step of a content, tamed. What follows is the same but for a command to do nothing. -/
theorem performContent_tamed (h : SameButFailures o₁ o₂) :
    ((e.heard listen).performContent state path options o₁).1.map busy =
        ((e.heard listen).tamed.performContent state path options o₂).1.map busy ∧
      SameButFailures ((e.heard listen).performContent state path options o₁).2
        ((e.heard listen).tamed.performContent state path options o₂).2 := by
  obtain ⟨content, p₁, p₂, h₁, h₂, hp⟩ := (h.read (e.heard_alike listen) path).exists_eq
  unfold performContent
  rw [show (e.heard listen).tamed.backing = (e.heard listen).backing from rfl, h₁, h₂]
  cases content with
  | error error => exact ⟨rfl, hp⟩
  | ok data =>
    obtain ⟨horders, hq⟩ := e.dataOrders_tamed listen state path options data hp
    refine ⟨?_, hq⟩
    dsimp only [Except.map]
    rw [busy_append, busy_append, horders]

/-- The engine with a listener and the tamed one match but for reports of failures. -/
theorem heard_matches_tamed :
    Matches SameButFailures (e.heard listen) (e.heard listen).tamed where
  stores _ _ h := h.stores
  classify path _ _ h := h.classify (e.heard_alike listen) path
  log event _ _ he h := h.log (e.heard_alike listen) he
  perform state task o₁ o₂ h := by
    cases task with
    | command c =>
      cases c with
      | traverseDirectory path options =>
        rw [perform, perform, show (e.heard listen).tamed.transform.includes =
          (e.heard listen).transform.includes from rfl]
        split
        · exact (e.performDirectory_tamed listen state path options h).imp_left
            (congrArg (Except.map busy))
        · exact (e.performDiscovery_tamed listen path options h).imp_left
            (congrArg (Except.map busy))
      | traverseFile path options =>
        exact (e.performFile_tamed listen state path options h).imp_left
          (congrArg (Except.map busy))
      | materialize path options => exact e.performContent_tamed listen state path options h
      | delete path =>
        have hstaged := h.stageChange (e.heard_alike listen) path .delete
        exact ⟨rfl, e.sameButFailures_log listen hstaged _⟩
      | stage path data =>
        have hstaged := h.stageChange (e.heard_alike listen) path (.write data)
        exact ⟨rfl, e.sameButFailures_log listen hstaged _⟩
      | noop => exact ⟨rfl, h⟩
    | ownHandler path options =>
      exact (e.performDirectory_tamed listen state path options h).imp_left
        (congrArg (Except.map busy))
    | announcement parent path => exact ⟨rfl, e.sameButFailures_log listen h _⟩
  initializeState options previous _ _ h :=
    e.dataProgram_agree listen (e.transform.initializeState options previous) h
  handleFinish options state _ _ h :=
    e.dataProgram_agree listen (e.transform.handleFinish options state) h

/-! ## Reports -/

/-- Nothing is reported. -/
def Calm (told : Record σ) : Prop :=
  ∀ happening ∈ told, ∀ event, happening = .event event → event.isFailure = false

/-- Nothing is reported in two records if not in either. -/
theorem Calm.append {told told' : Record σ} (h : Calm told) (h' : Calm told') :
    Calm (told ++ told') :=
  List.forall_mem_append.mpr ⟨h, h'⟩

/-- A call is not a report. -/
theorem Calm.call {told : Record σ} (call : Call σ) (h : Calm told) : Calm (.call call :: told) :=
  List.forall_mem_cons.mpr ⟨nofun, h⟩

/-- Nothing is reported where nothing is seen. -/
theorem calm_nil : Calm ([] : Record σ) := fun _ h => nomatch h

/-- Lines for the log are no reports. -/
theorem calm_of_quiet {told : Record σ} (h : Quiet told) : Calm told := by
  intro happening hmem event hevent
  obtain ⟨event', rfl, hquiet⟩ := h happening hmem
  obtain rfl := Happening.event.inj hevent
  cases event' with
  | abandoned path failure => exact nomatch hquiet
  | _ => rfl

/-- The announcement of a command is not a report. -/
theorem calm_executed (kind : CommandKind) (path : Path) :
    Calm ([.event (.executed kind path)] : Record σ) := by
  intro happening hmem event hevent
  rw [List.mem_singleton.mp hmem] at hevent
  rw [← Happening.event.inj hevent]
  rfl

variable {e state} {root : Path} {previous : Option σ} {options}

/-- A tamed step reports nothing. -/
theorem Tells.calm {task : Task} {next : Except RunError (List Task)} {told : Record σ}
    (h : e.tamed.Tells state task next told) : Calm told := by
  cases h with
  | quiet hquiet => exact calm_of_quiet hquiet
  | refused hquiet => exact calm_of_quiet hquiet
  | discovered files hquiet => exact calm_of_quiet hquiet
  | deleted path => exact calm_executed .delete path
  | written path data => exact calm_executed .stageData path
  | announced parent path => exact calm_executed parent.kind path
  | directory commands hquiet => exact (calm_of_quiet hquiet).append (.call _ calm_nil)
  | directoryFails failure hquiet => exact (calm_of_quiet hquiet).append (.call _ calm_nil)
  | file commands hquiet => exact (calm_of_quiet hquiet).append (.call _ calm_nil)
  | fileFails failure hquiet hfails =>
    rw [e.run_tamed_handleFile] at hfails
    exact nomatch hfails
  | content data command hquiet => exact (calm_of_quiet hquiet).append (.call _ calm_nil)
  | contentFails data failure hquiet hfails =>
    rw [e.run_tamed_handleData] at hfails
    exact nomatch hfails

/-- A run of a tamed machine reports nothing. -/
theorem Trace.calm {stack : List Task} {result : Except RunError Unit} {told : Record σ}
    (h : e.tamed.Trace state stack result told) : Calm told := by
  induction h with
  | done => exact calm_nil
  | fail h => exact h.calm
  | step h _ ih => exact h.calm.append ih

/-- A tamed sweep reports nothing. -/
theorem SweepTale.calm {result : Except RunError Unit} {told : Record σ}
    (h : e.tamed.SweepTale root options previous state result told) : Calm told := by
  obtain ⟨kind, hquiet, hquiet', htrace⟩ := h
  exact (calm_of_quiet hquiet).append (.call _ ((calm_of_quiet hquiet').append htrace.calm))

/-- A tamed run of passes reports nothing. -/
theorem Tale.calm {result : Except RunError Plan} {told : Record σ}
    (h : e.tamed.Tale root options previous result told) : Calm told := by
  induction h with
  | stateFails failure hquiet => exact (calm_of_quiet hquiet).append (.call _ calm_nil)
  | sweepFails hsweep => exact hsweep.calm
  | finishFails failure hsweep hquiet =>
    exact hsweep.calm.append ((calm_of_quiet hquiet).append (.call _ calm_nil))
  | stops plan hsweep hquiet hquiet' =>
    exact hsweep.calm.append ((calm_of_quiet hquiet).append (.call _ (calm_of_quiet hquiet')))
  | repeats hsweep hquiet _ ih =>
    exact hsweep.calm.append ((calm_of_quiet hquiet).append (.call _ ih))

/-- Failures of file and data handlers are contained. Whatever the transform, the world and the
listener, a run and the tamed run end alike: with the same result, the same stores, the same world
within and the same events but for failures. The tamed run reports no failure. The run reports every
failure of a file or data handler once, right after its call and right before the announcement of
its command, and nothing else. -/
theorem failures_contained (e : Engine ω σ) (listen : Event → κ → κ) (root : Path)
    (options : Options) (previous : Option σ) (o : Overlay (Beside ω κ))
    (result : Except RunError Plan) :
    (∀ o₁, (e.heard listen).Ends root options previous o result o₁ →
        ∃ o₂, (e.heard listen).tamed.Ends root options previous o result o₂ ∧
          SameButFailures o₁ o₂) ∧
      (∀ o₂, (e.heard listen).tamed.Ends root options previous o result o₂ →
        ∃ o₁, (e.heard listen).Ends root options previous o result o₁ ∧
          SameButFailures o₁ o₂) ∧
      (∀ o₁, (e.heard listen).Ends root options previous o result o₁ →
        ∃ seen, (e.heard listen).EndsSeen root options previous o result o₁ seen) ∧
      (∀ o₁ seen, (e.heard listen).EndsSeen root options previous o result o₁ seen →
        Contained seen) ∧
      ∀ o₂ seen, (e.heard listen).tamed.EndsSeen root options previous o result o₂ seen →
        Calm seen := by
  -- Both runs begin with the same overlay, and matching goes both ways.
  have hmatches := e.heard_matches_tamed listen
  have hsame : SameButFailures o o := ⟨rfl, rfl, rfl⟩
  refine ⟨fun o₁ h => hmatches.ends h hsame, fun o₂ h => hmatches.symm.ends h hsame,
    fun o₁ h => h.exists_seen, fun o₁ seen h => ?_, fun o₂ seen h => ?_⟩
  · rcases h.tale with ⟨-, hquiet⟩ | ⟨-, htale⟩
    · exact hquiet.contained
    · exact htale.contained
  · rcases h.tale with ⟨-, hquiet⟩ | ⟨-, htale⟩
    · exact calm_of_quiet hquiet
    · exact htale.calm

/-- An engine over a single file whose handler fails. -/
def refusesFiles : Engine Unit Unit where
  backing := .ofView (fun _ => default) id (fun _ _ => .ok (some .file)) (fun _ _ => .ok [])
    (fun _ _ => .ok "") (fun _ _ _ _ => .ok [])
  transform := { handleFile := fun _ => throw (.stated "no") }

/-- A run in which a handler fails, with a listener who counts, and the tamed run that it is the
same as but for the report. -/
theorem failures_contained_refusesFiles :
    ∃ o₁ o₂, (refusesFiles.heard fun _ n => n + 1).Ends (.ofString "a") .empty none
        (.new ⟨(), 0⟩) (.ok []) o₁ ∧
      o₁.reports = [.abandoned (.ofString "a") (.stated "no"),
        .executed .traverseFile (.ofString "a")] ∧
      (refusesFiles.heard fun _ n => n + 1).tamed.Ends (.ofString "a") .empty none
        (.new ⟨(), 0⟩) (.ok []) o₂ ∧ SameButFailures o₁ o₂ := by
  have hends : ∃ o₁, (refusesFiles.heard fun _ n => n + 1).Ends (.ofString "a") .empty none
      (.new ⟨(), 0⟩) (.ok []) o₁ ∧ o₁.reports = [.abandoned (.ofString "a") (.stated "no"),
        .executed .traverseFile (.ofString "a")] := ⟨_, ⟨4, 1, rfl⟩, rfl⟩
  obtain ⟨o₁, h, hreports⟩ := hends
  obtain ⟨o₂, htamed, hsame⟩ := (failures_contained refusesFiles (fun _ n => n + 1)
    (.ofString "a") .empty none (.new ⟨(), 0⟩) (.ok [])).1 o₁ h
  exact ⟨o₁, o₂, h, hreports, htamed, hsame⟩

end Engine

end TreePlan
