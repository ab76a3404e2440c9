import TreePlan.Proofs.Engine.Matching
import TreePlan.Proofs.Overlay.Watching

/-!
# Watching the engine

The watched engine does what the engine does and leaves what can be seen of it: every event and
every call of a part of the transform, in order. Its steps are those of the engine
(`perform_watched`), so the two match (`watched_matches`), and `Engine.Tells` says what each step
shows. From the steps it follows what a whole run of the machine shows (`Engine.Trace`) and what a
run of passes shows (`Engine.Tale`). Both are lists made without any overlay, and that is where
facts about the order of calls and events are proved.
-/

namespace TreePlan

/-- A command is not an announcement. -/
theorem Task.command_ne_announcement (c : Command) (parent : ParentKind) (path : Path) :
    Task.command c ≠ .announcement parent path := by
  intro h
  cases h

namespace Engine

variable {ω σ : Type}

/-- The engine that does the same and is watched. -/
def watched (e : Engine ω σ) : Engine (Watched ω σ) σ where
  backing := e.backing.watched
  transform := e.transform.watched
  dependencies := e.dependencies

variable (e : Engine ω σ) (state : Option σ)

/-! ## Steps -/

/-- What a step shows: the task, how its step ends, and what is seen meanwhile. -/
inductive Tells : Task → Except RunError (List Task) → Record σ → Prop
  /-- There is nothing to do. -/
  | quiet {task : Task} {told : Record σ} (hquiet : Quiet told)
      (htask : ∀ parent path, task ≠ .announcement parent path) : Tells task (.ok []) told
  /-- No handler is called because of an error. -/
  | refused {c : Command} {error : RunError} {told : Record σ} (hquiet : Quiet told)
      (herror : ∀ path failure, error ≠ .directoryHandler path failure) :
      Tells (.command c) (.error error) told
  /-- Files are discovered under a directory. -/
  | discovered {path : Path} {options : Options} {told : Record σ} (files : List Path)
      (hquiet : Quiet told) :
      Tells (.command (.traverseDirectory path options))
        (.ok (files.map (fun file => .command (.traverseFile file options)) ++
          [.announcement .directory path, .ownHandler path options])) told
  /-- A deletion is staged and announced. -/
  | deleted (path : Path) :
      Tells (.command (.delete path)) (.ok []) [.event (.executed .delete path)]
  /-- A write is staged and announced. -/
  | written (path : Path) (data : String) :
      Tells (.command (.stage path data)) (.ok []) [.event (.executed .stageData path)]
  /-- A command that has led to others is announced. -/
  | announced (parent : ParentKind) (path : Path) :
      Tells (.announcement parent path) (.ok []) [.event (.executed parent.kind path)]
  /-- The handler of a directory orders commands. -/
  | directory {task : Task} {path : Path} {options : Options} {told : Record σ}
      (commands : List DirectoryCommand) (hquiet : Quiet told)
      (htask : task = .command (.traverseDirectory path options) ∨
        task = .ownHandler path options) :
      Tells task (.ok (commands.map (.command ·.widen) ++ [.announcement .directory path]))
        (told ++ [.call (.directory (e.visit state path options) (.ok commands))])
  /-- The handler of a directory fails. -/
  | directoryFails {task : Task} {path : Path} {options : Options} {told : Record σ} {o : Overlay ω}
      (failure : Failure) (hquiet : Quiet told)
      (hfails : ((e.transform.handleDirectory (e.visit state path options)).run e.backing o).1 =
        .error failure)
      (htask : task = .command (.traverseDirectory path options) ∨
        task = .ownHandler path options) :
      Tells task (.error (.directoryHandler path failure))
        (told ++ [.call (.directory (e.visit state path options) (.error failure))])
  /-- The handler of a file orders commands. -/
  | file {path : Path} {options : Options} {told : Record σ}
      (commands : List FileCommand) (hquiet : Quiet told) :
      Tells (.command (.traverseFile path options))
        (.ok (commands.map (.command ·.widen) ++ [.announcement .file path]))
        (told ++ [.call (.file (e.visit state path options) (.ok commands))])
  /-- The handler of a file fails. -/
  | fileFails {path : Path} {options : Options} {told : Record σ} {o : Overlay ω}
      (failure : Failure) (hquiet : Quiet told)
      (hfails : ((e.transform.handleFile (e.visit state path options)).run e.backing o).1 =
        .error failure) :
      Tells (.command (.traverseFile path options)) (.ok [.announcement .file path])
        (told ++ [.call (.file (e.visit state path options) (.error failure)),
          .event (.abandoned path failure)])
  /-- The handler of contents orders a command. -/
  | content {path : Path} {options : Options} {told : Record σ} (data : String)
      (command : DataCommand) (hquiet : Quiet told) :
      Tells (.command (.materialize path options))
        (.ok [.command command.widen, .announcement .content path])
        (told ++ [.call (.content (e.visit state path options) data (.ok command))])
  /-- The handler of contents fails. -/
  | contentFails {path : Path} {options : Options} {told : Record σ} {o : Overlay ω}
      (data : String) (failure : Failure) (hquiet : Quiet told)
      (hfails : ((e.transform.handleData (e.visit state path options) data).run e.backing o).1 =
        .error failure) :
      Tells (.command (.materialize path options)) (.ok [.announcement .content path])
        (told ++ [.call (.content (e.visit state path options) data (.error failure)),
          .event (.abandoned path failure)])

/-- A step of the watched engine is that of the engine, and shows what the task tells. -/
def Shown (task : Task) (before : Record σ)
    (x : Except RunError (List Task) × Overlay (Watched ω σ))
    (y : Except RunError (List Task) × Overlay ω) : Prop :=
  x.1 = y.1 ∧ x.2.unwatched = y.2 ∧
    ∃ told, e.Tells state task y.1 told ∧ x.2.world.seen = before ++ told

variable {e state} {before : Record σ} {o₁ : Overlay (Watched ω σ)} {o₂ : Overlay ω}

/-- A step in which no handler is called is shown, if the task tells it. -/
theorem shown_quiet {task : Task} {next : Except RunError (List Task)}
    (h : Overlay.QuietSince before o₁ o₂)
    (htells : ∀ told, Quiet told → e.Tells state task next told) :
    e.Shown state task before (next, o₁) (next, o₂) := by
  obtain ⟨-, told, hquiet, hseen⟩ := h.world
  exact ⟨rfl, h.unwatched_eq, told, htells told hquiet, hseen⟩

/-- A step in which something is seen besides lines for the log is shown, if the task tells it. -/
theorem shown_of_shows {task : Task} {loud : Record σ}
    {x : Except RunError (List Task) × Overlay (Watched ω σ)}
    {y : Except RunError (List Task) × Overlay ω} (hnext : x.1 = y.1)
    (h : Overlay.Shows before loud x.2 y.2)
    (htells : ∀ told, Quiet told → e.Tells state task y.1 (told ++ loud)) :
    e.Shown state task before x y := by
  obtain ⟨hunwatched, told, hquiet, hseen⟩ := h
  exact ⟨hnext, hunwatched, told ++ loud, htells told hquiet, hseen⟩

/-- An event after what has been seen is seen last. -/
theorem shows_log {loud : Record σ} (h : Overlay.Shows before loud o₁ o₂)
    (event : Event) :
    Overlay.Shows before (loud ++ [.event event]) (o₁.log e.watched.backing event)
      (o₂.log e.backing event) := by
  obtain ⟨rfl, told, hquiet, hseen⟩ := h
  refine ⟨rfl, told, hquiet, ?_⟩
  show o₁.world.seen ++ [.event event] = before ++ (told ++ (loud ++ [.event event]))
  rw [hseen, List.append_assoc, List.append_assoc]

/-- While a directory is found and handled, the call of its handler is seen. -/
theorem performDirectory_shows (e : Engine ω σ) (state : Option σ) (path : Path)
    (options : Options) {entry : Entry} {outcome : Except Failure (List DirectoryCommand)}
    {o o' : Overlay ω} (h : Overlay.QuietSince before o₁ o₂)
    (hfound : o₂.classifyDirectory e.backing path = (some entry, o))
    (hhandles : e.transform.handlesDirectories = true)
    (hrun : (e.transform.handleDirectory (e.visit state path options)).run e.backing o =
      (outcome, o')) :
    (e.watched.performDirectory state path options o₁).1 =
        (e.performDirectory state path options o₂).1 ∧
      Overlay.Shows before [.call (.directory (e.visit state path options) outcome)]
        (e.watched.performDirectory state path options o₁).2
        (e.performDirectory state path options o₂).2 := by
  obtain ⟨found, p₁, p₂, h₁, h₂, hp⟩ :=
    (h.classifyAs (e.backing.watched_alike before) .directory path).exists_eq
  obtain ⟨rfl, rfl⟩ := Prod.mk.inj (hfound.symm.trans h₂)
  have hrecorded := DirectoryProgram.run_recorded (b := e.backing)
    (e.transform.handleDirectory (e.visit state path options))
    (.directory (e.visit state path options)) hp
  obtain ⟨outcome', q₁, q₂, hran₁, hran₂, hq⟩ := hrecorded.exists_eq
  rw [hran₂] at hq
  obtain ⟨rfl, rfl⟩ := Prod.mk.inj (hrun.symm.trans hran₂)
  unfold performDirectory Overlay.classifyDirectory
  rw [show e.watched.backing = e.backing.watched from rfl, h₁, h₂]
  dsimp only
  rw [show e.watched.transform.handlesDirectories = e.transform.handlesDirectories from rfl,
    if_pos hhandles, if_pos hhandles,
    show e.watched.transform.handleDirectory (e.watched.visit state path options) =
      (e.transform.handleDirectory (e.visit state path options)).recorded
        (.directory (e.visit state path options)) from rfl, hran₁, hran₂]
  cases outcome <;> exact ⟨rfl, hq⟩

/-- The handler of a directory is watched. -/
theorem performDirectory_watched {task : Task} {path : Path} {options : Options}
    (htask : task = .command (.traverseDirectory path options) ∨ task = .ownHandler path options)
    (h : Overlay.QuietSince before o₁ o₂) :
    e.Shown state task before (e.watched.performDirectory state path options o₁)
      (e.performDirectory state path options o₂) := by
  have hparent : ∀ parent path, task ≠ .announcement parent path := by
    rcases htask with rfl | rfl
    · exact Task.command_ne_announcement _
    · intro parent path h
      cases h
  obtain ⟨found, p₁, p₂, h₁, h₂, hp⟩ :=
    (h.classifyAs (e.backing.watched_alike before) .directory path).exists_eq
  cases found with
  | none =>
    unfold performDirectory Overlay.classifyDirectory
    rw [show e.watched.backing = e.backing.watched from rfl, h₁, h₂]
    exact shown_quiet hp fun told ht => .quiet ht hparent
  | some entry =>
    cases hhandles : e.transform.handlesDirectories with
    | true =>
      generalize hrun : (e.transform.handleDirectory (e.visit state path options)).run e.backing
        p₂ = ran
      obtain ⟨outcome, q₂⟩ := ran
      obtain ⟨hnext, hshows⟩ := e.performDirectory_shows state path options h h₂ hhandles hrun
      refine shown_of_shows hnext hshows fun told hquiet => ?_
      unfold performDirectory Overlay.classifyDirectory
      rw [h₂]
      dsimp only
      rw [if_pos hhandles, hrun]
      cases outcome with
      | error failure => exact .directoryFails failure hquiet (congrArg Prod.fst hrun) htask
      | ok commands => exact .directory commands hquiet htask
    | false =>
      unfold performDirectory Overlay.classifyDirectory
      rw [show e.watched.backing = e.backing.watched from rfl, h₁, h₂]
      dsimp only
      rw [show e.watched.transform.handlesDirectories = e.transform.handlesDirectories from rfl,
        hhandles]
      exact shown_quiet hp fun told ht => .quiet ht hparent

/-- Discovering files under a directory is watched. -/
theorem performDiscovery_watched {path : Path} {options : Options}
    (h : Overlay.QuietSince before o₁ o₂) :
    e.Shown state (.command (.traverseDirectory path options)) before
      (e.watched.performDiscovery path options o₁) (e.performDiscovery path options o₂) := by
  obtain ⟨found, p₁, p₂, h₁, h₂, hp⟩ := (h.discover (e.backing.watched_alike before) path
    e.transform.includes e.transform.excludes).exists_eq
  unfold performDiscovery
  rw [show e.watched.backing = e.backing.watched from rfl,
    show e.watched.transform.includes = e.transform.includes from rfl,
    show e.watched.transform.excludes = e.transform.excludes from rfl, h₁, h₂]
  cases found with
  | error error =>
    obtain ⟨cause, rfl⟩ := Overlay.discover_eq_error h₂
    exact shown_quiet hp fun told ht => .refused ht cause.toRunError_ne_directoryHandler
  | ok files =>
    exact shown_quiet (hp.log (e.backing.watched_alike before) rfl) fun told ht =>
      .discovered files ht

/-- What is seen of a failure that is contained. -/
def containment {α : Type} (path : Path) : Except Failure α → Record σ
  | .ok _ => []
  | .error failure => [.event (.abandoned path failure)]

/-- While a file is found and handled, the call of its handler is seen, and then its failure. -/
theorem performFile_shows (e : Engine ω σ) (state : Option σ) (path : Path) (options : Options)
    {entry : Entry} {outcome : Except Failure (List FileCommand)} {o o' : Overlay ω}
    (h : Overlay.QuietSince before o₁ o₂)
    (hfound : o₂.classifyFile e.backing path = (some entry, o))
    (hrun : (e.transform.handleFile (e.visit state path options)).run e.backing o =
      (outcome, o')) :
    (e.watched.performFile state path options o₁).1 = (e.performFile state path options o₂).1 ∧
      Overlay.Shows before
        (.call (.file (e.visit state path options) outcome) :: containment path outcome)
        (e.watched.performFile state path options o₁).2
        (e.performFile state path options o₂).2 := by
  obtain ⟨found, p₁, p₂, h₁, h₂, hp⟩ :=
    (h.classifyAs (e.backing.watched_alike before) .file path).exists_eq
  obtain ⟨rfl, rfl⟩ := Prod.mk.inj (hfound.symm.trans h₂)
  have hrecorded := FileProgram.run_recorded (b := e.backing)
    (e.transform.handleFile (e.visit state path options))
    (.file (e.visit state path options)) hp
  obtain ⟨outcome', q₁, q₂, hran₁, hran₂, hq⟩ := hrecorded.exists_eq
  rw [hran₂] at hq
  obtain ⟨rfl, rfl⟩ := Prod.mk.inj (hrun.symm.trans hran₂)
  unfold performFile Overlay.classifyFile
  rw [show e.watched.backing = e.backing.watched from rfl, h₁, h₂]
  dsimp only [fileOrders]
  rw [show e.watched.transform.handleFile (e.watched.visit state path options) =
    (e.transform.handleFile (e.visit state path options)).recorded
      (.file (e.visit state path options)) from rfl,
    show e.watched.backing = e.backing.watched from rfl, hran₁, hran₂]
  cases outcome with
  | error failure => exact ⟨rfl, shows_log hq (.abandoned path failure)⟩
  | ok commands => exact ⟨rfl, hq⟩

/-- The handler of a file is watched. -/
theorem performFile_watched {path : Path} {options : Options}
    (h : Overlay.QuietSince before o₁ o₂) :
    e.Shown state (.command (.traverseFile path options)) before
      (e.watched.performFile state path options o₁) (e.performFile state path options o₂) := by
  obtain ⟨found, p₁, p₂, h₁, h₂, hp⟩ :=
    (h.classifyAs (e.backing.watched_alike before) .file path).exists_eq
  cases found with
  | none =>
    unfold performFile Overlay.classifyFile
    rw [show e.watched.backing = e.backing.watched from rfl, h₁, h₂]
    exact shown_quiet hp fun told ht => .quiet ht (Task.command_ne_announcement _)
  | some entry =>
    generalize hrun : (e.transform.handleFile (e.visit state path options)).run e.backing p₂ = ran
    obtain ⟨outcome, q₂⟩ := ran
    obtain ⟨hnext, hshows⟩ := e.performFile_shows state path options h h₂ hrun
    refine shown_of_shows hnext hshows fun told hquiet => ?_
    unfold performFile Overlay.classifyFile fileOrders
    rw [h₂]
    dsimp only
    rw [hrun]
    cases outcome with
    | error failure => exact .fileFails failure hquiet (congrArg Prod.fst hrun)
    | ok commands => exact .file commands hquiet

/-- While a content is read and handled, the call of its handler is seen, and then its failure. -/
theorem performContent_shows (e : Engine ω σ) (state : Option σ) (path : Path)
    (options : Options) {data : String} {outcome : Except Failure DataCommand} {o o' : Overlay ω}
    (h : Overlay.QuietSince before o₁ o₂) (hread : o₂.read e.backing path = (.ok data, o))
    (hrun : (e.transform.handleData (e.visit state path options) data).run e.backing o =
      (outcome, o')) :
    (e.watched.performContent state path options o₁).1 =
        (e.performContent state path options o₂).1 ∧
      Overlay.Shows before
        (.call (.content (e.visit state path options) data outcome) :: containment path outcome)
        (e.watched.performContent state path options o₁).2
        (e.performContent state path options o₂).2 := by
  obtain ⟨content, p₁, p₂, h₁, h₂, hp⟩ :=
    (h.read (e.backing.watched_alike before) path).exists_eq
  obtain ⟨rfl, rfl⟩ := Prod.mk.inj (hread.symm.trans h₂)
  have hrecorded := DataProgram.run_recorded (b := e.backing)
    (e.transform.handleData (e.visit state path options) data)
    (.content (e.visit state path options) data) hp
  obtain ⟨outcome', q₁, q₂, hran₁, hran₂, hq⟩ := hrecorded.exists_eq
  rw [hran₂] at hq
  obtain ⟨rfl, rfl⟩ := Prod.mk.inj (hrun.symm.trans hran₂)
  unfold performContent
  rw [show e.watched.backing = e.backing.watched from rfl, h₁, h₂]
  dsimp only [dataOrders]
  rw [show e.watched.transform.handleData (e.watched.visit state path options) data =
    (e.transform.handleData (e.visit state path options) data).recorded
      (.content (e.visit state path options) data) from rfl,
    show e.watched.backing = e.backing.watched from rfl, hran₁, hran₂]
  cases outcome with
  | error failure => exact ⟨rfl, shows_log hq (.abandoned path failure)⟩
  | ok command => exact ⟨rfl, hq⟩

/-- The handler of contents is watched. -/
theorem performContent_watched {path : Path} {options : Options}
    (h : Overlay.QuietSince before o₁ o₂) :
    e.Shown state (.command (.materialize path options)) before
      (e.watched.performContent state path options o₁)
      (e.performContent state path options o₂) := by
  obtain ⟨content, p₁, p₂, h₁, h₂, hp⟩ :=
    (h.read (e.backing.watched_alike before) path).exists_eq
  cases content with
  | error error =>
    unfold performContent
    rw [show e.watched.backing = e.backing.watched from rfl, h₁, h₂]
    obtain ⟨rfl, -, -⟩ := Overlay.read_eq_error h₂
    exact shown_quiet hp fun told ht => .refused ht nofun
  | ok data =>
    generalize hrun : (e.transform.handleData (e.visit state path options) data).run e.backing p₂ =
      ran
    obtain ⟨outcome, q₂⟩ := ran
    obtain ⟨hnext, hshows⟩ := e.performContent_shows state path options h h₂ hrun
    refine shown_of_shows hnext hshows fun told hquiet => ?_
    unfold performContent
    rw [h₂]
    dsimp only [dataOrders]
    rw [hrun]
    cases outcome with
    | error failure => exact .contentFails data failure hquiet (congrArg Prod.fst hrun)
    | ok command => exact .content data command hquiet

/-- An event that a task tells is watched. -/
theorem shown_log {task : Task} {event : Event} {o : Overlay (Watched ω σ)}
    (htells : e.Tells state task (.ok []) [.event event]) :
    e.Shown state task o.world.seen (.ok [], o.log e.watched.backing event)
      (.ok [], o.unwatched.log e.backing event) :=
  ⟨rfl, rfl, [.event event], htells, rfl⟩

/-- Every step is watched. -/
theorem perform_watched (e : Engine ω σ) (state : Option σ) (task : Task)
    (o : Overlay (Watched ω σ)) :
    e.Shown state task o.world.seen (e.watched.perform state task o)
      (e.perform state task o.unwatched) := by
  have hnow := Overlay.quietSince_unwatched o
  cases task with
  | command c =>
    cases c with
    | traverseDirectory path options =>
      rw [perform, perform, show e.watched.transform.includes = e.transform.includes from rfl]
      split
      · exact performDirectory_watched (Or.inl rfl) hnow
      · exact performDiscovery_watched hnow
    | traverseFile path options => exact performFile_watched hnow
    | materialize path options => exact performContent_watched hnow
    | delete path =>
      exact shown_log (o := o.stageDelete e.backing.watched path) (.deleted path)
    | stage path data =>
      exact shown_log (o := o.stageWrite e.backing.watched path data) (.written path data)
    | noop => exact shown_quiet hnow fun told ht => .quiet ht (Task.command_ne_announcement .noop)
  | ownHandler path options => exact performDirectory_watched (Or.inr rfl) hnow
  | announcement parent path => exact shown_log (.announced parent path)

end Engine

end TreePlan
