import TreePlan.Transform

/-!
# The engine

Carries out commands depth first: a command and everything it leads to is done before its next
sibling begins. A pass carries out the command for the root under one state, and the transform
decides whether another pass follows. A failing directory handler ends the run; a failing file or
data handler is noted, and only what it would have led to is left out.

Handlers may order traversals without end, so carrying out takes a bound on the depth of commands
and a run a bound on the number of passes; `none` means that a bound was too small.
-/

namespace TreePlan

/-- How carrying out ends, if it does: with or without an error, and with the overlay after it. -/
abbrev Ending (ω : Type) := Option (Except RunError Unit × Overlay ω)

/-- Carries out one thing after the other until an error. -/
def inSequence {ω α : Type} (act : α → Overlay ω → Ending ω) : List α → Overlay ω → Ending ω
  | [], o => some (.ok (), o)
  | a :: rest, o =>
    match act a o with
    | some (.ok (), o) => inSequence act rest o
    | other => other

/-- Goes on after an ending without an error. -/
def Ending.andThen {ω : Type} (ending : Ending ω) (next : Overlay ω → Ending ω) : Ending ω :=
  match ending with
  | some (.ok (), o) => next o
  | other => other

/-- A transform over a backing. -/
structure Engine (ω σ : Type) where
  /-- What overlays stand on. -/
  backing : Backing ω
  /-- What to do. -/
  transform : Transform ω σ
  /-- What every handler is shown. -/
  dependencies : Dependencies := .empty

namespace Engine

variable {ω σ : Type} (e : Engine ω σ)

/-- The ending with the news that a command is done. -/
def announce (kind : CommandKind) (path : Path) (o : Overlay ω) : Ending ω :=
  some (.ok (), o.log e.backing (.executed kind path))

/-- What a handler is told about a path. -/
def visit (state : Option σ) (path : Path) (options : Options) : Visit σ :=
  ⟨path, options, state, e.dependencies⟩

/-- Notes the failure of a handler; what it would have led to is left out. -/
def contain {α : Type} (path : Path) : Except Failure α × Overlay ω → Option α × Overlay ω
  | (.ok a, o) => (some a, o)
  | (.error failure, o) => (none, o.log e.backing (.abandoned path failure))

section Steps

/-! Each command in terms of the way in which the commands that it leads to are carried out. -/

variable (carryOut : Command → Overlay ω → Ending ω) (state : Option σ)

/-- Runs the handler of a directory and carries out what it orders. -/
def runDirectoryHandler (path : Path) (options : Options) (o : Overlay ω) : Ending ω :=
  match o.classifyDirectory e.backing path with
  | (none, o) => some (.ok (), o)
  | (some _, o) =>
    if e.transform.handlesDirectories then
      match (e.transform.handleDirectory (e.visit state path options)).run e.backing o with
      | (.error failure, o) => some (.error (.directoryHandler path failure), o)
      | (.ok commands, o) =>
        (inSequence carryOut (commands.map (·.widen)) o).andThen
          (e.announce .traverseDirectory path)
    else some (.ok (), o)

/-- Discovers files under a directory, traverses them, and then runs the handler of the
directory. -/
def traverseDirectory (path : Path) (options : Options) (o : Overlay ω) : Ending ω :=
  if e.transform.includes.isEmpty then e.runDirectoryHandler carryOut state path options o
  else
    match o.discover e.backing path e.transform.includes e.transform.excludes with
    | (.error error, o) => some (.error error, o)
    | (.ok files, o) =>
      ((inSequence carryOut (files.map (.traverseFile · options))
        (o.log e.backing (.discovered files.length path))).andThen
          (e.announce .traverseDirectory path)).andThen
            (e.runDirectoryHandler carryOut state path options)

/-- Runs the handler of a file and carries out what it orders. -/
def traverseFile (path : Path) (options : Options) (o : Overlay ω) : Ending ω :=
  match o.classifyFile e.backing path with
  | (none, o) => some (.ok (), o)
  | (some _, o) =>
    match e.contain path
        ((e.transform.handleFile (e.visit state path options)).run e.backing o) with
    | (none, o) => e.announce .traverseFile path o
    | (some commands, o) =>
      (inSequence carryOut (commands.map (·.widen)) o).andThen (e.announce .traverseFile path)

/-- Reads a file, runs the handler of contents and carries out what it orders. -/
def materialize (path : Path) (options : Options) (o : Overlay ω) : Ending ω :=
  match o.read e.backing path with
  | (.error error, o) => some (.error error, o)
  | (.ok data, o) =>
    match e.contain path
        ((e.transform.handleData (e.visit state path options) data).run e.backing o) with
    | (none, o) => e.announce .materialize path o
    | (some command, o) => (carryOut command.widen o).andThen (e.announce .materialize path)

end Steps

/-- Carries out a command and everything it leads to, commands nested at most `depth` deep. -/
def dispatch (state : Option σ) : (depth : Nat) → Command → Overlay ω → Ending ω
  | 0, _, _ => none
  | depth + 1, command, o =>
    match command with
    | .traverseDirectory path options =>
      e.traverseDirectory (dispatch state depth) state path options o
    | .traverseFile path options => e.traverseFile (dispatch state depth) state path options o
    | .materialize path options => e.materialize (dispatch state depth) state path options o
    | .delete path => e.announce .delete path (o.stageDelete e.backing path)
    | .stage path data => e.announce .stageData path (o.stageWrite e.backing path data)
    | .noop => some (.ok (), o)

/-- The command that a pass over a root carries out. -/
def rootCommand (root : Path) (options : Options) : EntryKind → Command
  | .directory => .traverseDirectory root options
  | .file => .traverseFile root options

/-- Makes passes until the transform decides to stop. `number` is that of the next pass. -/
def executeFrom (depth : Nat) (root : Path) (options : Options) :
    (passes number : Nat) → Option σ → Overlay ω → Option (Except RunError Plan × Overlay ω)
  | 0, _, _, _ => none
  | passes + 1, number, previous, o =>
    match o.classify e.backing root with
    | (none, o) => some (.ok [], o.log e.backing (.rootMissing root))
    | (some entry, o) =>
      match (e.transform.initializeState options previous).run e.backing o with
      | (.error failure, o) => some (.error (.initializeState failure), o)
      | (.ok state, o) =>
        match e.dispatch state depth (rootCommand root options entry.kind)
            (o.log e.backing (.passStarted number root)) with
        | none => none
        | some (.error error, o) => some (.error error, o)
        | some (.ok (), o) =>
          -- what earlier passes have staged stays staged
          match (e.transform.handleFinish options state).run e.backing o with
          | (.error failure, o) => some (.error (.finish failure), o)
          | (.ok .again, o) => executeFrom depth root options passes (number + 1) state o
          | (.ok .stop, o) =>
            some (.ok o.plan, o.log e.backing (.finished number o.plan.length o.sizes.entries))

/-- Runs the transform over a root: at most `passes` passes, commands nested at most `depth` deep. A
root that is neither a file nor a directory has nothing to plan. -/
def execute (depth passes : Nat) (root : Path) (options : Options) (previous : Option σ)
    (o : Overlay ω) : Option (Except RunError Plan × Overlay ω) :=
  e.executeFrom depth root options passes 1 previous o

end Engine

end TreePlan
