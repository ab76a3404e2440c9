import TreePlan.Json
import TreePlan.Overlay

/-!
# Handlers

A handler is a program that may ask about the overlay before it answers. What it may ask depends on
what it handles: nothing for the content of a file, the recorded entries and files for a file, and
listings as well for a directory. A program may also leave notes and touch the world.
-/

namespace TreePlan

/-- A program over a world `ω` that asks questions `Q` with answers `A` and ends with an `α`. -/
inductive Program (ω Q : Type) (A : Q → Type) (α : Type) where
  /-- Ends. -/
  | done (result : α)
  /-- Leaves a note. -/
  | note (text : String) (next : Program ω Q A α)
  /-- Goes on as the world says. -/
  | look (next : ω → Program ω Q A α)
  /-- Changes the world. -/
  | touch (change : ω → ω) (next : Program ω Q A α)
  /-- Asks a question and goes on with the answer. -/
  | ask (question : Q) (next : A question → Program ω Q A α)

namespace Program

variable {ω Q : Type} {A : Q → Type} {α β : Type}

/-- One program after the other. -/
def bind (p : Program ω Q A α) (f : α → Program ω Q A β) : Program ω Q A β :=
  match p with
  | done result => f result
  | note text next => note text (next.bind f)
  | look next => look fun w => (next w).bind f
  | touch change next => touch change (next.bind f)
  | ask question next => ask question fun a => (next a).bind f

instance : Monad (Program ω Q A) where
  pure := done
  bind := bind

/-- Runs a program on an overlay. -/
def run (b : Backing ω) (answer : (q : Q) → Overlay ω → A q × Overlay ω) :
    Program ω Q A α → Overlay ω → α × Overlay ω
  | done result, o => (result, o)
  | note text next, o => next.run b answer (o.log b (.noted text))
  | look next, o => (next o.world).run b answer o
  | touch change next, o => next.run b answer { o with world := change o.world }
  | ask question next, o => (next (answer question o).1).run b answer (answer question o).2

end Program

/-! ## Questions -/

/-- What a handler of contents may ask: nothing. -/
inductive DataQuery

/-- There is no question to answer. -/
def DataQuery.Answer (q : DataQuery) : Type := nomatch q

/-- What a file handler may ask. -/
inductive FileQuery where
  /-- Whether a path has been recorded as a directory. -/
  | isDirectory (path : Path)
  /-- Whether a path has been recorded. -/
  | isKnown (path : Path)
  /-- What a path is, also if it has not been recorded. -/
  | classify (path : Path)
  /-- What a file says, staged content first. -/
  | read (path : Path)

/-- The answers to a file handler's questions. -/
def FileQuery.Answer : FileQuery → Type
  | isDirectory _ => Bool
  | isKnown _ => Bool
  | classify _ => Option Entry
  | read _ => Except RunError String

/-- What a directory handler may ask. -/
inductive DirectoryQuery where
  /-- What a file handler may ask. -/
  | file (query : FileQuery)
  /-- Which children a directory ever had. -/
  | list (path : Path)

/-- The answers to a directory handler's questions. -/
def DirectoryQuery.Answer : DirectoryQuery → Type
  | file query => query.Answer
  | list _ => Except RunError (List Path)

variable {ω : Type} (b : Backing ω)

/-- Answers no question. -/
def DataQuery.answer (q : DataQuery) (_ : Overlay ω) : q.Answer × Overlay ω := nomatch q

/-- Answers a file handler's question. -/
def FileQuery.answer : (q : FileQuery) → Overlay ω → q.Answer × Overlay ω
  | isDirectory path, o => (o.isDirectory b path, o)
  | isKnown path, o => (o.isKnown b path, o)
  | classify path, o => o.classify b path
  | read path, o => o.read b path

/-- Answers a directory handler's question. -/
def DirectoryQuery.answer : (q : DirectoryQuery) → Overlay ω → q.Answer × Overlay ω
  | file query, o => query.answer b o
  | list path, o => o.list b path

/-! ## Programs that may fail -/

/-- A handler of contents. -/
abbrev DataProgram (ω : Type) := ExceptT Failure (Program ω DataQuery DataQuery.Answer)

/-- A file handler. -/
abbrev FileProgram (ω : Type) := ExceptT Failure (Program ω FileQuery FileQuery.Answer)

/-- A directory handler. -/
abbrev DirectoryProgram (ω : Type) :=
  ExceptT Failure (Program ω DirectoryQuery DirectoryQuery.Answer)

/-- Goes on with a result, or fails with the text of its error. -/
def failWith {m : Type → Type} [Monad m] {α : Type} : Except RunError α → ExceptT Failure m α
  | .ok a => pure a
  | .error e => throw (.stated e.message)

namespace FileProgram

/-- What a path is. -/
def classify (path : Path) : FileProgram ω (Option Entry) :=
  ExceptT.lift (.ask (.classify path) .done)

/-- What a file says. -/
def read (path : Path) : FileProgram ω String :=
  ExceptT.lift (.ask (.read path) .done) >>= failWith

end FileProgram

namespace DirectoryProgram

/-- Whether a path has been recorded as a directory. -/
def isDirectory (path : Path) : DirectoryProgram ω Bool :=
  ExceptT.lift (.ask (.file (.isDirectory path)) .done)

/-- Which children a directory ever had. -/
def list (path : Path) : DirectoryProgram ω (List Path) :=
  ExceptT.lift (.ask (.list path) .done) >>= failWith

end DirectoryProgram

/-- Runs a handler of contents. -/
def DataProgram.run {α : Type} (p : DataProgram ω α) (o : Overlay ω) :
    Except Failure α × Overlay ω :=
  Program.run b DataQuery.answer (ExceptT.run p) o

/-- Runs a file handler. -/
def FileProgram.run {α : Type} (p : FileProgram ω α) (o : Overlay ω) :
    Except Failure α × Overlay ω :=
  Program.run b (FileQuery.answer b) (ExceptT.run p) o

/-- Runs a directory handler. -/
def DirectoryProgram.run {α : Type} (p : DirectoryProgram ω α) (o : Overlay ω) :
    Except Failure α × Overlay ω :=
  Program.run b (DirectoryQuery.answer b) (ExceptT.run p) o

end TreePlan
