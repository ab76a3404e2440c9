import TreePlan.Proofs.Handler
import TreePlan.Proofs.Overlay.Alike

/-!
# Watching handlers

An overlay keeps a journal of events, and nobody keeps one of the handlers that are called. A
watched world does: it carries a world and, beside it, the list of what has been seen, events and
calls in the order in which they happened (`Watched`). Over a watched backing, a recorded program
does what it does anyway and then leaves its call with its outcome (`Program.recorded`). Nothing
else changes: without the list, it is the same program with the same result (`run_recorded`), and
before its call is seen, only lines for the log are.
-/

namespace TreePlan

/-- A call of a part of a transform, with its outcome. -/
inductive Call (σ : Type) where
  /-- The handler of a directory. -/
  | directory (visit : Visit σ) (outcome : Except Failure (List DirectoryCommand))
  /-- The handler of a file. -/
  | file (visit : Visit σ) (outcome : Except Failure (List FileCommand))
  /-- The handler of contents. -/
  | content (visit : Visit σ) (data : String) (outcome : Except Failure DataCommand)
  /-- The state of the next pass. -/
  | newState (options : Options) (previous : Option σ) (outcome : Except Failure (Option σ))
  /-- The decision after a pass. -/
  | decision (options : Options) (state : Option σ) (outcome : Except Failure Decision)

/-- What can be seen of a run. -/
inductive Happening (σ : Type) where
  /-- A part of the transform has been called. -/
  | call (call : Call σ)
  /-- Something has happened. -/
  | event (event : Event)

/-- What has been seen of a run, oldest first. -/
abbrev Record (σ : Type) := List (Happening σ)

/-! ## Worlds with something beside them -/

/-- A world and, beside it, what someone makes of what happens. -/
structure Beside (ω κ : Type) where
  /-- The world. -/
  world : ω
  /-- What someone has made of what has been seen. -/
  seen : κ

section Beside

variable {ω κ : Type}

/-- A question to the world within. -/
def Beside.lift {α : Type} (question : ω → α × ω) (v : Beside ω κ) : α × Beside ω κ :=
  ((question v.world).1, { v with world := (question v.world).2 })

/-- The backing that answers from the world within and takes notice in its own way. -/
def Backing.beside (b : Backing ω) (notice : Event → Beside ω κ → Beside ω κ) :
    Backing (Beside ω κ) where
  hash := b.hash
  stat path := Beside.lift (b.stat path)
  list path := Beside.lift (b.list path)
  read path := Beside.lift (b.read path)
  glob path pattern excludes := Beside.lift (b.glob path pattern excludes)
  notice := notice

/-- The program that does the same in the world within. -/
def Program.beside {Q α : Type} {A : Q → Type} : Program ω Q A α → Program (Beside ω κ) Q A α
  | .done result => .done result
  | .note text next => .note text next.beside
  | .look next => .look fun v => (next v.world).beside
  | .touch change next => .touch (fun v => { v with world := change v.world }) next.beside
  | .ask question next => .ask question fun answer => (next answer).beside

end Beside

/-! ## Watched worlds -/

/-- A world with what has been seen of a run. -/
abbrev Watched (ω σ : Type) := Beside ω (Record σ)

section Watched

variable {ω σ : Type}

/-- The world after one more thing has been seen. -/
def Watched.see (happening : Happening σ) (v : Watched ω σ) : Watched ω σ :=
  { v with seen := v.seen ++ [happening] }

/-- The backing over watched worlds. Every event is seen. -/
def Backing.watched (b : Backing ω) : Backing (Watched ω σ) :=
  b.beside fun event v => Watched.see (.event event) { v with world := b.notice event v.world }

/-- The overlay over a watched world of which nothing has been seen. -/
def Overlay.watched (o : Overlay ω) : Overlay (Watched ω σ) := ⟨o.stores, ⟨o.world, []⟩, o.journal⟩

/-- The overlay over the world itself. -/
def Overlay.unwatched (o : Overlay (Watched ω σ)) : Overlay ω :=
  ⟨o.stores, o.world.world, o.journal⟩

/-- The program over watched worlds that does the same and is then seen to have been called. -/
def Program.recorded {Q α : Type} {A : Q → Type} (p : Program ω Q A α) (call : α → Call σ) :
    Program (Watched ω σ) Q A α :=
  p.beside.bind fun result => .touch (Watched.see (.call (call result))) (.done result)

end Watched

/-- The transform over watched worlds that does the same and of which every call is seen. -/
def Transform.watched {ω σ : Type} (t : Transform ω σ) : Transform (Watched ω σ) σ where
  includes := t.includes
  excludes := t.excludes
  handlesDirectories := t.handlesDirectories
  handleDirectory v := (t.handleDirectory v).recorded (.directory v)
  handleFile v := (t.handleFile v).recorded (.file v)
  handleData v data := (t.handleData v data).recorded (.content v data)
  initializeState options previous :=
    (t.initializeState options previous).recorded (.newState options previous)
  handleFinish options state := (t.handleFinish options state).recorded (.decision options state)

/-! ## What is seen -/

section Seen

variable {ω σ : Type}

/-- Nothing but lines for the log. -/
def Quiet (told : Record σ) : Prop :=
  ∀ happening ∈ told, ∃ event, happening = .event event ∧ event.isReport = false

/-- Nothing is quiet. -/
theorem quiet_nil : Quiet ([] : Record σ) := fun _ h => nomatch h

/-- A line for the log is quiet. -/
theorem quiet_singleton (event : Event) (h : event.isReport = false) :
    Quiet ([.event event] : Record σ) := by
  intro happening hmem
  rw [List.mem_singleton.mp hmem]
  exact ⟨event, rfl, h⟩

/-- Lines for the log after lines for the log are quiet. -/
theorem Quiet.append {told told' : Record σ} (h : Quiet told) (h' : Quiet told') :
    Quiet (told ++ told') := by
  intro happening hmem
  rcases List.mem_append.mp hmem with hmem | hmem
  · exact h happening hmem
  · exact h' happening hmem

/-- A watched world is the world beneath it, and since a time only lines for the log have been
seen. -/
def QuietSince (before : Record σ) (v : Watched ω σ) (w : ω) : Prop :=
  v.world = w ∧ ∃ told, Quiet told ∧ v.seen = before ++ told

variable {before : Record σ}

/-- A question to the world within is answered as in the world beneath. -/
theorem QuietSince.lift {α : Type} (question : ω → α × ω) {v : Watched ω σ} {w : ω}
    (h : QuietSince before v w) :
    Agree (QuietSince before) (Beside.lift question v) (question w) := by
  obtain ⟨rfl, hseen⟩ := h
  exact ⟨rfl, rfl, hseen⟩

/-- The backing over watched worlds answers as the one beneath. -/
theorem Backing.watched_alike (b : Backing ω) (before : Record σ) :
    b.watched.Alike (QuietSince before) b where
  hash := rfl
  stat path _ _ h := h.lift (b.stat path)
  list path _ _ h := h.lift (b.list path)
  read path _ _ h := h.lift (b.read path)
  glob path pattern excludes _ _ h := h.lift (b.glob path pattern excludes)
  notice event v w he h := by
    obtain ⟨rfl, told, hquiet, hseen⟩ := h
    refine ⟨rfl, told ++ [.event event], hquiet.append (quiet_singleton event he), ?_⟩
    show v.seen ++ [.event event] = before ++ (told ++ [.event event])
    rw [hseen, List.append_assoc]

/-- A program over watched worlds does what the program beneath does. -/
theorem Program.beside_alike {Q α : Type} {A : Q → Type} (p : Program ω Q A α) :
    Program.Alike (QuietSince before) p.beside p := by
  induction p with
  | done result => exact .done result
  | note text next ih => exact .note text ih
  | look next ih =>
    refine .look fun v w h => ?_
    rw [h.1]
    exact ih w
  | touch change next ih => exact .touch (fun v w h => ⟨congrArg change h.1, h.2⟩) ih
  | ask question next ih => exact .ask question ih

end Seen

/-! ## Recorded programs -/

section Recorded

variable {ω σ Q α : Type} {A : Q → Type}

/-- A watched overlay is the overlay beneath it, and since a time only lines for the log have been
seen. -/
abbrev Overlay.QuietSince (before : Record σ) :
    Overlay (Watched ω σ) → Overlay ω → Prop :=
  Overlay.Alike (TreePlan.QuietSince before) fun _ => true

/-- A watched overlay is the overlay beneath it, and what has been seen since a time is lines for
the log and then something else. -/
def Overlay.Shows (before loud : Record σ) (o₁ : Overlay (Watched ω σ))
    (o₂ : Overlay ω) : Prop :=
  o₁.unwatched = o₂ ∧ ∃ told, Quiet told ∧ o₁.world.seen = before ++ (told ++ loud)

variable {before : Record σ} {b : Backing ω} {o₁ : Overlay (Watched ω σ)} {o₂ : Overlay ω}

/-- Overlays with the same memory, world and journal are the same. -/
theorem Overlay.QuietSince.unwatched_eq (h : Overlay.QuietSince before o₁ o₂) :
    o₁.unwatched = o₂ := by
  obtain ⟨s, v, j⟩ := o₁
  obtain ⟨s', w, j'⟩ := o₂
  obtain rfl : s = s' := h.stores
  obtain rfl : v.world = w := h.world.1
  have hjournal := h.journal
  rw [List.filter_true, List.filter_true] at hjournal
  obtain rfl : j = j' := hjournal
  rfl

/-- Nothing has been seen since now. -/
theorem Overlay.quietSince_unwatched (o : Overlay (Watched ω σ)) :
    Overlay.QuietSince o.world.seen o o.unwatched :=
  ⟨rfl, ⟨rfl, [], quiet_nil, (List.append_nil _).symm⟩, rfl⟩

/-- A recorded program does what the program beneath does, and then its call is seen. -/
theorem Program.run_recorded
    {answer₁ : (q : Q) → Overlay (Watched ω σ) → A q × Overlay (Watched ω σ)}
    {answer₂ : (q : Q) → Overlay ω → A q × Overlay ω}
    (ha : ∀ q o₁ o₂, Overlay.QuietSince before o₁ o₂ →
      Agree (Overlay.QuietSince before) (answer₁ q o₁) (answer₂ q o₂))
    (p : Program ω Q A α) (call : α → Call σ) (h : Overlay.QuietSince before o₁ o₂) :
    Agree (Overlay.Shows before [.call (call (p.run b answer₂ o₂).1)])
      ((p.recorded call).run b.watched answer₁ o₁) (p.run b answer₂ o₂) := by
  obtain ⟨result, o₁', o₂', h₁, h₂, ho⟩ :=
    (p.beside_alike.run (b.watched_alike before) ha h).exists_eq
  rw [Program.recorded, Program.run_bind, h₁, h₂]
  -- The program itself leaves lines for the log, and its call is seen after them.
  have hunwatched := Overlay.QuietSince.unwatched_eq ho
  obtain ⟨-, told, hquiet, hseen⟩ := ho.world
  refine ⟨rfl, hunwatched, told, hquiet, ?_⟩
  show o₁'.world.seen ++ [.call (call result)] = before ++ (told ++ [.call (call result)])
  rw [hseen, List.append_assoc]

/-- A recorded handler of contents does what the handler beneath does. -/
theorem DataProgram.run_recorded (p : DataProgram ω α) (call : Except Failure α → Call σ)
    (h : Overlay.QuietSince before o₁ o₂) :
    Agree (Overlay.Shows before [.call (call (p.run b o₂).1)])
      (DataProgram.run b.watched (p.recorded call) o₁) (p.run b o₂) :=
  Program.run_recorded (fun q _ _ _ => nomatch q) (ExceptT.run p) call h

/-- A recorded file handler does what the handler beneath does. -/
theorem FileProgram.run_recorded (p : FileProgram ω α) (call : Except Failure α → Call σ)
    (h : Overlay.QuietSince before o₁ o₂) :
    Agree (Overlay.Shows before [.call (call (p.run b o₂).1)])
      (FileProgram.run b.watched (p.recorded call) o₁) (p.run b o₂) :=
  Program.run_recorded (fun q _ _ ho => q.answer_agree (b.watched_alike before) ho)
    (ExceptT.run p) call h

/-- A recorded directory handler does what the handler beneath does. -/
theorem DirectoryProgram.run_recorded (p : DirectoryProgram ω α)
    (call : Except Failure α → Call σ) (h : Overlay.QuietSince before o₁ o₂) :
    Agree (Overlay.Shows before [.call (call (p.run b o₂).1)])
      (DirectoryProgram.run b.watched (p.recorded call) o₁) (p.run b o₂) :=
  Program.run_recorded (fun q _ _ ho => q.answer_agree (b.watched_alike before) ho)
    (ExceptT.run p) call h

end Recorded

end TreePlan
