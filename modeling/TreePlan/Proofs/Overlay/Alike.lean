import TreePlan.Proofs.Overlay.Learning

/-!
# Two overlays side by side

Two runs are compared through a relation between their overlays. `Overlay.Alike same heard` relates
overlays that remember the same, stand over worlds that `same` relates, and whose journals agree on
the events that `heard` picks out. The worlds may be of different types, so one of them may carry
more than the other. Backings that answer alike in related worlds (`Backing.Alike`) keep overlays
alike and are given the same answers through them, whatever is asked; and programs that differ only
in what `same` does not see (`Program.Alike`) end with the same result (`Program.Alike.run`).
Questions and programs leave lines for the log only, so reports to callers may disturb `same`.
-/

namespace TreePlan

/-- Two results are the same, and what comes with them is related. -/
def Agree {α β γ : Type} (R : β → γ → Prop) (x : α × β) (y : α × γ) : Prop :=
  x.1 = y.1 ∧ R x.2 y.2

/-- What agrees is one result, with two things that are related. -/
theorem Agree.exists_eq {α β γ : Type} {R : β → γ → Prop} {x : α × β} {y : α × γ}
    (h : Agree R x y) : ∃ a b c, x = (a, b) ∧ y = (a, c) ∧ R b c := by
  obtain ⟨a, b⟩ := x
  obtain ⟨a', c⟩ := y
  obtain ⟨rfl, hR⟩ : a = a' ∧ R b c := h
  exact ⟨a, b, c, rfl, rfl, hR⟩

variable {ω₁ ω₂ : Type}

/-- Two backings have the same keys, and answer alike in related worlds. -/
structure Backing.Alike (same : ω₁ → ω₂ → Prop) (b₁ : Backing ω₁) (b₂ : Backing ω₂) : Prop where
  /-- The keys are the same. -/
  hash : b₁.hash = b₂.hash
  /-- Paths are the same in related worlds. -/
  stat : ∀ path v w, same v w → Agree same (b₁.stat path v) (b₂.stat path w)
  /-- Directories hold the same in related worlds. -/
  list : ∀ path v w, same v w → Agree same (b₁.list path v) (b₂.list path w)
  /-- Files say the same in related worlds. -/
  read : ∀ path v w, same v w → Agree same (b₁.read path v) (b₂.read path w)
  /-- Patterns find the same in related worlds. -/
  glob : ∀ path pattern excludes v w, same v w →
    Agree same (b₁.glob path pattern excludes v) (b₂.glob path pattern excludes w)
  /-- Related worlds that take notice of a line for the log stay related. -/
  notice : ∀ event v w, event.isReport = false → same v w →
    same (b₁.notice event v) (b₂.notice event w)

namespace Overlay

/-- Two overlays remember the same over related worlds, and what is heard of their journals
agrees. -/
structure Alike (same : ω₁ → ω₂ → Prop) (heard : Event → Bool) (o₁ : Overlay ω₁)
    (o₂ : Overlay ω₂) : Prop where
  /-- The same is remembered. -/
  stores : o₁.stores = o₂.stores
  /-- The worlds are related. -/
  world : same o₁.world o₂.world
  /-- What is heard agrees. -/
  journal : o₁.journal.filter heard = o₂.journal.filter heard

variable {same : ω₁ → ω₂ → Prop} {heard : Event → Bool} {b₁ : Backing ω₁} {b₂ : Backing ω₂}
  {o₁ : Overlay ω₁} {o₂ : Overlay ω₂}

/-! ## Steps -/

/-- Moving related worlds on keeps overlays alike. -/
theorem Alike.look (h : Alike same heard o₁ o₂) {v : ω₁} {w : ω₂} (hw : same v w) :
    Alike same heard { o₁ with world := v } { o₂ with world := w } :=
  ⟨h.stores, hw, h.journal⟩

/-- The same event keeps overlays alike, if their worlds stay related. -/
theorem Alike.log_of_notice (h : Alike same heard o₁ o₂) {event : Event}
    (hw : same (b₁.notice event o₁.world) (b₂.notice event o₂.world)) :
    Alike same heard (o₁.log b₁ event) (o₂.log b₂ event) where
  stores := h.stores
  world := hw
  journal := by
    rw [Overlay.log, Overlay.log, List.filter_append, List.filter_append, h.journal]

/-- The same line for the log keeps overlays alike. -/
theorem Alike.log (hb : b₁.Alike same b₂) (h : Alike same heard o₁ o₂) {event : Event}
    (he : event.isReport = false) :
    Alike same heard (o₁.log b₁ event) (o₂.log b₂ event) :=
  h.log_of_notice (hb.notice event _ _ he h.world)

/-- The same entry keeps overlays alike. -/
theorem Alike.record (h : Alike same heard o₁ o₂) (k : PathKey) (entry : Entry) :
    Alike same heard (o₁.record k entry) (o₂.record k entry) where
  stores := by rw [Overlay.record, Overlay.record, h.stores]
  world := h.world
  journal := h.journal

/-- The same relation keeps overlays alike. -/
theorem Alike.relate (h : Alike same heard o₁ o₂) (parent child : PathKey) :
    Alike same heard (o₁.relate parent child) (o₂.relate parent child) where
  stores := by rw [Overlay.relate, Overlay.relate, h.stores]
  world := h.world
  journal := h.journal

/-- The same change keeps overlays alike. -/
theorem Alike.stageChange (hb : b₁.Alike same b₂) (h : Alike same heard o₁ o₂) (path : Path)
    (c : Change) : Alike same heard (o₁.stageChange b₁ path c) (o₂.stageChange b₂ path c) where
  stores := by
    rw [Overlay.stageChange, Overlay.stageChange, Overlay.stage, Overlay.stage, Overlay.record,
      Overlay.record, h.stores, hb.hash]
  world := h.world
  journal := h.journal

/-- What keeps overlays alike for every element keeps them alike along a list. -/
theorem Alike.foldl {α : Type} {f : Overlay ω₁ → α → Overlay ω₁} {g : Overlay ω₂ → α → Overlay ω₂}
    (hstep : ∀ a {p₁ p₂}, Alike same heard p₁ p₂ → Alike same heard (f p₁ a) (g p₂ a))
    (as : List α) (h : Alike same heard o₁ o₂) :
    Alike same heard (as.foldl f o₁) (as.foldl g o₂) := by
  induction as generalizing o₁ o₂ with
  | nil => exact h
  | cons a rest ih => exact ih (hstep a h)

/-- The same child keeps overlays alike. -/
theorem Alike.recordChild (hb : b₁.Alike same b₂) (h : Alike same heard o₁ o₂) (directory : Path)
    (child : Listed) :
    Alike same heard (o₁.recordChild b₁ directory child) (o₂.recordChild b₂ directory child) := by
  unfold Overlay.recordChild
  split
  · exact h
  · rw [hb.hash]
    exact (h.relate _ _).record _ _

/-! ## Questions -/

/-- Alike overlays classify alike as one kind. -/
theorem Alike.classifyAs (hb : b₁.Alike same b₂) (h : Alike same heard o₁ o₂) (kind : EntryKind)
    (path : Path) :
    Agree (Alike same heard) (o₁.classifyAs b₁ kind path) (o₂.classifyAs b₂ kind path) := by
  obtain ⟨s, v₀, j₁⟩ := o₁
  obtain ⟨s', w₀, j₂⟩ := o₂
  obtain rfl : s = s' := h.stores
  obtain ⟨answer, v, w, hv, hw, hsame⟩ := (hb.stat path v₀ w₀ h.world).exists_eq
  unfold Overlay.classifyAs
  rw [hb.hash]
  dsimp only
  cases s.entries.get? (b₂.hash path) with
  | some entry => exact ⟨rfl, h⟩
  | none =>
    dsimp only
    rw [hv, hw]
    cases answer with
    | error cause => exact ⟨rfl, (h.look hsame).log hb rfl⟩
    | ok found =>
      dsimp only
      split
      · exact ⟨rfl, (h.look hsame).record _ _⟩
      · exact ⟨rfl, h.look hsame⟩

/-- Alike overlays classify alike. -/
theorem Alike.classify (hb : b₁.Alike same b₂) (h : Alike same heard o₁ o₂) (path : Path) :
    Agree (Alike same heard) (o₁.classify b₁ path) (o₂.classify b₂ path) := by
  obtain ⟨found, p₁, p₂, h₁, h₂, hp⟩ := (h.classifyAs hb .directory path).exists_eq
  unfold Overlay.classify classifyDirectory classifyFile
  rw [h₁, h₂]
  cases found with
  | some entry => exact ⟨rfl, hp⟩
  | none => exact Alike.classifyAs hb hp .file path

/-- Alike overlays list alike. -/
theorem Alike.list (hb : b₁.Alike same b₂) (h : Alike same heard o₁ o₂) (directory : Path) :
    Agree (Alike same heard) (o₁.list b₁ directory) (o₂.list b₂ directory) := by
  obtain ⟨answer, v, w, hv, hw, hsame⟩ := (hb.list directory _ _ h.world).exists_eq
  unfold Overlay.list
  rw [hv, hw]
  cases answer with
  | error cause => exact ⟨rfl, h.look hsame⟩
  | ok children =>
    have hafter := (h.look hsame).foldl (f := Overlay.recordChild b₁ directory)
      (g := Overlay.recordChild b₂ directory)
      (fun child _ _ hp => hp.recordChild hb directory child) children
    refine ⟨?_, hafter⟩
    dsimp only
    unfold childPaths
    rw [hafter.stores, hb.hash]

/-- Alike overlays read alike. -/
theorem Alike.read (hb : b₁.Alike same b₂) (h : Alike same heard o₁ o₂) (path : Path) :
    Agree (Alike same heard) (o₁.read b₁ path) (o₂.read b₂ path) := by
  obtain ⟨s, v₀, j₁⟩ := o₁
  obtain ⟨s', w₀, j₂⟩ := o₂
  obtain rfl : s = s' := h.stores
  obtain ⟨answer, v, w, hv, hw, hsame⟩ := (hb.read path v₀ w₀ h.world).exists_eq
  unfold Overlay.read
  rw [hb.hash]
  dsimp only
  rcases s.changes.get? (b₂.hash path) with _ | _ | _
  rotate_left
  · exact ⟨rfl, h⟩
  · exact ⟨rfl, h⟩
  · dsimp only
    rw [hv, hw]
    cases answer with
    | ok content => exact ⟨rfl, h.look hsame⟩
    | error cause => exact ⟨rfl, (h.look hsame).log hb rfl⟩

/-- Related worlds are searched alike. -/
theorem searchAll_agree (hb : b₁.Alike same b₂) (directory : Path) (excludes includes : List String)
    (found : OrderedMap PathKey Path) {v : ω₁} {w : ω₂} (hw : same v w) :
    Agree same (searchAll b₁ directory excludes includes found v)
      (searchAll b₂ directory excludes includes found w) := by
  induction includes generalizing found v w with
  | nil => exact ⟨rfl, hw⟩
  | cons pattern rest ih =>
    obtain ⟨answer, v', w', h₁, h₂, hw'⟩ :=
      (hb.glob directory pattern excludes v w hw).exists_eq
    rw [searchAll, searchAll, h₁, h₂]
    cases answer with
    | error cause => exact ⟨rfl, hw'⟩
    | ok paths =>
      dsimp only
      rw [show addFound b₁ found paths = addFound b₂ found paths by
        unfold addFound; rw [hb.hash]]
      exact ih _ hw'

/-- Alike overlays discover alike. -/
theorem Alike.discover (hb : b₁.Alike same b₂) (h : Alike same heard o₁ o₂) (directory : Path)
    (includes excludes : List String) :
    Agree (Alike same heard) (o₁.discover b₁ directory includes excludes)
      (o₂.discover b₂ directory includes excludes) := by
  obtain ⟨answer, v, w, hv, hw, hsame⟩ :=
    (searchAll_agree hb directory excludes includes .empty h.world).exists_eq
  unfold Overlay.discover
  rw [hv, hw]
  cases answer with
  | error cause => exact ⟨rfl, h.look hsame⟩
  | ok found => exact ⟨rfl, (h.look hsame).foldl (fun p _ _ hp => hp.record p.1 ⟨.file, p.2⟩) _⟩

end Overlay

/-! ## Programs -/

section Programs

open Overlay

variable {Q α β : Type} {A : Q → Type} {same : ω₁ → ω₂ → Prop} {heard : Event → Bool}
  {b₁ : Backing ω₁} {b₂ : Backing ω₂} {o₁ : Overlay ω₁} {o₂ : Overlay ω₂}

/-- Two programs do the same in related worlds. The first may also do to its own world what the
second world does not show. -/
inductive Program.Alike (same : ω₁ → ω₂ → Prop) : Program ω₁ Q A α → Program ω₂ Q A α → Prop
  /-- Both end with the same result. -/
  | done (result : α) : Alike same (.done result) (.done result)
  /-- Both leave the same note. -/
  | note (text : String) {p : Program ω₁ Q A α} {q : Program ω₂ Q A α} (h : Alike same p q) :
      Alike same (.note text p) (.note text q)
  /-- Both go on alike as related worlds say. -/
  | look {f : ω₁ → Program ω₁ Q A α} {g : ω₂ → Program ω₂ Q A α}
      (h : ∀ v w, same v w → Alike same (f v) (g w)) : Alike same (.look f) (.look g)
  /-- Both change their worlds alike. -/
  | touch {f : ω₁ → ω₁} {g : ω₂ → ω₂} (hw : ∀ v w, same v w → same (f v) (g w))
      {p : Program ω₁ Q A α} {q : Program ω₂ Q A α} (h : Alike same p q) :
      Alike same (.touch f p) (.touch g q)
  /-- The first changes its world in a way that does not show. -/
  | touchFirst {f : ω₁ → ω₁} (hw : ∀ v w, same v w → same (f v) w)
      {p : Program ω₁ Q A α} {q : Program ω₂ Q A α} (h : Alike same p q) :
      Alike same (.touch f p) q
  /-- Both ask the same question and go on alike with every answer. -/
  | ask (question : Q) {f : A question → Program ω₁ Q A α} {g : A question → Program ω₂ Q A α}
      (h : ∀ answer, Alike same (f answer) (g answer)) :
      Alike same (.ask question f) (.ask question g)

/-- Programs that are alike end with the same result and leave overlays alike, if their questions
are answered alike. -/
theorem Program.Alike.run {answer₁ : (q : Q) → Overlay ω₁ → A q × Overlay ω₁}
    {answer₂ : (q : Q) → Overlay ω₂ → A q × Overlay ω₂} (hb : b₁.Alike same b₂)
    (ha : ∀ q o₁ o₂, Overlay.Alike same heard o₁ o₂ →
      Agree (Overlay.Alike same heard) (answer₁ q o₁) (answer₂ q o₂))
    {p : Program ω₁ Q A α} {q : Program ω₂ Q A α} (h : Program.Alike same p q)
    (ho : Overlay.Alike same heard o₁ o₂) :
    Agree (Overlay.Alike same heard) (p.run b₁ answer₁ o₁) (q.run b₂ answer₂ o₂) := by
  induction h generalizing o₁ o₂ with
  | done result => exact ⟨rfl, ho⟩
  | note text _ ih => exact ih (ho.log hb rfl)
  | look _ ih => exact ih _ _ ho.world ho
  | touch hw _ ih => exact ih (ho.look (hw _ _ ho.world))
  | touchFirst hw _ ih => exact ih ⟨ho.stores, hw _ _ ho.world, ho.journal⟩
  | @ask question f g _ ih =>
    obtain ⟨hanswer, ho'⟩ := ha question o₁ o₂ ho
    have hrun := ih (answer₁ question o₁).1 ho'
    rw [Program.run, Program.run, ← hanswer]
    exact hrun

/-- A file handler's question is answered alike in alike overlays. -/
theorem FileQuery.answer_agree (hb : b₁.Alike same b₂) (q : FileQuery)
    (ho : Overlay.Alike same heard o₁ o₂) :
    Agree (Overlay.Alike same heard) (q.answer b₁ o₁) (q.answer b₂ o₂) := by
  cases q with
  | isDirectory path =>
    exact ⟨by show o₁.isDirectory b₁ path = o₂.isDirectory b₂ path
              unfold Overlay.isDirectory; rw [ho.stores, hb.hash], ho⟩
  | isKnown path =>
    exact ⟨by show o₁.isKnown b₁ path = o₂.isKnown b₂ path
              unfold Overlay.isKnown; rw [ho.stores, hb.hash], ho⟩
  | classify path => exact ho.classify hb path
  | read path => exact ho.read hb path

/-- A directory handler's question is answered alike in alike overlays. -/
theorem DirectoryQuery.answer_agree (hb : b₁.Alike same b₂) (q : DirectoryQuery)
    (ho : Overlay.Alike same heard o₁ o₂) :
    Agree (Overlay.Alike same heard) (q.answer b₁ o₁) (q.answer b₂ o₂) := by
  cases q with
  | file query => exact query.answer_agree hb ho
  | list path => exact ho.list hb path

/-- Handlers of contents that are alike run alike. -/
theorem DataProgram.run_agree (hb : b₁.Alike same b₂) {p : DataProgram ω₁ α} {q : DataProgram ω₂ α}
    (h : Program.Alike same (ExceptT.run p) (ExceptT.run q)) (ho : Overlay.Alike same heard o₁ o₂) :
    Agree (Overlay.Alike same heard) (DataProgram.run b₁ p o₁) (DataProgram.run b₂ q o₂) :=
  h.run hb (fun q _ _ _ => nomatch q) ho

/-- File handlers that are alike run alike. -/
theorem FileProgram.run_agree (hb : b₁.Alike same b₂) {p : FileProgram ω₁ α} {q : FileProgram ω₂ α}
    (h : Program.Alike same (ExceptT.run p) (ExceptT.run q)) (ho : Overlay.Alike same heard o₁ o₂) :
    Agree (Overlay.Alike same heard) (FileProgram.run b₁ p o₁) (FileProgram.run b₂ q o₂) :=
  h.run hb (fun q _ _ ho => q.answer_agree hb ho) ho

/-- Directory handlers that are alike run alike. -/
theorem DirectoryProgram.run_agree (hb : b₁.Alike same b₂) {p : DirectoryProgram ω₁ α}
    {q : DirectoryProgram ω₂ α} (h : Program.Alike same (ExceptT.run p) (ExceptT.run q))
    (ho : Overlay.Alike same heard o₁ o₂) :
    Agree (Overlay.Alike same heard) (DirectoryProgram.run b₁ p o₁)
      (DirectoryProgram.run b₂ q o₂) :=
  h.run hb (fun q _ _ ho => q.answer_agree hb ho) ho

end Programs

end TreePlan
