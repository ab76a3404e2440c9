import TreePlan.Engine

/-!
# Depth does not matter

Carrying out takes a bound on the depth of commands. A bound that suffices can be exceeded: the
ending stays the same (`dispatch_within`). So whether and how a command ends does not depend on the
bound, and bounds that suffice for several commands can be made one. The lemmas on sequences say how
an ending of a sequence comes about.
-/

namespace TreePlan

/-! ## Sequences -/

section Sequences

variable {ω α β : Type}

/-- An ending comes about by going on from an end without an error, or is an error that was there
before. -/
theorem Ending.andThen_eq_some_iff {ending : Ending ω} {next : Overlay ω → Ending ω}
    {result : Except RunError Unit} {o' : Overlay ω} :
    ending.andThen next = some (result, o') ↔
      (∃ o₁, ending = some (.ok (), o₁) ∧ next o₁ = some (result, o')) ∨
        ∃ error, result = .error error ∧ ending = some (.error error, o') := by
  unfold Ending.andThen
  split
  · simp
  · rename_i hne
    constructor
    · intro h
      cases result with
      | ok => exact absurd h (hne _)
      | error error => exact Or.inr ⟨error, rfl, h⟩
    · rintro (⟨o₁, h, -⟩ | ⟨error, rfl, h⟩)
      · exact absurd h (hne o₁)
      · exact h

/-- Going on twice is going on with what goes on. -/
theorem Ending.andThen_assoc (ending : Ending ω) (next next' : Overlay ω → Ending ω) :
    (ending.andThen next).andThen next' = ending.andThen fun o => (next o).andThen next' := by
  cases ending with
  | none => rfl
  | some found =>
    obtain ⟨result, o⟩ := found
    cases result <;> rfl

/-- The first of a sequence goes first. -/
theorem inSequence_cons (act : α → Overlay ω → Ending ω) (a : α) (rest : List α) (o : Overlay ω) :
    inSequence act (a :: rest) o = (act a o).andThen (inSequence act rest) := rfl

/-- A sequence of one thing is that thing. -/
theorem inSequence_singleton (act : α → Overlay ω → Ending ω) (a : α) (o : Overlay ω) :
    inSequence act [a] o = act a o := by
  rw [inSequence_cons]
  cases act a o with
  | none => rfl
  | some found =>
    obtain ⟨result, o'⟩ := found
    cases result <;> rfl

/-- Of two sequences one goes first. -/
theorem inSequence_append (act : α → Overlay ω → Ending ω) (l l' : List α) (o : Overlay ω) :
    inSequence act (l ++ l') o = (inSequence act l o).andThen (inSequence act l') := by
  induction l generalizing o with
  | nil => rfl
  | cons a rest ih =>
    rw [List.cons_append, inSequence_cons, inSequence_cons, Ending.andThen_assoc]
    exact congrArg _ (funext ih)

/-- A sequence of images is a sequence of what they are the images of. -/
theorem inSequence_map (act : β → Overlay ω → Ending ω) (f : α → β) (l : List α) (o : Overlay ω) :
    inSequence act (l.map f) o = inSequence (fun a => act (f a)) l o := by
  induction l generalizing o with
  | nil => rfl
  | cons a rest ih =>
    rw [List.map_cons, inSequence_cons, inSequence_cons]
    exact congrArg _ (funext ih)

end Sequences

/-! ## Endings that are there -/

/-- An ending is the same as another if it is there at all. -/
def Ending.Within {ω : Type} (ending ending' : Ending ω) : Prop :=
  ∀ found, ending = some found → ending' = some found

section Within

variable {ω α : Type}

/-- Every ending is the same as itself. -/
theorem Ending.Within.refl (ending : Ending ω) : ending.Within ending := fun _ h => h

/-- Being the same carries over. -/
theorem Ending.Within.trans {a b c : Ending ω} (hab : a.Within b) (hbc : b.Within c) :
    a.Within c :=
  fun found h => hbc found (hab found h)

/-- Going on the same way from the same ending ends the same way. -/
theorem Ending.Within.andThen {ending ending' : Ending ω} {next next' : Overlay ω → Ending ω}
    (h : ending.Within ending') (hn : ∀ o, (next o).Within (next' o)) :
    (ending.andThen next).Within (ending'.andThen next') := by
  rintro ⟨result, o'⟩ hfound
  rcases andThen_eq_some_iff.mp hfound with ⟨o₁, h₁, h₂⟩ | ⟨error, rfl, h₁⟩
  · exact andThen_eq_some_iff.mpr (Or.inl ⟨o₁, h _ h₁, hn o₁ _ h₂⟩)
  · exact andThen_eq_some_iff.mpr (Or.inr ⟨error, rfl, h _ h₁⟩)

/-- Sequences of things that end the same way end the same way. -/
theorem inSequence_within {act act' : α → Overlay ω → Ending ω}
    (h : ∀ a o, (act a o).Within (act' a o)) (l : List α) (o : Overlay ω) :
    (inSequence act l o).Within (inSequence act' l o) := by
  induction l generalizing o with
  | nil => exact .refl _
  | cons a rest ih => exact (h a o).andThen ih

end Within

namespace Engine

variable {ω σ : Type} (e : Engine ω σ) (state : Option σ)

section Steps

variable {carryOut carryOut' : Command → Overlay ω → Ending ω}
  (h : ∀ c o, (carryOut c o).Within (carryOut' c o))

include h

/-- The handler of a directory ends as the commands do. -/
theorem runDirectoryHandler_within (path : Path) (options : Options) (o : Overlay ω) :
    (e.runDirectoryHandler carryOut state path options o).Within
      (e.runDirectoryHandler carryOut' state path options o) := by
  unfold runDirectoryHandler
  split
  · exact .refl _
  · split
    · split
      · exact .refl _
      · exact (inSequence_within h _ _).andThen fun _ => .refl _
    · exact .refl _

/-- The traversal of a directory ends as the commands do. -/
theorem traverseDirectory_within (path : Path) (options : Options) (o : Overlay ω) :
    (e.traverseDirectory carryOut state path options o).Within
      (e.traverseDirectory carryOut' state path options o) := by
  unfold traverseDirectory
  split
  · exact e.runDirectoryHandler_within state h path options o
  · split
    · exact .refl _
    · exact ((inSequence_within h _ _).andThen fun _ => .refl _).andThen
        (e.runDirectoryHandler_within state h path options)

/-- The traversal of a file ends as the commands do. -/
theorem traverseFile_within (path : Path) (options : Options) (o : Overlay ω) :
    (e.traverseFile carryOut state path options o).Within
      (e.traverseFile carryOut' state path options o) := by
  unfold traverseFile
  split
  · exact .refl _
  · split
    · exact .refl _
    · exact (inSequence_within h _ _).andThen fun _ => .refl _

/-- Handing over a content ends as the command does. -/
theorem materialize_within (path : Path) (options : Options) (o : Overlay ω) :
    (e.materialize carryOut state path options o).Within
      (e.materialize carryOut' state path options o) := by
  unfold materialize
  split
  · exact .refl _
  · split
    · exact .refl _
    · exact (h _ _).andThen fun _ => .refl _

end Steps

/-- One more level changes no ending. -/
theorem dispatch_within_succ (depth : Nat) (c : Command) (o : Overlay ω) :
    (e.dispatch state depth c o).Within (e.dispatch state (depth + 1) c o) := by
  induction depth generalizing c o with
  | zero => exact fun _ h => nomatch h
  | succ depth ih =>
    cases c with
    | traverseDirectory path options => exact e.traverseDirectory_within state ih path options o
    | traverseFile path options => exact e.traverseFile_within state ih path options o
    | materialize path options => exact e.materialize_within state ih path options o
    | delete | stage | noop => exact .refl _

/-- More levels change no ending. -/
theorem dispatch_within {depth depth' : Nat} (h : depth ≤ depth') (c : Command) (o : Overlay ω) :
    (e.dispatch state depth c o).Within (e.dispatch state depth' c o) := by
  induction h with
  | refl => exact .refl _
  | step _ ih => exact ih.trans (e.dispatch_within_succ state _ c o)

end Engine

end TreePlan
