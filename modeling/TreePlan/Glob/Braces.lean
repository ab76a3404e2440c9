/-!
# Brace groups

`{a,b}` in a pattern stands for a choice. A closed group with a comma of its own is an
alternation; a closed group without one is literal text, and so is everything from a brace that is
never closed. `expand` lists the patterns that a pattern stands for, the leftmost alternation
varying slowest.
-/

namespace TreePlan.Braces

/-- Puts a character in front of the first of several texts. -/
def consFirst (c : Char) : List (List Char) → List (List Char)
  | [] => [[c]]
  | first :: more => (c :: first) :: more

/-- The alternatives of a group that was opened just before the text, and what follows the group;
none if the group is never closed. `depth` counts the groups opened inside it. -/
def alternatives (depth : Nat) : List Char → Option (List (List Char) × List Char)
  | [] => none
  | c :: rest =>
    if depth = 0 ∧ c = '}' then some ([[]], rest)
    else if depth = 0 ∧ c = ',' then
      (alternatives 0 rest).map fun (found, after) => ([] :: found, after)
    else
      let inner := if c = '{' then depth + 1 else if c = '}' then depth - 1 else depth
      (alternatives inner rest).map fun (found, after) => (consFirst c found, after)

/-- The text before the first opening brace, and the text after that brace. -/
def splitAtOpen : List Char → Option (List Char × List Char)
  | [] => none
  | c :: rest =>
    if c = '{' then some ([], rest)
    else (splitAtOpen rest).map fun (before, after) => (c :: before, after)

theorem length_of_mem_consFirst {c : Char} {found : List (List Char)} {a : List Char}
    (h : a ∈ consFirst c found) : a.length ≤ 1 ∨ ∃ b ∈ found, a.length ≤ b.length + 1 := by
  cases found with
  | nil => simp only [consFirst, List.mem_singleton] at h; subst h; simp
  | cons first more =>
    simp only [consFirst, List.mem_cons] at h
    rcases h with rfl | h
    · exact .inr ⟨first, by simp, by simp⟩
    · exact .inr ⟨a, by simp [h], by omega⟩

/-- What follows a group is shorter than what follows its opening brace. -/
theorem length_after_lt {depth : Nat} {text : List Char} {found : List (List Char)}
    {after : List Char} (h : alternatives depth text = some (found, after)) :
    after.length < text.length := by
  induction text generalizing depth found after with
  | nil => simp [alternatives] at h
  | cons c rest ih =>
    rw [alternatives] at h
    split at h
    · simp only [Option.some.injEq, Prod.mk.injEq] at h
      simp [← h.2]
    all_goals
      try split at h
      all_goals
        simp only [Option.map_eq_some_iff, Prod.mk.injEq] at h
        obtain ⟨⟨found', after'⟩, h', -, rfl⟩ := h
        have := ih h'
        simp only [List.length_cons]
        omega

/-- An alternative together with what follows the group is shorter than what follows the opening
brace. -/
theorem length_alternative_lt {depth : Nat} {text : List Char} {found : List (List Char)}
    {after a : List Char} (h : alternatives depth text = some (found, after)) (ha : a ∈ found) :
    a.length + after.length < text.length := by
  induction text generalizing depth found after a with
  | nil => simp [alternatives] at h
  | cons c rest ih =>
    rw [alternatives] at h
    split at h
    · simp only [Option.some.injEq, Prod.mk.injEq] at h
      obtain ⟨rfl, rfl⟩ := h
      simp only [List.mem_singleton] at ha
      simp [ha]
    · split at h
      · simp only [Option.map_eq_some_iff, Prod.mk.injEq] at h
        obtain ⟨⟨found', after'⟩, h', rfl, rfl⟩ := h
        have := length_after_lt h'
        rcases List.mem_cons.1 ha with rfl | ha
        · simp only [List.length_cons, List.length_nil]; omega
        · have := ih h' ha
          simp only [List.length_cons]; omega
      · simp only [Option.map_eq_some_iff, Prod.mk.injEq] at h
        obtain ⟨⟨found', after'⟩, h', rfl, rfl⟩ := h
        have := length_after_lt h'
        rcases length_of_mem_consFirst ha with hle | ⟨b, hb, hle⟩
        · cases found' with
          | nil =>
            simp only [List.length_cons]
            omega
          | cons b more =>
            simp only [List.length_cons]
            omega
        · have := ih h' hb
          simp only [List.length_cons]; omega

theorem length_splitAtOpen {text before after : List Char}
    (h : splitAtOpen text = some (before, after)) :
    text.length = before.length + after.length + 1 := by
  induction text generalizing before after with
  | nil => simp [splitAtOpen] at h
  | cons c rest ih =>
    rw [splitAtOpen] at h
    split at h
    · simp only [Option.some.injEq, Prod.mk.injEq] at h
      obtain ⟨rfl, rfl⟩ := h
      simp
    · simp only [Option.map_eq_some_iff, Prod.mk.injEq] at h
      obtain ⟨⟨before', after'⟩, h', rfl, rfl⟩ := h
      have := ih h'
      simp only [List.length_cons]
      omega

/-- The patterns that a pattern stands for. -/
def expand (pattern : List Char) : List (List Char) :=
  match _hopen : splitAtOpen pattern with
  | none => [pattern]
  | some (before, inside) =>
    match _hgroup : alternatives 0 inside with
    | none => [pattern]
    -- a group without a comma stays, and no comma in it is looked for again
    | some ([only], after) => (expand after).map fun rest => before ++ '{' :: only ++ '}' :: rest
    | some (found, after) => found.attach.flatMap fun a => expand (before ++ a.val ++ after)
termination_by pattern.length
decreasing_by
  · have := length_splitAtOpen _hopen
    have := length_after_lt _hgroup
    omega
  · have := length_splitAtOpen _hopen
    have := length_alternative_lt _hgroup a.property
    simp only [List.length_append]
    omega

/-- The patterns that a pattern stands for, as texts. -/
def expandText (pattern : String) : List String := (expand pattern.toList).map String.ofList

end TreePlan.Braces
