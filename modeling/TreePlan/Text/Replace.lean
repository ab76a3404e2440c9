/-!
# Replacing text

Finding a text in another one and replacing it, from left to right and without overlap.
-/

namespace TreePlan.Text

/-- What follows `pattern` at the front of a text, if it stands there. -/
def afterFront : (pattern text : List Char) → Option (List Char)
  | [], text => some text
  | _ :: _, [] => none
  | p :: pattern, c :: text => if p = c then afterFront pattern text else none

theorem length_afterFront {pattern text rest : List Char}
    (h : afterFront pattern text = some rest) :
    rest.length + pattern.length = text.length := by
  induction pattern generalizing text with
  | nil => simp only [afterFront, Option.some.injEq] at h; simp [h]
  | cons p pattern ih =>
    cases text with
    | nil => simp [afterFront] at h
    | cons c text =>
      rw [afterFront] at h
      split at h
      · have := ih h
        simp only [List.length_cons]
        omega
      · simp at h

/-- Whether `pattern` stands somewhere in a text. -/
def occursIn (pattern : List Char) : List Char → Bool
  | [] => pattern.isEmpty
  | c :: text => (afterFront pattern (c :: text)).isSome || occursIn pattern text

/-- The text with every occurrence of a pattern that is not empty replaced. -/
def replaceAll (first : Char) (pattern replacement : List Char) : List Char → List Char
  | [] => []
  | c :: text =>
    match _h : afterFront (first :: pattern) (c :: text) with
    | some rest => replacement ++ replaceAll first pattern replacement rest
    | none => c :: replaceAll first pattern replacement text
termination_by text => text.length
decreasing_by
  · have := length_afterFront _h
    simp only [List.length_cons] at this ⊢
    omega
  · simp

/-- The text with every occurrence of a pattern replaced, if the pattern is not empty and occurs. -/
def replace? (pattern replacement text : String) : Option String :=
  match pattern.toList with
  | [] => none
  | first :: rest =>
    if occursIn (first :: rest) text.toList then
      some (String.ofList (replaceAll first rest replacement.toList text.toList))
    else none

end TreePlan.Text
