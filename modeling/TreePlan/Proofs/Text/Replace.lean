import Mathlib.Data.List.Infix
import TreePlan.Text.Replace

/-!
# What replacing does

A pattern that is not empty is replaced from left to right: where it stands it is replaced and
passed over as a whole, and a character at which it does not begin is kept. `Replaces` says so
without an algorithm, and it determines the result (`Replaces.unique`). `replaceAll` computes it
(`replaces_replaceAll`), `occursIn` decides whether the pattern stands anywhere in the text
(`occursIn_iff`), and together they make `replace?` (`replace?_eq_some`, `replace?_eq_none`).
-/

namespace TreePlan.Text

/-- What follows a pattern at the front of a text is what the text is without it. -/
theorem afterFront_eq_some {pattern text rest : List Char} :
    afterFront pattern text = some rest ↔ text = pattern ++ rest := by
  induction pattern generalizing text with
  | nil => exact ⟨Option.some.inj, congrArg some⟩
  | cons p pattern ih =>
    cases text with
    | nil =>
      exact ⟨fun h => absurd h.symm (Option.some_ne_none _), fun h =>
        absurd h.symm (List.cons_ne_nil _ _)⟩
    | cons c text =>
      rw [afterFront, List.cons_append, List.cons.injEq]
      by_cases h : p = c
      · rw [if_pos h, ih]
        exact ⟨fun ht => ⟨h.symm, ht⟩, fun ht => ht.2⟩
      · rw [if_neg h]
        exact ⟨fun ht => absurd ht.symm (Option.some_ne_none _), fun ht => absurd ht.1.symm h⟩

/-- Something follows a pattern at the front of a text if the text begins with it. -/
theorem isSome_afterFront {pattern text : List Char} :
    (afterFront pattern text).isSome ↔ pattern <+: text := by
  rw [Option.isSome_iff_exists]
  exact exists_congr fun rest => afterFront_eq_some.trans eq_comm

/-- A pattern occurs in a text if it stands somewhere in it. -/
theorem occursIn_iff {pattern text : List Char} :
    occursIn pattern text = true ↔ pattern <:+: text := by
  induction text with
  | nil => rw [occursIn, List.isEmpty_iff, List.infix_nil]
  | cons c text ih =>
    rw [occursIn, Bool.or_eq_true, isSome_afterFront, ih, List.infix_cons_iff]

/-- The pattern is replaced in a text from left to right and without overlap: the pattern, the
replacement, the text, and what it becomes. -/
inductive Replaces (pattern replacement : List Char) : List Char → List Char → Prop
  /-- Nothing is left. -/
  | done : Replaces pattern replacement [] []
  /-- The text begins with the pattern, which is replaced as a whole. -/
  | found {text new : List Char} (hrest : Replaces pattern replacement text new) :
      Replaces pattern replacement (pattern ++ text) (replacement ++ new)
  /-- The text does not begin with the pattern, so its first character is kept. -/
  | kept {c : Char} {text new : List Char} (hfront : ¬pattern <+: c :: text)
      (hrest : Replaces pattern replacement text new) :
      Replaces pattern replacement (c :: text) (c :: new)

/-- A text becomes one text only, if the pattern is not empty. -/
theorem Replaces.unique {pattern replacement text new new' : List Char} (hp : pattern ≠ [])
    (h : Replaces pattern replacement text new) (h' : Replaces pattern replacement text new') :
    new = new' := by
  induction h generalizing new' with
  | done =>
    generalize ht : ([] : List Char) = text at h'
    cases h' with
    | done => rfl
    | found _ => exact absurd (List.append_eq_nil_iff.mp ht.symm).1 hp
    | kept _ _ => exact nomatch ht
  | @found text new _ ih =>
    generalize ht : pattern ++ text = whole at h'
    cases h' with
    | done => exact absurd (List.append_eq_nil_iff.mp ht).1 hp
    | found hrest => rw [ih (List.append_cancel_left ht ▸ hrest)]
    | kept hfront _ => exact absurd ⟨text, ht⟩ hfront
  | @kept c text new hfront _ ih =>
    generalize ht : c :: text = whole at h'
    cases h' with
    | done => exact nomatch ht
    | @found text' _ _ => exact absurd ⟨text', ht.symm⟩ hfront
    | kept _ hrest =>
      obtain ⟨rfl, rfl⟩ := List.cons.inj ht
      rw [ih hrest]

/-- A text in which the pattern does not occur stays as it is. -/
theorem replaces_self {pattern text : List Char} (replacement : List Char)
    (h : ¬pattern <:+: text) : Replaces pattern replacement text text := by
  induction text with
  | nil => exact .done
  | cons c text ih =>
    rw [List.infix_cons_iff, not_or] at h
    exact .kept h.1 (ih h.2)

/-- Replacing every occurrence replaces from left to right. -/
theorem replaces_replaceAll (first : Char) (pattern replacement text : List Char) :
    Replaces (first :: pattern) replacement text
      (replaceAll first pattern replacement text) := by
  -- By induction along the recursion, which skips a pattern that it has found.
  induction text using replaceAll.induct first pattern with
  | case1 =>
    rw [replaceAll]
    exact .done
  | case2 c text rest h ih =>
    have htext : c :: text = first :: pattern ++ rest := afterFront_eq_some.mp h
    rw [replaceAll]
    split
    · rename_i rest' h'
      obtain rfl := Option.some.inj (h.symm.trans h')
      rw [htext]
      exact .found ih
    · rename_i h'
      exact nomatch h.symm.trans h'
  | case3 c text h ih =>
    have hfront : ¬first :: pattern <+: c :: text := by
      rw [← isSome_afterFront, h]
      exact Bool.false_ne_true
    rw [replaceAll]
    split
    · rename_i rest h'
      exact nomatch h.symm.trans h'
    · exact .kept hfront ih

/-- A text in which the pattern is replaced: the pattern is not empty and stands somewhere in it,
and every occurrence becomes the replacement. -/
theorem replace?_eq_some {pattern replacement text new : String} :
    replace? pattern replacement text = some new ↔
      pattern ≠ "" ∧ pattern.toList <:+: text.toList ∧
        Replaces pattern.toList replacement.toList text.toList new.toList := by
  unfold replace?
  split
  · rename_i hp
    exact ⟨fun h => absurd h.symm (Option.some_ne_none _), fun h =>
      absurd (String.toList_eq_nil_iff.mp hp) h.1⟩
  · rename_i first rest hp
    have hne : pattern ≠ "" := by
      rintro rfl
      exact absurd hp.symm (List.cons_ne_nil first rest)
    have hall := replaces_replaceAll first rest replacement.toList text.toList
    rw [← hp, ← occursIn_iff]
    split
    · rename_i hoccurs
      constructor
      · intro h
        rw [← Option.some.inj h, String.toList_ofList]
        exact ⟨hne, hoccurs, hp.symm ▸ hall⟩
      · intro h
        have hnew := hall.unique (List.cons_ne_nil first rest) (hp ▸ h.2.2)
        rw [hnew, String.ofList_toList]
    · rename_i hoccurs
      exact ⟨fun h => absurd h.symm (Option.some_ne_none _), fun h => absurd h.2.1 hoccurs⟩

/-- A text in which nothing is replaced: the pattern is empty or stands nowhere in it. -/
theorem replace?_eq_none {pattern replacement text : String} :
    replace? pattern replacement text = none ↔
      pattern = "" ∨ ¬pattern.toList <:+: text.toList := by
  unfold replace?
  split
  · rename_i hp
    exact ⟨fun _ => Or.inl (String.toList_eq_nil_iff.mp hp), fun _ => rfl⟩
  · rename_i first rest hp
    have hne : pattern ≠ "" := by
      rintro rfl
      exact absurd hp.symm (List.cons_ne_nil first rest)
    rw [← hp, ← occursIn_iff]
    split
    · rename_i hoccurs
      exact ⟨fun h => absurd h (Option.some_ne_none _), fun h =>
        absurd hoccurs (h.resolve_left hne)⟩
    · rename_i hoccurs
      exact ⟨fun _ => Or.inr hoccurs, fun _ => rfl⟩

end TreePlan.Text
