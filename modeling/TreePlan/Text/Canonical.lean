import TreePlan.Text.Ranges
import TreePlan.Text.Canonical.Classes
import TreePlan.Text.Canonical.Pairs

/-!
# Canonical composition

The composed canonical form of a text (Normalization Form C): every character is decomposed fully,
runs of combining characters are put in the order of their classes, and then each starter takes up
the following characters that compose with it and are not blocked.
-/

namespace TreePlan.Canonical

/-- The canonical combining class of a character; zero for a starter. -/
def combiningClass (c : Char) : Nat :=
  if c.toNat < 0x300 then 0
  else ((findRange classRanges (·.1) (·.2.1) c.toNat).map (·.2.2)).getD 0

/-- The first Hangul syllable. -/
def syllableBase : Nat := 0xAC00
/-- The first leading jamo. -/
def leadBase : Nat := 0x1100
/-- The first vowel jamo. -/
def vowelBase : Nat := 0x1161
/-- One before the first trailing jamo. -/
def trailBase : Nat := 0x11A7

/-- The jamo of a Hangul syllable. -/
def syllable? (n : Nat) : Option (List Nat) :=
  if syllableBase ≤ n ∧ n < syllableBase + 11172 then
    let i := n - syllableBase
    let front := [leadBase + i / 588, vowelBase + i % 588 / 28]
    some (if i % 28 = 0 then front else front ++ [trailBase + i % 28])
  else none

/-- One step of canonical decomposition. -/
def split? (n : Nat) : Option (List Nat) :=
  if n < 0xC0 then none
  else match findRange composites (·.1) (·.1) n with
    | some (_, a, b) => some [a, b]
    | none =>
      match findRange singles (·.1) (·.1) n with
      | some (_, a) => some [a]
      | none =>
        match findRange splits (·.1) (·.1) n with
        | some (_, a, b) => some [a, b]
        | none => syllable? n

/-- Decomposition repeated at most so many times; four steps reach the end of every chain. -/
def decomposeNat : Nat → Nat → List Nat
  | 0, n => [n]
  | k + 1, n =>
    match split? n with
    | none => [n]
    | some parts => parts.flatMap (decomposeNat k)

/-- The full canonical decomposition of a character. -/
def decompose (c : Char) : List Char := (decomposeNat 8 c.toNat).map Char.ofNat

/-- A combining character goes before those of a greater class that stand last. -/
def insertByClass (c : Char) : List Char → List Char
  | [] => [c]
  | d :: rest =>
    if combiningClass d = 0 ∨ combiningClass d ≤ combiningClass c then c :: d :: rest
    else d :: insertByClass c rest

/-- The text, last character first, after one more character in canonical order. -/
def putInOrder (reversed : List Char) (c : Char) : List Char :=
  if combiningClass c = 0 then c :: reversed else insertByClass c reversed

/-- The decomposed canonical form. -/
def nfd (text : List Char) : List Char := ((text.flatMap decompose).foldl putInOrder []).reverse

/-- The character that two characters compose to. -/
def compose? (a b : Nat) : Option Nat :=
  if b < 0x300 then none
  -- a leading and a vowel letter make a syllable, and a trailing letter completes it
  else if leadBase ≤ a ∧ a < leadBase + 19 ∧ vowelBase ≤ b ∧ b < vowelBase + 21 then
    some (syllableBase + ((a - leadBase) * 21 + (b - vowelBase)) * 28)
  else if syllableBase ≤ a ∧ a < syllableBase + 11172 ∧ (a - syllableBase) % 28 = 0
      ∧ trailBase < b ∧ b < trailBase + 28 then
    some (a + (b - trailBase))
  else (composites.find? fun row => row.2.1 = a ∧ row.2.2 = b).map (·.1)

/-- Where composition stands: the text before the last starter (last character first), that
starter, and the characters after it that stay (last first). -/
structure Composing where
  /-- What is finished, last character first. -/
  before : List Char
  /-- The last starter. -/
  starter : Char
  /-- What stays after the starter, last character first. -/
  after : List Char

/-- Takes up one more character: it joins the starter if nothing between blocks it. -/
def Composing.take (s : Composing) (c : Char) : Composing :=
  let open_ := match s.after with
    | [] => true
    | d :: _ => combiningClass d ≠ 0 ∧ combiningClass d < combiningClass c
  match if open_ then compose? s.starter.toNat c.toNat else none with
  | some n => { s with starter := Char.ofNat n }
  | none =>
    if combiningClass c = 0 then ⟨s.after ++ s.starter :: s.before, c, []⟩
    else { s with after := c :: s.after }

/-- The text of a finished composition. -/
def Composing.text (s : Composing) : List Char := (s.after ++ s.starter :: s.before).reverse

/-- Composition of a text in canonical order. -/
def composeAll (text : List Char) : List Char :=
  match text.span (combiningClass · ≠ 0) with
  | (front, []) => front
  | (front, c :: rest) => front ++ (rest.foldl Composing.take ⟨[], c, []⟩).text

/-- The composed canonical form. -/
def nfc (text : List Char) : List Char :=
  if text.all (·.toNat < 0x300) then text else composeAll (nfd text)

end TreePlan.Canonical
