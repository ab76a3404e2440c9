import TreePlan.Text.Ranges
import TreePlan.Text.Width.Ranges

/-!
# Columns of a text

How many columns a text takes on a terminal: none for combining and ignorable characters, two for
wide ones, one for the rest. Emoji take two columns however many characters spell one of them.
-/

namespace TreePlan.Width

/-- The columns of a character that stands alone. -/
def ofChar (c : Char) : Nat :=
  if c.toNat < 0x300 then 1
  else if c = '\u17D8' then 3
  else if inRanges wide c then 2
  else if inRanges zero c then 0
  else 1

/-- The character is shown as an emoji if U+FE0F follows it. -/
def isTextEmoji (c : Char) : Bool := inRanges textEmoji c

/-- The character is shown as an emoji. -/
def isEmoji (c : Char) : Bool := inRanges wide c && inRanges pictographs c

/-- The character changes the look of the emoji before it. -/
def isModifier (c : Char) : Bool := 0x1F3FB ≤ c.toNat && c.toNat ≤ 0x1F3FF

/-- The columns of a text. `afterEmoji`: it follows an emoji that it may go on with. -/
def columnsFrom (afterEmoji : Bool) : List Char → Nat
  | [] => 0
  | '\r' :: '\n' :: rest => 1 + columnsFrom false rest
  | '\u200D' :: c :: rest =>
    if afterEmoji && inRanges pictographs c then columnsFrom true rest
    else columnsFrom false (c :: rest)
  | c :: '\uFE0F' :: rest =>
    if isTextEmoji c then 2 + columnsFrom true rest
    else ofChar c + columnsFrom (isEmoji c) rest
  | c :: '\uFE0E' :: rest =>
    (if isEmoji c ∧ ¬ (0x1F200 ≤ c.toNat ∧ c.toNat ≤ 0x1F2FF) then 1 else ofChar c)
      + columnsFrom false rest
  | c :: rest =>
    if afterEmoji && isModifier c then columnsFrom true rest
    else ofChar c + columnsFrom (isEmoji c || afterEmoji && ofChar c == 0) rest

/-- The columns of a text. -/
def columns (text : List Char) : Nat := columnsFrom false text

end TreePlan.Width
