import TreePlan.Text.Quoted.Ranges
import TreePlan.Text.Ranges

/-!
# Quoted texts

A text in quotes with everything that would not show written as an escape.
-/

namespace TreePlan.Quoted

/-- The lower-case digits of a number to the base sixteen. -/
def hexNumber (n : Nat) : List Char := Nat.toDigits 16 n

/-- The character is shown by its number. -/
def isHidden (c : Char) : Bool :=
  if c.toNat < 0x80 then c.toNat < 0x20 || c.toNat == 0x7F else inRanges hidden c

/-- A character inside the quotes; `single` says whether an apostrophe is escaped too. -/
def escape (single : Bool) (c : Char) : List Char :=
  if c = '\x00' then ['\\', '0']
  else if c = '\t' then ['\\', 't']
  else if c = '\r' then ['\\', 'r']
  else if c = '\n' then ['\\', 'n']
  else if c = '\\' ∨ c = '"' ∨ single ∧ c = '\'' then ['\\', c]
  else if isHidden c then '\\' :: 'u' :: '\x7b' :: hexNumber c.toNat ++ ['\x7d']
  else [c]

/-- The text in quotes. -/
def text (s : String) : String := String.ofList ('"' :: s.toList.flatMap (escape false) ++ ['"'])

/-- The text in quotes, with apostrophes escaped too. -/
def strictText (s : String) : String :=
  String.ofList ('"' :: s.toList.flatMap (escape true) ++ ['"'])

end TreePlan.Quoted
