import Mathlib.Data.List.Basic
import TreePlan.Json

/-!
# The grammar of JSON

Which characters are a JSON text, and of which value: a value between blanks (`Padded Spells`). The
grammar is that of RFC 8259, but for its numbers, which are whole, as those of the values are. It
leaves open how a text is laid out, and how a character is written that need not be escaped. What
`page` writes is one of the texts of the value (`spells_page`).
-/

namespace TreePlan.Json

variable {α : Type} {j : Json} {c : Char} {w : List Char}

/-! ## Texts -/

/-- The value of a hexadecimal digit. -/
def hexValue? (c : Char) : Option Nat :=
  if '0' ≤ c ∧ c ≤ '9' then some (c.toNat - '0'.toNat)
  else if 'a' ≤ c ∧ c ≤ 'f' then some (c.toNat - 'a'.toNat + 10)
  else if 'A' ≤ c ∧ c ≤ 'F' then some (c.toNat - 'A'.toNat + 10)
  else none

/-- The number that hexadecimal digits stand for. -/
def hexNumber? (digits : List Char) : Option Nat :=
  digits.foldlM (fun n d => (hexValue? d).map (16 * n + ·)) 0

/-- Four hexadecimal digits spell a code unit of UTF-16. -/
structure SpellsUnit (w : List Char) (n : Nat) : Prop where
  /-- There are four of them. -/
  length_eq : w.length = 4
  /-- They stand for the unit. -/
  hexNumber?_eq : hexNumber? w = some n

/-- Two code units, a high and a low surrogate, are a character together. -/
structure Surrogates (high low : Nat) (c : Char) : Prop where
  /-- The first is a high surrogate. -/
  high_mem : 0xd800 ≤ high ∧ high < 0xdc00
  /-- The second is a low surrogate. -/
  low_mem : 0xdc00 ≤ low ∧ low < 0xe000
  /-- Each gives ten bits of the character. -/
  toNat_eq : c.toNat = 0x10000 + (high - 0xd800) * 0x400 + (low - 0xdc00)

/-- What may follow a backslash other than a code unit, and the character that it stands for. -/
def shortEscapes : List (Char × Char) :=
  [('"', '"'), ('\\', '\\'), ('/', '/'), ('b', '\x08'), ('f', '\x0c'), ('n', '\n'), ('r', '\r'),
    ('t', '\t')]

/-- The code units of a character, the first of them after `\u`. -/
inductive SpellsUnits : List Char → Char → Prop
  /-- The character has only one. -/
  | one {w : List Char} {c : Char} (h : SpellsUnit w c.toNat) : SpellsUnits w c
  /-- The character has two. -/
  | two {v w : List Char} {high low : Nat} {c : Char} (hhigh : SpellsUnit v high)
      (hlow : SpellsUnit w low) (h : Surrogates high low c) :
      SpellsUnits (v ++ '\\' :: 'u' :: w) c

/-- Characters between quotes that spell one character of a text. -/
inductive SpellsChar : List Char → Char → Prop
  /-- A character as it is: no control character, quote or backslash. -/
  | plain {c : Char} (hcontrol : ¬c < ' ') (hquote : c ≠ '"') (hbackslash : c ≠ '\\') :
      SpellsChar [c] c
  /-- A short escape. -/
  | short {e c : Char} (h : (e, c) ∈ shortEscapes) : SpellsChar ['\\', e] c
  /-- The character's code units. -/
  | units {w : List Char} {c : Char} (h : SpellsUnits w c) : SpellsChar ('\\' :: 'u' :: w) c

/-- Characters between quotes that spell the characters of a text. -/
inductive SpellsChars : List Char → List Char → Prop
  /-- Nothing is spelled. -/
  | nil : SpellsChars [] []
  /-- A character, and those after it. -/
  | cons {w v : List Char} {c : Char} {text : List Char} (h : SpellsChar w c)
      (hrest : SpellsChars v text) : SpellsChars (w ++ v) (c :: text)

/-- A text in quotes. -/
inductive SpellsText : List Char → String → Prop
  /-- A quote, the text's characters, and a quote. -/
  | quoted {w : List Char} {text : String} (h : SpellsChars w text.toList) :
      SpellsText ('"' :: w ++ ['"']) text

/-! ## Numbers -/

/-- Characters are a numeral. -/
structure IsNumeral (digits : List Char) : Prop where
  /-- There are some. -/
  ne_nil : digits ≠ []
  /-- They are digits. -/
  isDigit : ∀ d ∈ digits, d.isDigit = true
  /-- A zero is in front of no other digit. -/
  eq_zero : digits.head? = some '0' → digits = ['0']

/-- The number that decimal digits stand for. -/
def numeralValue (digits : List Char) : Int := (Nat.ofDigitChars 10 digits 0 : Nat)

/-- A whole number. -/
inductive SpellsInt : List Char → Int → Prop
  /-- A number without a sign. -/
  | plain {digits : List Char} (h : IsNumeral digits) : SpellsInt digits (numeralValue digits)
  /-- A number with a sign. -/
  | negative {digits : List Char} (h : IsNumeral digits) :
      SpellsInt ('-' :: digits) (-numeralValue digits)

/-! ## Values -/

/-- A character that may stand between the parts of a text and says nothing. -/
def isBlank (c : Char) : Bool := c == ' ' || c == '\n' || c == '\r' || c == '\t'

/-- Blanks only. -/
def Blanks (b : List Char) : Prop := ∀ c ∈ b, isBlank c = true

/-- What a relation spells, between blanks. -/
inductive Padded (R : List Char → α → Prop) : List Char → α → Prop
  /-- Blanks, what is spelled, and blanks. -/
  | mk {b w b' : List Char} {a : α} (hb : Blanks b) (h : R w a) (hb' : Blanks b') :
      Padded R (b ++ w ++ b') a

/-- A member of an object: its name, a colon, and its value. -/
inductive Member (R : List Char → Json → Prop) : List Char → String × Json → Prop
  /-- Both are between blanks. -/
  | mk {k w : List Char} {key : String} {j : Json} (hkey : Padded SpellsText k key)
      (h : Padded R w j) : Member R (k ++ ':' :: w) (key, j)

/-- One thing or more, with commas between them. -/
inductive Sequence (R : List Char → α → Prop) : List Char → List α → Prop
  /-- The last one. -/
  | last {w : List Char} {a : α} (h : R w a) : Sequence R w [a]
  /-- One that others follow. -/
  | more {w v : List Char} {a : α} {rest : List α} (h : R w a) (hrest : Sequence R v rest) :
      Sequence R (w ++ ',' :: v) (a :: rest)

/-- What is between the brackets of a list. -/
inductive Inside (R : List Char → α → Prop) : List Char → List α → Prop
  /-- Only blanks. -/
  | empty {b : List Char} (hb : Blanks b) : Inside R b []
  /-- The things of the list. -/
  | sequence {l : List α} {w : List Char} (h : Sequence R w l) : Inside R w l

/-- Characters that spell a value. -/
inductive Spells : List Char → Json → Prop
  /-- `null`. -/
  | null : Spells "null".toList .null
  /-- `true`. -/
  | yes : Spells "true".toList (.bool true)
  /-- `false`. -/
  | no : Spells "false".toList (.bool false)
  /-- A whole number. -/
  | int {w : List Char} {n : Int} (h : SpellsInt w n) : Spells w (.int n)
  /-- A text in quotes. -/
  | text {w : List Char} {t : String} (h : SpellsText w t) : Spells w (.text t)
  /-- Values in brackets. -/
  | array {w : List Char} {items : List Json} (h : Inside (Padded Spells) w items) :
      Spells ('[' :: w ++ [']']) (.array items)
  /-- Members in braces. -/
  | object {w : List Char} {members : List (String × Json)} (h : Inside (Member Spells) w members) :
      Spells ('\x7b' :: w ++ ['\x7d']) (.object members)

/-! ## What is written -/

/-- A control character is the number of its escape. -/
theorem hexNumber?_control :
    ∀ n < 32,
      hexNumber? ['0', '0', PathKey.hexDigit (n / 16), PathKey.hexDigit (n % 16)] = some n := by
  decide +kernel

/-- A character is spelled as it is written between quotes. -/
theorem spellsChar_escapeChar (c : Char) : SpellsChar (escapeChar c) c := by
  rw [escapeChar]
  split_ifs with hquote hbackslash hb hf hn hr ht hcontrol
  · subst hquote
    exact .short (by decide)
  · subst hbackslash
    exact .short (by decide)
  · subst hb
    exact .short (by decide)
  · subst hf
    exact .short (by decide)
  · subst hn
    exact .short (by decide)
  · subst hr
    exact .short (by decide)
  · subst ht
    exact .short (by decide)
  · exact .units (.one ⟨rfl, hexNumber?_control c.toNat hcontrol⟩)
  · exact .plain hcontrol hquote hbackslash

/-- Characters are spelled as they are written between quotes. -/
theorem spellsChars_flatMap (text : List Char) : SpellsChars (text.flatMap escapeChar) text := by
  induction text with
  | nil => exact .nil
  | cons c text ih => exact .cons (spellsChar_escapeChar c) ih

/-- A text is spelled as it is written. -/
theorem spellsText_quote (text : String) : SpellsText (quote text.toList) text :=
  .quoted (spellsChars_flatMap text.toList)

/-- Only the digits of zero begin with a zero. -/
theorem eq_zero_of_head?_toDigits (n : Nat) (h : (Nat.toDigits 10 n).head? = some '0') : n = 0 := by
  induction n using Nat.strongRecOn with
  | ind n ih =>
    -- Without its last digit, a number with several begins with the same one.
    rw [Nat.toDigits_eq_if (by decide)] at h
    split_ifs at h with hsmall
    · exact Nat.digitChar_eq_zero.mp (Option.some.inj h)
    · rw [List.head?_append_of_ne_nil _ Nat.toDigits_ne_nil] at h
      have hfront : n / 10 = 0 := ih (n / 10) (by omega) h
      omega

/-- The digits of a number are a numeral. -/
theorem isNumeral_toDigits (n : Nat) : IsNumeral (Nat.toDigits 10 n) := by
  refine ⟨Nat.toDigits_ne_nil, fun d => Nat.isDigit_of_mem_toDigits (by decide) (by decide),
    fun h => ?_⟩
  rw [eq_zero_of_head?_toDigits n h]
  rfl

/-- The digits of a number stand for it. -/
theorem numeralValue_toDigits (n : Nat) : numeralValue (Nat.toDigits 10 n) = n :=
  congrArg Nat.cast Nat.ofDigitChars_ten_toDigits

/-- A whole number is spelled as it is written. -/
theorem spellsInt_toString (n : Int) : SpellsInt (toString n).toList n := by
  rw [Int.toString_eq_repr, Int.repr_eq_if]
  split_ifs with h
  · have hplain := SpellsInt.plain (isNumeral_toDigits n.toNat)
    rw [numeralValue_toDigits, Int.toNat_of_nonneg h] at hplain
    rwa [Nat.repr_eq_ofList_toDigits, String.toList_ofList]
  · have hnegative := SpellsInt.negative (isNumeral_toDigits (-n).toNat)
    rw [numeralValue_toDigits, Int.toNat_of_nonneg (by omega), Int.neg_neg] at hnegative
    rwa [Nat.repr_eq_ofList_toDigits, String.toList_append, String.toList_ofList,
      String.toList_ofList]

/-- Nothing is blanks. -/
theorem blanks_nil : Blanks [] := List.forall_mem_nil _

/-- A line begins with blanks. -/
theorem blanks_newLine (level : Nat) : Blanks (newLine level) := by
  refine List.forall_mem_cons.mpr ⟨rfl, fun c hc => ?_⟩
  rw [List.eq_of_mem_replicate hc]
  rfl

/-- A member is spelled as it is written at the start of a line. -/
theorem spells_member {b b' : List Char} (key : String) (hb : Blanks b) (h : Spells w j)
    (hb' : Blanks b') :
    Member Spells (b ++ quote key.toList ++ ": ".toList ++ w ++ b') (key, j) := by
  have hblank : Blanks [' '] := List.forall_mem_cons.mpr ⟨rfl, blanks_nil⟩
  have hmember :
      Member Spells (b ++ quote key.toList ++ [] ++ ':' :: ([' '] ++ w ++ b')) (key, j) :=
    .mk ⟨hb, spellsText_quote key, blanks_nil⟩ ⟨hblank, h, hb'⟩
  simpa using hmember

mutual

/-- A value is spelled as it is written over several lines. -/
theorem spells_pretty (level : Nat) : ∀ j : Json, Spells (j.pretty level) j
  | .null => by rw [pretty]; exact .null
  | .bool value => by
    rw [pretty]
    cases value
    · exact .no
    · exact .yes
  | .int n => by rw [pretty]; exact .int (spellsInt_toString n)
  | .text t => by rw [pretty]; exact .text (spellsText_quote t)
  | .array [] => by rw [pretty]; exact .array (.empty blanks_nil)
  | .array (item :: rest) => by
    rw [pretty]
    have h := spells_prettyItems level rest (spells_pretty (level + 1) item)
    simpa only [List.cons_append, List.append_assoc] using Spells.array (.sequence h)
  | .object [] => by rw [pretty]; exact .object (.empty blanks_nil)
  | .object ((key, value) :: rest) => by
    rw [pretty]
    have h := spells_prettyMembers level rest key (spells_pretty (level + 1) value)
    simpa only [List.cons_append, List.append_assoc] using Spells.object (.sequence h)

/-- An item and those after it are spelled as they are written over several lines. -/
theorem spells_prettyItems (level : Nat) : ∀ (rest : List Json) {w : List Char} {item : Json},
    -- The first item is written outside, so the induction carries any characters that spell it.
    Spells w item → Sequence (Padded Spells)
      (newLine (level + 1) ++ w ++ prettyItems level rest ++ newLine level) (item :: rest)
  | [], w, item, h => by
    rw [prettyItems, List.append_nil]
    exact .last ⟨blanks_newLine _, h, blanks_newLine _⟩
  | next :: rest, w, item, h => by
    have hrest := spells_prettyItems level rest (spells_pretty (level + 1) next)
    have hitem : Padded Spells (newLine (level + 1) ++ w ++ []) item :=
      ⟨blanks_newLine _, h, blanks_nil⟩
    rw [prettyItems]
    simpa only [List.cons_append, List.append_assoc, List.nil_append] using
      Sequence.more hitem hrest

/-- A member and those after it are spelled as they are written over several lines. -/
theorem spells_prettyMembers (level : Nat) : ∀ (rest : List (String × Json)) {w : List Char}
    {item : Json} (key : String), Spells w item → Sequence (Member Spells)
      (newLine (level + 1) ++ quote key.toList ++ ": ".toList ++ w ++ prettyMembers level rest ++
        newLine level) ((key, item) :: rest)
  | [], w, item, key, h => by
    rw [prettyMembers, List.append_nil]
    exact .last (spells_member key (blanks_newLine _) h (blanks_newLine _))
  | (next, value) :: rest, w, item, key, h => by
    have hrest := spells_prettyMembers level rest next (spells_pretty (level + 1) value)
    have hmember := spells_member key (blanks_newLine (level + 1)) h blanks_nil
    rw [prettyMembers]
    simpa only [List.cons_append, List.append_assoc, List.nil_append] using
      Sequence.more hmember hrest

end

/-- What is written over several lines is a JSON text of the value. -/
theorem spells_page (j : Json) : Padded Spells j.page.toList j := by
  have h : Padded Spells ([] ++ j.pretty 0 ++ []) j := ⟨blanks_nil, spells_pretty 0 j, blanks_nil⟩
  rwa [List.nil_append, List.append_nil, ← String.toList_ofList (l := j.pretty 0)] at h

end TreePlan.Json
