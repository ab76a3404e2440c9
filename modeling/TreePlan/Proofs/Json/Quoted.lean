import TreePlan.Proofs.Json.Grammar
import TreePlan.Proofs.Text.Replace
import TreePlan.Proofs.Text.Utf8

/-!
# Reading quoted texts

A reader takes a thing from the front of a text and gives what is left. Where a quoted text ends can
be seen from the text itself, and so can the end of a character in it and of a code unit, so each of
their readers reads what the grammar spells there and nothing else, whatever follows. The main
statement is `readText_eq_some_iff`.
-/

namespace TreePlan.Json

variable {α β : Type} {s w rest : List Char} {c : Char}

/-- What reads a thing at the front of a text, and gives what is left of the text. -/
abbrev Reader (α : Type) := List Char → Option (α × List Char)

/-- A reader, and another for what is left. -/
def Reader.bind (p : Reader α) (f : α → Reader β) : Reader β := fun s =>
  (p s).bind fun r => f r.1 r.2

/-- What is read by two readers. -/
theorem Reader.bind_eq_some_iff {p : Reader α} {f : α → Reader β} {b : β} :
    p.bind f s = some (b, rest) ↔ ∃ a t, p s = some (a, t) ∧ f a t = some (b, rest) := by
  rw [Reader.bind, Option.bind_eq_some_iff, Prod.exists]

/-- A reader of which the result is changed. -/
def Reader.map (f : α → β) (p : Reader α) : Reader β := fun s => (p s).map fun r => (f r.1, r.2)

/-- What is read and changed. -/
theorem Reader.map_eq_some_iff {f : α → β} {p : Reader α} {b : β} :
    p.map f s = some (b, rest) ↔ ∃ a, p s = some (a, rest) ∧ f a = b := by
  rw [Reader.map, Option.map_eq_some_iff]
  constructor
  · rintro ⟨⟨a, t⟩, ha, heq⟩
    obtain ⟨rfl, rfl⟩ := Prod.mk.inj heq
    exact ⟨a, ha, rfl⟩
  · rintro ⟨a, ha, rfl⟩
    exact ⟨(a, rest), ha, rfl⟩

/-- Characters that are given. -/
def expect (front : List Char) : Reader Unit := fun s =>
  (Text.afterFront front s).map fun s => ((), s)

/-- Characters that are given are read where they stand. -/
theorem expect_eq_some_iff {front : List Char} {u : Unit} :
    expect front s = some (u, rest) ↔ front ++ rest = s := by
  rw [expect, Option.map_eq_some_iff]
  constructor
  · rintro ⟨t, ht, heq⟩
    obtain rfl := (Prod.mk.inj heq).2
    exact (Text.afterFront_eq_some.mp ht).symm
  · rintro rfl
    exact ⟨rest, Text.afterFront_eq_some.mpr rfl, rfl⟩

/-! ## Characters of texts -/

/-- Four hexadecimal digits. -/
def readUnit : Reader Nat := fun s =>
  if s.length < 4 then none else (hexNumber? (s.take 4)).map fun n => (n, s.drop 4)

/-- Four hexadecimal digits are read where they spell a code unit. -/
theorem readUnit_eq_some_iff {n : Nat} :
    readUnit s = some (n, rest) ↔ ∃ w, SpellsUnit w n ∧ w ++ rest = s := by
  constructor
  · intro h
    rw [readUnit] at h
    split_ifs at h with hshort
    obtain ⟨m, hm, heq⟩ := Option.map_eq_some_iff.mp h
    obtain ⟨rfl, rfl⟩ := Prod.mk.inj heq
    exact ⟨s.take 4, ⟨List.length_take_of_le (Nat.le_of_not_lt hshort), hm⟩,
      List.take_append_drop 4 s⟩
  · rintro ⟨w, ⟨hlength, hnumber⟩, rfl⟩
    have hlong : ¬(w ++ rest).length < 4 := by
      rw [List.length_append]
      omega
    rw [readUnit, if_neg hlong, List.take_left' hlength, List.drop_left' hlength, hnumber]
    rfl

/-- The character of two surrogates. -/
def joined? (high low : Nat) : Option Char :=
  if (0xd800 ≤ high ∧ high < 0xdc00) ∧ 0xdc00 ≤ low ∧ low < 0xe000 then
    some (Char.ofNat (0x10000 + (high - 0xd800) * 0x400 + (low - 0xdc00)))
  else none

/-- Two units have a character if they are its surrogates. -/
theorem joined?_eq_some_iff {high low : Nat} :
    joined? high low = some c ↔ Surrogates high low c := by
  constructor
  · intro h
    rw [joined?] at h
    split_ifs at h with hmem
    obtain ⟨hhigh, hlow⟩ := hmem
    rw [← Option.some.inj h]
    refine ⟨hhigh, hlow, ?_⟩
    exact Utf8.toNat_val_ofNat (Or.inr ⟨by omega, by omega⟩)
  · rintro ⟨hhigh, hlow, heq⟩
    rw [joined?, if_pos ⟨hhigh, hlow⟩, ← heq, Char.ofNat_toNat]

/-- A character of which the first code unit has been read. -/
def readSecond (n : Nat) : Reader Char := fun s =>
  if n.isValidChar then some (Char.ofNat n, s)
  else
    ((expect ['\\', 'u']).bind fun _ => readUnit.bind fun low s =>
      (joined? n low).map fun c => (c, s)) s

/-- A character by its code units, after the first `\u`. -/
def readUnits : Reader Char := readUnit.bind readSecond

/-- Code units are read where they spell a character. -/
theorem readUnits_eq_some_iff :
    readUnits s = some (c, rest) ↔ ∃ w, SpellsUnits w c ∧ w ++ rest = s := by
  constructor
  · intro h
    obtain ⟨n, t, hunit, hsecond⟩ := Reader.bind_eq_some_iff.mp h
    obtain ⟨v, hv, rfl⟩ := readUnit_eq_some_iff.mp hunit
    rw [readSecond] at hsecond
    split_ifs at hsecond with hvalid
    · obtain ⟨rfl, rfl⟩ := Prod.mk.inj (Option.some.inj hsecond)
      have hnumber : (Char.ofNat n).toNat = n := Utf8.toNat_val_ofNat hvalid
      exact ⟨v, .one (hnumber.symm ▸ hv), rfl⟩
    · obtain ⟨_, t', hback, hsecond⟩ := Reader.bind_eq_some_iff.mp hsecond
      obtain ⟨low, t'', hlow, hjoined⟩ := Reader.bind_eq_some_iff.mp hsecond
      obtain ⟨d, hd, heq⟩ := Option.map_eq_some_iff.mp hjoined
      obtain ⟨rfl, rfl⟩ := Prod.mk.inj heq
      obtain ⟨w, hw, rfl⟩ := readUnit_eq_some_iff.mp hlow
      obtain rfl := expect_eq_some_iff.mp hback
      exact ⟨v ++ '\\' :: 'u' :: w, .two hv hw (joined?_eq_some_iff.mp hd), by simp⟩
  · rintro ⟨w, h, rfl⟩
    refine Reader.bind_eq_some_iff.mpr ?_
    cases h with
    | one h =>
      have hvalid : c.toNat.isValidChar := c.valid
      refine ⟨c.toNat, rest, readUnit_eq_some_iff.mpr ⟨w, h, rfl⟩, ?_⟩
      rw [readSecond, if_pos hvalid, Char.ofNat_toNat]
    | @two v w high low _ hhigh hlow h =>
      -- A surrogate is no character by itself, so it is not taken for one.
      have hinvalid : ¬high.isValidChar := by
        have hmem := h.high_mem
        unfold Nat.isValidChar
        omega
      refine ⟨high, '\\' :: 'u' :: w ++ rest, readUnit_eq_some_iff.mpr ⟨v, hhigh, by simp⟩, ?_⟩
      rw [readSecond, if_neg hinvalid]
      refine Reader.bind_eq_some_iff.mpr ⟨(), w ++ rest, expect_eq_some_iff.mpr rfl, ?_⟩
      refine Reader.bind_eq_some_iff.mpr ⟨low, rest, readUnit_eq_some_iff.mpr ⟨w, hlow, rfl⟩, ?_⟩
      rw [joined?_eq_some_iff.mpr h]
      rfl

/-- What follows a backslash. -/
def readEscape : Reader Char
  | [] => none
  | e :: s => if e = 'u' then readUnits s else (shortEscapes.lookup e).map fun c => (c, s)

/-- A character between quotes. -/
def readChar : Reader Char
  | [] => none
  | c :: s =>
    if c = '\\' then readEscape s
    else if c < ' ' ∨ c = '"' then none
    else some (c, s)

/-- A short escape is found by what follows the backslash, and that is not the letter of a code
unit. -/
theorem lookup_shortEscapes {e : Char} (h : (e, c) ∈ shortEscapes) :
    e ≠ 'u' ∧ shortEscapes.lookup e = some c :=
  (show ∀ p ∈ shortEscapes, p.1 ≠ 'u' ∧ shortEscapes.lookup p.1 = some p.2 by decide) (e, c) h

/-- A character is read where it is spelled. -/
theorem readChar_eq_some_iff :
    readChar s = some (c, rest) ↔ ∃ w, SpellsChar w c ∧ w ++ rest = s := by
  constructor
  · intro h
    cases s with
    | nil => exact absurd h.symm (Option.some_ne_none _)
    | cons d s =>
      rw [readChar] at h
      split_ifs at h with hback hbad
      · subst hback
        cases s with
        | nil => exact absurd h.symm (Option.some_ne_none _)
        | cons e s =>
          rw [readEscape] at h
          split_ifs at h with hu
          · obtain ⟨w, hw, rfl⟩ := readUnits_eq_some_iff.mp h
            exact ⟨'\\' :: 'u' :: w, .units hw, by rw [hu]; rfl⟩
          · obtain ⟨c', hc, heq⟩ := Option.map_eq_some_iff.mp h
            obtain ⟨rfl, rfl⟩ := Prod.mk.inj heq
            obtain ⟨l, l', hl, -⟩ := List.lookup_eq_some_iff.mp hc
            exact ⟨['\\', e], .short (by rw [hl]; simp), rfl⟩
      · obtain ⟨rfl, rfl⟩ := Prod.mk.inj (Option.some.inj h)
        exact ⟨[d], .plain (fun h => hbad (.inl h)) (fun h => hbad (.inr h)) hback, rfl⟩
  · rintro ⟨w, h, rfl⟩
    cases h with
    | plain hcontrol hquote hbackslash =>
      rw [List.singleton_append, readChar, if_neg hbackslash,
        if_neg (not_or.mpr ⟨hcontrol, hquote⟩)]
    | @short e _ he =>
      obtain ⟨hu, hlookup⟩ := lookup_shortEscapes he
      rw [List.cons_append, List.cons_append, readChar, if_pos rfl, readEscape, if_neg hu, hlookup]
      rfl
    | @units w _ h =>
      rw [List.cons_append, List.cons_append, readChar, if_pos rfl, readEscape, if_pos rfl]
      exact readUnits_eq_some_iff.mpr ⟨w, h, rfl⟩

/-- A character between quotes begins with no quote. -/
theorem SpellsChar.exists_eq_cons (h : SpellsChar w c) : ∃ d v, w = d :: v ∧ d ≠ '"' := by
  cases h with
  | plain _ hquote _ => exact ⟨c, [], rfl, hquote⟩
  | short _ => exact ⟨'\\', _, rfl, by decide⟩
  | units _ => exact ⟨'\\', _, rfl, by decide⟩

/-- The characters of a text up to the quote that ends it, and this quote; the fuel bounds their
number. -/
def readChars : Nat → Reader (List Char)
  | 0, _ => none
  | _ + 1, [] => none
  | fuel + 1, d :: s =>
    if d = '"' then some ([], s)
    else
      (readChar.bind fun c => (readChars fuel).bind fun text s => some (c :: text, s)) (d :: s)

/-- What is read as characters of a text is spelled before a quote. -/
theorem exists_spellsChars {fuel : Nat} {text : List Char}
    (h : readChars fuel s = some (text, rest)) :
    ∃ w, SpellsChars w text ∧ w ++ '"' :: rest = s := by
  induction fuel generalizing s text with
  | zero => exact absurd h.symm (Option.some_ne_none _)
  | succ fuel ih =>
    cases s with
    | nil => exact absurd h.symm (Option.some_ne_none _)
    | cons d s =>
      rw [readChars] at h
      split_ifs at h with hquote
      · obtain ⟨rfl, rfl⟩ := Prod.mk.inj (Option.some.inj h)
        exact ⟨[], .nil, by rw [hquote]; rfl⟩
      · obtain ⟨c, t, hchar, h⟩ := Reader.bind_eq_some_iff.mp h
        obtain ⟨more, t', hmore, h⟩ := Reader.bind_eq_some_iff.mp h
        obtain ⟨rfl, rfl⟩ := Prod.mk.inj (Option.some.inj h)
        obtain ⟨w, hw, heq⟩ := readChar_eq_some_iff.mp hchar
        obtain ⟨v, hv, rfl⟩ := ih hmore
        exact ⟨w ++ v, .cons hw hv, by rw [List.append_assoc, heq]⟩

/-- Characters of a text that are spelled before a quote are read. -/
theorem readChars_of_spellsChars {fuel : Nat} {text : List Char} (h : SpellsChars w text)
    (hfuel : w.length < fuel) : readChars fuel (w ++ '"' :: rest) = some (text, rest) := by
  induction h generalizing fuel with
  | nil =>
    obtain ⟨fuel, rfl⟩ := Nat.exists_eq_succ_of_ne_zero (Nat.ne_zero_of_lt hfuel)
    exact if_pos rfl
  | @cons w v c text h hrest ih =>
    obtain ⟨fuel, rfl⟩ := Nat.exists_eq_succ_of_ne_zero (Nat.ne_zero_of_lt hfuel)
    -- The quote that ends the text is not met before: no character is spelled with it in front.
    obtain ⟨d, w, rfl, hquote⟩ := h.exists_eq_cons
    have hchar : readChar (d :: (w ++ v ++ '"' :: rest)) = some (c, v ++ '"' :: rest) :=
      readChar_eq_some_iff.mpr ⟨_, h, by simp⟩
    have hlength : v.length < fuel := by
      rw [List.length_append, List.length_cons] at hfuel
      omega
    rw [List.cons_append, List.cons_append, readChars, if_neg hquote]
    refine Reader.bind_eq_some_iff.mpr ⟨c, _, hchar, ?_⟩
    exact Reader.bind_eq_some_iff.mpr ⟨text, rest, ih hlength, rfl⟩

/-- A text in quotes. -/
def readText : Reader String
  | [] => none
  | c :: s =>
    if c = '"' then (readChars s.length s).map fun r => (String.ofList r.1, r.2) else none

/-- A text is read where it is spelled. -/
theorem readText_eq_some_iff {text : String} :
    readText s = some (text, rest) ↔ ∃ w, SpellsText w text ∧ w ++ rest = s := by
  constructor
  · intro h
    cases s with
    | nil => exact absurd h.symm (Option.some_ne_none _)
    | cons d s =>
      rw [readText] at h
      split_ifs at h with hquote
      obtain ⟨⟨chars, t⟩, hchars, heq⟩ := Option.map_eq_some_iff.mp h
      obtain ⟨rfl, rfl⟩ := Prod.mk.inj heq
      obtain ⟨w, hw, rfl⟩ := exists_spellsChars hchars
      exact ⟨'"' :: w ++ ['"'], .quoted (by rwa [String.toList_ofList]), by simp [hquote]⟩
  · rintro ⟨_, @⟨w, _, h⟩, rfl⟩
    -- Each character takes one at least, so what is left of the text is fuel enough.
    have hlength : w.length < (w ++ '"' :: rest).length := by
      rw [List.length_append, List.length_cons]
      omega
    rw [List.cons_append, List.cons_append, List.append_assoc, readText, if_pos rfl,
      List.singleton_append, readChars_of_spellsChars h hlength, Option.map_some,
      String.ofList_toList]

end TreePlan.Json
