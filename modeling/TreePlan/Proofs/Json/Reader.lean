import Mathlib.Data.List.TakeWhile
import TreePlan.Proofs.Json.Quoted

/-!
# Reading JSON

A reader of the grammar. Where a number or a value ends is seen only from what follows, so what is
carried from one part to the next is `Reads`: what is read is spelled, and what is spelled is read
if it is no longer than allowed and the text goes on as it must. A value between blanks, a member
and a list are read as their parts are (`reads_readPadded`, `reads_readMember`,
`readInside_append`), and a value by induction on the length that is allowed (`reads_readValue`).
The main statement is `read?_eq_some_iff`: a value is read from a text exactly if the text spells
it. So no text spells two values (`Padded.unique`).
-/

namespace TreePlan.Json

variable {α : Type} {s w rest : List Char} {c : Char}

/-! ## Parts whose end is seen from what follows -/

/-- The text does not go on with a digit. -/
def NoDigit (rest : List Char) : Prop := ∀ c ∈ rest.head?, c.isDigit = false

/-- The text goes on with neither a blank nor a digit. -/
def Punctuated (rest : List Char) : Prop :=
  ∀ c ∈ rest.head?, isBlank c = false ∧ c.isDigit = false

/-- What is read is spelled, and what is spelled is read, if it has no more characters than are
allowed and the text goes on as it must. -/
structure Reads (bound : Nat) (Follows : List Char → Prop) (p : Reader α)
    (R : List Char → α → Prop) : Prop where
  /-- What is read is spelled at the front of the text. -/
  sound : ∀ {s a rest}, p s = some (a, rest) → ∃ w, R w a ∧ w ++ rest = s
  /-- What is spelled at the front of the text is read. -/
  complete : ∀ {w a rest}, R w a → w.length ≤ bound → Follows rest → p (w ++ rest) = some (a, rest)

/-- A run of characters ends where one comes that does not belong to it. -/
theorem span_append {p : Char → Bool} (hw : ∀ c ∈ w, p c = true)
    (hrest : ∀ c ∈ rest.head?, p c = false) :
    (w ++ rest).takeWhile p = w ∧ (w ++ rest).dropWhile p = rest := by
  rw [List.takeWhile_append_of_pos hw, List.dropWhile_append_of_pos hw]
  cases rest with
  | nil => exact ⟨List.append_nil w, rfl⟩
  | cons c rest =>
    have hc : ¬p c = true := Bool.eq_false_iff.mp (hrest c rfl)
    rw [List.takeWhile_cons_of_neg hc, List.dropWhile_cons_of_neg hc, List.append_nil]
    exact ⟨rfl, rfl⟩

/-! ## Numbers -/

/-- Digits are a numeral. -/
def isNumeral (digits : List Char) : Bool :=
  !digits.isEmpty && (digits.head? != some '0' || digits == ['0'])

/-- Digits that are a numeral. -/
def readNumeral : Reader Int := fun s =>
  if isNumeral (s.takeWhile Char.isDigit) = true then
    some (numeralValue (s.takeWhile Char.isDigit), s.dropWhile Char.isDigit)
  else none

/-- A whole number. -/
def readInt : Reader Int
  | [] => none
  | c :: s => if c = '-' then readNumeral.map (fun n => -n) s else readNumeral (c :: s)

/-- Digits are a numeral if there are some and a zero is in front of no other digit. -/
theorem isNumeral_iff {digits : List Char} (h : ∀ d ∈ digits, d.isDigit = true) :
    isNumeral digits = true ↔ IsNumeral digits := by
  rw [isNumeral, Bool.and_eq_true, Bool.not_eq_true', List.isEmpty_eq_false_iff, Bool.or_eq_true,
    bne_iff_ne, beq_iff_eq, ← Decidable.imp_iff_not_or]
  exact ⟨fun ⟨hne, hzero⟩ => ⟨hne, h, hzero⟩, fun hnumeral => ⟨hnumeral.ne_nil, hnumeral.eq_zero⟩⟩

/-- What is read as a numeral is one. -/
theorem exists_isNumeral {n : Int} (h : readNumeral s = some (n, rest)) :
    ∃ digits, IsNumeral digits ∧ numeralValue digits = n ∧ digits ++ rest = s := by
  rw [readNumeral] at h
  split_ifs at h with hdigits
  obtain ⟨rfl, rfl⟩ := Prod.mk.inj (Option.some.inj h)
  have hnumeral := (isNumeral_iff fun _ => List.mem_takeWhile_imp).mp hdigits
  exact ⟨_, hnumeral, rfl, List.takeWhile_append_dropWhile⟩

/-- A numeral is read where no digit follows it. -/
theorem readNumeral_append {digits : List Char} (h : IsNumeral digits) (hrest : NoDigit rest) :
    readNumeral (digits ++ rest) = some (numeralValue digits, rest) := by
  obtain ⟨htake, hdrop⟩ := span_append h.isDigit hrest
  rw [readNumeral, htake, hdrop, if_pos ((isNumeral_iff h.isDigit).mpr h)]

/-- A whole number begins with a sign or a digit. -/
theorem SpellsInt.exists_eq_cons {n : Int} (h : SpellsInt w n) :
    ∃ c v, w = c :: v ∧ (c = '-' ∨ c.isDigit = true) := by
  cases h with
  | plain h =>
    obtain ⟨c, v, rfl⟩ := List.exists_cons_of_ne_nil h.ne_nil
    exact ⟨c, v, rfl, .inr (h.isDigit c (List.mem_cons_self ..))⟩
  | negative _ => exact ⟨'-', _, rfl, .inl rfl⟩

/-- Whole numbers are read. -/
theorem reads_readInt (bound : Nat) : Reads bound NoDigit readInt SpellsInt where
  sound {s n rest} h := by
    cases s with
    | nil => exact absurd h.symm (Option.some_ne_none _)
    | cons c s =>
      rw [readInt] at h
      split_ifs at h with hsign
      · obtain ⟨m, hm, rfl⟩ := Reader.map_eq_some_iff.mp h
        obtain ⟨digits, hdigits, rfl, rfl⟩ := exists_isNumeral hm
        exact ⟨_, .negative hdigits, by rw [hsign]; rfl⟩
      · obtain ⟨digits, hdigits, rfl, heq⟩ := exists_isNumeral h
        exact ⟨_, .plain hdigits, heq⟩
  complete {w n rest} h _ hrest := by
    cases h with
    | plain h =>
      have hread := readNumeral_append h hrest
      obtain ⟨c, v, rfl⟩ := List.exists_cons_of_ne_nil h.ne_nil
      have hsign : c ≠ '-' := fun hc => by
        have hdigit := h.isDigit c (List.mem_cons_self ..)
        rw [hc] at hdigit
        exact absurd hdigit (by decide)
      exact (if_neg hsign).trans hread
    | negative h =>
      rw [List.cons_append, readInt, if_pos rfl]
      exact Reader.map_eq_some_iff.mpr ⟨_, readNumeral_append h hrest, rfl⟩

/-- Texts are read. -/
theorem reads_readText (bound : Nat) : Reads bound NoDigit readText SpellsText where
  sound := readText_eq_some_iff.mp
  complete {w _ _} h _ _ := readText_eq_some_iff.mpr ⟨w, h, rfl⟩

/-! ## Between blanks -/

/-- What is left after the blanks at the front. -/
def skipBlanks (s : List Char) : List Char := s.dropWhile isBlank

/-- What a reader reads, between blanks. -/
def readPadded (p : Reader α) : Reader α := fun s =>
  (p (skipBlanks s)).map fun r => (r.1, skipBlanks r.2)

/-- A value may begin with the character. -/
def Opens (c : Char) : Prop := isBlank c = false ∧ c ≠ ']' ∧ c ≠ '\x7d'

instance (c : Char) : Decidable (Opens c) := inferInstanceAs (Decidable (_ ∧ _ ∧ _))

/-- Whatever is spelled begins as a value may. -/
def Opening (R : List Char → α → Prop) : Prop := ∀ w a, R w a → ∃ c v, w = c :: v ∧ Opens c

/-- A blank is no digit. -/
theorem isDigit_of_isBlank (h : isBlank c = true) : c.isDigit = false := by
  simp only [isBlank, Bool.or_eq_true, beq_iff_eq] at h
  obtain ((rfl | rfl) | rfl) | rfl := h <;> rfl

/-- A value may begin with a digit. -/
theorem opens_of_isDigit (h : c.isDigit = true) : Opens c := by
  refine ⟨?_, ?_, ?_⟩
  · rw [← Bool.not_eq_true]
    exact fun hblank => absurd h (by rw [isDigit_of_isBlank hblank]; decide)
  · rintro rfl
    exact absurd h (by decide)
  · rintro rfl
    exact absurd h (by decide)

/-- Only blanks come before the front of a text. -/
theorem skipBlanks_append {b : List Char} (hb : Blanks b)
    (h : ∀ c ∈ rest.head?, isBlank c = false) : skipBlanks (b ++ rest) = rest :=
  (span_append hb h).2

/-- Blanks are passed over up to a character that is none. -/
theorem skipBlanks_append_cons {b : List Char} (hb : Blanks b) (hc : isBlank c = false) :
    skipBlanks (b ++ c :: s) = c :: s :=
  skipBlanks_append hb fun _ hd => Option.some.inj hd ▸ hc

/-- A character that is neither ends what is before it. -/
theorem punctuated_cons (hblank : isBlank c = false) (hdigit : c.isDigit = false) :
    Punctuated (c :: s) := fun _ hd => Option.some.inj hd ▸ ⟨hblank, hdigit⟩

/-- Blanks are no digits. -/
theorem noDigit_blanks_append {b : List Char} (hb : Blanks b) (h : Punctuated rest) :
    NoDigit (b ++ rest) := by
  cases b with
  | nil => exact fun c hc => (h c hc).2
  | cons d b =>
    intro c hc
    obtain rfl := Option.some.inj hc
    exact isDigit_of_isBlank (hb d (List.mem_cons_self ..))

/-- Blanks are passed over on both sides. -/
theorem reads_readPadded {bound : Nat} {p : Reader α} {R : List Char → α → Prop} (hR : Opening R)
    (h : Reads bound NoDigit p R) : Reads bound Punctuated (readPadded p) (Padded R) where
  sound {s a rest} hread := by
    obtain ⟨⟨a', t⟩, hp, heq⟩ := Option.map_eq_some_iff.mp hread
    obtain ⟨rfl, rfl⟩ := Prod.mk.inj heq
    obtain ⟨w, hw, hs⟩ := h.sound hp
    have hfront : Blanks (s.takeWhile isBlank) := fun _ => List.mem_takeWhile_imp
    have hback : Blanks (t.takeWhile isBlank) := fun _ => List.mem_takeWhile_imp
    refine ⟨_, ⟨hfront, hw, hback⟩, ?_⟩
    calc
      s.takeWhile isBlank ++ w ++ t.takeWhile isBlank ++ skipBlanks t
        = s.takeWhile isBlank ++ (w ++ (t.takeWhile isBlank ++ t.dropWhile isBlank)) := by
          rw [List.append_assoc, List.append_assoc, skipBlanks]
      _ = s := by
          rw [List.takeWhile_append_dropWhile, hs, skipBlanks, List.takeWhile_append_dropWhile]
  complete {w a rest} hw hbound hrest := by
    obtain @⟨b, v, b', _, hb, hv, hb'⟩ := hw
    have hlength : v.length ≤ bound := by
      rw [List.length_append, List.length_append] at hbound
      omega
    -- What is between the blanks ends where they begin, as they are no digits.
    have hread := h.complete hv hlength (noDigit_blanks_append hb' hrest)
    obtain ⟨c, u, rfl, hc⟩ := hR v a hv
    have hfront : skipBlanks (b ++ (c :: u ++ (b' ++ rest))) = c :: u ++ (b' ++ rest) :=
      skipBlanks_append_cons hb hc.1
    have hback : skipBlanks (b' ++ rest) = rest := skipBlanks_append hb' fun d hd => (hrest d hd).1
    rw [List.append_assoc, List.append_assoc, readPadded, hfront, hread, Option.map_some, hback]

/-! ## Lists -/

section Lists

variable {close : Char} {p : Reader α} {R : List Char → α → Prop} {bound fuel : Nat} {l : List α}

/-- The things of a list with commas between them, and what closes the list; the fuel bounds their
number. -/
def readSequence (close : Char) (p : Reader α) : Nat → Reader (List α)
  | 0, _ => none
  | fuel + 1, s =>
    (p.bind fun a t =>
      match t with
      | [] => none
      | c :: t =>
        if c = ',' then (readSequence close p fuel).map (a :: ·) t
        else if c = close then some ([a], t)
        else none) s

/-- A list after the bracket that opens it. -/
def readInside (close : Char) (p : Reader α) (fuel : Nat) : Reader (List α) := fun s =>
  match skipBlanks s with
  | [] => none
  | c :: t => if c = close then some ([], t) else readSequence close p fuel s

/-- What is read as a list with commas is one. -/
theorem exists_sequence (hp : Reads bound Punctuated p R)
    (h : readSequence close p fuel s = some (l, rest)) :
    ∃ w, Sequence R w l ∧ w ++ close :: rest = s := by
  induction fuel generalizing s l with
  | zero => exact absurd h.symm (Option.some_ne_none _)
  | succ fuel ih =>
    obtain ⟨a, t, ha, ht⟩ := Reader.bind_eq_some_iff.mp h
    obtain ⟨w, hw, rfl⟩ := hp.sound ha
    cases t with
    | nil => exact absurd ht.symm (Option.some_ne_none _)
    | cons c t =>
      dsimp only at ht
      split_ifs at ht with hcomma hclose
      · obtain ⟨more, hmore, rfl⟩ := Reader.map_eq_some_iff.mp ht
        obtain ⟨v, hv, rfl⟩ := ih hmore
        exact ⟨_, .more hw hv, by rw [hcomma, List.append_assoc, List.cons_append]⟩
      · obtain ⟨rfl, rfl⟩ := Prod.mk.inj (Option.some.inj ht)
        exact ⟨w, .last hw, by rw [hclose]⟩

/-- A list with commas is read up to what closes it. -/
theorem readSequence_append (hp : Reads bound Punctuated p R)
    (hclose : isBlank close = false ∧ close.isDigit = false ∧ close ≠ ',') (h : Sequence R w l)
    (hbound : w.length ≤ bound) (hfuel : w.length < fuel) :
    readSequence close p fuel (w ++ close :: rest) = some (l, rest) := by
  induction h generalizing fuel with
  | @last w a h =>
    obtain ⟨fuel, rfl⟩ := Nat.exists_eq_succ_of_ne_zero (Nat.ne_zero_of_lt hfuel)
    have hlast : p (w ++ close :: rest) = some (a, close :: rest) :=
      hp.complete h hbound (punctuated_cons hclose.1 hclose.2.1)
    refine Reader.bind_eq_some_iff.mpr ⟨a, _, hlast, ?_⟩
    exact (if_neg hclose.2.2).trans (if_pos rfl)
  | @more w v a l h _ ih =>
    obtain ⟨fuel, rfl⟩ := Nat.exists_eq_succ_of_ne_zero (Nat.ne_zero_of_lt hfuel)
    rw [List.length_append, List.length_cons] at hbound hfuel
    have hfirst : p (w ++ ',' :: (v ++ close :: rest)) = some (a, ',' :: (v ++ close :: rest)) :=
      hp.complete h (by omega) (punctuated_cons rfl rfl)
    rw [List.append_assoc, List.cons_append]
    refine Reader.bind_eq_some_iff.mpr ⟨a, _, hfirst, (if_pos rfl).trans ?_⟩
    exact Reader.map_eq_some_iff.mpr ⟨l, ih (by omega) (by omega), rfl⟩

/-- What is read after an opening bracket is what is inside. -/
theorem exists_inside (hp : Reads bound Punctuated p R)
    (h : readInside close p fuel s = some (l, rest)) :
    ∃ w, Inside R w l ∧ w ++ close :: rest = s := by
  rw [readInside] at h
  cases hskip : skipBlanks s with
  | nil =>
    rw [hskip] at h
    exact absurd h.symm (Option.some_ne_none _)
  | cons c t =>
    rw [hskip] at h
    dsimp only at h
    split_ifs at h with hclose
    · obtain ⟨rfl, rfl⟩ := Prod.mk.inj (Option.some.inj h)
      refine ⟨s.takeWhile isBlank, .empty fun _ => List.mem_takeWhile_imp, ?_⟩
      rw [← hclose, ← hskip]
      exact List.takeWhile_append_dropWhile
    · obtain ⟨w, hw, hs⟩ := exists_sequence hp h
      exact ⟨w, .sequence hw, hs⟩

/-- The text begins, after blanks, as a value may. -/
def Opened (s : List Char) : Prop := ∃ c t, skipBlanks s = c :: t ∧ Opens c

/-- How a text begins is not changed by what is appended. -/
theorem Opened.append (h : Opened w) (v : List Char) : Opened (w ++ v) := by
  obtain ⟨c, t, hskip, hc⟩ := h
  refine ⟨c, t ++ v, ?_, hc⟩
  rw [skipBlanks] at hskip
  rw [skipBlanks, List.dropWhile_append, hskip, List.isEmpty_cons, if_neg Bool.false_ne_true,
    List.cons_append]

/-- What is between blanks begins as a value may. -/
theorem Padded.opened {a : α} (hR : Opening R) (h : Padded R w a) :
    Opened w := by
  obtain @⟨b, v, b', _, hb, hv, -⟩ := h
  obtain ⟨c, u, rfl, hc⟩ := hR v a hv
  exact Opened.append ⟨c, u, skipBlanks_append_cons hb hc.1, hc⟩ b'

/-- A list with commas begins as a value may, if each thing in it does. -/
theorem Sequence.opened (hR : ∀ w a, R w a → Opened w) (h : Sequence R w l) : Opened w := by
  cases h with
  | last h => exact hR _ _ h
  | more h _ => exact (hR _ _ h).append _

/-- A list is read after its opening bracket. -/
theorem readInside_append (hp : Reads bound Punctuated p R) (hR : ∀ w a, R w a → Opened w)
    (hclose : close = ']' ∨ close = '\x7d') (h : Inside R w l) (hbound : w.length ≤ bound)
    (hfuel : w.length < fuel) :
    readInside close p fuel (w ++ close :: rest) = some (l, rest) := by
  have hpunctuation : isBlank close = false ∧ close.isDigit = false ∧ close ≠ ',' := by
    obtain rfl | rfl := hclose <;> decide
  cases h with
  | empty hb =>
    rw [readInside, skipBlanks_append_cons hb hpunctuation.1]
    exact if_pos rfl
  | sequence h =>
    -- What closes a list does not begin a value, so the list is not taken for an empty one.
    obtain ⟨c, t, hskip, -, hbracket, hbrace⟩ := (h.opened hR).append (close :: rest)
    have hne : c ≠ close := by
      obtain rfl | rfl := hclose
      · exact hbracket
      · exact hbrace
    rw [readInside, hskip]
    exact (if_neg hne).trans (readSequence_append hp hpunctuation h hbound hfuel)

end Lists

/-! ## Values -/

/-- A member of an object, with a reader for its value. -/
def readMember (p : Reader Json) : Reader (String × Json) :=
  (readPadded readText).bind fun key => (expect [':']).bind fun _ =>
    (readPadded p).map fun j => (key, j)

/-- A word that is a value. -/
def readWord (word : String) (j : Json) : Reader Json := (expect word.toList).map fun _ => j

/-- A value; the fuel bounds its length. -/
def readValue : Nat → Reader Json
  | 0, _ => none
  | _ + 1, [] => none
  | fuel + 1, c :: s =>
    if c = '"' then readText.map Json.text (c :: s)
    else if c = '[' then (readInside ']' (readPadded (readValue fuel)) fuel).map Json.array s
    else if c = '\x7b' then (readInside '\x7d' (readMember (readValue fuel)) fuel).map Json.object s
    else if c = 'n' then readWord "null" .null (c :: s)
    else if c = 't' then readWord "true" (.bool true) (c :: s)
    else if c = 'f' then readWord "false" (.bool false) (c :: s)
    else readInt.map Json.int (c :: s)

/-- A word is read where it stands. -/
theorem readWord_append (word : String) (j : Json) (rest : List Char) :
    readWord word j (word.toList ++ rest) = some (j, rest) :=
  Reader.map_eq_some_iff.mpr ⟨(), expect_eq_some_iff.mpr rfl, rfl⟩

/-- A text begins with its quote. -/
theorem opening_spellsText : Opening SpellsText := by
  rintro _ _ ⟨-⟩
  exact ⟨'"', _, rfl, by decide⟩

/-- A value begins as one may. -/
theorem opening_spells : Opening Spells := by
  intro w j h
  cases h with
  | null => exact ⟨'n', ['u', 'l', 'l'], rfl, by decide⟩
  | yes => exact ⟨'t', ['r', 'u', 'e'], rfl, by decide⟩
  | no => exact ⟨'f', ['a', 'l', 's', 'e'], rfl, by decide⟩
  | int h =>
    obtain ⟨c, v, rfl, rfl | hdigit⟩ := h.exists_eq_cons
    · exact ⟨'-', v, rfl, by decide⟩
    · exact ⟨c, v, rfl, opens_of_isDigit hdigit⟩
  | text h => exact opening_spellsText _ _ h
  | array _ => exact ⟨'[', _, rfl, by decide⟩
  | object _ => exact ⟨'\x7b', _, rfl, by decide⟩

/-- A member begins as a value may. -/
theorem Member.opened {R : List Char → Json → Prop} {m : String × Json} (h : Member R w m) :
    Opened w := by
  obtain ⟨hkey, -⟩ := h
  exact (hkey.opened opening_spellsText).append _

/-- Members are read if their values are. -/
theorem reads_readMember {bound : Nat} {p : Reader Json} {R : List Char → Json → Prop}
    (hR : Opening R) (h : Reads bound NoDigit p R) :
    Reads bound Punctuated (readMember p) (Member R) where
  sound {s m rest} hread := by
    obtain ⟨key, t, hkey, hread⟩ := Reader.bind_eq_some_iff.mp hread
    obtain ⟨_, t', hcolon, hread⟩ := Reader.bind_eq_some_iff.mp hread
    obtain ⟨j, hj, rfl⟩ := Reader.map_eq_some_iff.mp hread
    obtain ⟨k, hk, rfl⟩ := (reads_readPadded opening_spellsText (reads_readText bound)).sound hkey
    obtain ⟨w, hw, rfl⟩ := (reads_readPadded hR h).sound hj
    obtain rfl := expect_eq_some_iff.mp hcolon
    exact ⟨k ++ ':' :: w, .mk hk hw, by simp⟩
  complete {w m rest} hm hbound hrest := by
    obtain @⟨k, w, key, j, hkey, hw⟩ := hm
    rw [List.length_append, List.length_cons] at hbound
    have hcolon : Punctuated (':' :: (w ++ rest)) := punctuated_cons rfl rfl
    have hread := (reads_readPadded opening_spellsText (reads_readText bound)).complete hkey
      (by omega) hcolon
    rw [List.append_assoc, List.cons_append]
    refine Reader.bind_eq_some_iff.mpr ⟨key, _, hread, ?_⟩
    refine Reader.bind_eq_some_iff.mpr ⟨(), w ++ rest, expect_eq_some_iff.mpr rfl, ?_⟩
    exact Reader.map_eq_some_iff.mpr
      ⟨j, (reads_readPadded hR h).complete hw (by omega) hrest, rfl⟩

/-- What is read as a value is spelled, if this is so for shorter values. -/
theorem exists_spells {bound : Nat} {j : Json} (hp : Reads bound NoDigit (readValue bound) Spells)
    (h : readValue (bound + 1) s = some (j, rest)) : ∃ w, Spells w j ∧ w ++ rest = s := by
  cases s with
  | nil => exact absurd h.symm (Option.some_ne_none _)
  | cons c s =>
    rw [readValue] at h
    split_ifs at h with hquote hbracket hbrace hn ht hf <;>
      obtain ⟨a, ha, rfl⟩ := Reader.map_eq_some_iff.mp h
    · obtain ⟨w, hw, heq⟩ := readText_eq_some_iff.mp ha
      exact ⟨w, .text hw, heq⟩
    · obtain ⟨w, hw, rfl⟩ := exists_inside (reads_readPadded opening_spells hp) ha
      exact ⟨_, .array hw, by simp [hbracket]⟩
    · obtain ⟨w, hw, rfl⟩ := exists_inside (reads_readMember opening_spells hp) ha
      exact ⟨_, .object hw, by simp [hbrace]⟩
    · exact ⟨_, .null, expect_eq_some_iff.mp ha⟩
    · exact ⟨_, .yes, expect_eq_some_iff.mp ha⟩
    · exact ⟨_, .no, expect_eq_some_iff.mp ha⟩
    · obtain ⟨w, hw, heq⟩ := (reads_readInt bound).sound ha
      exact ⟨w, .int hw, heq⟩

/-- A value that is spelled is read, if shorter ones are. -/
theorem readValue_append {bound : Nat} {j : Json}
    (hp : Reads bound NoDigit (readValue bound) Spells) (h : Spells w j)
    (hbound : w.length ≤ bound + 1) (hrest : NoDigit rest) :
    readValue (bound + 1) (w ++ rest) = some (j, rest) := by
  cases h with
  | null => exact readWord_append "null" .null rest
  | yes => exact readWord_append "true" (.bool true) rest
  | no => exact readWord_append "false" (.bool false) rest
  | int h =>
    have hread := (reads_readInt (bound + 1)).complete h hbound hrest
    obtain ⟨c, v, rfl, hc⟩ := h.exists_eq_cons
    -- No other value begins with a sign or a digit.
    have hne (d : Char) (hsign : d ≠ '-') (hdigit : d.isDigit = false) : c ≠ d := by
      rintro rfl
      rw [hdigit] at hc
      exact hc.elim hsign Bool.false_ne_true
    rw [List.cons_append, readValue, if_neg (hne '"' (by decide) rfl),
      if_neg (hne '[' (by decide) rfl), if_neg (hne '\x7b' (by decide) rfl),
      if_neg (hne 'n' (by decide) rfl), if_neg (hne 't' (by decide) rfl),
      if_neg (hne 'f' (by decide) rfl)]
    exact Reader.map_eq_some_iff.mpr ⟨_, hread, rfl⟩
  | @text _ t h =>
    have hread : readText (w ++ rest) = some (t, rest) := readText_eq_some_iff.mpr ⟨w, h, rfl⟩
    obtain ⟨-⟩ := h
    rw [List.cons_append, List.cons_append, readValue, if_pos rfl]
    exact Reader.map_eq_some_iff.mpr ⟨_, hread, rfl⟩
  | @array w items h =>
    rw [List.length_append, List.length_cons, List.length_singleton] at hbound
    have hread : readInside ']' (readPadded (readValue bound)) bound (w ++ ']' :: rest) =
        some (items, rest) :=
      readInside_append (reads_readPadded opening_spells hp)
        (fun _ _ => Padded.opened opening_spells) (.inl rfl) h (by omega) (by omega)
    rw [List.append_assoc, List.cons_append, readValue, if_neg (by decide), if_pos rfl]
    exact Reader.map_eq_some_iff.mpr ⟨items, hread, rfl⟩
  | @object w members h =>
    rw [List.length_append, List.length_cons, List.length_singleton] at hbound
    have hread : readInside '\x7d' (readMember (readValue bound)) bound (w ++ '\x7d' :: rest) =
        some (members, rest) :=
      readInside_append (reads_readMember opening_spells hp) (fun _ _ => Member.opened) (.inr rfl) h
        (by omega) (by omega)
    rw [List.append_assoc, List.cons_append, readValue, if_neg (by decide), if_neg (by decide),
      if_pos rfl]
    exact Reader.map_eq_some_iff.mpr ⟨members, hread, rfl⟩

/-- Values are read. -/
theorem reads_readValue (bound : Nat) : Reads bound NoDigit (readValue bound) Spells := by
  induction bound with
  | zero =>
    -- Nothing is read without fuel, and no value is spelled without a character.
    refine ⟨fun h => absurd h.symm (Option.some_ne_none _), fun {w j rest} h hbound _ => ?_⟩
    obtain ⟨c, v, rfl, -⟩ := opening_spells w j h
    exact absurd hbound (Nat.not_succ_le_zero _)
  | succ bound ih => exact ⟨exists_spells ih, readValue_append ih⟩

/-- A value is read from a whole text. -/
def read? (s : List Char) : Option Json :=
  match readPadded (readValue s.length) s with
  | some (j, []) => some j
  | _ => none

/-- A value is read from a text if the text spells it. -/
theorem read?_eq_some_iff {j : Json} : read? s = some j ↔ Padded Spells s j := by
  have hreads := reads_readPadded opening_spells (reads_readValue s.length)
  constructor
  · intro h
    rw [read?] at h
    split at h
    · next j' hread =>
      obtain ⟨w, hw, rfl⟩ := hreads.sound hread
      rwa [List.append_nil, ← Option.some.inj h]
    · exact absurd h.symm (Option.some_ne_none _)
  · intro h
    have hend : Punctuated [] := fun c hc => absurd hc (Option.not_mem_none c)
    have hread := hreads.complete h (Nat.le_refl _) hend
    rw [List.append_nil] at hread
    rw [read?, hread]

/-- Surrogates are one character together. -/
example : read? " [-20, \"\\ud83d\\ude00\"] ".toList = some (.array [.int (-20), .text "😀"]) := rfl

/-- No comma is before the bracket that closes a list, and no zero in front of a digit. -/
example : read? "[1,]".toList = none ∧ read? "01".toList = none := ⟨rfl, rfl⟩

/-- A text spells one value at most. -/
theorem Padded.unique {j j' : Json} (h : Padded Spells s j) (h' : Padded Spells s j') : j = j' :=
  Option.some.inj ((read?_eq_some_iff.mpr h).symm.trans (read?_eq_some_iff.mpr h'))

end TreePlan.Json
