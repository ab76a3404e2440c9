import TreePlan.Text.Utf8

/-!
# Reading what has been written

Reading bytes as text and writing the text again gives the bytes back, as long as all of them are
valid (`encode_decodeLossy`), and what has been written is read as the text that it was written from
(`decodeLossy_encode`, `decode?_encode`). Each case of the reader is one form of a character: the
bounds on its bytes are bounds on its number, and the writer takes the number apart into the same
bytes. No byte of a character that is not ASCII is ASCII, so a text without an ASCII character is
written without its byte (`not_mem_encode`).
-/

namespace TreePlan.Utf8

/-- A byte that is a number. -/
theorem ofNat_eq {b : UInt8} {n : Nat} (h : n = b.toNat) : UInt8.ofNat n = b := by
  rw [h, UInt8.ofNat_toNat]

/-- The number of a character that is made from a number. -/
theorem toNat_val_ofNat {n : Nat} (h : n.isValidChar) : (Char.ofNat n).val.toNat = n := by
  unfold Char.ofNat
  rw [dif_pos h]
  rfl

/-- A following byte, as a number. -/
theorem isTail_iff {b : UInt8} : isTail b = true ↔ 128 ≤ b.toNat ∧ b.toNat ≤ 191 := by
  simp [isTail, UInt8.le_iff_toNat_le]

/-- A character of two bytes, as numbers. -/
theorem isPair_iff {a b : UInt8} :
    isPair a b = true ↔ (194 ≤ a.toNat ∧ a.toNat ≤ 223) ∧ 128 ≤ b.toNat ∧ b.toNat ≤ 191 := by
  simp [isPair, isTail_iff, UInt8.le_iff_toNat_le]

/-- The first two of three bytes, as numbers. -/
theorem opensTriple_iff {a b : UInt8} :
    opensTriple a b = true ↔ (224 ≤ a.toNat ∧ a.toNat ≤ 239) ∧ (128 ≤ b.toNat ∧ b.toNat ≤ 191) ∧
      (a.toNat = 224 → 160 ≤ b.toNat) ∧ (a.toNat = 237 → b.toNat ≤ 159) := by
  simp only [opensTriple, isTail, Bool.or_eq_true, Bool.and_eq_true, beq_iff_eq,
    decide_eq_true_eq, UInt8.le_iff_toNat_le, ← UInt8.toNat_inj, UInt8.toNat_ofNat]
  omega

/-- The first two of four bytes, as numbers. -/
theorem opensQuad_iff {a b : UInt8} :
    opensQuad a b = true ↔ (240 ≤ a.toNat ∧ a.toNat ≤ 244) ∧ (128 ≤ b.toNat ∧ b.toNat ≤ 191) ∧
      (a.toNat = 240 → 144 ≤ b.toNat) ∧ (a.toNat = 244 → b.toNat ≤ 143) := by
  simp only [opensQuad, isTail, Bool.or_eq_true, Bool.and_eq_true, beq_iff_eq,
    decide_eq_true_eq, UInt8.le_iff_toNat_le, ← UInt8.toNat_inj, UInt8.toNat_ofNat]
  omega

/-! ## Writing one character -/

/-- An ASCII character is written as its byte. -/
theorem encode_one {a : UInt8} (h : a.toNat < 128) :
    String.utf8EncodeChar (Char.ofNat a.toNat) = [a] := by
  unfold String.utf8EncodeChar
  rw [toNat_val_ofNat (Or.inl (by omega))]
  dsimp only
  rw [if_pos (by omega), ofNat_eq rfl]

/-- A character of two bytes is written as them. -/
theorem encode_two {a b : UInt8} (h : isPair a b = true) :
    String.utf8EncodeChar (Char.ofNat (a.toNat % 32 * 64 + tailBits b)) = [a, b] := by
  obtain ⟨ha, hb⟩ := isPair_iff.mp h
  unfold String.utf8EncodeChar tailBits
  rw [toNat_val_ofNat (Or.inl (by omega))]
  dsimp only
  rw [if_neg (by omega), if_pos (by omega), ofNat_eq (b := a) (by omega),
    ofNat_eq (b := b) (by omega)]

/-- A character of three bytes is written as them. -/
theorem encode_three {a b c : UInt8} (h : opensTriple a b = true) (hc : isTail c = true) :
    String.utf8EncodeChar (Char.ofNat ((a.toNat % 16 * 64 + tailBits b) * 64 + tailBits c)) =
      [a, b, c] := by
  have hab := opensTriple_iff.mp h
  have hc' := isTail_iff.mp hc
  have hvalid : ((a.toNat % 16 * 64 + b.toNat % 64) * 64 + c.toNat % 64).isValidChar := by
    unfold Nat.isValidChar
    omega
  unfold String.utf8EncodeChar tailBits
  rw [toNat_val_ofNat hvalid]
  dsimp only
  rw [if_neg (by omega), if_neg (by omega), if_pos (by omega), ofNat_eq (b := a) (by omega),
    ofNat_eq (b := b) (by omega), ofNat_eq (b := c) (by omega)]

/-- A character of four bytes is written as them. -/
theorem encode_four {a b c d : UInt8} (h : opensQuad a b = true) (hc : isTail c = true)
    (hd : isTail d = true) :
    String.utf8EncodeChar (Char.ofNat (((a.toNat % 8 * 64 + tailBits b) * 64 + tailBits c) * 64 +
      tailBits d)) = [a, b, c, d] := by
  have hab := opensQuad_iff.mp h
  have hc' := isTail_iff.mp hc
  have hd' := isTail_iff.mp hd
  have hvalid : (((a.toNat % 8 * 64 + b.toNat % 64) * 64 + c.toNat % 64) * 64 +
      d.toNat % 64).isValidChar := by
    unfold Nat.isValidChar
    omega
  unfold String.utf8EncodeChar tailBits
  rw [toNat_val_ofNat hvalid]
  dsimp only
  rw [if_neg (by omega), if_neg (by omega), if_neg (by omega), ofNat_eq (b := a) (by omega),
    ofNat_eq (b := b) (by omega), ofNat_eq (b := c) (by omega), ofNat_eq (b := d) (by omega)]

/-! ## Reading one character -/

section Reading

variable {a b c d : UInt8}

/-- A byte that is not ASCII. -/
theorem not_lt_of_le {a : UInt8} (h : 128 ≤ a.toNat) : ¬ a < 0x80 := by
  rw [UInt8.lt_iff_toNat_lt]
  exact Nat.not_lt.mpr h

/-- An ASCII byte is read as its character. -/
theorem scan_one (h : a < 0x80) (rest : List UInt8) :
    scan (a :: rest) = some (Char.ofNat a.toNat) :: scan rest := by
  rw [scan.eq_def]
  dsimp only
  rw [if_pos h]

/-- Two bytes that are a character are read as it. -/
theorem scan_two (h : isPair a b = true) (rest : List UInt8) :
    scan (a :: b :: rest) =
      some (Char.ofNat (a.toNat % 32 * 64 + tailBits b)) :: scan rest := by
  have hab := isPair_iff.mp h
  rw [scan.eq_def]
  dsimp only
  rw [if_neg (not_lt_of_le (by omega)), if_pos h]

/-- Three bytes that are a character are read as it. -/
theorem scan_three (h : opensTriple a b = true) (hc : isTail c = true) (rest : List UInt8) :
    scan (a :: b :: c :: rest) =
      some (Char.ofNat ((a.toNat % 16 * 64 + tailBits b) * 64 + tailBits c)) :: scan rest := by
  have hab := opensTriple_iff.mp h
  have hpair : ¬ isPair a b = true := by
    rw [isPair_iff]
    omega
  rw [scan.eq_def]
  dsimp only
  rw [if_neg (not_lt_of_le (by omega)), if_neg hpair, if_pos h, if_pos hc]

/-- Four bytes that are a character are read as it. -/
theorem scan_four (h : opensQuad a b = true) (hc : isTail c = true) (hd : isTail d = true)
    (rest : List UInt8) :
    scan (a :: b :: c :: d :: rest) =
      some (Char.ofNat (((a.toNat % 8 * 64 + tailBits b) * 64 + tailBits c) * 64 + tailBits d)) ::
        scan rest := by
  have hab := opensQuad_iff.mp h
  have hpair : ¬ isPair a b = true := by
    rw [isPair_iff]
    omega
  have htriple : ¬ opensTriple a b = true := by
    rw [opensTriple_iff]
    omega
  rw [scan.eq_def]
  dsimp only
  rw [if_neg (not_lt_of_le (by omega)), if_neg hpair, if_neg htriple, if_pos h, if_pos hc,
    if_pos hd]

end Reading

/-! ## Writing what has been read -/

/-- One character is written before the others. -/
theorem encode_cons (c : Char) (text : List Char) :
    encode (c :: text) = String.utf8EncodeChar c ++ encode text := rfl

/-- Texts are written one after the other. -/
theorem encode_append (text more : List Char) :
    encode (text ++ more) = encode text ++ encode more :=
  List.flatMap_append

/-- Texts with something between them are written one after the other. -/
theorem encode_intercalate (between : List Char) (texts : List (List Char)) :
    encode (between.intercalate texts) = (encode between).intercalate (texts.map encode) := by
  induction texts with
  | nil => rfl
  | cons text rest ih =>
    cases rest with
    | nil => rw [List.intercalate_singleton, List.map_singleton, List.intercalate_singleton]
    | cons next rest =>
      rw [List.intercalate_cons_cons, encode_append, encode_append, ih]
      exact List.intercalate_cons_cons.symm

/-- The characters of a reading, if the first of them is known. -/
theorem exists_cons_of_map_some {ch : Char} {read : List (Option Char)} {text : List Char}
    (h : some ch :: read = text.map some) : ∃ more, text = ch :: more ∧ read = more.map some := by
  obtain ⟨first, more, rfl, hfirst, hmore⟩ := List.map_eq_cons_iff.mp h.symm
  obtain rfl := Option.some.inj hfirst
  exact ⟨more, rfl, hmore.symm⟩

/-- Bytes that are read as characters are what the characters are written as. -/
theorem encode_of_scan {bytes : List UInt8} {text : List Char}
    (h : scan bytes = text.map some) : encode text = bytes := by
  -- By induction along the reader; a mark of an invalid sequence is no character.
  induction bytes using scan.induct generalizing text with
  | case1 =>
    rw [scan] at h
    rw [List.map_eq_nil_iff.mp h.symm]
    rfl
  | case2 a rest ha ih =>
    rw [scan_one ha] at h
    obtain ⟨more, rfl, hmore⟩ := exists_cons_of_map_some h
    rw [encode_cons, ih hmore, encode_one (UInt8.lt_iff_toNat_lt.mp ha)]
    rfl
  | case4 a ha b rest hb ih =>
    rw [scan_two hb] at h
    obtain ⟨more, rfl, hmore⟩ := exists_cons_of_map_some h
    rw [encode_cons, ih hmore, encode_two hb]
    rfl
  | case6 a ha b hb hopens c rest hc ih =>
    rw [scan_three hopens hc] at h
    obtain ⟨more, rfl, hmore⟩ := exists_cons_of_map_some h
    rw [encode_cons, ih hmore, encode_three hopens hc]
    rfl
  | case10 a ha b hb hopens hopens' c hc d rest hd ih =>
    rw [scan_four hopens' hc hd] at h
    obtain ⟨more, rfl, hmore⟩ := exists_cons_of_map_some h
    rw [encode_cons, ih hmore, encode_four hopens' hc hd]
    rfl
  | case3 | case5 | case7 | case8 | case9 | case11 | case12 | case13 =>
    rw [scan.eq_def] at h
    simp only [*, if_true, if_false, Bool.false_eq_true] at h
    obtain ⟨c', text, -, hc', -⟩ := List.map_eq_cons_iff.mp h.symm
    exact nomatch hc'

/-- What is read as characters alone is shown as them. -/
theorem decodeLossy_of_scan {bytes : List UInt8} {text : List Char}
    (h : scan bytes = text.map some) : decodeLossy bytes = text := by
  rw [decodeLossy, h, List.map_map]
  exact List.map_id text

/-- Bytes are valid exactly if they are read as characters alone. -/
theorem decode?_eq_some_iff {bytes : List UInt8} {text : List Char} :
    decode? bytes = some text ↔ scan bytes = text.map some := by
  unfold decode?
  generalize scan bytes = read
  constructor
  · intro h
    induction read generalizing text with
    | nil =>
      rw [List.mapM_nil] at h
      rw [← Option.some.inj h]
      rfl
    | cons c rest ih =>
      rw [List.mapM_cons] at h
      obtain ⟨a, rfl, hrest⟩ := Option.bind_eq_some_iff.mp h
      obtain ⟨text', htext', he⟩ := Option.bind_eq_some_iff.mp hrest
      rw [← Option.some.inj he, List.map_cons, ih htext']
  · rintro rfl
    induction text with
    | nil => rfl
    | cons ch text ih =>
      rw [List.map_cons, List.mapM_cons, ih]
      rfl

/-- Valid bytes are what they are read as. -/
theorem encode_decodeLossy {bytes : List UInt8} (h : (decode? bytes).isSome) :
    encode (decodeLossy bytes) = bytes := by
  obtain ⟨text, htext⟩ := Option.isSome_iff_exists.mp h
  have hscan := decode?_eq_some_iff.mp htext
  rw [decodeLossy_of_scan hscan]
  exact encode_of_scan hscan

/-! ## Reading what has been written -/

/-- A byte that is made from a small number. -/
theorem toNat_ofNat_of_lt {n : Nat} (h : n < 256) : (UInt8.ofNat n).toNat = n := by
  rw [UInt8.toNat_ofNat', Nat.mod_eq_of_lt h]

/-- A written character is read before what follows it. -/
theorem scan_utf8EncodeChar (ch : Char) (rest : List UInt8) :
    scan (String.utf8EncodeChar ch ++ rest) = some ch :: scan rest := by
  have hvalid : ch.val.toNat < 55296 ∨ 57343 < ch.val.toNat ∧ ch.val.toNat < 1114112 := ch.valid
  have hnumber {n : Nat} (h : n = ch.val.toNat) : Char.ofNat n = ch := by
    rw [h]
    exact Char.ofNat_toNat ch
  unfold String.utf8EncodeChar
  generalize ch.val.toNat = v at hvalid hnumber
  have hlow : (UInt8.ofNat (v % 64 + 128)).toNat = v % 64 + 128 := toNat_ofNat_of_lt (by omega)
  have hmiddle : (UInt8.ofNat (v / 64 % 64 + 128)).toNat = v / 64 % 64 + 128 :=
    toNat_ofNat_of_lt (by omega)
  have hhigh : (UInt8.ofNat (v / 4096 % 64 + 128)).toNat = v / 4096 % 64 + 128 :=
    toNat_ofNat_of_lt (by omega)
  dsimp only
  -- Each form of a character has its own equation, and the bits of its bytes are its number.
  split
  · have hbyte : (UInt8.ofNat v).toNat = v := toNat_ofNat_of_lt (by omega)
    have hascii : UInt8.ofNat v < 0x80 :=
      UInt8.lt_iff_toNat_lt.mpr (show (UInt8.ofNat v).toNat < 128 by omega)
    rw [List.singleton_append, scan_one hascii, hbyte, hnumber rfl]
  · split
    · have hfirst : (UInt8.ofNat (v / 64 % 32 + 192)).toNat = v / 64 % 32 + 192 :=
        toNat_ofNat_of_lt (by omega)
      rw [List.cons_append, List.singleton_append,
        scan_two (isPair_iff.mpr (by rw [hfirst, hlow]; omega))]
      unfold tailBits
      rw [hfirst, hlow, hnumber (by omega)]
    · split
      · have hfirst : (UInt8.ofNat (v / 4096 % 16 + 224)).toNat = v / 4096 % 16 + 224 :=
          toNat_ofNat_of_lt (by omega)
        rw [List.cons_append, List.cons_append, List.singleton_append,
          scan_three (opensTriple_iff.mpr (by rw [hfirst, hmiddle]; omega))
            (isTail_iff.mpr (by rw [hlow]; omega))]
        unfold tailBits
        rw [hfirst, hmiddle, hlow, hnumber (by omega)]
      · have hfirst : (UInt8.ofNat (v / 262144 % 8 + 240)).toNat = v / 262144 % 8 + 240 :=
          toNat_ofNat_of_lt (by omega)
        rw [List.cons_append, List.cons_append, List.cons_append, List.singleton_append,
          scan_four (opensQuad_iff.mpr (by rw [hfirst, hhigh]; omega))
            (isTail_iff.mpr (by rw [hmiddle]; omega)) (isTail_iff.mpr (by rw [hlow]; omega))]
        unfold tailBits
        rw [hfirst, hhigh, hmiddle, hlow, hnumber (by omega)]

/-- A written text is read as it is. -/
theorem scan_encode (text : List Char) : scan (encode text) = text.map some := by
  induction text with
  | nil => rfl
  | cons ch text ih => rw [encode_cons, scan_utf8EncodeChar, ih, List.map_cons]

/-- Every character of a written text is shown as it is. -/
theorem decodeLossy_encode (text : List Char) : decodeLossy (encode text) = text :=
  decodeLossy_of_scan (scan_encode text)

/-- A written text is valid. -/
theorem decode?_encode (text : List Char) : decode? (encode text) = some text :=
  decode?_eq_some_iff.mpr (scan_encode text)

/-- Bytes are valid exactly if they are what a text is written as. -/
theorem isSome_decode?_iff {bytes : List UInt8} :
    (decode? bytes).isSome ↔ ∃ text, bytes = encode text := by
  constructor
  · exact fun h => ⟨decodeLossy bytes, (encode_decodeLossy h).symm⟩
  · rintro ⟨text, rfl⟩
    rw [decode?_encode]
    rfl

/-! ## Bytes of a text -/

/-- An ASCII byte of a written character is the character. -/
theorem toNat_eq_of_mem_utf8EncodeChar {c : Char} {a : UInt8} (ha : a.toNat < 128)
    (h : a ∈ String.utf8EncodeChar c) : c.val.toNat = a.toNat := by
  -- All bytes of the longer forms are at least 128.
  unfold String.utf8EncodeChar at h
  dsimp only at h
  split at h
  · rw [List.mem_singleton.mp h, UInt8.toNat_ofNat']
    omega
  · split at h
    · simp only [List.mem_cons, List.not_mem_nil, or_false] at h
      rcases h with rfl | rfl <;> rw [UInt8.toNat_ofNat'] at ha <;> omega
    · split at h
      · simp only [List.mem_cons, List.not_mem_nil, or_false] at h
        rcases h with rfl | rfl | rfl <;> rw [UInt8.toNat_ofNat'] at ha <;> omega
      · simp only [List.mem_cons, List.not_mem_nil, or_false] at h
        rcases h with rfl | rfl | rfl | rfl <;> rw [UInt8.toNat_ofNat'] at ha <;> omega

/-- A text without an ASCII character has none of its bytes. -/
theorem not_mem_encode {text : List Char} {c : Char} (hc : c.val.toNat < 128) (h : c ∉ text) :
    UInt8.ofNat c.val.toNat ∉ encode text := by
  intro hmem
  obtain ⟨c', hc', hbyte⟩ := List.mem_flatMap.mp hmem
  have hbyte' : (UInt8.ofNat c.val.toNat).toNat = c.val.toNat := by
    rw [UInt8.toNat_ofNat']
    omega
  have hsame := toNat_eq_of_mem_utf8EncodeChar (by rw [hbyte']; exact hc) hbyte
  rw [hbyte'] at hsame
  have heq : c' = c := Char.ext (UInt32.toNat_inj.mp hsame)
  exact h (heq ▸ hc')

end TreePlan.Utf8
