import Mathlib.Data.List.TakeDrop
import TreePlan.Text.Canonical

/-!
# Composing an accent

A text of plain characters with one combining character among them composes as one expects: the
character joins the one before it, if the two compose, and the rest stays (`Canonical.nfc_accent`).
-/

namespace TreePlan

/-- A number that no row of a table holds is not found between any two rows. -/
theorem searchRange_eq_none {α : Type} {table : Array α} {first last : α → Nat} {c : Nat}
    (h : ∀ row ∈ table, ¬(first row ≤ c ∧ c ≤ last row)) (lo hi : Nat) :
    searchRange table first last c lo hi = none := by
  fun_induction searchRange table first last c lo hi with
  | case1 lo hi hlt hnone => rfl
  | case2 lo hi hlt row hrow hbelow ih => exact ih
  | case3 lo hi hlt row hrow hbelow habove ih => exact ih
  | case4 lo hi hlt row hrow hbelow habove =>
    exact absurd ⟨Nat.le_of_not_lt hbelow, Nat.le_of_not_lt habove⟩
      (h row (Array.mem_of_getElem? hrow))
  | case5 lo hi hle => rfl

/-- A number that no row of a table holds is not found. -/
theorem findRange_eq_none {α : Type} {table : Array α} {first last : α → Nat} {c : Nat}
    (h : (table.toList.all fun row => c < first row ∨ last row < c) = true) :
    findRange table first last c = none := by
  refine searchRange_eq_none (fun row hrow hholds => ?_) 0 table.size
  have hrow := of_decide_eq_true (List.all_eq_true.mp h row (Array.mem_toList_iff.mpr hrow))
  omega

namespace Canonical

/-- A character below the combining ones and those that decompose. -/
def IsPlain (c : Char) : Prop := c.toNat < 0xC0

instance : DecidablePred IsPlain := fun c => inferInstanceAs (Decidable (c.toNat < 0xC0))

/-- A text of numbers below the bound is one of plain characters. -/
theorem isPlain_of_all {text : List Char} (h : text.all (·.toNat < 0xC0) = true) :
    ∀ c ∈ text, IsPlain c :=
  fun c hc => of_decide_eq_true (List.all_eq_true.mp h c hc)

/-- A plain character is a starter. -/
theorem IsPlain.combiningClass_eq {c : Char} (h : IsPlain c) : combiningClass c = 0 :=
  if_pos (Nat.lt_trans h (by decide))

/-- A character that is not split decomposes into itself. -/
theorem decompose_of_split?_eq_none {c : Char} (h : split? c.toNat = none) : decompose c = [c] := by
  rw [decompose, decomposeNat, h]
  dsimp only
  rw [List.map_singleton, Char.ofNat_toNat]

/-- A plain character decomposes into itself. -/
theorem IsPlain.decompose_eq {c : Char} (h : IsPlain c) : decompose c = [c] :=
  decompose_of_split?_eq_none (if_pos h)

/-- Nothing composes with a plain character after it. -/
theorem IsPlain.compose?_eq {c : Char} (h : IsPlain c) (n : Nat) : compose? n c.toNat = none :=
  if_pos (Nat.lt_trans h (by decide))

/-- A character after a starter is put after it, whatever its class. -/
theorem putInOrder_cons {d : Char} (hd : combiningClass d = 0) (c : Char) (reversed : List Char) :
    putInOrder (d :: reversed) c = c :: d :: reversed := by
  rw [putInOrder]
  split
  · rfl
  · rw [insertByClass, if_pos (Or.inl hd)]

/-- Plain characters are put after what stands before them. -/
theorem foldl_putInOrder {text : List Char} (h : ∀ c ∈ text, IsPlain c) (reversed : List Char) :
    text.foldl putInOrder reversed = text.reverse ++ reversed := by
  induction text generalizing reversed with
  | nil => rfl
  | cons c rest ih =>
    rw [List.forall_mem_cons] at h
    rw [List.foldl_cons, putInOrder, if_pos h.1.combiningClass_eq, ih h.2, List.reverse_cons,
      List.append_assoc]
    rfl

/-- Plain characters stay as they are after a starter. -/
theorem text_foldl_take {text : List Char} (h : ∀ c ∈ text, IsPlain c) (before : List Char)
    (starter : Char) :
    ∃ before' starter', text.foldl Composing.take ⟨before, starter, []⟩ =
        ⟨before', starter', []⟩ ∧
      (starter' :: before').reverse = (starter :: before).reverse ++ text := by
  induction text generalizing before starter with
  | nil => exact ⟨before, starter, rfl, (List.append_nil _).symm⟩
  | cons c rest ih =>
    rw [List.forall_mem_cons] at h
    have htake : Composing.take ⟨before, starter, []⟩ c = ⟨starter :: before, c, []⟩ := by
      rw [Composing.take]
      dsimp only
      rw [if_pos rfl, h.1.compose?_eq]
      dsimp only
      rw [if_pos h.1.combiningClass_eq]
      rfl
    obtain ⟨before', starter', hfold, htext⟩ := ih h.2 (starter :: before) c
    refine ⟨before', starter', ?_, ?_⟩
    · rw [List.foldl_cons, htake, hfold]
    · rw [htext, List.reverse_cons, List.append_assoc]
      rfl

/-- A text of plain characters with one combining character after a plain one is its own decomposed
form, if the combining character is not split. -/
theorem nfd_accent {before after : List Char} {base accent : Char}
    (hbefore : ∀ c ∈ before, IsPlain c) (hbase : IsPlain base) (hafter : ∀ c ∈ after, IsPlain c)
    (hsplit : split? accent.toNat = none) :
    nfd (before ++ base :: accent :: after) = before ++ base :: accent :: after := by
  have hplain {text : List Char} (h : ∀ c ∈ text, IsPlain c) : text.flatMap decompose = text := by
    induction text with
    | nil => rfl
    | cons c rest ih =>
      rw [List.forall_mem_cons] at h
      rw [List.flatMap_cons, h.1.decompose_eq, ih h.2]
      rfl
  have hput (reversed : List Char) : putInOrder reversed base = base :: reversed :=
    if_pos hbase.combiningClass_eq
  rw [nfd, List.flatMap_append, List.flatMap_cons, List.flatMap_cons, hplain hbefore, hplain hafter,
    hbase.decompose_eq, decompose_of_split?_eq_none hsplit, List.foldl_append,
    foldl_putInOrder hbefore]
  rw [List.singleton_append, List.singleton_append, List.foldl_cons, List.foldl_cons, hput,
    putInOrder_cons hbase.combiningClass_eq, foldl_putInOrder hafter]
  simp

/-- A combining character joins the plain character before it if the two compose; the plain
characters around them stay. -/
theorem composeAll_accent {before after : List Char} {base accent : Char} {composed : Nat}
    (hbefore : ∀ c ∈ before, IsPlain c) (hbase : IsPlain base) (hafter : ∀ c ∈ after, IsPlain c)
    (hcompose : compose? base.toNat accent.toNat = some composed) :
    composeAll (before ++ base :: accent :: after) = before ++ Char.ofNat composed :: after := by
  have hfront : ∀ c ∈ before ++ [base], IsPlain c := by
    intro c hc
    rcases List.mem_append.mp hc with hc | hc
    · exact hbefore c hc
    · exact List.mem_singleton.mp hc ▸ hbase
  obtain ⟨first, rest, hrest⟩ : ∃ first rest, before ++ [base] = first :: rest :=
    List.exists_cons_of_ne_nil (by simp)
  rw [hrest, List.forall_mem_cons] at hfront
  have htext : before ++ base :: accent :: after = first :: (rest ++ accent :: after) := by
    rw [← List.cons_append, ← hrest, List.append_assoc, List.singleton_append]
  -- The last starter before the combining character is the plain character before it.
  obtain ⟨before', starter, hfold, hstarter⟩ := text_foldl_take hfront.2 [] first
  rw [List.reverse_cons, List.reverse_singleton, List.singleton_append, ← hrest] at hstarter
  obtain ⟨hbefore', hbase'⟩ := List.append_inj' hstarter rfl
  obtain rfl := List.singleton_inj.mp hbase'
  have htake : Composing.take ⟨before', starter, []⟩ accent =
      ⟨before', Char.ofNat composed, []⟩ := by
    rw [Composing.take]
    dsimp only
    rw [if_pos rfl, hcompose]
  obtain ⟨before'', starter'', hfold', hstarter'⟩ :=
    text_foldl_take hafter before' (Char.ofNat composed)
  have hspan : List.span (combiningClass · ≠ 0) (first :: (rest ++ accent :: after)) =
      ([], first :: (rest ++ accent :: after)) := by
    rw [List.span, List.span.loop, hfront.1.combiningClass_eq]
    rfl
  rw [htext, composeAll, hspan]
  dsimp only
  rw [List.foldl_append, hfold, List.foldl_cons, htake, hfold', List.nil_append]
  refine hstarter'.trans ?_
  rw [List.reverse_cons, hbefore', List.append_assoc]
  rfl

/-- A combining character joins the plain character before it in the composed form if the two
compose; the plain characters around them stay. -/
theorem nfc_accent {before after : List Char} {base accent : Char} {composed : Nat}
    (hbefore : ∀ c ∈ before, IsPlain c) (hbase : IsPlain base) (hafter : ∀ c ∈ after, IsPlain c)
    (haccent : 0x300 ≤ accent.toNat) (hsplit : split? accent.toNat = none)
    (hcompose : compose? base.toNat accent.toNat = some composed) :
    nfc (before ++ base :: accent :: after) = before ++ Char.ofNat composed :: after := by
  have hall : (before ++ base :: accent :: after).all (·.toNat < 0x300) = false := by
    rw [List.all_eq_false]
    exact ⟨accent, by simp, by simpa using haccent⟩
  rw [nfc, hall, if_neg Bool.false_ne_true, nfd_accent hbefore hbase hafter hsplit,
    composeAll_accent hbefore hbase hafter hcompose]

/-! ## The acute accent -/

/-- The acute accent is not split. -/
theorem split?_acute : split? 0x301 = none := by
  have hcomposites : findRange composites (·.1) (·.1) 0x301 = none := by
    refine findRange_eq_none ?_
    simp only [composites, Array.toList_append, List.all_append, Bool.and_eq_true, and_assoc]
    refine ⟨?_, ?_, ?_, ?_⟩ <;> decide +kernel
  have hsingles : findRange singles (·.1) (·.1) 0x301 = none := by
    refine findRange_eq_none ?_
    simp only [singles, Array.toList_append, List.all_append, Bool.and_eq_true, and_assoc]
    refine ⟨?_, ?_, ?_, ?_, ?_⟩ <;> decide +kernel
  have hsplits : findRange splits (·.1) (·.1) 0x301 = none :=
    findRange_eq_none (by decide +kernel)
  rw [split?, if_neg (by decide), hcomposites, hsingles, hsplits]
  rfl

/-- An `e` and the acute accent compose. -/
theorem compose?_acute : compose? 0x65 0x301 = some 0xE9 := by
  have hrow : composites1.find? (fun row => row.2.1 = 0x65 ∧ row.2.2 = 0x301) =
      some (0xE9, 0x65, 0x301) := by decide +kernel
  rw [compose?, if_neg (by decide), if_neg (by decide), if_neg (by decide), composites,
    Array.find?_append, Array.find?_append, Array.find?_append, hrow]
  rfl

end Canonical

end TreePlan
