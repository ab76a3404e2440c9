import Mathlib
import TreePlan.Glob.Braces

/-!
# What a pattern with brace groups stands for

A pattern is read from left to right, apart from how it is expanded (`Reads`): a character that
opens no group stands for itself, a group that is closed (`Group`) is a choice between patterns or,
without a comma of its own, literal text, and from a brace that is never closed on everything is
literal. What is between commas is balanced (`Balanced`), so putting it in the place of its group
opens and closes nothing else. That is what carries `expand_append`: where every group of a text is
closed in the text, the text and what follows it are expanded apart. So the expansion of a pattern
is the list of the choices of its one reading (`expand_eq_choices`).
-/

namespace TreePlan.Braces

/-! ## Groups -/

/-- A text closes each group that it opens and no other. If it must have no comma outside its
groups, the flag is off. -/
inductive Balanced : Bool → List Char → Prop
  /-- Nothing is open. -/
  | nil {commas : Bool} : Balanced commas []
  /-- A character that neither opens nor closes. -/
  | char {commas : Bool} {c : Char} {rest : List Char} (hopen : c ≠ '{') (hclose : c ≠ '}')
      (hcomma : c = ',' → commas = true) (hrest : Balanced commas rest) :
      Balanced commas (c :: rest)
  /-- A group, which may have commas. -/
  | group {commas : Bool} {inner rest : List Char} (hinner : Balanced true inner)
      (hrest : Balanced commas rest) : Balanced commas ('{' :: (inner ++ '}' :: rest))

/-- What follows an opening brace begins with the parts of a group, and goes on after it. -/
structure Group (text : List Char) (parts : List (List Char)) (rest : List Char) : Prop where
  /-- A group has a part, which may be empty. -/
  ne_nil : parts ≠ []
  /-- The parts are what is between the commas of the group itself. -/
  balanced : ∀ a ∈ parts, Balanced false a
  /-- The parts are separated by commas, and the last is followed by the closing brace. -/
  text_eq : text = [','].intercalate parts ++ '}' :: rest

/-- Every group that a text opens is closed in the text. -/
def Closed (text : List Char) : Prop :=
  ∀ before inside, text = before ++ '{' :: inside → ∃ parts rest, Group inside parts rest

/-! ## Readings -/

/-- A piece of a pattern. -/
inductive Piece where
  /-- A character for itself. -/
  | char (c : Char)
  /-- Literal text with braces. -/
  | verbatim (text : List Char)
  /-- A choice between patterns. -/
  | choice (options : List (List Piece))

/-- How a text is read, from left to right. -/
inductive Reads : List Char → List Piece → Prop
  /-- Nothing is left. -/
  | nil : Reads [] []
  /-- A character that opens no group. -/
  | char {c : Char} {rest : List Char} {pieces : List Piece} (hc : c ≠ '{')
      (hrest : Reads rest pieces) : Reads (c :: rest) (.char c :: pieces)
  /-- A group without a comma of its own. -/
  | verbatim {inside only rest : List Char} {pieces : List Piece}
      (hgroup : Group inside [only] rest) (hrest : Reads rest pieces) :
      Reads ('{' :: inside) (.verbatim ('{' :: (only ++ ['}'])) :: pieces)
  /-- A group with a comma of its own: each of its parts with how the part is read. -/
  | choice {inside rest : List Char} {options : List (List Char × List Piece)} {pieces : List Piece}
      (hgroup : Group inside (options.map (·.1)) rest) (htwo : 2 ≤ options.length)
      (hoptions : ∀ o ∈ options, Reads o.1 o.2) (hrest : Reads rest pieces) :
      Reads ('{' :: inside) (.choice (options.map (·.2)) :: pieces)
  /-- A group that is never closed, and everything in it. -/
  | unclosed {inside : List Char} (hnone : ∀ parts rest, ¬ Group inside parts rest) :
      Reads ('{' :: inside) [.verbatim ('{' :: inside)]

mutual

/-- What a piece can be. -/
def Piece.choices : Piece → List (List Char)
  | .char c => [[c]]
  | .verbatim text => [text]
  | .choice options => choicesOfAny options

/-- What pieces can be one after the other, the first varying slowest. -/
def choices : List Piece → List (List Char)
  | [] => [[]]
  | piece :: rest => piece.choices.flatMap fun x => (choices rest).map (x ++ ·)

/-- What one option can be, and then what the others can be. -/
def choicesOfAny : List (List Piece) → List (List Char)
  | [] => []
  | option :: rest => choices option ++ choicesOfAny rest

end

/-- What options can be is what each can be, in order. -/
theorem choicesOfAny_eq (options : List (List Piece)) :
    choicesOfAny options = options.flatMap choices := by
  induction options with
  | nil => rfl
  | cons option rest ih => rw [choicesOfAny, ih, List.flatMap_cons]

/-! ## Finding a group -/

variable {commas : Bool} {a p q text before inside rest only : List Char}
  {parts : List (List Char)} {depth : Nat}

/-- A closing brace ends the group. -/
theorem alternatives_close (rest : List Char) : alternatives 0 ('}' :: rest) = some ([[]], rest) :=
  rfl

/-- A comma of the group ends a part. -/
theorem alternatives_comma (rest : List Char) :
    alternatives 0 (',' :: rest) = (alternatives 0 rest).map fun r => ([] :: r.1, r.2) :=
  rfl

/-- A group inside is opened. -/
theorem alternatives_open (depth : Nat) (rest : List Char) :
    alternatives depth ('{' :: rest) =
      (alternatives (depth + 1) rest).map fun r => (consFirst '{' r.1, r.2) := by
  rw [alternatives, if_neg (by simp), if_neg (by simp)]
  rfl

/-- A group inside is closed. -/
theorem alternatives_close_inner (depth : Nat) (rest : List Char) :
    alternatives (depth + 1) ('}' :: rest) =
      (alternatives depth rest).map fun r => (consFirst '}' r.1, r.2) := by
  rw [alternatives, if_neg (by simp), if_neg (by simp)]
  rfl

/-- Any other character belongs to the part that it stands in. -/
theorem alternatives_char {c : Char} (hopen : c ≠ '{') (hclose : c ≠ '}')
    (hcomma : c = ',' → depth ≠ 0) (rest : List Char) :
    alternatives depth (c :: rest) =
      (alternatives depth rest).map fun r => (consFirst c r.1, r.2) := by
  rw [alternatives, if_neg fun h => hclose h.2, if_neg fun h => hcomma h.2 h.1]
  simp only [if_neg hopen, if_neg hclose]

/-- Balanced text adds to the first part of what follows it, and changes nothing else. Inside a
group its commas count for nothing. -/
theorem Balanced.alternatives_append (h : Balanced commas a)
    (hdepth : commas = true → depth ≠ 0) (rest : List Char) :
    alternatives depth (a ++ rest) =
      (alternatives depth rest).map fun r => (a.foldr consFirst r.1, r.2) := by
  induction h generalizing depth rest with
  | nil => exact Option.map_id'.symm
  | char hopen hclose hcomma _ ih =>
    rw [List.cons_append, alternatives_char hopen hclose fun hc => hdepth (hcomma hc), ih hdepth,
      Option.map_map]
    rfl
  | group _ _ ihinner ihrest =>
    rw [List.cons_append, List.append_assoc, List.cons_append, alternatives_open,
      ihinner fun _ => Nat.succ_ne_zero _, alternatives_close_inner, ihrest hdepth]
    simp only [Option.map_map, Function.comp_def, List.foldr_cons, List.foldr_append]

/-- Characters in front of an empty first part are that part. -/
theorem foldr_consFirst (a : List Char) (more : List (List Char)) :
    a.foldr consFirst ([] :: more) = a :: more := by
  induction a with
  | nil => rfl
  | cons c a ih => rw [List.foldr_cons, ih, consFirst]

/-- The parts of a group are found. -/
theorem Group.alternatives_eq (h : Group text parts rest) :
    alternatives 0 text = some (parts, rest) := by
  obtain ⟨hne, hbalanced, rfl⟩ := h
  induction parts with
  | nil => exact absurd rfl hne
  | cons a more ih =>
    rw [List.forall_mem_cons] at hbalanced
    cases more with
    | nil =>
      rw [List.intercalate_singleton, hbalanced.1.alternatives_append nofun, alternatives_close,
        Option.map_some, foldr_consFirst]
    | cons b more =>
      rw [List.intercalate_cons_cons, List.append_assoc, List.append_assoc, List.singleton_append,
        hbalanced.1.alternatives_append nofun, alternatives_comma,
        ih (List.cons_ne_nil _ _) hbalanced.2, Option.map_some, Option.map_some, foldr_consFirst]

/-- Where a group is found, balanced text reaches up to a closing brace. If that closes a group
inside, the group around it is found after it. -/
theorem exists_closing (h : (alternatives depth text).isSome) :
    ∃ inner rest, Balanced true inner ∧ text = inner ++ '}' :: rest ∧
      (depth ≠ 0 → (alternatives (depth - 1) rest).isSome) := by
  -- The text after a group inside is searched again, so the induction is on the length.
  induction hn : text.length using Nat.strongRecOn generalizing depth text with
  | _ n ih =>
    subst hn
    cases text with
    | nil => exact nomatch h
    | cons c tail =>
      by_cases hclose : c = '}'
      · subst hclose
        refine ⟨[], tail, .nil, rfl, fun hdepth => ?_⟩
        obtain ⟨outer, rfl⟩ := Nat.exists_eq_succ_of_ne_zero hdepth
        rwa [alternatives_close_inner, Option.isSome_map] at h
      by_cases hopen : c = '{'
      · subst hopen
        rw [alternatives_open, Option.isSome_map] at h
        obtain ⟨inner, after, hinner, rfl, hafter⟩ := ih _ (by simp) h rfl
        obtain ⟨more, rest, hmore, rfl, hrest⟩ :=
          ih after.length (by grind) (hafter (Nat.succ_ne_zero _)) rfl
        refine ⟨'{' :: (inner ++ '}' :: more), rest, .group hinner hmore, ?_, hrest⟩
        rw [List.cons_append, List.append_assoc, List.cons_append]
      · have htail : (alternatives depth tail).isSome := by
          by_cases hcomma : c = ',' → depth ≠ 0
          · rwa [alternatives_char hopen hclose hcomma, Option.isSome_map] at h
          · obtain ⟨rfl, hdepth⟩ := Classical.not_imp.mp hcomma
            obtain rfl := not_not.mp hdepth
            rwa [alternatives_comma, Option.isSome_map] at h
        obtain ⟨inner, rest, hinner, rfl, hrest⟩ := ih _ (by simp) htail rfl
        exact ⟨c :: inner, rest, .char hopen hclose (fun _ => rfl) hinner, rfl, hrest⟩

/-- Text in front of the first of several parts is in front of them all. -/
theorem intercalate_append_cons (before a : List Char) (more : List (List Char)) :
    [','].intercalate ((before ++ a) :: more) = before ++ [','].intercalate (a :: more) := by
  cases more with
  | nil => rw [List.intercalate_singleton, List.intercalate_singleton]
  | cons b more =>
    rw [List.intercalate_cons_cons, List.intercalate_cons_cons, List.append_assoc,
      List.append_assoc, List.append_assoc]

/-- Balanced text is parts with commas between them. -/
theorem Balanced.exists_parts (h : Balanced commas a) :
    ∃ parts, parts ≠ [] ∧ (∀ b ∈ parts, Balanced false b) ∧ a = [','].intercalate parts := by
  induction h with
  | nil => exact ⟨[[]], by simp, by simp [Balanced.nil], rfl⟩
  | @char commas c tail hopen hclose _ _ ih =>
    obtain ⟨parts, hne, hparts, rfl⟩ := ih
    by_cases hc : c = ','
    · refine ⟨[] :: parts, List.cons_ne_nil _ _, List.forall_mem_cons.mpr ⟨.nil, hparts⟩, ?_⟩
      rw [List.intercalate_cons_of_ne_nil hne, hc]
      rfl
    · obtain ⟨b, more, rfl⟩ := List.exists_cons_of_ne_nil hne
      rw [List.forall_mem_cons] at hparts
      exact ⟨(c :: b) :: more, List.cons_ne_nil _ _, List.forall_mem_cons.mpr
        ⟨.char hopen hclose (fun h => absurd h hc) hparts.1, hparts.2⟩,
        (intercalate_append_cons [c] b more).symm⟩
  | @group commas inner tail hinner _ _ ih =>
    obtain ⟨parts, hne, hparts, rfl⟩ := ih
    obtain ⟨b, more, rfl⟩ := List.exists_cons_of_ne_nil hne
    rw [List.forall_mem_cons] at hparts
    refine ⟨('{' :: (inner ++ '}' :: b)) :: more, List.cons_ne_nil _ _, List.forall_mem_cons.mpr
      ⟨.group hinner hparts.1, hparts.2⟩, ?_⟩
    have hfront := intercalate_append_cons ('{' :: (inner ++ ['}'])) b more
    rw [List.cons_append, List.append_assoc, List.singleton_append] at hfront
    rw [hfront, List.cons_append, List.append_assoc, List.singleton_append]

/-- A group is found exactly if there is one. -/
theorem alternatives_eq_some_iff :
    alternatives 0 text = some (parts, rest) ↔ Group text parts rest := by
  refine ⟨fun h => ?_, Group.alternatives_eq⟩
  have hsome : (alternatives 0 text).isSome := by
    rw [h]
    rfl
  obtain ⟨inner, after, hinner, htext, -⟩ := exists_closing hsome
  obtain ⟨found, hne, hfound, rfl⟩ := hinner.exists_parts
  have hgroup : Group text found after := ⟨hne, hfound, htext⟩
  obtain ⟨rfl, rfl⟩ := Prod.mk.inj (Option.some.inj (hgroup.alternatives_eq.symm.trans h))
  exact hgroup

/-- There is one group, or none. -/
theorem Group.unique {parts' : List (List Char)} {rest' : List Char} (h : Group text parts rest)
    (h' : Group text parts' rest') : parts = parts' ∧ rest = rest' :=
  Prod.mk.inj (Option.some.inj (h.alternatives_eq.symm.trans h'.alternatives_eq))

/-! ## One step of the expansion -/

theorem splitAtOpen_eq_none (h : '{' ∉ text) : splitAtOpen text = none := by
  induction text with
  | nil => rfl
  | cons c text ih =>
    rw [splitAtOpen, if_neg (List.ne_of_not_mem_cons h).symm, ih (List.not_mem_of_not_mem_cons h)]
    rfl

theorem splitAtOpen_append (h : '{' ∉ before) (inside : List Char) :
    splitAtOpen (before ++ '{' :: inside) = some (before, inside) := by
  induction before with
  | nil => rfl
  | cons c before ih =>
    rw [List.cons_append, splitAtOpen, if_neg (List.ne_of_not_mem_cons h).symm,
      ih (List.not_mem_of_not_mem_cons h)]
    rfl

/-- A text without a group stands for itself. -/
theorem expand_of_not_mem (h : '{' ∉ text) : expand text = [text] := by
  rw [expand]
  split
  · rfl
  · next hopen =>
    rw [splitAtOpen_eq_none h] at hopen
    cases hopen

/-- What the first group of a text makes of it. -/
theorem expand_open (hbefore : '{' ∉ before) (inside : List Char) :
    expand (before ++ '{' :: inside) =
      match alternatives 0 inside with
      | none => [before ++ '{' :: inside]
      | some ([only], after) => (expand after).map fun x => before ++ '{' :: only ++ '}' :: x
      | some (found, after) => found.flatMap fun a => expand (before ++ a ++ after) := by
  rw [expand]
  split
  · next hopen =>
    rw [splitAtOpen_append hbefore] at hopen
    cases hopen
  · next hopen =>
    rw [splitAtOpen_append hbefore] at hopen
    obtain ⟨rfl, rfl⟩ := Prod.mk.inj (Option.some.inj hopen)
    split
    · next hgroup => rw [hgroup]
    · next hgroup => rw [hgroup]
    · next found after hmany hgroup =>
      rw [hgroup, List.flatMap_subtype (g := fun a => expand (before ++ a ++ after)) fun _ _ => rfl,
        List.unattach_attach]
      split
      · next h => cases h
      · next h => exact (hmany _ (Prod.mk.inj (Option.some.inj h)).1).elim
      · next h =>
        obtain ⟨rfl, rfl⟩ := Prod.mk.inj (Option.some.inj h)
        rfl

/-- A text whose first group is never closed stands for itself. -/
theorem expand_unclosed (hbefore : '{' ∉ before) (hnone : ∀ parts rest, ¬ Group inside parts rest) :
    expand (before ++ '{' :: inside) = [before ++ '{' :: inside] := by
  have halternatives : alternatives 0 inside = none :=
    Option.eq_none_iff_forall_ne_some.mpr fun r hr => hnone r.1 r.2 (alternatives_eq_some_iff.mp hr)
  rw [expand_open hbefore, halternatives]

/-- A group without a comma of its own stays, and so does what is before it. -/
theorem expand_verbatim (hbefore : '{' ∉ before) (hgroup : Group inside [only] rest) :
    expand (before ++ '{' :: inside) =
      (expand rest).map fun x => before ++ '{' :: only ++ '}' :: x := by
  rw [expand_open hbefore, hgroup.alternatives_eq]

/-- A group with a comma of its own gives way to each of its parts. -/
theorem expand_choice (hbefore : '{' ∉ before) (hgroup : Group inside parts rest)
    (htwo : 2 ≤ parts.length) :
    expand (before ++ '{' :: inside) = parts.flatMap fun a => expand (before ++ a ++ rest) := by
  rw [expand_open hbefore, hgroup.alternatives_eq]
  match parts, htwo with
  | _ :: _ :: _, _ => rfl

/-! ## Texts that close their groups -/

/-- A group is there, whatever follows the text. -/
theorem Group.append (h : Group text parts rest) (q : List Char) :
    Group (text ++ q) parts (rest ++ q) :=
  ⟨h.ne_nil, h.balanced, by rw [h.text_eq, List.append_assoc, List.cons_append]⟩

/-- What follows a group is shorter than the text that has the group. -/
theorem Group.length_rest_lt (h : Group text parts rest) (before : List Char) :
    rest.length < (before ++ '{' :: text).length := by
  have hlt := length_after_lt h.alternatives_eq
  rw [List.length_append, List.length_cons]
  omega

/-- A part in the place of its group makes a text shorter. -/
theorem Group.length_part_lt (h : Group text parts rest) (ha : a ∈ parts) (before : List Char) :
    (before ++ a ++ rest).length < (before ++ '{' :: text).length := by
  have hlt := length_alternative_lt h.alternatives_eq ha
  rw [List.length_append, List.length_append, List.length_append, List.length_cons]
  omega

/-- A group is never closed, or it has one part, or it has several. -/
theorem group_cases (text : List Char) :
    (∀ parts rest, ¬ Group text parts rest) ∨ (∃ only rest, Group text [only] rest) ∨
      ∃ parts rest, Group text parts rest ∧ 2 ≤ parts.length := by
  by_cases h : ∃ parts rest, Group text parts rest
  · obtain ⟨parts, rest, hgroup⟩ := h
    match parts, hgroup with
    | [], hgroup => exact absurd rfl hgroup.ne_nil
    | [only], hgroup => exact Or.inr (Or.inl ⟨only, rest, hgroup⟩)
    | a :: b :: more, hgroup => exact Or.inr (Or.inr ⟨_, rest, hgroup, by simp⟩)
  · exact Or.inl fun parts rest hgroup => h ⟨parts, rest, hgroup⟩

/-- A text without a group closes its groups. -/
theorem closed_of_not_mem (h : '{' ∉ text) : Closed text := by
  rintro before inside rfl
  exact absurd (List.mem_append_right _ List.mem_cons_self) h

/-- What follows in a text that closes its groups does so, too. -/
theorem Closed.of_append (h : Closed (p ++ q)) : Closed q := fun before inside hq =>
  h (p ++ before) inside (by rw [hq, List.append_assoc])

/-- What follows a group in a text that closes its groups does so, too. -/
theorem Closed.of_group (h : Closed (before ++ '{' :: inside)) (hgroup : Group inside parts rest) :
    Closed rest := by
  rw [hgroup.text_eq, ← List.cons_append, ← List.append_assoc] at h
  exact Closed.of_append (p := ['}']) h.of_append

/-- A text that closes its groups and then another one close their groups. -/
theorem Closed.append (hp : Closed p) (hq : Closed q) : Closed (p ++ q) := by
  intro before inside h
  rcases List.append_eq_append_iff.mp h with ⟨front, rfl, hfront⟩ | ⟨front, rfl, hfront⟩
  · exact hq front inside hfront
  · cases front with
    | nil => exact hq [] inside hfront.symm
    | cons c front =>
      obtain ⟨rfl, rfl⟩ := List.cons.inj hfront
      obtain ⟨parts, rest, hgroup⟩ := hp before front rfl
      exact ⟨parts, rest ++ q, hgroup.append q⟩

/-- Balanced text closes its groups. -/
theorem Balanced.closed (h : Balanced commas a) : Closed a := by
  induction h with
  | nil => exact closed_of_not_mem List.not_mem_nil
  | @char commas c rest hopen _ _ _ ih =>
    have hc : Closed [c] := closed_of_not_mem (by simpa using hopen.symm)
    exact hc.append ih
  | @group commas inner rest hinner _ ihinner ih =>
    have hclose : Closed ['}'] := closed_of_not_mem (by decide)
    intro before inside h
    cases before with
    | nil =>
      obtain ⟨parts, hne, hparts, rfl⟩ := hinner.exists_parts
      exact ⟨parts, rest, hne, hparts, (List.cons.inj h).2.symm⟩
    | cons c before =>
      exact ihinner.append (hclose.append ih) before inside (List.cons.inj h).2

/-! ## Expanding a text and what follows it -/

/-- What is before any group is before every expansion. -/
theorem expand_append_of_not_mem (hp : '{' ∉ p) (q : List Char) :
    expand (p ++ q) = (expand q).map (p ++ ·) := by
  -- The induction is on the length of what follows, which each part of its first group shortens.
  induction hn : q.length using Nat.strongRecOn generalizing q with
  | _ n ih =>
    subst hn
    by_cases hq : '{' ∈ q
    · obtain ⟨before, inside, rfl, hbefore⟩ := List.eq_append_cons_of_mem hq
      have hfront : '{' ∉ p ++ before := fun h => (List.mem_append.mp h).elim hp hbefore
      rw [← List.append_assoc]
      rcases group_cases inside with hnone | ⟨only, rest, hgroup⟩ | ⟨parts, rest, hgroup, htwo⟩
      · rw [expand_unclosed hfront hnone, expand_unclosed hbefore hnone, List.map_singleton,
          List.append_assoc]
      · rw [expand_verbatim hfront hgroup, expand_verbatim hbefore hgroup, List.map_map]
        simp only [List.append_assoc, Function.comp_def]
      · rw [expand_choice hfront hgroup htwo, expand_choice hbefore hgroup htwo, List.map_flatMap]
        refine List.flatMap_congr fun a ha => ?_
        rw [List.append_assoc p, List.append_assoc p,
          ih _ (hgroup.length_part_lt ha before) (before ++ a ++ rest) rfl]
    · have hboth : '{' ∉ p ++ q := fun h => (List.mem_append.mp h).elim hp hq
      rw [expand_of_not_mem hboth, expand_of_not_mem hq, List.map_singleton]

/-- If a text closes its groups, then the text and what follows it are expanded apart, and the text
varies more slowly. -/
theorem expand_append (hp : Closed p) (q : List Char) :
    expand (p ++ q) = (expand p).flatMap fun x => (expand q).map (x ++ ·) := by
  induction hn : p.length using Nat.strongRecOn generalizing p with
  | _ n ih =>
    subst hn
    by_cases hmem : '{' ∈ p
    · obtain ⟨before, inside, rfl, hbefore⟩ := List.eq_append_cons_of_mem hmem
      rw [List.append_assoc, List.cons_append]
      rcases group_cases inside with hnone | ⟨only, rest, hgroup⟩ | ⟨parts, rest, hgroup, htwo⟩
      · obtain ⟨parts, rest, hgroup⟩ := hp before inside rfl
        exact absurd hgroup (hnone parts rest)
      · rw [expand_verbatim hbefore (hgroup.append q), expand_verbatim hbefore hgroup,
          ih _ (hgroup.length_rest_lt before) (hp.of_group hgroup) rfl, List.map_flatMap,
          List.flatMap_map]
        simp only [List.map_map, Function.comp_def, List.append_assoc, List.cons_append]
      · rw [expand_choice hbefore (hgroup.append q) htwo, expand_choice hbefore hgroup htwo,
          List.flatMap_assoc]
        -- With a part in the place of its group the text is shorter, and closes its groups still.
        refine List.flatMap_congr fun a ha => ?_
        have hfront := (closed_of_not_mem hbefore).append (hgroup.balanced a ha).closed
        rw [← List.append_assoc, ih _ (hgroup.length_part_lt ha before)
          (hfront.append (hp.of_group hgroup)) rfl]
    · rw [expand_append_of_not_mem hmem, expand_of_not_mem hmem, List.flatMap_singleton]

/-! ## Readings and expansions -/

/-- A text can be read. -/
theorem exists_reads (text : List Char) : ∃ pieces, Reads text pieces := by
  induction hn : text.length using Nat.strongRecOn generalizing text with
  | _ n ih =>
    subst hn
    cases text with
    | nil => exact ⟨[], .nil⟩
    | cons c tail =>
      by_cases hc : c = '{'
      · subst hc
        rcases group_cases tail with hnone | ⟨only, rest, hgroup⟩ | ⟨parts, rest, hgroup, htwo⟩
        · exact ⟨_, .unclosed hnone⟩
        · obtain ⟨pieces, hpieces⟩ := ih _ (hgroup.length_rest_lt []) rest rfl
          exact ⟨_, .verbatim hgroup hpieces⟩
        · obtain ⟨pieces, hpieces⟩ := ih _ (hgroup.length_rest_lt []) rest rfl
          have hparts : ∀ a ∈ parts, ∃ pieces, Reads a pieces := fun a ha => by
            have hle : a.length ≤ ([] ++ a ++ rest).length := by
              rw [List.length_append]
              exact Nat.le_add_right _ _
            exact ih _ (Nat.lt_of_le_of_lt hle (hgroup.length_part_lt ha [])) a rfl
          choose! read hread using hparts
          have hfst : (parts.map fun a => (a, read a)).map (·.1) = parts := by
            rw [List.map_map]
            exact List.map_id parts
          refine ⟨_, .choice (hfst.symm ▸ hgroup) (by rwa [List.length_map]) ?_ hpieces⟩
          exact List.forall_mem_map.mpr hread
      · obtain ⟨pieces, hpieces⟩ := ih tail.length (Nat.lt_succ_self _) tail rfl
        exact ⟨_, .char hc hpieces⟩

/-- Texts that are each read in one way are read alike. -/
theorem options_unique {options options' : List (List Char × List Piece)}
    (htexts : options.map (·.1) = options'.map (·.1))
    (honly : ∀ o ∈ options, ∀ pieces, Reads o.1 pieces → o.2 = pieces)
    (hreads : ∀ o ∈ options', Reads o.1 o.2) : options = options' := by
  induction options generalizing options' with
  | nil => exact (List.map_eq_nil_iff.mp htexts.symm).symm
  | cons o rest ih =>
    cases options' with
    | nil => exact nomatch htexts
    | cons o' rest' =>
      rw [List.forall_mem_cons] at honly hreads
      obtain ⟨htext : o.1 = o'.1, htexts⟩ := List.cons.inj htexts
      have hpieces := honly.1 o'.2 (by rw [htext]; exact hreads.1)
      rw [Prod.ext htext hpieces, ih htexts honly.2 hreads.2]

/-- A text is read in one way. -/
theorem Reads.unique {pieces pieces' : List Piece} (h : Reads text pieces)
    (h' : Reads text pieces') : pieces = pieces' := by
  induction h generalizing pieces' with
  | nil =>
    cases h'
    rfl
  | char hc _ ih =>
    cases h' with
    | char _ hrest => rw [ih hrest]
    | verbatim | choice | unclosed => exact absurd rfl hc
  | verbatim hgroup _ ih =>
    cases h' with
    | char hc => exact absurd rfl hc
    | verbatim hgroup' hrest =>
      obtain ⟨honly, rfl⟩ := hgroup.unique hgroup'
      rw [List.singleton_inj.mp honly, ih hrest]
    | choice hgroup' htwo =>
      have hlength := congrArg List.length (hgroup.unique hgroup').1
      rw [List.length_map, List.length_singleton] at hlength
      omega
    | unclosed hnone => exact absurd hgroup (hnone _ _)
  | choice hgroup htwo _ _ ihoptions ih =>
    cases h' with
    | char hc => exact absurd rfl hc
    | verbatim hgroup' =>
      have hlength := congrArg List.length (hgroup.unique hgroup').1
      rw [List.length_map, List.length_singleton] at hlength
      omega
    | choice hgroup' _ hoptions' hrest =>
      obtain ⟨htexts, rfl⟩ := hgroup.unique hgroup'
      rw [options_unique htexts (fun o ho _ hreads => ihoptions o ho hreads) hoptions', ih hrest]
    | unclosed hnone => exact absurd hgroup (hnone _ _)
  | unclosed hnone =>
    cases h' with
    | char hc => exact absurd rfl hc
    | verbatim hgroup | choice hgroup => exact absurd hgroup (hnone _ _)
    | unclosed => rfl

/-- A text is expanded to the choices that its reading leaves. -/
theorem Reads.expand_eq {pieces : List Piece} (h : Reads text pieces) :
    expand text = choices pieces := by
  induction h with
  | nil => exact expand_of_not_mem List.not_mem_nil
  | @char c rest pieces hc _ ih =>
    have hmem : '{' ∉ [c] := fun h => hc (List.mem_singleton.mp h).symm
    rw [← List.singleton_append, expand_append_of_not_mem hmem, ih, choices, Piece.choices,
      List.flatMap_singleton]
  | @verbatim inside only rest pieces hgroup _ ih =>
    refine (expand_verbatim (List.not_mem_nil (a := '{')) hgroup).trans ?_
    rw [ih, choices, Piece.choices, List.flatMap_singleton]
    simp only [List.nil_append, List.cons_append, List.append_assoc]
  | @choice inside rest options pieces hgroup htwo _ _ ihoptions ih =>
    refine (expand_choice (List.not_mem_nil (a := '{')) hgroup (by rwa [List.length_map])).trans ?_
    rw [choices, Piece.choices, choicesOfAny_eq, List.flatMap_map, List.flatMap_map,
      List.flatMap_assoc]
    -- A part is balanced, so it is expanded apart from what follows the group.
    refine List.flatMap_congr fun o ho => ?_
    have hclosed := (hgroup.balanced o.1 (List.mem_map_of_mem ho)).closed
    rw [List.nil_append, expand_append hclosed, ihoptions o ho, ih]
  | @unclosed inside hnone =>
    refine (expand_unclosed (List.not_mem_nil (a := '{')) hnone).trans ?_
    rw [choices, choices, Piece.choices, List.flatMap_singleton, List.map_singleton,
      List.nil_append, List.append_nil]

/-- Expansion is what the grammar says. A pattern is read in one way, and its expansion is the list
of the choices that this leaves, in order. If every group of a text is closed in it, the text and
what follows it are expanded apart, the text varying more slowly, and a group with commas of its own
is expanded to the expansions of its parts, one after the other. -/
theorem expandText_eq_choices :
    (∀ pattern : String, ∃ pieces, (∀ other, Reads pattern.toList other ↔ other = pieces) ∧
      expandText pattern = (choices pieces).map String.ofList) ∧
    (∀ p q : String, Closed p.toList →
      expandText (p ++ q) = (expandText p).flatMap fun x => (expandText q).map (x ++ ·)) ∧
    (∀ parts : List String, 2 ≤ parts.length → (∀ a ∈ parts, Balanced false a.toList) →
      expandText ("\x7b" ++ ",".intercalate parts ++ "\x7d") = parts.flatMap expandText) := by
  refine ⟨fun pattern => ?_, fun p q hp => ?_, fun parts htwo hbalanced => ?_⟩
  · obtain ⟨pieces, hpieces⟩ := exists_reads pattern.toList
    refine ⟨pieces, fun other => ⟨fun h => h.unique hpieces, fun h => h ▸ hpieces⟩, ?_⟩
    rw [expandText, hpieces.expand_eq]
  · rw [expandText, expandText, expandText, String.toList_append, expand_append hp,
      List.map_flatMap, List.flatMap_map]
    simp only [List.map_map, Function.comp_def, String.ofList_append]
  · have hgroup : Group ([','].intercalate (parts.map String.toList) ++ '}' :: [])
        (parts.map String.toList) [] := by
      refine ⟨fun hnil => ?_, List.forall_mem_map.mpr hbalanced, rfl⟩
      rw [List.map_eq_nil_iff.mp hnil] at htwo
      exact absurd htwo (by decide)
    have hexpand := expand_choice (List.not_mem_nil (a := '{')) hgroup (by rwa [List.length_map])
    rw [expandText, String.toList_append, String.toList_append, String.toList_intercalate,
      List.append_assoc]
    refine (congrArg (List.map String.ofList) hexpand).trans ?_
    rw [List.flatMap_map, List.map_flatMap]
    refine List.flatMap_congr fun a _ => ?_
    rw [List.nil_append, List.append_nil, expandText]

end TreePlan.Braces
