import Mathlib.Data.List.Infix
import TreePlan.Path.Normal

/-!
# Absolute paths by their names

An absolute path in normal form is determined by its names: `rooted` puts a separator in front of
each. A name is plain if it stands for itself as a component (`Path.Plain`), that is, if it is
neither empty nor `.` nor `..`, and no separator is in it. Every absolute path has such a normal
form (`normalize_of_isAbsolute`), so everything that is asked of an absolute path in normal form can
be read off its names: its components (`components_rooted`), what is at or above it
(`startsWith_rooted`), its parent and its last name (`parent?_rooted`, `fileName?_rooted`), and the
path of a child (`push_rooted`).

A relative path has no root among its components (`isAbsolute_of_root_mem`), and it stays relative
when a name is pushed onto it (`isAbsolute_push`).
-/

namespace TreePlan.Path

/-- A name that stands for itself as a component. -/
structure Plain (name : List UInt8) : Prop where
  /-- No separator is in it. -/
  separator_not_mem : separator ∉ name
  /-- It is not skipped, and it is not `..`. -/
  ofName?_eq : Component.ofName? name = some (.normal name)

instance (name : List UInt8) : Decidable (Plain name) :=
  decidable_of_iff (separator ∉ name ∧ Component.ofName? name = some (.normal name))
    ⟨fun h => ⟨h.1, h.2⟩, fun h => ⟨h.1, h.2⟩⟩

/-- A path that spells names with a separator in front of each. -/
def spell (names : List (List UInt8)) : Path := ⟨names.flatMap (separator :: ·)⟩

/-- The absolute path with names; the root if there is none. -/
def rooted (names : List (List UInt8)) : Path :=
  if names = [] then ⟨[separator]⟩ else spell names

/-! ## Names -/

/-- A plain name is not empty. -/
theorem Plain.ne_nil {name : List UInt8} (h : Plain name) : name ≠ [] := by
  rintro rfl
  exact nomatch h.ofName?_eq

/-- A plain name is not `.`. -/
theorem Plain.ne_dot {name : List UInt8} (h : Plain name) : name ≠ [dot] := by
  rintro rfl
  exact nomatch h.ofName?_eq

/-- A plain name is not `..`. -/
theorem Plain.ne_dotDot {name : List UInt8} (h : Plain name) : name ≠ [dot, dot] := by
  rintro rfl
  exact nomatch h.ofName?_eq

/-- A name that lies between two separators without being skipped as empty. -/
structure Solid (name : List UInt8) : Prop where
  /-- It has a byte. -/
  ne_nil : name ≠ []
  /-- No separator is in it. -/
  separator_not_mem : separator ∉ name

/-- A plain name is solid. -/
theorem Plain.solid {name : List UInt8} (h : Plain name) : Solid name :=
  ⟨h.ne_nil, h.separator_not_mem⟩

/-- The names between the separators of a path have no separators. -/
theorem separator_not_mem_of_mem_names {bytes name : List UInt8} (h : name ∈ names bytes) :
    separator ∉ name := by
  induction bytes generalizing name with
  | nil =>
    rw [names, List.mem_singleton] at h
    rw [h]
    exact List.not_mem_nil
  | cons a rest ih =>
    rw [names] at h
    split at h
    · rcases List.mem_cons.mp h with rfl | h
      · exact List.not_mem_nil
      · exact ih h
    · rename_i ha
      split at h
      · rw [List.mem_singleton.mp h, List.mem_singleton]
        exact Ne.symm ha
      · rename_i first more hnames
        rw [hnames] at ih
        rcases List.mem_cons.mp h with rfl | h
        · rw [List.mem_cons, not_or]
          exact ⟨Ne.symm ha, ih List.mem_cons_self⟩
        · exact ih (List.mem_cons_of_mem first h)

/-- There is always a name. -/
theorem names_ne_nil (bytes : List UInt8) : names bytes ≠ [] := by
  cases bytes with
  | nil => exact List.cons_ne_nil _ _
  | cons a rest =>
    rw [names]
    split
    · exact List.cons_ne_nil _ _
    · split <;> exact List.cons_ne_nil _ _

/-- A name in front of a path is put in front of its first name. -/
theorem names_append {name bytes first : List UInt8} {more : List (List UInt8)}
    (hname : separator ∉ name) (h : names bytes = first :: more) :
    names (name ++ bytes) = (name ++ first) :: more := by
  induction name with
  | nil => exact h
  | cons a rest ih =>
    rw [List.mem_cons, not_or] at hname
    rw [List.cons_append, names, if_neg (Ne.symm hname.1), ih hname.2]
    rfl

/-- A name without a separator is the only one. -/
theorem names_of_not_mem {name : List UInt8} (h : separator ∉ name) : names name = [name] := by
  have hnames := names_append h (show names [] = [[]] from rfl)
  rwa [List.append_nil] at hnames

/-- The names of a path that spells names, after the empty one in front. -/
theorem names_spell {l : List (List UInt8)} (h : ∀ n ∈ l, separator ∉ n) :
    names (spell l).bytes = [] :: l := by
  induction l with
  | nil => rfl
  | cons n rest ih =>
    rw [List.forall_mem_cons] at h
    have hrest := names_append h.1 (ih h.2)
    rw [List.append_nil] at hrest
    rw [show (spell (n :: rest)).bytes = separator :: (n ++ (spell rest).bytes) from rfl, names,
      if_pos rfl, hrest]

/-! ## Components -/

/-- The components of names are those of each name. -/
theorem map_component_spansFrom (offset : Nat) (l : List (List UInt8)) :
    (spansFrom offset l).map (·.component) = l.filterMap Component.ofName? := by
  induction l generalizing offset with
  | nil => rfl
  | cons n rest ih =>
    rw [spansFrom, List.filterMap_cons]
    split
    · rename_i hn
      rw [hn]
      exact ih _
    · rename_i c hn
      rw [hn, List.map_cons, ih]

/-- The places of the components of a path with a separator in front. -/
theorem spans_of_names {p : Path} {l : List (List UInt8)} (h : names p.bytes = [] :: l)
    (hl : l ≠ []) : p.spans = ⟨.root, 0, 1⟩ :: spansFrom 1 l := by
  unfold spans
  rw [h]
  dsimp only
  rw [if_pos rfl, if_neg hl]
  rfl

/-- The components of a path with a separator in front. -/
theorem components_of_names {p : Path} {l : List (List UInt8)} (h : names p.bytes = [] :: l)
    (hl : l ≠ []) : p.components = .root :: l.filterMap Component.ofName? := by
  rw [components, spans_of_names h hl, List.map_cons, map_component_spansFrom]

/-- Plain names are components as they stand. -/
theorem filterMap_ofName? {l : List (List UInt8)} (h : ∀ n ∈ l, Plain n) :
    l.filterMap Component.ofName? = l.map .normal := by
  rw [← List.filterMap_eq_map]
  exact List.filterMap_congr fun n hn => (h n hn).ofName?_eq

/-- The components of an absolute path in normal form are its names. -/
theorem components_rooted {l : List (List UInt8)} (h : ∀ n ∈ l, Plain n) :
    (rooted l).components = .root :: l.map .normal := by
  unfold rooted
  split
  · rename_i hl
    rw [hl]
    decide
  · rename_i hl
    have hnames := names_spell fun n hn => (h n hn).separator_not_mem
    rw [components_of_names hnames hl, filterMap_ofName? h]

/-- A name that is a component is plain. -/
theorem plain_of_ofName? {n : List UInt8} {c : Component} (h : Component.ofName? n = some c)
    (hn : separator ∉ n) : c = .parent ∨ ∃ name, c = .normal name ∧ Plain name := by
  unfold Component.ofName? at h
  split at h
  · exact nomatch h
  · split at h
    · exact nomatch h
    · split at h
      · exact Or.inl (Option.some.inj h).symm
      · rename_i h₁ h₂ h₃
        refine Or.inr ⟨n, (Option.some.inj h).symm, hn, ?_⟩
        unfold Component.ofName?
        rw [if_neg h₁, if_neg h₂, if_neg h₃]

/-! ## Children -/

/-- A name without a separator is a relative path. -/
theorem isAbsolute_of_not_mem {name : List UInt8} (h : separator ∉ name) :
    isAbsolute ⟨name⟩ = false := by
  rw [isAbsolute, beq_eq_false_iff_ne]
  exact fun hfirst => h (List.mem_of_mem_head? hfirst)

/-- A plain name is a relative path. -/
theorem Plain.isAbsolute_eq {n : List UInt8} (h : Plain n) : isAbsolute ⟨n⟩ = false :=
  isAbsolute_of_not_mem h.separator_not_mem

/-- What spells names and one more name. -/
theorem spell_append_singleton (l : List (List UInt8)) (n : List UInt8) :
    spell (l ++ [n]) = ⟨(spell l).bytes ++ separator :: n⟩ := by
  rw [spell, List.flatMap_append, List.flatMap_singleton]
  rfl

/-- The absolute path with at least one name. -/
theorem rooted_of_ne_nil {l : List (List UInt8)} (h : l ≠ []) : rooted l = spell l := if_neg h

/-- A path that spells solid names ends with no separator. -/
theorem getLast?_spell {l : List (List UInt8)} (h : ∀ n ∈ l, Solid n) :
    (spell l).bytes.getLast? ≠ some separator := by
  rcases List.eq_nil_or_concat l with rfl | ⟨before, n, rfl⟩
  · exact nofun
  · have hn := h n (by simp)
    rw [List.concat_eq_append, spell_append_singleton, List.getLast?_append_cons,
      List.getLast?_cons_of_ne_nil hn.ne_nil]
    exact fun hlast => hn.separator_not_mem (List.mem_of_getLast? hlast)

/-- An absolute path in normal form with one more name. -/
theorem push_rooted {l : List (List UInt8)} {n : List UInt8} (h : ∀ m ∈ l, Plain m)
    (hn : Plain n) : (rooted l).push ⟨n⟩ = rooted (l ++ [n]) := by
  rw [push, hn.isAbsolute_eq, if_neg Bool.false_ne_true, rooted_of_ne_nil (l := l ++ [n]) (by simp)]
  by_cases hl : l = []
  · rw [hl, if_pos (show (rooted []).bytes = [] ∨ (rooted []).bytes.getLast? = some separator from
      Or.inr rfl), spell_append_singleton]
    rfl
  · have hbytes : (spell l).bytes ≠ [] := by
      cases l with
      | nil => exact absurd rfl hl
      | cons => exact List.cons_ne_nil _ _
    rw [rooted_of_ne_nil hl,
      if_neg (not_or.mpr ⟨hbytes, getLast?_spell fun m hm => (h m hm).solid⟩),
      spell_append_singleton]

/-! ## Normal forms -/

/-- Names pushed onto an absolute path in normal form are added to its names. -/
theorem foldl_push_rooted (more : List (List UInt8)) {l : List (List UInt8)}
    (h : ∀ n ∈ l ++ more, Plain n) :
    (more.map Component.normal).foldl (fun p c => p.push ⟨c.bytes⟩) (rooted l) =
      rooted (l ++ more) := by
  induction more generalizing l with
  | nil =>
    rw [List.append_nil]
    rfl
  | cons n more ih =>
    have hn : Plain n := h n (by simp)
    rw [List.map_cons, List.foldl_cons,
      show (Component.normal n).bytes = n from rfl,
      push_rooted (fun m hm => h m (List.mem_append_left _ hm)) hn, ih (by simpa using h),
      List.append_assoc, List.singleton_append]

/-- The path that the root and plain names spell. -/
theorem ofComponents_root {l : List (List UInt8)} (h : ∀ n ∈ l, Plain n) :
    ofComponents (.root :: l.map .normal) = rooted l :=
  foldl_push_rooted l (l := []) h

/-- A `..` takes the last name away, if there is one. -/
theorem step_parent (l : List (List UInt8)) :
    step (.root :: l.map .normal).reverse .parent = (.root :: l.dropLast.map .normal).reverse := by
  rcases List.eq_nil_or_concat l with rfl | ⟨before, n, rfl⟩
  · rfl
  · rw [List.concat_eq_append, List.map_append, ← List.cons_append, List.reverse_append,
      List.dropLast_concat]
    rfl

/-- What a step makes of the root and plain names, last first: again the root and plain names. -/
theorem step_root {l : List (List UInt8)} (h : ∀ n ∈ l, Plain n) {c : Component}
    (hc : c = .parent ∨ ∃ name, c = .normal name ∧ Plain name) :
    ∃ l' : List (List UInt8), (∀ n ∈ l', Plain n) ∧
      step (.root :: l.map .normal).reverse c = (.root :: l'.map .normal).reverse := by
  rcases hc with rfl | ⟨name, rfl, hname⟩
  · exact ⟨l.dropLast, fun n hn => h n (List.mem_of_mem_dropLast hn), step_parent l⟩
  · refine ⟨l ++ [name], fun n hn => ?_, ?_⟩
    · rcases List.mem_append.mp hn with hn | hn
      · exact h n hn
      · exact List.mem_singleton.mp hn ▸ hname
    · rw [List.map_append, ← List.cons_append, List.reverse_append]
      rfl

/-- What steps make of the root and plain names, last first: again the root and plain names. -/
theorem foldl_step_root (cs : List Component) {l : List (List UInt8)} (h : ∀ n ∈ l, Plain n)
    (hcs : ∀ c ∈ cs, c = .parent ∨ ∃ name, c = .normal name ∧ Plain name) :
    ∃ l' : List (List UInt8), (∀ n ∈ l', Plain n) ∧
      cs.foldl step (.root :: l.map .normal).reverse = (.root :: l'.map .normal).reverse := by
  induction cs generalizing l with
  | nil => exact ⟨l, h, rfl⟩
  | cons c cs ih =>
    rw [List.forall_mem_cons] at hcs
    obtain ⟨l₁, hl₁, hstep⟩ := step_root h hcs.1
    rw [List.foldl_cons, hstep]
    exact ih hl₁ hcs.2

/-- An absolute path has an empty name in front of others. -/
theorem names_of_isAbsolute {p : Path} (h : p.isAbsolute = true) :
    ∃ l, l ≠ [] ∧ names p.bytes = [] :: l := by
  obtain ⟨bytes⟩ := p
  cases bytes with
  | nil => exact nomatch h
  | cons a rest =>
    have ha : a = separator := by simpa [isAbsolute] using h
    exact ⟨names rest, names_ne_nil rest, by rw [names, if_pos ha]⟩

/-- The components of an absolute path are the root, and then names and `..`. -/
theorem components_of_isAbsolute {p : Path} (h : p.isAbsolute = true) :
    ∃ cs, p.components = .root :: cs ∧
      ∀ c ∈ cs, c = .parent ∨ ∃ name, c = .normal name ∧ Plain name := by
  obtain ⟨l, hl, hnames⟩ := names_of_isAbsolute h
  refine ⟨_, components_of_names hnames hl, fun c hc => ?_⟩
  obtain ⟨n, hn, hofName⟩ := List.mem_filterMap.mp hc
  have hmem : n ∈ names p.bytes := by
    rw [hnames]
    exact List.mem_cons_of_mem _ hn
  exact plain_of_ofName? hofName (separator_not_mem_of_mem_names hmem)

/-- An absolute path has a normal form that plain names determine. -/
theorem normalize_of_isAbsolute {p : Path} (h : p.isAbsolute = true) :
    ∃ l, (∀ n ∈ l, Plain n) ∧ p.normalize = rooted l := by
  obtain ⟨cs, hcomponents, hcs⟩ := components_of_isAbsolute h
  obtain ⟨l, hl, hfold⟩ := foldl_step_root cs (l := []) nofun hcs
  refine ⟨l, hl, ?_⟩
  have hnormal : p.normalComponents = .root :: l.map .normal := by
    rw [normalComponents, hcomponents, List.foldl_cons]
    exact (congrArg List.reverse hfold).trans (List.reverse_reverse _)
  rw [normalize, hnormal]
  exact ofComponents_root hl

/-- Steps put plain names after each other. -/
theorem foldl_step_normal (l : List (List UInt8)) (stack : List Component) :
    (l.map Component.normal).foldl step stack = (l.map Component.normal).reverse ++ stack := by
  induction l generalizing stack with
  | nil => rfl
  | cons n l ih =>
    rw [List.map_cons, List.foldl_cons, ih, List.reverse_cons, List.append_assoc]
    rfl

/-- A normal form is its own. -/
theorem normalize_rooted {l : List (List UInt8)} (h : ∀ n ∈ l, Plain n) :
    (rooted l).normalize = rooted l := by
  have hnormal : (rooted l).normalComponents = .root :: l.map .normal := by
    rw [normalComponents, components_rooted h, List.foldl_cons, foldl_step_normal]
    rw [List.reverse_append, List.reverse_reverse]
    rfl
  rw [normalize, hnormal]
  exact ofComponents_root h

/-- An absolute path in normal form is absolute. -/
theorem isAbsolute_rooted (l : List (List UInt8)) : (rooted l).isAbsolute = true := by
  cases l <;> rfl

/-- The names of an absolute path in normal form are determined by its components. -/
theorem names_eq_of_components {l l' : List (List UInt8)} (h : ∀ n ∈ l, Plain n)
    (h' : ∀ n ∈ l', Plain n) (he : (rooted l).components = (rooted l').components) : l = l' := by
  rw [components_rooted h, components_rooted h'] at he
  exact List.map_injective_iff.mpr (fun _ _ => Component.normal.inj) (List.cons.inj he).2

/-- The names of an absolute path in normal form are determined by it. -/
theorem rooted_injective {l l' : List (List UInt8)} (h : ∀ n ∈ l, Plain n)
    (h' : ∀ n ∈ l', Plain n) (he : rooted l = rooted l') : l = l' :=
  names_eq_of_components h h' (congrArg components he)

/-! ## Relative paths -/

/-- Only an absolute path has an empty name in front of others. -/
theorem isAbsolute_of_names {p : Path} {l : List (List UInt8)} (h : names p.bytes = [] :: l)
    (hl : l ≠ []) : p.isAbsolute = true := by
  obtain ⟨bytes⟩ := p
  cases bytes with
  | nil => exact absurd (List.cons.inj h).2.symm hl
  | cons a rest =>
    dsimp only at h
    rw [names] at h
    split at h
    · rename_i ha
      rw [ha]
      rfl
    · split at h <;> exact nomatch h

/-- No separator is in the components that names are read as. -/
theorem separator_not_mem_of_mem_spansFrom {offset : Nat} {l : List (List UInt8)}
    (hl : ∀ n ∈ l, separator ∉ n) {c : Component}
    (hc : c ∈ (spansFrom offset l).map (·.component)) : separator ∉ c.bytes := by
  rw [map_component_spansFrom] at hc
  obtain ⟨n, hn, hofName⟩ := List.mem_filterMap.mp hc
  rcases plain_of_ofName? hofName (hl n hn) with rfl | ⟨name, rfl, hname⟩
  · decide
  · exact hname.separator_not_mem

/-- No separator is in the components of a relative path. -/
theorem separator_not_mem_of_mem_components {p : Path} (h : p.isAbsolute = false) {c : Component}
    (hc : c ∈ p.components) : separator ∉ c.bytes := by
  have hall (n : List UInt8) (hn : n ∈ names p.bytes) : separator ∉ n :=
    separator_not_mem_of_mem_names hn
  unfold components spans at hc
  split at hc
  · exact absurd hc List.not_mem_nil
  · rename_i first rest hnames
    rw [hnames, List.forall_mem_cons] at hall
    dsimp only at hc
    split at hc
    · -- An empty name in front of others is that of an absolute path.
      rename_i hfirst
      split at hc
      · exact absurd hc List.not_mem_nil
      · rename_i hrest
        rw [isAbsolute_of_names (hfirst ▸ hnames) hrest] at h
        exact absurd h.symm Bool.false_ne_true
    · split at hc
      · rcases List.mem_cons.mp hc with rfl | hc
        · decide
        · exact separator_not_mem_of_mem_spansFrom hall.2 hc
      · rw [List.map_append, List.mem_append] at hc
        rcases hc with hc | hc
        · exact separator_not_mem_of_mem_spansFrom (List.forall_mem_singleton.mpr hall.1) hc
        · exact separator_not_mem_of_mem_spansFrom hall.2 hc

/-- A path with the root as a component is absolute. -/
theorem isAbsolute_of_root_mem {p : Path} (h : .root ∈ p.components) : p.isAbsolute = true := by
  cases habsolute : p.isAbsolute with
  | true => rfl
  | false => exact absurd List.mem_cons_self (separator_not_mem_of_mem_components habsolute h)

/-- What is pushed onto a relative path without a separator leaves it relative. -/
theorem isAbsolute_push {p : Path} (h : p.isAbsolute = false) {bytes : List UInt8}
    (hbytes : separator ∉ bytes) : (p.push ⟨bytes⟩).isAbsolute = false := by
  have hrelative : isAbsolute ⟨bytes⟩ = false := isAbsolute_of_not_mem hbytes
  rw [push, hrelative, if_neg Bool.false_ne_true]
  obtain ⟨first⟩ := p
  cases first with
  | nil => exact hrelative
  | cons a rest => split <;> exact h

/-! ## Paths at or below others -/

/-- A path is at or below itself. -/
theorem startsWith_self (p : Path) : p.startsWith p = true := by
  rw [startsWith, List.isPrefixOf_iff_prefix]

/-- What is at or below a path is at or below what that is below. -/
theorem startsWith_trans {p q r : Path} (h : p.startsWith q = true) (h' : q.startsWith r = true) :
    p.startsWith r = true := by
  rw [startsWith, List.isPrefixOf_iff_prefix] at h h' ⊢
  exact h'.trans h

/-- A path in normal form is at or below another if its names begin with those of the other. -/
theorem startsWith_rooted {l l' : List (List UInt8)} (h : ∀ n ∈ l, Plain n)
    (h' : ∀ n ∈ l', Plain n) : (rooted l).startsWith (rooted l') = true ↔ l' <+: l := by
  rw [startsWith, components_rooted h, components_rooted h', List.isPrefixOf_iff_prefix,
    List.cons_prefix_cons,
    List.prefix_map_iff_of_injective fun _ _ => Component.normal.inj]
  exact and_iff_right rfl

/-! ## The last name -/

/-- The length of a path that spells names. -/
theorem length_spell_cons (n : List UInt8) (l : List (List UInt8)) :
    (spell (n :: l)).bytes.length = n.length + 1 + (spell l).bytes.length := by
  rw [spell, List.flatMap_cons, List.length_append]
  rfl

/-- The places of the components of names and more names. -/
theorem spansFrom_append (offset : Nat) (l more : List (List UInt8)) :
    spansFrom offset (l ++ more) =
      spansFrom offset l ++ spansFrom (offset + (spell l).bytes.length) more := by
  induction l generalizing offset with
  | nil => rfl
  | cons m l ih =>
    rw [List.cons_append, spansFrom.eq_def offset (m :: (l ++ more)),
      spansFrom.eq_def offset (m :: l)]
    dsimp only
    rw [ih, length_spell_cons, show offset + m.length + 1 + (spell l).bytes.length =
      offset + (m.length + 1 + (spell l).bytes.length) by omega]
    cases Component.ofName? m <;> rfl

/-- The places of the components of an absolute path in normal form. -/
theorem spans_rooted {l : List (List UInt8)} (h : ∀ n ∈ l, Plain n) :
    (rooted l).spans = ⟨.root, 0, 1⟩ :: spansFrom 1 l := by
  by_cases hl : l = []
  · rw [hl]
    decide
  · rw [rooted_of_ne_nil hl]
    exact spans_of_names (names_spell fun n hn => (h n hn).separator_not_mem) hl

/-- The place of a plain name. -/
theorem spansFrom_singleton {n : List UInt8} (h : Plain n) (offset : Nat) :
    spansFrom offset [n] = [⟨.normal n, offset, offset + n.length⟩] := by
  rw [spansFrom, h.ofName?_eq]
  rfl

/-- The last component of an absolute path in normal form ends where the path does. -/
theorem stop_getLast?_rooted {l : List (List UInt8)} (h : ∀ n ∈ l, Plain n) :
    (rooted l).spans.getLast?.map (·.stop) = some (rooted l).bytes.length := by
  rw [spans_rooted h]
  rcases List.eq_nil_or_concat l with rfl | ⟨before, n, rfl⟩
  · rfl
  · rw [List.concat_eq_append] at h ⊢
    rw [spansFrom_append, spansFrom_singleton (h n (by simp)), ← List.cons_append,
      List.getLast?_concat, rooted_of_ne_nil (by simp), spell_append_singleton, Option.map_some,
      List.length_append, List.length_cons]
    congr 1
    dsimp only
    omega

/-- A path in normal form begins with the one above it. -/
theorem prefix_bytes_rooted (l : List (List UInt8)) (n : List UInt8) :
    (rooted l).bytes <+: (rooted (l ++ [n])).bytes := by
  rw [rooted_of_ne_nil (l := l ++ [n]) (by simp), spell_append_singleton]
  by_cases hl : l = []
  · rw [hl]
    exact ⟨n, rfl⟩
  · rw [rooted_of_ne_nil hl]
    exact List.prefix_append _ _

/-- A path in normal form begins with those above it. -/
theorem prefix_bytes_of_init {l l' : List (List UInt8)} (h : l' <+: l) :
    (rooted l').bytes <+: (rooted l).bytes := by
  obtain ⟨more, rfl⟩ := h
  induction more using List.reverseRecOn with
  | nil => rw [List.append_nil]
  | append_singleton more n ih =>
    rw [← List.append_assoc]
    exact ih.trans (prefix_bytes_rooted _ n)

/-- A component of an absolute path in normal form ends where the path with the names up to it
does. -/
theorem exists_prefix_of_mem_spans {l : List (List UInt8)} (h : ∀ n ∈ l, Plain n) {s : Span}
    (hs : s ∈ (rooted l).spans) : ∃ l', l' <+: l ∧ s.stop = (rooted l').bytes.length := by
  induction l using List.reverseRecOn with
  | nil =>
    rw [spans_rooted (l := []) nofun] at hs
    exact ⟨[], List.prefix_rfl, by rw [List.mem_singleton.mp hs]; rfl⟩
  | append_singleton l n ih =>
    have hl : ∀ m ∈ l, Plain m := fun m hm => h m (List.mem_append_left _ hm)
    have hn : Plain n := h n (by simp)
    have hspans : (rooted (l ++ [n])).spans =
        (rooted l).spans ++ spansFrom (1 + (spell l).bytes.length) [n] := by
      rw [spans_rooted h, spans_rooted hl, spansFrom_append, List.cons_append]
    have hlast := stop_getLast?_rooted h
    rw [hspans, spansFrom_singleton hn] at hs hlast
    rcases List.mem_append.mp hs with hs | hs
    · obtain ⟨l', hinit, hstop⟩ := ih hl hs
      exact ⟨l', hinit.trans (List.prefix_append _ _), hstop⟩
    · rw [List.getLast?_concat, Option.map_some, Option.some_inj] at hlast
      exact ⟨l ++ [n], List.prefix_rfl, by rw [List.mem_singleton.mp hs, hlast]⟩

/-- An absolute path in normal form cut off after a component is the path with the names up to
it. -/
theorem slice_stop_rooted {l : List (List UInt8)} (h : ∀ n ∈ l, Plain n) {s : Span}
    (hs : s ∈ (rooted l).spans) : ∃ l', l' <+: l ∧ (rooted l).slice 0 s.stop = rooted l' := by
  obtain ⟨l', hinit, hstop⟩ := exists_prefix_of_mem_spans h hs
  refine ⟨l', hinit, ?_⟩
  rw [slice, hstop, List.drop_zero, ← List.prefix_iff_eq_take.mp (prefix_bytes_of_init hinit)]

/-- The parent of an absolute path in normal form has the names before the last. -/
theorem parent?_rooted {l : List (List UInt8)} {n : List UInt8} (h : ∀ m ∈ l, Plain m)
    (hn : Plain n) : (rooted (l ++ [n])).parent? = some (rooted l) := by
  have hall : ∀ m ∈ l ++ [n], Plain m := by
    intro m hm
    rcases List.mem_append.mp hm with hm | hm
    · exact h m hm
    · exact List.mem_singleton.mp hm ▸ hn
  have hspans : (rooted (l ++ [n])).spans.reverse =
      ⟨.normal n, 1 + (spell l).bytes.length, 1 + (spell l).bytes.length + n.length⟩ ::
        (rooted l).spans.reverse := by
    rw [spans_rooted hall, spans_rooted h, spansFrom_append, spansFrom_singleton hn,
      ← List.cons_append, List.reverse_append, List.reverse_singleton, List.singleton_append]
  rw [parent?, hspans]
  dsimp only
  rw [if_neg nofun, List.head?_reverse, stop_getLast?_rooted h, Option.getD_some, slice,
    List.drop_zero, ← List.prefix_iff_eq_take.mp (prefix_bytes_rooted l n)]

/-- The root has no parent. -/
theorem parent?_rooted_nil : (rooted []).parent? = none := by decide

/-- The last name of an absolute path in normal form. -/
theorem fileName?_rooted {l : List (List UInt8)} {n : List UInt8} (h : ∀ m ∈ l ++ [n], Plain m) :
    (rooted (l ++ [n])).fileName? = some n := by
  rw [fileName?, components_rooted h, List.map_append, ← List.cons_append, List.map_singleton,
    List.getLast?_concat]

end TreePlan.Path
