import TreePlan.Proofs.Path.Above

/-!
# Relative paths by their names

Plain names also spell a relative path, with separators only between them (`Path.relative`). It is
what is left of an absolute path in normal form below another (`stripBase?_rooted`), and its
ancestors are spelled by the first of its names (`mem_ancestors_relative`).
-/

namespace TreePlan.Path

/-- The relative path with names; the empty path if there is none. -/
def relative (names : List (List UInt8)) : Path := ⟨(spell names).bytes.drop 1⟩

/-- The bytes of a relative path with a first name. -/
theorem bytes_relative_cons (n : List UInt8) (rest : List (List UInt8)) :
    (relative (n :: rest)).bytes = n ++ (spell rest).bytes := rfl

/-- A relative path is its names with a separator between each two of them. -/
theorem bytes_relative (l : List (List UInt8)) :
    (relative l).bytes = [separator].intercalate l := by
  induction l with
  | nil => rfl
  | cons n rest ih =>
    rw [bytes_relative_cons]
    cases rest with
    | nil =>
      rw [List.intercalate_singleton]
      exact List.append_nil n
    | cons m rest =>
      rw [List.intercalate_cons_cons, ← ih, List.append_assoc]
      rfl

/-- A relative path with a name is not empty. -/
theorem relative_bytes_ne_nil {l : List (List UInt8)} (h : ∀ n ∈ l, Solid n) (hne : l ≠ []) :
    (relative l).bytes ≠ [] := by
  cases l with
  | nil => exact absurd rfl hne
  | cons n rest =>
    rw [bytes_relative_cons]
    exact List.append_ne_nil_of_left_ne_nil (h n List.mem_cons_self).ne_nil _

/-- What spells names, the first of them with a separator in front of it. -/
theorem bytes_spell {l : List (List UInt8)} (hne : l ≠ []) :
    (spell l).bytes = separator :: (relative l).bytes := by
  cases l with
  | nil => exact absurd rfl hne
  | cons => rfl

/-- A path that begins with a solid name is relative. -/
theorem isAbsolute_relative {n : List UInt8} (h : Solid n) (rest : List (List UInt8)) :
    (relative (n :: rest)).isAbsolute = false := by
  have hname := isAbsolute_of_not_mem h.separator_not_mem
  rwa [isAbsolute, bytes_relative_cons, List.head?_append_of_ne_nil _ h.ne_nil]

/-- The places of the components of a relative path. -/
theorem spans_relative {l : List (List UInt8)} (h : ∀ n ∈ l, Plain n) :
    (relative l).spans = spansFrom 0 l := by
  cases l with
  | nil => rfl
  | cons n rest =>
    rw [List.forall_mem_cons] at h
    have hnames : names (relative (n :: rest)).bytes = n :: rest := by
      have hrest := names_spell fun m hm => (h.2 m hm).separator_not_mem
      rw [bytes_relative_cons, names_append h.1.separator_not_mem hrest, List.append_nil]
    unfold spans
    rw [hnames]
    dsimp only
    rw [if_neg h.1.ne_nil, if_neg h.1.ne_dot, spansFrom_singleton h.1, spansFrom, h.1.ofName?_eq,
      Nat.zero_add]
    rfl

/-- The components of a relative path are its names. -/
theorem components_relative {l : List (List UInt8)} (h : ∀ n ∈ l, Plain n) :
    (relative l).components = l.map .normal := by
  rw [components, spans_relative h, map_component_spansFrom, filterMap_ofName? h]

/-- A relative path with one more name. -/
theorem push_relative {l : List (List UInt8)} {n : List UInt8} (h : ∀ m ∈ l, Solid m)
    (hn : Solid n) : (relative l).push ⟨n⟩ = relative (l ++ [n]) := by
  rw [push, isAbsolute_of_not_mem hn.separator_not_mem, if_neg Bool.false_ne_true]
  cases l with
  | nil =>
    rw [if_pos (show (relative []).bytes = [] ∨ _ from Or.inl rfl), List.nil_append, relative,
      relative, show spell [n] = ⟨separator :: (n ++ [])⟩ from rfl, List.append_nil]
    rfl
  | cons first rest =>
    have hne := relative_bytes_ne_nil h (List.cons_ne_nil first rest)
    have hlast : (relative (first :: rest)).bytes.getLast? ≠ some separator := by
      rw [← List.getLast?_cons_of_ne_nil (x := separator) hne]
      exact getLast?_spell h
    rw [if_neg (not_or.mpr ⟨hne, hlast⟩), relative, relative, spell_append_singleton]
    rfl

/-- Names that are pushed onto an absolute path in normal form are added to its names. -/
theorem push_relative_rooted {l : List (List UInt8)} {n : List UInt8} {rest : List (List UInt8)}
    (h : ∀ m ∈ l, Plain m) (hn : Solid n) :
    (rooted l).push (relative (n :: rest)) = rooted (l ++ n :: rest) := by
  have hall : l ++ n :: rest ≠ [] :=
    List.append_ne_nil_of_right_ne_nil _ (List.cons_ne_nil n rest)
  have hbytes : (spell (l ++ n :: rest)).bytes =
      (spell l).bytes ++ separator :: (relative (n :: rest)).bytes := by
    rw [← bytes_spell (List.cons_ne_nil n rest), spell, List.flatMap_append]
    rfl
  rw [push, isAbsolute_relative hn, if_neg Bool.false_ne_true, rooted_of_ne_nil hall]
  by_cases hl : l = []
  · subst hl
    exact congrArg Path.mk hbytes.symm
  · have hlast : (spell l).bytes ≠ [] ∧ (spell l).bytes.getLast? ≠ some separator := by
      rw [bytes_spell hl]
      exact ⟨List.cons_ne_nil _ _, bytes_spell hl ▸ getLast?_spell fun m hm => (h m hm).solid⟩
    rw [rooted_of_ne_nil hl, if_neg (not_or.mpr hlast), ← hbytes]

/-- The path that components with solid names spell. -/
theorem ofComponents_eq_relative {cs : List Component} (h : ∀ c ∈ cs, Solid c.bytes) :
    ofComponents cs = relative (cs.map Component.bytes) := by
  induction cs using List.reverseRecOn with
  | nil => rfl
  | append_singleton cs c ih =>
    have hcs : ∀ c ∈ cs, Solid c.bytes := fun d hd => h d (List.mem_append_left _ hd)
    have hnames : ∀ n ∈ cs.map Component.bytes, Solid n := List.forall_mem_map.mpr hcs
    rw [ofComponents_concat, ih hcs, push_relative hnames (h c (by simp)), List.map_append,
      List.map_singleton]

/-- The path that plain names spell as components. -/
theorem ofComponents_normal {l : List (List UInt8)} (h : ∀ n ∈ l, Plain n) :
    ofComponents (l.map .normal) = relative l := by
  have hsolid : ∀ c ∈ l.map Component.normal, Solid c.bytes :=
    List.forall_mem_map.mpr fun n hn => (h n hn).solid
  rw [ofComponents_eq_relative hsolid, List.map_map]
  exact congrArg relative (List.map_id l)

/-- The ancestors of a relative path have the first of its names, one at least. -/
theorem mem_ancestors_relative {l : List (List UInt8)} (h : ∀ n ∈ l, Plain n) {p : Path} :
    p ∈ (relative l).ancestors ↔ ∃ l', l' ≠ [] ∧ l' <+: l ∧ p = relative l' := by
  have hspelled {l' : List (List UInt8)} (hfirst : l' <+: l) :
      ofComponents (l'.map .normal) = relative l' :=
    ofComponents_normal fun n hn => h n (hfirst.subset hn)
  rw [ancestors_eq, components_relative h, List.mem_map]
  constructor
  · rintro ⟨cs, hcs, rfl⟩
    obtain ⟨hne, hfirst⟩ := mem_tail_inits.mp hcs
    obtain ⟨l', hfirst', rfl⟩ := List.prefix_map_iff.mp hfirst
    exact ⟨l', fun hnil => hne (hnil ▸ rfl), hfirst', hspelled hfirst'⟩
  · rintro ⟨l', hne, hfirst, rfl⟩
    refine ⟨l'.map .normal, mem_tail_inits.mpr ⟨?_, hfirst.map _⟩, hspelled hfirst⟩
    exact fun hnil => hne (List.map_eq_nil_iff.mp hnil)

/-- What is left of an absolute path in normal form below another. -/
theorem stripBase?_rooted {base names : List (List UInt8)} (h : ∀ n ∈ base ++ names, Plain n) :
    (rooted (base ++ names)).stripBase? (rooted base) = some (relative names) := by
  have hbase : ∀ n ∈ base, Plain n := fun n hn => h n (List.mem_append_left _ hn)
  have hnames : ∀ n ∈ names, Plain n := fun n hn => h n (List.mem_append_right _ hn)
  have hspans : (rooted (base ++ names)).spans =
      (rooted base).spans ++ spansFrom (1 + (spell base).bytes.length) names := by
    rw [spans_rooted h, spans_rooted hbase, spansFrom_append, List.cons_append]
  rw [stripBase?, if_pos ((startsWith_rooted h hbase).mpr (List.prefix_append _ _)), hspans,
    components, List.length_map, List.drop_left]
  cases names with
  | nil => rfl
  | cons n rest =>
    rw [List.forall_mem_cons] at hnames
    -- The first span begins after the base, and the last one ends where the path does.
    have hlast := stop_getLast?_rooted h
    rw [hspans] at hlast
    rw [spansFrom, hnames.1.ofName?_eq] at hlast ⊢
    generalize spansFrom _ rest = more at hlast ⊢
    have hbytes : (rooted (base ++ n :: rest)).bytes =
        (spell base).bytes ++ (spell (n :: rest)).bytes := by
      rw [rooted_of_ne_nil (List.append_ne_nil_of_right_ne_nil _ (List.cons_ne_nil _ _)), spell,
        List.flatMap_append]
      rfl
    have hstop : (more.getLast?.map (·.stop)).getD (1 + (spell base).bytes.length + n.length) =
        (rooted (base ++ n :: rest)).bytes.length := by
      rw [List.getLast?_append_cons, List.getLast?_cons, Option.map_some, Option.some_inj] at hlast
      rw [← hlast]
      cases more.getLast? <;> rfl
    dsimp only
    rw [hstop, slice, List.take_length, hbytes, Nat.add_comm, List.drop_length_add_append]
    rfl

end TreePlan.Path
