import TreePlan.Proofs.Path.Relative

/-!
# Cutting paths at their components

The place of a component that is a name is the place of that name (`exists_name_of_spansFrom`), so
what is cut out from one such place to another are the names from the one to the other, with the
separators between them (`slice_relative`). Both ways of cutting a path rest on this. The parent of
a path that ends in a name has all its components but this one (`exists_parent?`), and what is left
of a path below an absolute base has the components after those of the base (`exists_stripBase?`).
-/

namespace TreePlan.Path

/-! ## Places -/

/-- A name that is skipped has no place. -/
theorem spansFrom_cons_none {n : List UInt8} (h : Component.ofName? n = none) (offset : Nat)
    (l : List (List UInt8)) :
    spansFrom offset (n :: l) = spansFrom (offset + n.length + 1) l := by
  rw [spansFrom, h]

/-- A name that is a component comes before those after it. -/
theorem spansFrom_cons_some {n : List UInt8} {c : Component} (h : Component.ofName? n = some c)
    (offset : Nat) (l : List (List UInt8)) :
    spansFrom offset (n :: l) =
      ⟨c, offset, offset + n.length⟩ :: spansFrom (offset + n.length + 1) l := by
  rw [spansFrom, h]

/-- A component among those of names stands for one of the names and has its place, and the
components beside it are those of the names beside this one. -/
theorem exists_name_of_spansFrom {offset : Nat} {l : List (List UInt8)} {before after : List Span}
    {s : Span} (h : spansFrom offset l = before ++ s :: after) :
    ∃ front name back, l = front ++ name :: back ∧ spansFrom offset front = before ∧
      Component.ofName? name = some s.component ∧
      s.start = offset + (spell front).bytes.length ∧ s.stop = s.start + name.length ∧
      spansFrom (s.stop + 1) back = after := by
  induction l generalizing offset before with
  | nil => exact absurd h.symm (List.append_ne_nil_of_right_ne_nil _ (List.cons_ne_nil _ _))
  | cons n l ih =>
    have hlength (front : List (List UInt8)) : offset + n.length + 1 + (spell front).bytes.length =
        offset + (spell (n :: front)).bytes.length := by
      rw [length_spell_cons]
      omega
    cases hn : Component.ofName? n with
    | none =>
      rw [spansFrom_cons_none hn] at h
      obtain ⟨front, name, back, rfl, rfl, hname, hstart, hrest⟩ := ih h
      refine ⟨n :: front, name, back, rfl, spansFrom_cons_none hn _ _, hname, ?_, hrest⟩
      rw [hstart, hlength]
    | some c =>
      rw [spansFrom_cons_some hn] at h
      cases before with
      | nil =>
        obtain ⟨rfl, rfl⟩ := List.cons.inj h
        exact ⟨[], n, l, rfl, rfl, hn, rfl, rfl, rfl⟩
      | cons b before =>
        obtain ⟨rfl, hrest⟩ := List.cons.inj h
        obtain ⟨front, name, back, rfl, rfl, hname, hstart, hrest⟩ := ih hrest
        refine ⟨n :: front, name, back, rfl, spansFrom_cons_some hn _ _, hname, ?_, hrest⟩
        rw [hstart, hlength]

/-- The names of a relative path that names spell. -/
theorem names_relative {l : List (List UInt8)} (h : ∀ n ∈ l, separator ∉ n) (hne : l ≠ []) :
    names (relative l).bytes = l := by
  have hnames := names_spell h
  rw [bytes_spell hne, names, if_pos rfl] at hnames
  exact (List.cons.inj hnames).2

/-- The components of the names of a relative path that names spell. -/
theorem named_relative {l : List (List UInt8)} (h : ∀ n ∈ l, separator ∉ n) (hne : l ≠ []) :
    named (relative l).bytes = l.filterMap Component.ofName? := by
  rw [named, names_relative h hne]

/-- The length of a relative path by its last name. -/
theorem length_relative_concat (l : List (List UInt8)) (n : List UInt8) :
    (relative (l ++ [n])).bytes.length = (spell l).bytes.length + n.length := by
  rw [relative, List.length_drop, spell_append_singleton, List.length_append, List.length_cons]
  omega

/-- Names that are cut out of a path, with the separators between them, spell a relative path. -/
theorem slice_relative {p : Path} {front cut back : List (List UInt8)}
    (h : names p.bytes = front ++ cut ++ back) (hne : cut ≠ []) {start stop : Nat}
    (hstart : start = (spell front).bytes.length)
    (hstop : stop = start + (relative cut).bytes.length) : p.slice start stop = relative cut := by
  have hbytes : separator :: p.bytes =
      (spell front).bytes ++ separator :: ((relative cut).bytes ++ (spell back).bytes) := by
    calc
      separator :: p.bytes = (spell (front ++ cut ++ back)).bytes := by rw [← spell_names, h]
      _ = (spell front).bytes ++ ((spell cut).bytes ++ (spell back).bytes) := by
        simp only [spell, List.flatMap_append, List.append_assoc]
      _ = _ := by rw [bytes_spell hne, List.cons_append]
  -- The separator in front of the path and the one in front of what is cut out cancel.
  have hdrop : p.bytes.drop start = (relative cut).bytes ++ (spell back).bytes := by
    calc
      p.bytes.drop start = (separator :: p.bytes).drop (start + 1) := rfl
      _ = _ := by rw [hbytes, hstart, List.drop_length_add_append, List.drop_one, List.tail_cons]
  rw [slice, List.drop_take, hdrop, hstop, Nat.add_sub_cancel_left, List.take_left]

/-- The empty name is skipped. -/
theorem ne_nil_of_ofName? {n : List UInt8} {c : Component} (h : Component.ofName? n = some c) :
    n ≠ [] := by
  intro hnil
  rw [hnil, Component.ofName?, if_pos rfl] at h
  exact Option.some_ne_none c h.symm

/-- A relative path whose first name stands for a component has the components of its names. -/
theorem components_of_first {l : List (List UInt8)} (h : ∀ n ∈ l, separator ∉ n) (hne : l ≠ [])
    (hfirst : ∀ n ∈ l.head?, (Component.ofName? n).isSome) :
    (relative l).isAbsolute = false ∧
      (relative l).components = l.filterMap Component.ofName? := by
  obtain ⟨n, rest, rfl⟩ := List.exists_cons_of_ne_nil hne
  obtain ⟨c, hc⟩ := Option.isSome_iff_exists.mp (hfirst n rfl)
  have habsolute := isAbsolute_relative ⟨ne_nil_of_ofName? hc, h n List.mem_cons_self⟩ rest
  refine ⟨habsolute, ?_⟩
  rw [components_eq, named_relative h hne, leadSpans, habsolute, names_relative h hne,
    if_neg Bool.false_ne_true, List.head?_cons,
    if_neg fun hdot => (ofName?_ne hc).1 (Option.some.inj hdot)]
  rfl

/-! ## Parents -/

/-- A path that is cut off behind its first bytes is absolute as before. -/
theorem isAbsolute_slice (p : Path) {stop : Nat} (h : stop ≠ 0) :
    (p.slice 0 stop).isAbsolute = p.isAbsolute := by
  rw [isAbsolute, isAbsolute, slice, List.drop_zero, List.head?_take, if_neg h]

/-- The last name of a path is the last of the components of its names. -/
theorem exists_spans_of_fileName? {p : Path} {name : List UInt8} (h : p.fileName? = some name) :
    ∃ before last, spansFrom 0 (names p.bytes) = before ++ [last] ∧
      last.component = .normal name := by
  have hlast : p.components.getLast? = some (.normal name) := by
    unfold fileName? at h
    split at h
    · rename_i hlast
      rw [hlast, Option.some.inj h]
    · exact absurd h.symm (Option.some_ne_none _)
  rw [components, spans_eq, List.map_append, List.getLast?_append] at hlast
  rcases List.eq_nil_or_concat (spansFrom 0 (names p.bytes)) with hnil | ⟨before, last, hconcat⟩
  · -- What is in front of the names of a path is no name.
    rw [hnil, leadSpans] at hlast
    split at hlast
    · simp at hlast
    · split at hlast <;> simp at hlast
  · rw [List.concat_eq_append] at hconcat
    rw [hconcat, List.map_append, List.map_singleton, List.getLast?_concat, Option.some_or] at hlast
    exact ⟨before, last, hconcat, Option.some.inj hlast⟩

/-- What stands in front of the names of a path is absolute as the path is, and has no names. -/
theorem slice_leadSpans (p : Path) :
    (p.slice 0 ((p.leadSpans.getLast?.map (·.stop)).getD 0)).isAbsolute = p.isAbsolute ∧
      named (p.slice 0 ((p.leadSpans.getLast?.map (·.stop)).getD 0)).bytes = [] := by
  obtain ⟨bytes⟩ := p
  have hfirst (b : UInt8) (h : bytes.head? = some b) : slice ⟨bytes⟩ 0 1 = ⟨[b]⟩ := by
    obtain ⟨rest, rfl⟩ := List.head?_eq_some_iff.mp h
    rfl
  rw [leadSpans]
  split
  · rename_i habsolute
    refine ⟨isAbsolute_slice _ (by decide), ?_⟩
    show named (slice ⟨bytes⟩ 0 1).bytes = []
    rw [hfirst separator (eq_of_beq habsolute)]
    rfl
  · split
    · rename_i hdot
      refine ⟨isAbsolute_slice _ (by decide), ?_⟩
      show named (slice ⟨bytes⟩ 0 1).bytes = []
      obtain ⟨more, hmore⟩ := List.head?_eq_some_iff.mp hdot
      have hspell := spell_names bytes
      rw [hmore] at hspell
      rw [hfirst dot (by rw [← (List.cons.inj hspell).2]; rfl)]
      rfl
    · rename_i habsolute _
      rw [Bool.not_eq_true] at habsolute
      exact ⟨habsolute.symm, rfl⟩

/-- What a path is up to the end of one of its names is absolute as the path is, and has its names
up to this one. -/
theorem slice_to_name {p : Path} {before after : List Span} {s : Span}
    (h : spansFrom 0 (names p.bytes) = before ++ s :: after) :
    (p.slice 0 s.stop).isAbsolute = p.isAbsolute ∧
      named (p.slice 0 s.stop).bytes = (before ++ [s]).map (·.component) := by
  obtain ⟨front, n, back, hnames, rfl, hn, hstart, hstop, -⟩ := exists_name_of_spansFrom h
  have hcut : names p.bytes = [] ++ (front ++ [n]) ++ back := by
    rw [hnames, List.nil_append, List.append_assoc]
    rfl
  have hseparator : ∀ m ∈ front ++ [n], separator ∉ m := fun m hm =>
    separator_not_mem_of_mem_names (by rw [hcut]; exact List.mem_append_left _ hm)
  have hslice : p.slice 0 s.stop = relative (front ++ [n]) := by
    refine slice_relative hcut (by simp) rfl ?_
    rw [length_relative_concat, hstop, hstart, Nat.zero_add, Nat.zero_add]
  constructor
  · refine isAbsolute_slice p ?_
    rw [hstop]
    exact Nat.ne_of_gt (Nat.add_pos_right _ (List.length_pos_iff.mpr (ne_nil_of_ofName? hn)))
  · rw [hslice, named_relative hseparator (by simp), List.filterMap_append, List.map_append,
      map_component_spansFrom, List.filterMap_cons, hn]
    rfl

/-- A path that ends in a name has a parent, which is absolute as the path is and has its names but
this one. -/
theorem exists_parent? {p : Path} {name : List UInt8} (h : p.fileName? = some name) :
    ∃ q, p.parent? = some q ∧ q.isAbsolute = p.isAbsolute ∧
      named p.bytes = named q.bytes ++ [.normal name] := by
  obtain ⟨before, last, hspans, hlast⟩ := exists_spans_of_fileName? h
  have hnamed : named p.bytes = before.map (·.component) ++ [.normal name] := by
    rw [named, ← map_component_spansFrom 0, hspans, List.map_append, List.map_singleton, hlast]
  have hparent : p.parent? =
      some (p.slice 0 (((p.leadSpans ++ before).getLast?.map (·.stop)).getD 0)) := by
    rw [parent?, spans_eq, hspans, ← List.append_assoc, List.reverse_append, List.reverse_singleton,
      List.singleton_append]
    dsimp only
    rw [hlast, if_neg Component.noConfusion, List.head?_reverse]
  rw [hnamed]
  rcases List.eq_nil_or_concat before with rfl | ⟨before, s, rfl⟩
  · -- The parent is what stands in front of the names.
    rw [List.append_nil] at hparent
    obtain ⟨habsolute, hnone⟩ := slice_leadSpans p
    exact ⟨_, hparent, habsolute, by rw [hnone]; rfl⟩
  · -- It ends where the name before the last does.
    rw [List.concat_eq_append] at hspans hparent ⊢
    rw [List.append_assoc] at hspans
    rw [← List.append_assoc, List.getLast?_concat, Option.map_some, Option.getD_some] at hparent
    obtain ⟨habsolute, hbefore⟩ := slice_to_name hspans
    exact ⟨_, hparent, habsolute, by rw [hbefore]⟩

/-! ## What is left below a base -/

/-- What is cut out of a path from one of its names to its last is a relative path that some of its
names spell, with the components from the one to the last. -/
theorem exists_slice {p : Path} {before more : List Span} {first : Span}
    (h : spansFrom 0 (names p.bytes) = before ++ first :: more) :
    ∃ l, l ≠ [] ∧ (∀ n ∈ l, n ∈ names p.bytes) ∧
      p.slice first.start ((more.getLast?.map (·.stop)).getD first.stop) = relative l ∧
      (∀ n ∈ l.head?, (Component.ofName? n).isSome) ∧
      l.filterMap Component.ofName? = (first :: more).map (·.component) := by
  obtain ⟨front, n, back, hnames, -, hn, hstart, hstop, hmore⟩ := exists_name_of_spansFrom h
  have hfirst : (Component.ofName? n).isSome := Option.isSome_of_eq_some hn
  rcases List.eq_nil_or_concat more with rfl | ⟨between, last, rfl⟩
  · have hcut : names p.bytes = front ++ [n] ++ back := by
      rw [hnames, List.append_assoc]
      rfl
    refine ⟨[n], by simp, fun m hm => ?_, ?_, fun m hm => Option.some.inj hm ▸ hfirst, ?_⟩
    · rw [hcut]
      exact List.mem_append_left _ (List.mem_append_right _ hm)
    · refine slice_relative hcut (by simp) (hstart.trans (Nat.zero_add _)) ?_
      exact hstop.trans (congrArg _ ((length_relative_concat [] n).trans (Nat.zero_add _)).symm)
    · rw [List.filterMap_cons, hn]
      rfl
  · rw [List.concat_eq_append] at hmore ⊢
    obtain ⟨middle, m, rest, rfl, hbetween, hm, hstart', hstop', -⟩ :=
      exists_name_of_spansFrom hmore
    have hcut : names p.bytes = front ++ (n :: middle ++ [m]) ++ rest := by
      rw [hnames]
      simp
    refine ⟨n :: middle ++ [m], by simp, fun k hk => ?_, ?_, fun k hk => ?_, ?_⟩
    · rw [hcut]
      exact List.mem_append_left _ (List.mem_append_right _ hk)
    · refine slice_relative hcut (by simp) (hstart.trans (Nat.zero_add _)) ?_
      rw [List.getLast?_concat, Option.map_some, Option.getD_some, length_relative_concat,
        length_spell_cons, hstop', hstart', hstop]
      omega
    · exact Option.some.inj hk ▸ hfirst
    · rw [List.filterMap_append, List.filterMap_cons, hn, List.filterMap_cons, hm,
        ← map_component_spansFrom (first.stop + 1), hbetween]
      simp

/-- Without the components of an absolute base, a path at or below it has some of the components of
its names left. -/
theorem exists_drop_spans {p base : Path} (hbase : base.isAbsolute = true)
    (h : p.startsWith base = true) :
    ∃ k, p.spans.drop base.components.length = (spansFrom 0 (names p.bytes)).drop k ∧
      p.components =
        base.components ++ ((spansFrom 0 (names p.bytes)).drop k).map (·.component) := by
  rw [startsWith, List.isPrefixOf_iff_prefix] at h
  obtain ⟨rest, hrest⟩ := h
  obtain ⟨cs, hcs, -⟩ := components_of_isAbsolute hbase
  have habsolute : p.isAbsolute = true := by
    apply isAbsolute_of_root_mem
    rw [← hrest, hcs]
    exact List.mem_cons_self
  -- The root is in front of the names, and it is the first component of the base.
  have hspans : p.spans = ⟨.root, 0, 1⟩ :: spansFrom 0 (names p.bytes) := by
    rw [spans_eq, leadSpans, if_pos habsolute]
    rfl
  have hnamed : (spansFrom 0 (names p.bytes)).map (·.component) = cs ++ rest := by
    rw [hcs, components, hspans] at hrest
    exact (List.cons.inj hrest).2.symm
  refine ⟨cs.length, ?_, ?_⟩
  · rw [hspans, hcs]
    rfl
  · rw [List.map_drop, hnamed, List.drop_left, hrest]

/-- What is left of a path at or below an absolute base is a relative path that some of the path's
names spell. It has the components after those of the base. -/
theorem exists_stripBase? {p base : Path} (hbase : base.isAbsolute = true)
    (h : p.startsWith base = true) :
    ∃ l, (∀ n ∈ l, n ∈ names p.bytes) ∧ p.stripBase? base = some (relative l) ∧
      (relative l).isAbsolute = false ∧
      (relative l).components = named (relative l).bytes ∧
      p.components = base.components ++ (relative l).components := by
  obtain ⟨k, hdrop, hcomponents⟩ := exists_drop_spans hbase h
  rw [stripBase?, if_pos h, hdrop, hcomponents]
  cases hcut : (spansFrom 0 (names p.bytes)).drop k with
  | nil => exact ⟨[], List.forall_mem_nil _, rfl, rfl, rfl, rfl⟩
  | cons first more =>
    have hsplit := (List.take_append_drop k (spansFrom 0 (names p.bytes))).symm
    rw [hcut] at hsplit
    obtain ⟨l, hne, hmem, hslice, hfirst, hleft⟩ := exists_slice hsplit
    have hseparator : ∀ n ∈ l, separator ∉ n := fun n hn =>
      separator_not_mem_of_mem_names (hmem n hn)
    obtain ⟨hrelative, hrelative'⟩ := components_of_first hseparator hne hfirst
    refine ⟨l, hmem, congrArg some hslice, hrelative, ?_, ?_⟩
    · rw [hrelative', named_relative hseparator hne]
    · rw [hrelative', hleft]

end TreePlan.Path
