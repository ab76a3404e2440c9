import TreePlan.Proofs.Path.Normal

/-!
# The paths above a path

The paths above a path are those that its components in front spell (`above`). A name that is pushed
onto a path adds one component, which ends where the path does (`spans_push`), so the path that the
components of a normal form spell has just these (`Tidy.components_ofComponents`), and a normal form
is determined by its components (`eq_of_components`). Hence whatever is above a normal form is its
own normal form, with fewer components (`normal_of_mem_above`). The ancestors of a normal form are
the paths above it, from the front, and then the path (`ancestors_of_normal`, `pairwise_ancestors`);
its parent is the last of the paths above it, if there is one (`parent?_of_normal`).
-/

namespace TreePlan.Path

/-! ## Pushing names -/

/-- The names of a path, with a separator in front of each. -/
theorem spell_names (bytes : List UInt8) : (spell (names bytes)).bytes = separator :: bytes := by
  induction bytes with
  | nil => rfl
  | cons a rest ih =>
    rw [names]
    split
    · rename_i ha
      rw [show (spell ([] :: names rest)).bytes = separator :: (spell (names rest)).bytes from rfl,
        ih, ha]
    · obtain ⟨first, more, hnames⟩ := List.exists_cons_of_ne_nil (names_ne_nil rest)
      rw [hnames] at ih ⊢
      have htail : first ++ (spell more).bytes = rest := (List.cons.inj ih).2
      show separator :: (a :: first ++ (spell more).bytes) = _
      rw [List.cons_append, htail]

/-- A name that is a component is neither skipped nor a `.`, and it is not the root. -/
theorem ofName?_ne {name : List UInt8} {c : Component} (h : Component.ofName? name = some c) :
    name ≠ [dot] ∧ c ≠ .root := by
  unfold Component.ofName? at h
  split at h
  · exact nomatch h
  · split at h
    · exact nomatch h
    · rename_i hdot
      refine ⟨hdot, ?_⟩
      split at h
      · rw [← Option.some.inj h]
        exact nofun
      · rw [← Option.some.inj h]
        exact nofun

/-- What the front of a path is does not depend on what follows a separator. -/
theorem leadSpans_append_separator (before after after' : List UInt8) :
    leadSpans ⟨before ++ separator :: after⟩ = leadSpans ⟨before ++ separator :: after'⟩ := by
  have hfirst (after : List UInt8) :
      (names (before ++ separator :: after)).head? = (names before).head? := by
    rw [names_append_separator, List.head?_append_of_ne_nil _ (names_ne_nil before)]
  have habsolute : isAbsolute ⟨before ++ separator :: after⟩ =
      isAbsolute ⟨before ++ separator :: after'⟩ := by
    cases before <;> rfl
  rw [leadSpans, leadSpans, hfirst, hfirst, habsolute]

/-- A name that is pushed onto a path is its last component, and ends where the path does. -/
theorem spans_push (p : Path) {name : List UInt8} {c : Component} (h : separator ∉ name)
    (hc : Component.ofName? name = some c) :
    ∃ start, start + name.length = (p.push ⟨name⟩).bytes.length ∧
      (p.push ⟨name⟩).spans = p.spans ++ [⟨c, start, start + name.length⟩] := by
  have hlast (offset : Nat) : spansFrom offset [name] = [⟨c, offset, offset + name.length⟩] := by
    rw [spansFrom, hc]
    rfl
  rw [push, isAbsolute_of_not_mem h, if_neg Bool.false_ne_true]
  obtain ⟨bytes⟩ := p
  by_cases hempty : bytes = []
  · subst hempty
    refine ⟨0, by simp, ?_⟩
    rw [if_pos (Or.inl rfl), List.nil_append, spans_eq ⟨name⟩, names_of_not_mem h, leadSpans,
      isAbsolute_of_not_mem h, names_of_not_mem h, hlast]
    simp only [Bool.false_eq_true, if_false, List.head?_cons, Option.some_inj, (ofName?_ne hc).1]
    rfl
  · -- The path before the separator in front of the name, and the path, have the same spans.
    obtain ⟨before, hbytes, hspans⟩ : ∃ before,
        (if bytes = [] ∨ bytes.getLast? = some separator then (⟨bytes ++ name⟩ : Path)
          else ⟨bytes ++ separator :: name⟩) = ⟨before ++ separator :: name⟩ ∧
        (⟨bytes⟩ : Path).spans =
          leadSpans ⟨before ++ separator :: name⟩ ++ spansFrom 0 (names before) := by
      by_cases hend : bytes.getLast? = some separator
      · obtain ⟨before, rfl⟩ := List.getLast?_eq_some_iff.mp hend
        refine ⟨before, ?_, ?_⟩
        · rw [if_pos (Or.inr hend), List.append_assoc]
          rfl
        · rw [spans_eq, names_append_separator, spansFrom_append,
            leadSpans_append_separator before [] name]
          exact congrArg _ (List.append_nil _)
      · refine ⟨bytes, if_neg (not_or.mpr ⟨hempty, hend⟩), ?_⟩
        rw [spans_eq, leadSpans, leadSpans, names_append_separator,
          List.head?_append_of_ne_nil _ (names_ne_nil bytes)]
        cases bytes with
        | nil => exact absurd rfl hempty
        | cons => rfl
    refine ⟨before.length + 1, ?_, ?_⟩
    · dsimp only
      rw [hbytes, List.length_append, List.length_cons]
      omega
    · dsimp only
      rw [hbytes, spans_eq ⟨before ++ separator :: name⟩, hspans, names_append_separator,
        names_of_not_mem h, spansFrom_append, spell_names, hlast, List.length_cons,
        Nat.zero_add, List.append_assoc]

/-- Where the last component of a path ends. -/
def stop (p : Path) : Nat := (p.spans.getLast?.map (·.stop)).getD 0

/-- The components of a path onto which a name is pushed. -/
theorem components_push (p : Path) {name : List UInt8} {c : Component} (h : separator ∉ name)
    (hc : Component.ofName? name = some c) : (p.push ⟨name⟩).components = p.components ++ [c] := by
  obtain ⟨start, -, hspans⟩ := spans_push p h hc
  rw [components, hspans, List.map_append]
  rfl

/-- A path onto which a name is pushed ends with its last component. -/
theorem stop_push (p : Path) {name : List UInt8} {c : Component} (h : separator ∉ name)
    (hc : Component.ofName? name = some c) :
    (p.push ⟨name⟩).stop = (p.push ⟨name⟩).bytes.length := by
  obtain ⟨start, hstart, hspans⟩ := spans_push p h hc
  rw [stop, hspans, List.getLast?_concat]
  exact hstart

/-- What a name is pushed onto is the parent, if it ends with its last component. -/
theorem parent?_push {p : Path} (hp : p.stop = p.bytes.length) {name : List UInt8} {c : Component}
    (h : separator ∉ name) (hc : Component.ofName? name = some c) :
    (p.push ⟨name⟩).parent? = some p := by
  obtain ⟨start, -, hspans⟩ := spans_push p h hc
  have hfront : p.bytes <+: (p.push ⟨name⟩).bytes := by
    rw [push, isAbsolute_of_not_mem h, if_neg Bool.false_ne_true]
    split <;> exact List.prefix_append _ _
  rw [parent?, hspans, List.reverse_append, List.reverse_singleton, List.singleton_append]
  dsimp only
  rw [if_neg (ofName?_ne hc).2, List.head?_reverse, slice, List.drop_zero]
  have hstop : ((p.spans.getLast?.map (·.stop)).getD 0) = p.bytes.length := hp
  rw [hstop, ← List.prefix_iff_eq_take.mp hfront]

/-! ## Components of normal forms -/

/-- What a settled stack grows by is a name, and the component that it stands for. -/
theorem Settled.cons_cases {c : Component} {below : List Component} (h : Settled (c :: below)) :
    Settled below ∧ (c = .root ∧ below = [] ∨
      separator ∉ c.bytes ∧ Component.ofName? c.bytes = some c) := by
  cases h with
  | root => exact ⟨.nil, Or.inl ⟨rfl, rfl⟩⟩
  | parent h => exact ⟨h, Or.inr ⟨by decide, rfl⟩⟩
  | normal h hname => exact ⟨h, Or.inr ⟨hname.separator_not_mem, hname.ofName?_eq⟩⟩

/-- The path that components and one more spell. -/
theorem ofComponents_concat (cs : List Component) (c : Component) :
    ofComponents (cs ++ [c]) = (ofComponents cs).push ⟨c.bytes⟩ := by
  rw [ofComponents, List.foldl_append]
  rfl

/-- The path that a settled stack spells has its components, and ends with the last of them. -/
theorem Settled.components_ofComponents {stack : List Component} (h : Settled stack) :
    (ofComponents stack.reverse).components = stack.reverse ∧
      (ofComponents stack.reverse).stop = (ofComponents stack.reverse).bytes.length := by
  induction stack with
  | nil => exact ⟨rfl, rfl⟩
  | cons c below ih =>
    obtain ⟨hbelow, ⟨rfl, rfl⟩ | ⟨hseparator, hname⟩⟩ := h.cons_cases
    · decide
    · rw [List.reverse_cons, ofComponents_concat, components_push _ hseparator hname, (ih hbelow).1]
      exact ⟨rfl, stop_push _ hseparator hname⟩

/-- The components of a normal form: a `.` alone, or what is left on a stack, if anything is. -/
inductive Tidy : List Component → Prop
  /-- Nothing is left. -/
  | current : Tidy [.current]
  /-- Something is left. -/
  | settled {cs : List Component} (hne : cs ≠ []) (h : Settled cs.reverse) : Tidy cs

/-- The first of a settled stack's components are a settled stack. -/
theorem Settled.of_suffix {stack below : List Component} (h : Settled stack)
    (hbelow : below <:+ stack) : Settled below := by
  obtain ⟨top, rfl⟩ := hbelow
  induction top with
  | nil => exact h
  | cons c top ih => exact ih h.cons_cases.1

/-- Not nothing of the components of a normal form is the components of one. -/
theorem Tidy.of_front {cs first : List Component} (h : Tidy cs) (hfirst : first <+: cs)
    (hne : first ≠ []) : Tidy first := by
  cases h with
  | current =>
    rcases List.prefix_cons_iff.mp hfirst with rfl | ⟨rest, rfl, hrest⟩
    · exact absurd rfl hne
    · rw [List.prefix_nil.mp hrest]
      exact .current
  | settled _ h => exact .settled hne (h.of_suffix (List.reverse_suffix.mpr hfirst))

/-- The path that the components of a normal form spell has these components. -/
theorem Tidy.components_ofComponents {cs : List Component} (h : Tidy cs) :
    (ofComponents cs).components = cs := by
  cases h with
  | current => decide
  | settled _ h =>
    have hcomponents := h.components_ofComponents.1
    rwa [List.reverse_reverse] at hcomponents

/-- The path that the components of a normal form spell is its own normal form. -/
theorem Tidy.normalize_ofComponents {cs : List Component} (h : Tidy cs) :
    (ofComponents cs).normalize = ofComponents cs := by
  cases h with
  | current => decide
  | settled hne h =>
    have hstack := h.stack_ofComponents
    rw [List.reverse_reverse] at hstack
    have hnormal : (ofComponents cs).normalComponents = cs := by
      rw [normalComponents,
        show (ofComponents cs).components.foldl step [] = cs.reverse from hstack,
        List.reverse_reverse]
    rw [normalize, hnormal]
    split
    · exact absurd rfl hne
    · rfl

/-- A path that is its own normal form is spelled by its components, which are those of a normal
form. -/
theorem tidy_of_normal {p : Path} (h : p.normalize = p) :
    Tidy p.components ∧ ofComponents p.components = p := by
  obtain ⟨cs, hcs, he⟩ : ∃ cs, Tidy cs ∧ p = ofComponents cs := by
    rw [normalize] at h
    split at h
    · exact ⟨[.current], .current, h.symm⟩
    · rename_i hne
      refine ⟨p.normalComponents, .settled hne ?_, h.symm⟩
      rw [normalComponents, List.reverse_reverse]
      exact settled_stack p
  rw [he, hcs.components_ofComponents]
  exact ⟨hcs, rfl⟩

/-- Two paths that are their own normal forms are equal if their components are. -/
theorem eq_of_components {p q : Path} (hp : p.normalize = p) (hq : q.normalize = q)
    (h : p.components = q.components) : p = q := by
  rw [← (tidy_of_normal hp).2, h, (tidy_of_normal hq).2]

/-! ## Ancestors -/

/-- The paths met on the way down are spelled by the first of the components. -/
theorem descend_eq (p : Path) (cs : List Component) :
    p.descend cs = cs.inits.tail.map fun first => first.foldl (fun p c => p.push ⟨c.bytes⟩) p := by
  induction cs generalizing p with
  | nil => rfl
  | cons c cs ih =>
    rw [descend, ih, List.inits_cons, List.tail_cons, List.map_map]
    cases cs <;> rfl

/-- The paths above a path, from the front: those that its components before the last spell, one
more each time. -/
def above (p : Path) : List Path := p.components.dropLast.inits.tail.map ofComponents

/-- The first elements of a list, one at least. -/
theorem mem_tail_inits {α : Type} {l first : List α} :
    first ∈ l.inits.tail ↔ first ≠ [] ∧ first <+: l := by
  cases l with
  | nil =>
    constructor
    · exact fun h => absurd h List.not_mem_nil
    · exact fun h => absurd (List.prefix_nil.mp h.2) h.1
  | cons x l =>
    rw [List.inits_cons, List.tail_cons, List.mem_map]
    constructor
    · rintro ⟨more, hmore, rfl⟩
      exact ⟨List.cons_ne_nil _ _, List.cons_prefix_cons.mpr ⟨rfl, (List.mem_inits _ _).mp hmore⟩⟩
    · rintro ⟨hne, hfirst⟩
      obtain ⟨y, more, rfl⟩ := List.exists_cons_of_ne_nil hne
      obtain ⟨rfl, hmore⟩ := List.cons_prefix_cons.mp hfirst
      exact ⟨more, (List.mem_inits _ _).mpr hmore, rfl⟩

/-- The first elements of a list with one more at the end. -/
theorem tail_inits_concat {α : Type} (l : List α) (x : α) :
    (l ++ [x]).inits.tail = l.inits.tail ++ [l ++ [x]] := by
  have hne : l.inits ≠ [] := List.ne_nil_of_mem ((List.mem_inits l l).mpr List.prefix_rfl)
  rw [List.inits_append, List.tail_append_of_ne_nil hne]
  rfl

/-- Of the first elements of a list, those that are fewer come first. -/
theorem pairwise_inits {α : Type} (l : List α) :
    l.inits.Pairwise fun first first' => first <+: first' ∧ first ≠ first' := by
  induction l with
  | nil => exact List.pairwise_singleton _ _
  | cons x l ih =>
    rw [List.inits_cons, List.pairwise_cons, List.pairwise_map]
    refine ⟨fun first hfirst => ?_, ih.imp fun h =>
      ⟨List.cons_prefix_cons.mpr ⟨rfl, h.1⟩, fun he => h.2 (List.cons.inj he).2⟩⟩
    obtain ⟨more, -, rfl⟩ := List.mem_map.mp hfirst
    exact ⟨List.nil_prefix, (List.cons_ne_nil x more).symm⟩

/-- Above a path are the paths that its components in front spell, one at least and not all. -/
theorem mem_above {p q : Path} :
    q ∈ p.above ↔
      ∃ cs, cs ≠ [] ∧ cs <+: p.components ∧ cs ≠ p.components ∧ q = ofComponents cs := by
  have hfirst (cs : List Component) (hne : cs ≠ []) :
      cs <+: p.components.dropLast ↔ cs <+: p.components ∧ cs ≠ p.components := by
    rcases List.eq_nil_or_concat p.components with hnil | ⟨before, c, hconcat⟩
    · rw [hnil, List.dropLast_nil, List.prefix_nil]
      exact ⟨fun h => absurd h hne, fun h => absurd h.1 hne⟩
    · rw [hconcat, List.concat_eq_append, List.dropLast_concat, List.prefix_concat_iff]
      constructor
      · intro h
        refine ⟨Or.inr h, fun he => ?_⟩
        have hlength := h.length_le
        rw [he, List.length_append, List.length_singleton] at hlength
        omega
      · exact fun h => h.1.resolve_left h.2
  rw [above, List.mem_map]
  constructor
  · rintro ⟨cs, hcs, rfl⟩
    obtain ⟨hne, hfront⟩ := mem_tail_inits.mp hcs
    exact ⟨cs, hne, ((hfirst cs hne).mp hfront).1, ((hfirst cs hne).mp hfront).2, rfl⟩
  · rintro ⟨cs, hne, hfront, hproper, rfl⟩
    exact ⟨cs, mem_tail_inits.mpr ⟨hne, (hfirst cs hne).mpr ⟨hfront, hproper⟩⟩, rfl⟩

/-- The ancestors of a path are spelled by the first of its components. -/
theorem ancestors_eq (p : Path) : p.ancestors = p.components.inits.tail.map ofComponents :=
  descend_eq empty p.components

/-- A normal form has components. -/
theorem components_ne_nil {p : Path} (h : p.normalize = p) : p.components ≠ [] := by
  have htidy := (tidy_of_normal h).1
  generalize p.components = cs at htidy
  cases htidy with
  | current => exact List.cons_ne_nil _ _
  | settled hne => exact hne

/-- The ancestors of a normal form are the paths above it, and then the path. -/
theorem ancestors_of_normal {p : Path} (h : p.normalize = p) : p.ancestors = p.above ++ [p] := by
  rw [ancestors_eq, above]
  conv_lhs => rw [← List.dropLast_concat_getLast (components_ne_nil h)]
  rw [tail_inits_concat, List.map_append, List.dropLast_concat_getLast, List.map_singleton,
    (tidy_of_normal h).2]

/-- A path above a normal form is its own normal form, and its components are some of those in
front. -/
theorem normal_of_mem_above {p q : Path} (h : p.normalize = p) (hq : q ∈ p.above) :
    q.normalize = q ∧ q.components <+: p.components ∧ q ≠ p := by
  obtain ⟨cs, hne, hfront, hproper, rfl⟩ := mem_above.mp hq
  have htidy := (tidy_of_normal h).1.of_front hfront hne
  refine ⟨htidy.normalize_ofComponents, ?_, ?_⟩
  · rw [htidy.components_ofComponents]
    exact hfront
  · intro he
    rw [← he, htidy.components_ofComponents] at hproper
    exact hproper rfl

/-- What is above a path above a normal form is above it. -/
theorem mem_above_trans {p q d : Path} (h : p.normalize = p) (hq : q ∈ p.above) (hd : d ∈ q.above) :
    d ∈ p.above := by
  obtain ⟨-, hfront, hne⟩ := normal_of_mem_above h hq
  obtain ⟨cs, hcs, hfirst, hproper, rfl⟩ := mem_above.mp hd
  refine mem_above.mpr ⟨cs, hcs, hfirst.trans hfront, fun he => hproper ?_, rfl⟩
  exact hfirst.eq_of_length_le (he ▸ hfront.length_le)

/-- The ancestors of a normal form are their own normal forms. -/
theorem normal_of_mem_ancestors {p q : Path} (h : p.normalize = p) (hq : q ∈ p.ancestors) :
    q.normalize = q := by
  rw [ancestors_of_normal h, List.mem_append, List.mem_singleton] at hq
  rcases hq with hq | rfl
  · exact (normal_of_mem_above h hq).1
  · exact h

/-- Of the ancestors of a normal form, each is above those that come after it. -/
theorem pairwise_ancestors {p : Path} (h : p.normalize = p) :
    p.ancestors.Pairwise fun q q' => q ∈ q'.above := by
  rw [ancestors_eq, List.pairwise_map]
  refine ((pairwise_inits p.components).sublist (List.tail_sublist _)).imp_of_mem
    fun {first first'} hfirst hfirst' hproper => ?_
  obtain ⟨hne', hfront'⟩ := mem_tail_inits.mp hfirst'
  have hcomponents := ((tidy_of_normal h).1.of_front hfront' hne').components_ofComponents
  refine mem_above.mpr ⟨first, (mem_tail_inits.mp hfirst).1, ?_, ?_, rfl⟩
  · rw [hcomponents]
    exact hproper.1
  · rw [hcomponents]
    exact hproper.2

/-- No ancestor of a normal form stands twice among them. -/
theorem nodup_ancestors {p : Path} (h : p.normalize = p) : p.ancestors.Nodup :=
  (pairwise_ancestors h).imp_of_mem fun _ hq' habove =>
    (normal_of_mem_above (normal_of_mem_ancestors h hq') habove).2.2

/-- The parent of a normal form: none for the root, the empty path for any other single component,
and else the last of the paths above it. -/
theorem parent?_of_normal {p : Path} (h : p.normalize = p) :
    p.parent? = none ∧ p.above = [] ∨
      p.parent? = some empty ∧ p.above = [] ∧ p.isAbsolute = false ∨
      ∃ q, p.parent? = some q ∧ q.normalize = q ∧ q.ancestors = p.above := by
  obtain ⟨htidy, hspelled⟩ := tidy_of_normal h
  unfold above
  rw [← hspelled, htidy.components_ofComponents]
  generalize p.components = cs at htidy
  cases htidy with
  | current => exact Or.inr (Or.inl (by decide))
  | settled hne hsettled =>
    rcases List.eq_nil_or_concat cs with rfl | ⟨before, c, rfl⟩
    · exact absurd rfl hne
    · rw [List.concat_eq_append, List.reverse_append, List.reverse_singleton,
        List.singleton_append] at hsettled
      rw [List.concat_eq_append, List.dropLast_concat, ofComponents_concat]
      obtain ⟨hbefore, ⟨rfl, hnil⟩ | ⟨hseparator, hname⟩⟩ := hsettled.cons_cases
      · rw [List.reverse_eq_nil_iff.mp hnil]
        exact Or.inl (by decide)
      · have hstop := hbefore.components_ofComponents.2
        rw [List.reverse_reverse] at hstop
        rw [parent?_push hstop hseparator hname]
        by_cases hbefore' : before = []
        · subst hbefore'
          exact Or.inr (Or.inl ⟨rfl, rfl, isAbsolute_push rfl hseparator⟩)
        · have htidy : Tidy before := .settled hbefore' hbefore
          refine Or.inr (Or.inr ⟨_, rfl, htidy.normalize_ofComponents, ?_⟩)
          rw [ancestors_eq, htidy.components_ofComponents]

end TreePlan.Path
