import TreePlan.Proofs.Path.Above

/-!
# Joining segments

What joining a segment does to the stack of the base are the steps of the names in the segment, and
nothing else: a root or a `.` in front of it leaves the stack as it was (`stack_join`). The names of
two segments with a separator between them are those of the one and then those of the other, so it
makes no difference whether segments are joined one by one or at once (`join_join`).

What is left on the stack of a path are the components of its normal form (`normalParts_eq`). A
segment without `..` only puts its names on top of them (`normalParts_join`), so the join stays at
or below the base (`startsWith_join`). The main statement is `join_lawful`.
-/

namespace TreePlan

/-- The component is a name. -/
def Component.isName : Component → Bool
  | .normal _ => true
  | _ => false

namespace Path

/-! ## Steps of a segment -/

/-- A component other than the root, pushed onto a path, is one step of its stack. -/
theorem stack_push_component (p : Path) {c : Component}
    (h : c = .current ∨ c = .parent ∨ ∃ name, c = .normal name ∧ Plain name) :
    (p.push ⟨c.bytes⟩).stack = step p.stack c := by
  rcases h with rfl | rfl | ⟨name, rfl, hname⟩
  · exact stack_push p rfl
  · exact stack_push p rfl
  · have hpush := stack_push p hname.isAbsolute_eq
    rwa [hname.named_eq] at hpush

/-- Components other than the root, pushed onto a path one by one, are steps of its stack. -/
theorem stack_foldl_push {cs : List Component}
    (h : ∀ c ∈ cs, c = .current ∨ c = .parent ∨ ∃ name, c = .normal name ∧ Plain name) (p : Path) :
    (cs.foldl (fun p c => p.push ⟨c.bytes⟩) p).stack = cs.foldl step p.stack := by
  induction cs generalizing p with
  | nil => rfl
  | cons c cs ih =>
    rw [List.forall_mem_cons] at h
    rw [List.foldl_cons, ih h.2, stack_push_component p h.1, List.foldl_cons]

/-- The components of a path are those of its names, after a root or a `.` if there is one in
front. -/
theorem components_cases (p : Path) :
    p.components = named p.bytes ∨ p.components = .root :: named p.bytes ∨
      p.components = .current :: named p.bytes := by
  rw [components_eq, leadSpans]
  split
  · exact Or.inr (Or.inl rfl)
  · split
    · exact Or.inr (Or.inr rfl)
    · exact Or.inl rfl

/-- Apart from the root, the components of a path are those of its names, after a `.` if there is
one in front. -/
theorem filter_ne_root_components (p : Path) :
    p.components.filter (· ≠ .root) = named p.bytes ∨
      p.components.filter (· ≠ .root) = .current :: named p.bytes := by
  have hnamed : (named p.bytes).filter (· ≠ .root) = named p.bytes := by
    refine List.filter_eq_self.mpr fun c hc => decide_eq_true ?_
    rcases of_mem_named hc with rfl | ⟨name, rfl, -⟩ <;> exact nofun
  rcases components_cases p with hcomponents | hcomponents | hcomponents <;> rw [hcomponents]
  · exact Or.inl hnamed
  · exact Or.inl hnamed
  · exact Or.inr (congrArg _ hnamed)

/-- Joining a segment takes the steps of its names. -/
theorem stack_join (base segment : Path) :
    (base.join segment).stack = (named segment.bytes).foldl step base.stack := by
  have hnamed : ∀ c ∈ named segment.bytes,
      c = .current ∨ c = .parent ∨ ∃ name, c = .normal name ∧ Plain name :=
    fun c hc => Or.inr (of_mem_named hc)
  rw [join, stack_normalize]
  rcases filter_ne_root_components segment with hfilter | hfilter
  · rw [hfilter, stack_foldl_push hnamed]
  · rw [hfilter, stack_foldl_push (List.forall_mem_cons.mpr ⟨Or.inl rfl, hnamed⟩)]
    rfl

/-- A join is its own normal form. -/
theorem normalize_join (base segment : Path) :
    (base.join segment).normalize = base.join segment :=
  normalize_normalize _

/-- Joining one segment and then another is joining both with a separator between them. -/
theorem join_join (base segment more : Path) :
    (base.join segment).join more = base.join ⟨segment.bytes ++ separator :: more.bytes⟩ := by
  have hstack : ((base.join segment).join more).stack =
      (base.join ⟨segment.bytes ++ separator :: more.bytes⟩).stack := by
    rw [stack_join, stack_join, stack_join, named_append_separator, List.foldl_append]
  have hnormal := normalize_eq_of_stack hstack
  rwa [normalize_join, normalize_join] at hnormal

/-! ## Segments that do not climb -/

/-- The components of the normal form of a path; none if this is `.`. -/
def normalParts (p : Path) : List Component :=
  if p.normalize = ⟨[dot]⟩ then [] else p.normalize.components

/-- The normal form is `.` exactly when nothing is left on the stack. -/
theorem normalize_eq_dot_iff {p : Path} : p.normalize = ⟨[dot]⟩ ↔ p.stack = [] := by
  have hdot : (⟨[dot]⟩ : Path).normalize = ⟨[dot]⟩ := by decide
  have hstack : (⟨[dot]⟩ : Path).stack = [] := by decide
  calc
    _ ↔ p.normalize = (⟨[dot]⟩ : Path).normalize := by rw [hdot]
    _ ↔ p.stack = [] := by rw [normalize_eq_iff, hstack]

/-- The components of a normal form are what is left on the stack, if anything is. -/
theorem components_normalize {p : Path} (h : p.stack ≠ []) :
    p.normalize.components = p.stack.reverse := by
  have hcomponents := (settled_stack p).components_ofComponents.1
  rw [normalize, show p.normalComponents = p.stack.reverse from rfl]
  split
  · rename_i hnil
    exact absurd (List.reverse_eq_nil_iff.mp hnil) h
  · exact hcomponents

/-- What is left on the stack of a path are the components of its normal form. -/
theorem normalParts_eq (p : Path) : p.normalParts = p.stack.reverse := by
  unfold normalParts
  split
  · rename_i hdot
    rw [normalize_eq_dot_iff.mp hdot]
    rfl
  · rename_i hne
    exact components_normalize fun hnil => hne (normalize_eq_dot_iff.mpr hnil)

/-- The names among the components of a path without `..` are the components of its names. -/
theorem filter_isName_components {p : Path} (h : .parent ∉ p.components) :
    p.components.filter Component.isName = named p.bytes := by
  have hnamed : (named p.bytes).filter Component.isName = named p.bytes := by
    refine List.filter_eq_self.mpr fun c hc => ?_
    rcases of_mem_named hc with rfl | ⟨name, rfl, -⟩
    · refine absurd ?_ h
      rw [components_eq]
      exact List.mem_append_right _ hc
    · rfl
  rcases components_cases p with hcomponents | hcomponents | hcomponents <;>
    rw [hcomponents] <;> exact hnamed

/-- Names are put on the stack. -/
theorem foldl_step_isName {cs : List Component} (h : ∀ c ∈ cs, c.isName = true)
    (stack : List Component) : cs.foldl step stack = cs.reverse ++ stack := by
  induction cs generalizing stack with
  | nil => rfl
  | cons c cs ih =>
    rw [List.forall_mem_cons] at h
    have hstep : step stack c = c :: stack := by
      cases c with
      | normal name => rfl
      | _ => exact nomatch h.1
    rw [List.foldl_cons, ih h.2, hstep, List.reverse_cons, List.append_assoc]
    rfl

/-- A segment without `..` puts its names on the stack of the base. -/
theorem normalParts_join (base : Path) {segment : Path} (h : .parent ∉ segment.components) :
    (base.join segment).normalParts =
      base.normalParts ++ segment.components.filter Component.isName := by
  have hnames : ∀ c ∈ segment.components.filter Component.isName, c.isName = true :=
    fun c hc => (List.mem_filter.mp hc).2
  rw [normalParts_eq, stack_join, ← filter_isName_components h, foldl_step_isName hnames,
    List.reverse_append, List.reverse_reverse, normalParts_eq]

/-- A join without components in its normal form is a `.`, and any other has just these. -/
theorem join_cases (base segment : Path) :
    ((base.join segment).normalParts = [] → base.join segment = ⟨[dot]⟩) ∧
    ((base.join segment).normalParts ≠ [] →
      (base.join segment).components = (base.join segment).normalParts) := by
  constructor
  · intro hnil
    rw [normalParts_eq, List.reverse_eq_nil_iff] at hnil
    rw [← normalize_join]
    exact normalize_eq_dot_iff.mpr hnil
  · intro hne
    rw [normalParts_eq] at hne ⊢
    have hcomponents := components_normalize fun hnil => hne (List.reverse_eq_nil_iff.mpr hnil)
    rwa [normalize_join] at hcomponents

/-- A segment without `..` stays at or below the base, unless the normal form of this is `.`. -/
theorem startsWith_join {base segment : Path} (h : .parent ∉ segment.components)
    (hbase : base.normalize ≠ ⟨[dot]⟩) :
    (base.join segment).startsWith base.normalize = true := by
  have hparts : base.normalParts = base.normalize.components := if_neg hbase
  have hne : base.normalParts ≠ [] := by
    rw [normalParts_eq]
    exact fun hnil => hbase (normalize_eq_dot_iff.mpr (List.reverse_eq_nil_iff.mp hnil))
  have hjoin := normalParts_join base h
  have hcomponents := (join_cases base segment).2 fun hnil =>
    hne (List.append_eq_nil_iff.mp (hjoin.symm.trans hnil)).1
  rw [startsWith, List.isPrefixOf_iff_prefix, hcomponents, hjoin, hparts]
  exact List.prefix_append _ _

/-- Joining segments one by one is joining them at once. A segment without `..` adds its names to
the components of the base, also if it is absolute, so the join is at or below the base. -/
theorem join_lawful :
    (∀ base segment more : Path,
      (base.join segment).join more = base.join ⟨segment.bytes ++ separator :: more.bytes⟩) ∧
    ∀ base segment : Path, .parent ∉ segment.components →
      (base.normalParts ++ segment.components.filter Component.isName = [] →
        base.join segment = ⟨[dot]⟩) ∧
      (base.normalParts ++ segment.components.filter Component.isName ≠ [] →
        (base.join segment).components =
          base.normalParts ++ segment.components.filter Component.isName) ∧
      (base.normalize ≠ ⟨[dot]⟩ → (base.join segment).startsWith base.normalize = true) := by
  refine ⟨join_join, fun base segment h => ?_⟩
  rw [← normalParts_join base h]
  obtain ⟨hdot, hcomponents⟩ := join_cases base segment
  exact ⟨hdot, hcomponents, startsWith_join h⟩

/-- Two segments that climb are joined at once, and an absolute segment lands below the base. -/
theorem join_lawful_absolute :
    ((ofString "../x").join (ofString "../../y")).join (ofString "/./c") =
      (ofString "../x").join (ofString "../../y//./c") ∧
    ((ofString "../x").join (ofString "/c/./d/")).components =
      [.parent, .normal [120], .normal [99], .normal [100]] ∧
    ((ofString "../x").join (ofString "/c/./d/")).startsWith (ofString "../x").normalize = true := by
  obtain ⟨hjoin, hnames⟩ := join_lawful
  have hsegment : .parent ∉ (ofString "/c/./d/").components := by decide +kernel
  have hparts : (ofString "../x").normalParts ++
      (ofString "/c/./d/").components.filter Component.isName =
        [.parent, .normal [120], .normal [99], .normal [100]] := by decide +kernel
  obtain ⟨-, hcomponents, hbelow⟩ := hnames (ofString "../x") (ofString "/c/./d/") hsegment
  refine ⟨?_, ?_, hbelow (by decide +kernel)⟩
  · have hbytes : (⟨(ofString "../../y").bytes ++ separator :: (ofString "/./c").bytes⟩ : Path) =
        ofString "../../y//./c" := by decide +kernel
    rw [hjoin, hbytes]
  · rw [hcomponents (by rw [hparts]; exact List.cons_ne_nil _ _), hparts]

end Path

end TreePlan
