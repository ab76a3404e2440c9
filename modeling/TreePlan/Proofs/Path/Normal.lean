import TreePlan.Proofs.Path.Rooted

/-!
# Normal forms of all paths

A path is normalized by a stack: each component is one step, and what is left on the stack, last
first, are the components of the normal form (`stack`). Every stack that comes about is settled
(`Settled`): a step with one of its components just puts it back. So a normal form has the stack of
the path that it was made of (`stack_normalize`). It is its own normal form
(`normalize_normalize`), and two paths have one normal form exactly when they have one stack
(`normalize_eq_iff`). What a path pushed onto another does to the stack depends on that stack only
(`stack_push`), so the normal form of a path below another depends on the normal form of the other
(`normalize_push_congr`).
-/

namespace TreePlan.Path

/-- What is left of the components of a path, last first. -/
def stack (p : Path) : List Component := p.components.foldl step []

/-- The components that the names between separators stand for. -/
def named (bytes : List UInt8) : List Component := (names bytes).filterMap Component.ofName?

/-! ## Names of what is pushed -/

/-- The names on both sides of a separator. -/
theorem names_append_separator (before after : List UInt8) :
    names (before ++ separator :: after) = names before ++ names after := by
  induction before with
  | nil =>
    show names (separator :: after) = [] :: names after
    rw [names, if_pos rfl]
  | cons a before ih =>
    rw [List.cons_append, names, names, ih]
    split
    · rfl
    · obtain ⟨first, more, hnames⟩ := List.exists_cons_of_ne_nil (names_ne_nil before)
      rw [hnames]
      rfl

/-- The components on both sides of a separator. -/
theorem named_append_separator (before after : List UInt8) :
    named (before ++ separator :: after) = named before ++ named after := by
  rw [named, names_append_separator, List.filterMap_append]
  rfl

/-- A separator at the end adds no component. -/
theorem named_append_singleton (before : List UInt8) :
    named (before ++ [separator]) = named before := by
  rw [named_append_separator]
  exact List.append_nil _

/-- The names between separators stand for `..` and plain names only. -/
theorem of_mem_named {bytes : List UInt8} {c : Component} (h : c ∈ named bytes) :
    c = .parent ∨ ∃ name, c = .normal name ∧ Plain name := by
  obtain ⟨name, hname, hofName⟩ := List.mem_filterMap.mp h
  exact plain_of_ofName? hofName (separator_not_mem_of_mem_names hname)

/-! ## Stacks -/

/-- The place of what only the front of a path can be: the root, or a `.`. -/
def leadSpans (p : Path) : List Span :=
  if p.isAbsolute then [⟨.root, 0, 1⟩]
  else if (names p.bytes).head? = some [dot] then [⟨.current, 0, 1⟩] else []

/-- The components of a path are those of its names, after what its front is. -/
theorem spans_eq (p : Path) : p.spans = p.leadSpans ++ spansFrom 0 (names p.bytes) := by
  obtain ⟨first, rest, hnames⟩ := List.exists_cons_of_ne_nil (names_ne_nil p.bytes)
  by_cases habsolute : p.isAbsolute = true
  · obtain ⟨l, hl, hnames'⟩ := names_of_isAbsolute habsolute
    rw [spans_of_names hnames' hl, leadSpans, if_pos habsolute, hnames']
    rfl
  · rw [leadSpans, if_neg habsolute, spans, hnames]
    dsimp only
    simp only [List.head?_cons, Option.some_inj]
    by_cases hempty : first = []
    · have hrest : rest = [] := by
        by_contra hrest
        exact habsolute (isAbsolute_of_names (hempty ▸ hnames) hrest)
      subst hempty hrest
      rfl
    · rw [if_neg hempty]
      by_cases hdot : first = [dot]
      · subst hdot
        rfl
      · have hlength : 0 + (spell [first]).bytes.length = first.length + 1 := by simp [spell]
        rw [if_neg hdot, if_neg hdot, List.nil_append, ← hlength, ← spansFrom_append]
        rfl

/-- The components of a path are those that its names stand for, after what its front is. -/
theorem components_eq (p : Path) :
    p.components = p.leadSpans.map (·.component) ++ named p.bytes := by
  rw [components, spans_eq, List.map_append, map_component_spansFrom, named]

/-- Stepping through the components of a path steps through those of its names, above the root if
the path is absolute. -/
theorem stack_eq (p : Path) :
    p.stack = (named p.bytes).foldl step (if p.isAbsolute then [.root] else []) := by
  rw [stack, components_eq, List.foldl_append, leadSpans]
  congr 1
  split
  · rfl
  · split <;> rfl

/-- A path onto which a relative path is pushed is absolute as before. -/
theorem isAbsolute_push_eq (p : Path) {q : Path} (h : q.isAbsolute = false) :
    (p.push q).isAbsolute = p.isAbsolute := by
  obtain ⟨bytes⟩ := p
  rw [push, h, if_neg Bool.false_ne_true]
  cases bytes with
  | nil => exact h
  | cons => split <;> rfl

/-- A relative path that is pushed onto a path adds its names. -/
theorem named_push (p : Path) {q : Path} (h : q.isAbsolute = false) :
    named (p.push q).bytes = named p.bytes ++ named q.bytes := by
  rw [push, h, if_neg Bool.false_ne_true]
  split
  · rename_i hend
    rcases hend with hempty | hlast
    · rw [hempty]
      rfl
    · obtain ⟨before, hbefore⟩ := List.getLast?_eq_some_iff.mp hlast
      rw [hbefore, List.append_assoc, List.singleton_append, named_append_separator,
        named_append_singleton]
  · exact named_append_separator _ _

/-- What a relative path does to the stack of the path that it is pushed onto. -/
theorem stack_push (p : Path) {q : Path} (h : q.isAbsolute = false) :
    (p.push q).stack = (named q.bytes).foldl step p.stack := by
  rw [stack_eq, named_push p h, isAbsolute_push_eq p h, List.foldl_append, ← stack_eq]

/-! ## Settled stacks -/

/-- A stack that steps leave behind: names above `..` above nothing, or names above the root. -/
inductive Settled : List Component → Prop
  /-- Nothing. -/
  | nil : Settled []
  /-- The root alone. -/
  | root : Settled [.root]
  /-- A `..`, with nothing that it could cancel. -/
  | parent {below : List Component} (h : Settled below) (hbelow : ∀ c ∈ below, c = .parent) :
      Settled (.parent :: below)
  /-- A plain name. -/
  | normal {below : List Component} {name : List UInt8} (h : Settled below) (hname : Plain name) :
      Settled (.normal name :: below)

/-- A step leaves a settled stack settled. -/
theorem Settled.step {stack : List Component} (h : Settled stack) {c : Component}
    (hc : c = .parent ∨ ∃ name, c = .normal name ∧ Plain name) : Settled (step stack c) := by
  rcases hc with rfl | ⟨name, rfl, hname⟩
  · cases h with
    | nil => exact .parent .nil nofun
    | root => exact .root
    | parent h hbelow =>
      exact .parent (.parent h hbelow) (List.forall_mem_cons.mpr ⟨rfl, hbelow⟩)
    | normal h => exact h
  · exact .normal h hname

/-- The stack of a path is settled. -/
theorem settled_stack (p : Path) : Settled p.stack := by
  rw [stack_eq]
  refine List.foldlRecOn (motive := Settled) _ _ ?_ fun stack hstack c hc =>
    hstack.step (of_mem_named hc)
  split
  · exact .root
  · exact .nil

/-- A plain name is the one component that it spells. -/
theorem Plain.named_eq {name : List UInt8} (h : Plain name) : named name = [.normal name] := by
  rw [named, names_of_not_mem h.separator_not_mem, List.filterMap_cons, h.ofName?_eq]
  rfl

/-- A settled stack is the stack of the path that its components spell. -/
theorem Settled.stack_ofComponents {stack : List Component} (h : Settled stack) :
    (ofComponents stack.reverse).stack = stack := by
  have hcons (c : Component) (below : List Component) :
      ofComponents (c :: below).reverse = (ofComponents below.reverse).push ⟨c.bytes⟩ := by
    rw [ofComponents, List.reverse_cons, List.foldl_append]
    rfl
  induction h with
  | nil => rfl
  | root => decide
  | @parent below h hbelow ih =>
    rw [hcons, stack_push _ rfl, ih]
    cases below with
    | nil => rfl
    | cons top below =>
      rw [hbelow top List.mem_cons_self]
      rfl
  | @normal below name h hname ih =>
    have hpush := stack_push (ofComponents below.reverse) hname.isAbsolute_eq
    rw [ih, hname.named_eq] at hpush
    rw [hcons]
    exact hpush

/-! ## Normal forms -/

/-- A normal form has the stack of the path that it was made of. -/
theorem stack_normalize (p : Path) : p.normalize.stack = p.stack := by
  rw [normalize]
  split
  · rename_i hnil
    rw [show p.stack = [] from List.reverse_eq_nil_iff.mp hnil]
    decide
  · exact (settled_stack p).stack_ofComponents

/-- Paths with one stack have one normal form. -/
theorem normalize_eq_of_stack {p q : Path} (h : p.stack = q.stack) : p.normalize = q.normalize := by
  rw [normalize, normalize, show p.normalComponents = q.normalComponents from
    congrArg List.reverse h]

/-- Two paths have one normal form exactly when they have one stack. -/
theorem normalize_eq_iff {p q : Path} : p.normalize = q.normalize ↔ p.stack = q.stack :=
  ⟨fun h => by rw [← stack_normalize p, h, stack_normalize q], normalize_eq_of_stack⟩

/-- A normal form is its own normal form. -/
theorem normalize_normalize (p : Path) : p.normalize.normalize = p.normalize :=
  normalize_eq_of_stack (stack_normalize p)

/-- The normal form of a path below another depends on the normal form of the other. -/
theorem normalize_push_congr {p q : Path} (h : p.normalize = q.normalize) (below : Path) :
    (p.push below).normalize = (q.push below).normalize := by
  cases habsolute : below.isAbsolute with
  | true => rw [push, push, if_pos habsolute, if_pos habsolute]
  | false =>
    rw [normalize_eq_iff, stack_push p habsolute, stack_push q habsolute, normalize_eq_iff.mp h]

end TreePlan.Path
