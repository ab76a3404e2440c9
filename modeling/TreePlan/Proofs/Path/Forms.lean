import TreePlan.Proofs.Path.Relative

/-!
# The shape of normal forms

A settled stack, first component first, is the root with plain names above it, or a number of `..`
with plain names above them (`Settled.exists_names`). So a normal form is spelled in one of three
ways (`NormalForm`), and a path is spelled so exactly when it is its own normal form
(`normalForm_iff`).

A path is made of names with a separator between each two, after a further one if it is absolute
(`spelled`). Its names can be stepped through one by one (`stack_spelled`), and there are names that
leave every stack as it was (`Detour`): an empty one, `.`, and a plain name with `..` after it. So a
detour does not change the normal form of a path, wherever it is made (`normalize_detour`). The main
statement is `normalize_lawful`.
-/

namespace TreePlan.Path

/-! ## Shapes -/

/-- The spellings of normal forms. -/
inductive NormalForm : Path → Prop
  /-- A lone `.`. -/
  | current : NormalForm ⟨[dot]⟩
  /-- A separator, and after it plain names with one separator between each two. -/
  | absolute {names : List (List UInt8)} (h : ∀ n ∈ names, Plain n) :
      NormalForm ⟨separator :: [separator].intercalate names⟩
  /-- Any number of `..` and then plain names, at least one of all these, with one separator between
  each two. -/
  | relative {climbs : Nat} {names : List (List UInt8)} (h : ∀ n ∈ names, Plain n)
      (hne : List.replicate climbs [dot, dot] ++ names ≠ []) :
      NormalForm ⟨[separator].intercalate (List.replicate climbs [dot, dot] ++ names)⟩

/-- A settled stack holds plain names above the root, or plain names above a number of `..`. -/
theorem Settled.exists_names {stack : List Component} (h : Settled stack) :
    ∃ names : List (List UInt8), (∀ n ∈ names, Plain n) ∧
      (stack.reverse = .root :: names.map .normal ∨
        ∃ climbs, stack.reverse = List.replicate climbs .parent ++ names.map .normal) := by
  induction h with
  | nil => exact ⟨[], nofun, Or.inr ⟨0, rfl⟩⟩
  | root => exact ⟨[], nofun, Or.inl rfl⟩
  | @parent below h hbelow ih =>
    -- A `..` stays only on top of others, so there is no name beside it.
    refine ⟨[], nofun, Or.inr ⟨below.length + 1, ?_⟩⟩
    have hclimbs : .parent :: below = List.replicate (below.length + 1) Component.parent :=
      List.eq_replicate_iff.mpr ⟨rfl, List.forall_mem_cons.mpr ⟨rfl, hbelow⟩⟩
    rw [hclimbs, List.reverse_replicate, List.map_nil, List.append_nil]
  | @normal below name h hname ih =>
    obtain ⟨names, hnames, hbelow⟩ := ih
    refine ⟨names ++ [name], ?_, ?_⟩
    · exact List.forall_mem_append.mpr ⟨hnames, List.forall_mem_singleton.mpr hname⟩
    · rw [List.reverse_cons, List.map_append]
      refine hbelow.imp (fun hroot => ?_) fun ⟨climbs, hclimbs⟩ => ⟨climbs, ?_⟩
      · rw [hroot]
        rfl
      · rw [hclimbs, List.append_assoc]
        rfl

/-- Plain names on a settled stack leave it settled. -/
theorem Settled.append_names {stack : List Component} (h : Settled stack)
    {names : List (List UInt8)} (hnames : ∀ n ∈ names, Plain n) :
    Settled ((names.map Component.normal).reverse ++ stack) := by
  induction names generalizing stack with
  | nil => exact h
  | cons n names ih =>
    rw [List.forall_mem_cons] at hnames
    have hrest := ih (h.normal hnames.1) hnames.2
    rwa [List.map_cons, List.reverse_cons, List.append_assoc]

/-- Nothing but `..` is settled. -/
theorem settled_replicate (climbs : Nat) : Settled (List.replicate climbs .parent) := by
  induction climbs with
  | zero => exact .nil
  | succ climbs ih => exact .parent ih fun c hc => List.eq_of_mem_replicate hc

/-- The bytes of an absolute path in normal form. -/
theorem bytes_rooted (names : List (List UInt8)) :
    (rooted names).bytes = separator :: [separator].intercalate names := by
  cases names with
  | nil => rfl
  | cons n rest =>
    rw [← bytes_relative, rooted_of_ne_nil (List.cons_ne_nil n rest)]
    rfl

/-- The path that a number of `..` and then plain names spell. -/
theorem ofComponents_climbs (climbs : Nat) {names : List (List UInt8)}
    (h : ∀ n ∈ names, Plain n) :
    ofComponents (List.replicate climbs .parent ++ names.map .normal) =
      ⟨[separator].intercalate (List.replicate climbs [dot, dot] ++ names)⟩ := by
  have hbytes : (List.replicate climbs Component.parent ++ names.map Component.normal).map
      Component.bytes = List.replicate climbs [dot, dot] ++ names := by
    rw [List.map_append, List.map_replicate, List.map_map]
    exact congrArg _ (List.map_id names)
  have hsolid : ∀ c ∈ List.replicate climbs Component.parent ++ names.map Component.normal,
      Solid c.bytes := by
    intro c hc
    rcases List.mem_append.mp hc with hc | hc
    · rw [List.eq_of_mem_replicate hc]
      exact ⟨by decide, by decide⟩
    · obtain ⟨n, hn, rfl⟩ := List.mem_map.mp hc
      exact (h n hn).solid
  rw [ofComponents_eq_relative hsolid, hbytes, ← bytes_relative]

/-- A normal form is spelled as one. -/
theorem normalForm_normalize (p : Path) : NormalForm p.normalize := by
  obtain ⟨names, hnames, hroot | ⟨climbs, hclimbs⟩⟩ := (settled_stack p).exists_names
  · rw [normalize, show p.normalComponents = _ from hroot]
    dsimp only
    rw [ofComponents_root hnames]
    have habsolute := NormalForm.absolute hnames
    rwa [← bytes_rooted] at habsolute
  · rw [normalize, show p.normalComponents = _ from hclimbs]
    split
    · exact .current
    · rename_i hne
      rw [ofComponents_climbs climbs hnames]
      refine .relative hnames fun hnil => hne ?_
      rw [List.append_eq_nil_iff, List.replicate_eq_nil_iff] at hnil ⊢
      exact ⟨hnil.1, hnil.2 ▸ rfl⟩

/-- What is spelled as a normal form is its own normal form. -/
theorem NormalForm.normalize_eq {p : Path} (h : NormalForm p) : p.normalize = p := by
  cases h with
  | current => decide
  | @absolute names h =>
    rw [← bytes_rooted]
    exact normalize_rooted h
  | @relative climbs names h hne =>
    rw [← ofComponents_climbs climbs h]
    refine (Tidy.settled (fun hnil => hne ?_) ?_).normalize_ofComponents
    · rw [List.append_eq_nil_iff, List.replicate_eq_nil_iff, List.map_eq_nil_iff] at hnil
      rw [hnil.1, hnil.2]
      rfl
    · rw [List.reverse_append, List.reverse_replicate]
      exact (settled_replicate climbs).append_names h

/-- A path is spelled as a normal form exactly when it is its own normal form. -/
theorem normalForm_iff {p : Path} : NormalForm p ↔ p.normalize = p :=
  ⟨NormalForm.normalize_eq, fun h => h ▸ normalForm_normalize p⟩

/-! ## Detours -/

/-- The path with a separator between each two of the names, and one in front of them if it is
absolute. -/
def spelled (absolute : Bool) (names : List (List UInt8)) : Path :=
  ⟨(if absolute then [separator] else []) ++ [separator].intercalate names⟩

/-- Names that a path may as well go without. -/
inductive Detour : List (List UInt8) → Prop
  /-- An empty name, from a separator beside another one or at the end. -/
  | empty : Detour [[]]
  /-- A `.`. -/
  | current : Detour [[dot]]
  /-- A plain name, and `..` after it. -/
  | back {name : List UInt8} (h : Plain name) : Detour [name, [dot, dot]]

/-- The names of a path, joined by separators, are the path. -/
theorem intercalate_names (bytes : List UInt8) : [separator].intercalate (names bytes) = bytes := by
  rw [← bytes_relative, relative, spell_names]
  rfl

/-- Every path is spelled by names. -/
theorem exists_spelled (p : Path) :
    ∃ l, (∀ n ∈ l, separator ∉ n) ∧ p = spelled p.isAbsolute l := by
  obtain ⟨bytes⟩ := p
  cases habsolute : isAbsolute ⟨bytes⟩ with
  | false =>
    refine ⟨names bytes, fun n hn => separator_not_mem_of_mem_names hn, ?_⟩
    rw [spelled, intercalate_names]
    rfl
  | true =>
    cases bytes with
    | nil => exact nomatch habsolute
    | cons b rest =>
      have hb : b = separator := by simpa [isAbsolute] using habsolute
      refine ⟨names rest, fun n hn => separator_not_mem_of_mem_names hn, ?_⟩
      rw [spelled, intercalate_names, hb]
      rfl

/-- The components of joined names are those of each name. -/
theorem named_intercalate (l : List (List UInt8)) :
    named ([separator].intercalate l) = l.flatMap named := by
  induction l with
  | nil => rfl
  | cons n rest ih =>
    cases rest with
    | nil => rw [List.intercalate_singleton, List.flatMap_singleton]
    | cons m rest =>
      rw [List.intercalate_cons_cons, List.append_assoc, List.singleton_append,
        named_append_separator, ih, ← List.flatMap_cons]

/-- The names of a path can be stepped through one after the other. -/
theorem stack_spelled {absolute : Bool} {l : List (List UInt8)}
    (h : (spelled absolute l).isAbsolute = absolute) :
    (spelled absolute l).stack =
      (l.flatMap named).foldl step (if absolute then [.root] else []) := by
  have hnamed : named (spelled absolute l).bytes = l.flatMap named := by
    rw [← named_intercalate]
    cases absolute with
    | false => rfl
    | true =>
      -- The empty name before the first separator adds no component.
      exact named_append_separator [] _
  rw [stack_eq, h, hnamed]

/-- A detour ends where it began. -/
theorem Detour.foldl_step {detour : List (List UInt8)} (h : Detour detour)
    (stack : List Component) : (detour.flatMap named).foldl step stack = stack := by
  cases h with
  | empty => rfl
  | current => rfl
  | @back name h =>
    rw [List.flatMap_cons, h.named_eq]
    rfl

/-- A detour does not change the normal form, unless it hides or shows a root. -/
theorem normalize_detour {absolute : Bool} {before detour after : List (List UInt8)}
    (h : Detour detour)
    (hwith : (spelled absolute (before ++ detour ++ after)).isAbsolute = absolute)
    (hwithout : (spelled absolute (before ++ after)).isAbsolute = absolute) :
    (spelled absolute (before ++ detour ++ after)).normalize =
      (spelled absolute (before ++ after)).normalize := by
  apply normalize_eq_of_stack
  rw [stack_spelled hwith, stack_spelled hwithout]
  simp only [List.flatMap_append, List.foldl_append, h.foldl_step]

/-! ## The laws of normal forms -/

/-- Every path has a normal form that is spelled as one, and this normal form is its own. A path
pushed onto another has the normal form that it has when pushed onto the normal form of the other.
Every path is spelled by names, and a detour among them does not change the normal form. -/
theorem normalize_lawful :
    (∀ p : Path, NormalForm p.normalize) ∧
    (∀ p : Path, p.normalize.normalize = p.normalize) ∧
    (∀ p q : Path, (p.push q).normalize = (p.normalize.push q).normalize) ∧
    (∀ p : Path, ∃ l, (∀ n ∈ l, separator ∉ n) ∧ p = spelled p.isAbsolute l) ∧
    ∀ (absolute : Bool) (before detour after : List (List UInt8)), Detour detour →
      (spelled absolute (before ++ detour ++ after)).isAbsolute = absolute →
      (spelled absolute (before ++ after)).isAbsolute = absolute →
      (spelled absolute (before ++ detour ++ after)).normalize =
        (spelled absolute (before ++ after)).normalize := by
  refine ⟨normalForm_normalize, normalize_normalize, fun p q => ?_, exists_spelled, ?_⟩
  · exact normalize_push_congr (normalize_normalize p).symm q
  · intro absolute before detour after h hwith hwithout
    exact normalize_detour h hwith hwithout

/-- The `..` in front of `../a/../b/` stays, `a` goes with the `..` after it, and so does the
separator at the end. -/
theorem normalize_lawful_climbing :
    NormalForm (ofString "../a/../b/").normalize ∧
    (ofString "../a/../b/").normalize = ofString "../b" ∧
    ((ofString "../a/../b/").push (ofString "../../c")).normalize = ofString "../../c" := by
  obtain ⟨hshape, -, hpush, -, hdetour⟩ := normalize_lawful
  have hback : Detour [[97], [dot, dot]] := .back (by decide)
  have hshort := hdetour false [[dot, dot]] [[97], [dot, dot]] [[98], []] hback (by decide)
    (by decide)
  have hspelled : spelled false ([[dot, dot]] ++ [[97], [dot, dot]] ++ [[98], []]) =
      ofString "../a/../b/" := by decide +kernel
  have hnormal : (ofString "../a/../b/").normalize = ofString "../b" := by
    rw [← hspelled, hshort]
    decide +kernel
  refine ⟨hshape _, hnormal, ?_⟩
  rw [hpush, hnormal]
  decide +kernel

end TreePlan.Path
