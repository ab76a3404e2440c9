import Mathlib.Data.List.Sort
import TreePlan.Proofs.Path.Rooted

/-!
# The order of paths

Each of the orders that paths are compared by is lexicographic: that of names by their bytes
(`compareBytes_eq_compareLex`), that of components by their rank and then by their bytes
(`Component.compare_eq_compareLex`), and that of lists of components. So they are transitive and
oriented, and absolute paths in normal form are ordered as their names are (`Path.compare_rooted`).
Below one path, whatever is under a lesser name comes before whatever is under a greater one
(`Path.compare_rooted_of_lt`), and that is the order of a search that goes from directory to
directory. Paths in strict order are determined by which paths there are (`InOrder.eq_of_mem_iff`).
-/

namespace TreePlan

/-- What is compared by something that it has is compared transitively if that is. -/
theorem transCmp_on {α β : Type} {cmp : β → β → Ordering} [Std.TransCmp cmp] (f : α → β) :
    Std.TransCmp fun a b => cmp (f a) (f b) where
  eq_swap := Std.OrientedCmp.eq_swap
  isLE_trans := Std.TransCmp.isLE_trans

/-! ## Lexicographic orders -/

/-- Names are compared byte by byte. -/
theorem compareBytes_eq_compareLex : compareBytes = List.compareLex compare := by
  funext as bs
  induction as generalizing bs with
  | nil => cases bs <;> rfl
  | cons a as ih =>
    cases bs with
    | nil => rfl
    | cons b bs =>
      rw [compareBytes, List.compareLex_cons_cons, ih, show compare a b =
        if a < b then .lt else if a = b then .eq else .gt from rfl]
      by_cases hlt : a < b
      · rw [if_pos hlt, if_pos hlt]
        rfl
      · rw [if_neg hlt, if_neg hlt]
        by_cases heq : a = b
        · rw [if_pos heq, if_neg (heq ▸ UInt8.lt_irrefl b)]
          rfl
        · rw [if_neg heq, if_pos (UInt8.lt_of_le_of_ne (UInt8.not_lt.mp hlt) (Ne.symm heq))]
          rfl

instance : Std.TransCmp compareBytes := by
  rw [compareBytes_eq_compareLex]
  infer_instance

instance : Std.LawfulEqCmp compareBytes := by
  rw [compareBytes_eq_compareLex]
  infer_instance

/-- Components are compared by their rank and then by their bytes. -/
theorem Component.compare_eq_compareLex :
    Component.compare = compareLex (fun c d => Ord.compare c.rank d.rank)
      (fun c d => compareBytes c.bytes d.bytes) := by
  funext c d
  cases c <;> cases d <;> rfl

instance : Std.TransCmp Component.compare := by
  have hrank : Std.TransCmp fun c d : Component => Ord.compare c.rank d.rank := transCmp_on _
  have hbytes : Std.TransCmp fun c d : Component => compareBytes c.bytes d.bytes := transCmp_on _
  rw [Component.compare_eq_compareLex]
  infer_instance

/-- Lists of components are compared component by component. -/
theorem compareComponents_eq_compareLex :
    compareComponents = List.compareLex Component.compare := by
  funext cs ds
  induction cs generalizing ds with
  | nil => cases ds <;> rfl
  | cons c cs ih =>
    cases ds with
    | nil => rfl
    | cons d ds => rw [compareComponents, List.compareLex_cons_cons, ih]

instance : Std.TransCmp compareComponents := by
  rw [compareComponents_eq_compareLex]
  infer_instance

instance : Std.TransCmp Path.compare :=
  show Std.TransCmp fun p q : Path => compareComponents p.components q.components from
    transCmp_on _

/-! ## Absolute paths -/

namespace Path

/-- Names are compared by their bytes, one after the other. -/
theorem compareComponents_map_normal (l l' : List (List UInt8)) :
    compareComponents (l.map .normal) (l'.map .normal) = List.compareLex compareBytes l l' := by
  induction l generalizing l' with
  | nil => cases l' <;> rfl
  | cons n l ih =>
    cases l' with
    | nil => rfl
    | cons n' l' =>
      rw [List.map_cons, List.map_cons, compareComponents, ih, List.compareLex_cons_cons]
      rfl

/-- Absolute paths in normal form are compared by their names. -/
theorem compare_rooted {l l' : List (List UInt8)} (h : ∀ n ∈ l, Plain n) (h' : ∀ n ∈ l', Plain n) :
    (rooted l).compare (rooted l') = List.compareLex compareBytes l l' := by
  rw [compare, components_rooted h, components_rooted h', compareComponents,
    compareComponents_map_normal]
  rfl

/-- Absolute paths in normal form that are neither before nor after each other are the same. -/
theorem eq_of_compare_rooted {l l' : List (List UInt8)} (h : ∀ n ∈ l, Plain n)
    (h' : ∀ n ∈ l', Plain n) (he : (rooted l).compare (rooted l') = .eq) :
    rooted l = rooted l' := by
  rw [compare_rooted h h'] at he
  rw [Std.LawfulEqCmp.eq_of_compare he]

/-- What is under a lesser name comes before what is under a greater one. -/
theorem compare_rooted_of_lt {l more more' : List (List UInt8)} {n n' : List UInt8}
    (h : ∀ m ∈ l ++ n :: more, Plain m) (h' : ∀ m ∈ l ++ n' :: more', Plain m)
    (hlt : compareBytes n n' = .lt) :
    (rooted (l ++ n :: more)).compare (rooted (l ++ n' :: more')) = .lt := by
  rw [compare_rooted h h']
  -- The names that both have compare alike, and then the lesser name decides.
  clear h h'
  induction l with
  | nil => rw [List.nil_append, List.nil_append, List.compareLex_cons_cons, hlt, Ordering.lt_then]
  | cons m l ih =>
    have hself : compareBytes m m = .eq := Std.ReflCmp.compare_self
    rw [List.cons_append, List.cons_append, List.compareLex_cons_cons, hself, Ordering.eq_then, ih]

end Path

/-! ## Lists in order -/

/-- Sorting by a transitive comparison leaves nothing before what it is greater than. -/
theorem pairwise_mergeSort_compare {α : Type} {cmp : α → α → Ordering} [Std.TransCmp cmp]
    (l : List α) : (l.mergeSort fun a b => cmp a b != .gt).Pairwise fun a b => (cmp a b).isLE := by
  have hle : (fun a b => cmp a b != .gt) = fun a b => (cmp a b).isLE := by
    funext a b
    cases cmp a b <;> rfl
  rw [hle]
  refine List.pairwise_mergeSort (fun a b c => Std.TransCmp.isLE_trans) (fun a b => ?_) l
  have hswap : cmp b a = (cmp a b).swap := Std.OrientedCmp.eq_swap
  rw [hswap]
  cases cmp a b <;> rfl

/-- Paths in their order, none of them twice. -/
abbrev InOrder (paths : List Path) : Prop := paths.Pairwise fun p q => p.compare q = .lt

/-- Paths in order are determined by which paths there are. -/
theorem InOrder.eq_of_mem_iff {paths paths' : List Path} (h : InOrder paths) (h' : InOrder paths')
    (hiff : ∀ p, p ∈ paths ↔ p ∈ paths') : paths = paths' := by
  -- Paths are in a strict order, so there is only one way to list them in it.
  have hirrefl : Std.Irrefl fun p q : Path => p.compare q = .lt := by
    refine ⟨fun p hp => ?_⟩
    have hself : p.compare p = .eq := Std.ReflCmp.compare_self
    rw [hself] at hp
    cases hp
  have hantisymm : Std.Antisymm fun p q : Path => p.compare q = .lt := by
    refine ⟨fun p q hpq hqp => ?_⟩
    have hgt : q.compare p = .gt := Std.OrientedCmp.gt_of_lt hpq
    rw [hgt] at hqp
    cases hqp
  exact List.Pairwise.eq_of_mem_iff h h' hiff

end TreePlan
