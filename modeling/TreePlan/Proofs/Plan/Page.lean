import TreePlan.Plan.Report
import TreePlan.Proofs.Json.Reader
import TreePlan.Proofs.Path.Text
import TreePlan.Settings.OfJson

/-!
# Plans as JSON

A plan with the failures is written as a JSON text if all their paths are text, and it can be read
back: `planOf?` takes the root, the steps and the failures from the value by the names of its
members and gives exactly those that were written (`planOf?_planJson?`). As a JSON text is of one
value only, the text determines them all. The main statement is `planPage?_lawful`.
-/

namespace TreePlan

namespace Json

/-- What the value of the first member with a name is read as. -/
def memberAs? {α : Type} (name : String) (read : Json → Option α) : Json → Option α
  | object members => (members.find? (·.1 = name)).bind fun member => read member.2
  | _ => none

/-- A member that has the name is read. -/
@[simp] theorem memberAs?_cons_self {α : Type} (name : String) (read : Json → Option α) (j : Json)
    (rest : List (String × Json)) : (object ((name, j) :: rest)).memberAs? name read = read j := by
  simp [memberAs?]

/-- A member that has another name is passed over. -/
@[simp] theorem memberAs?_cons_of_ne {α : Type} {name other : String} (h : other ≠ name)
    (read : Json → Option α) (j : Json) (rest : List (String × Json)) :
    (object ((other, j) :: rest)).memberAs? name read = (object rest).memberAs? name read := by
  simp [memberAs?, h]

/-- Nothing is read where there is no member. -/
@[simp] theorem memberAs?_nil {α : Type} (name : String) (read : Json → Option α) :
    (object []).memberAs? name read = none := rfl

/-- What the values of a list are read as. -/
def itemsAs? {α : Type} (read : Json → Option α) : Json → Option (List α)
  | array items => items.mapM read
  | _ => none

end Json

namespace Report

open TreePlan.Path Json

variable {α β : Type}

/-! ## Reading back -/

/-- The path that a text spells. -/
def pathOf? (j : Json) : Option Path := j.text?.map ofString

/-- A step by its kind and its path, and by its data exactly if it is a write. -/
def stepOf? (j : Json) : Option PlanStep :=
  (j.memberAs? "kind" text?).bind fun kind => (j.memberAs? "path" pathOf?).bind fun path =>
    if kind = "deleteFile" then
      if (j.memberAs? "data" some).isSome then none else some (.delete path)
    else if kind = "upsertFile" then (j.memberAs? "data" text?).map (.write path)
    else none

/-- A failure by its path and its message. -/
def troubleOf? (j : Json) : Option Trouble :=
  (j.memberAs? "path" pathOf?).bind fun path =>
    (j.memberAs? "message" text?).map fun message => ⟨path, message⟩

/-- The root, the steps and the failures. -/
def planOf? (j : Json) : Option (Path × Plan × List Trouble) :=
  (j.memberAs? "root" pathOf?).bind fun root =>
    (j.memberAs? "commands" (itemsAs? stepOf?)).bind fun plan =>
      (j.memberAs? "errors" (itemsAs? troubleOf?)).map fun troubles => (root, plan, troubles)

/-- A path is read back. -/
theorem pathOf?_pathJson? {p : Path} {j : Json} (h : pathJson? p = some j) :
    pathOf? j = some p := by
  obtain ⟨text, htext, rfl⟩ := Option.map_eq_some_iff.mp h
  exact congrArg some (text?_eq_some_iff.mp htext).symm

/-- A step is read back. -/
theorem stepOf?_stepJson? {step : PlanStep} {j : Json} (h : stepJson? step = some j) :
    stepOf? j = some step := by
  cases step with
  | delete path =>
    obtain ⟨p, hp, rfl⟩ := Option.map_eq_some_iff.mp h
    have hpath := pathOf?_pathJson? hp
    simp [stepOf?, Json.text?, hpath]
  | write path data =>
    obtain ⟨p, hp, rfl⟩ := Option.map_eq_some_iff.mp h
    have hpath := pathOf?_pathJson? hp
    simp [stepOf?, Json.text?, hpath]

/-- A failure is read back. -/
theorem troubleOf?_troubleJson? {t : Trouble} {j : Json} (h : troubleJson? t = some j) :
    troubleOf? j = some t := by
  obtain ⟨p, hp, rfl⟩ := Option.map_eq_some_iff.mp h
  have hpath := pathOf?_pathJson? hp
  simp [troubleOf?, Json.text?, hpath]

/-- What is written of each thing in a list is read back, if it is for one. -/
theorem mapM_of_mapM {f : α → Option β} {g : β → Option α}
    (hback : ∀ {a b}, f a = some b → g b = some a) {l : List α} {l' : List β}
    (h : l.mapM f = some l') : l'.mapM g = some l := by
  induction l generalizing l' with
  | nil =>
    obtain rfl := Option.some.inj h
    rfl
  | cons a l ih =>
    rw [List.mapM_cons] at h
    obtain ⟨b, hb, h⟩ := Option.bind_eq_some_iff.mp h
    obtain ⟨more, hmore, h⟩ := Option.bind_eq_some_iff.mp h
    obtain rfl := Option.some.inj h
    rw [List.mapM_cons, hback hb, ih hmore]
    rfl

/-- A list is not written exactly if a thing in it is not. -/
theorem mapM_eq_none_iff {f : α → Option β} {l : List α} :
    l.mapM f = none ↔ ∃ a ∈ l, f a = none := by
  induction l with
  | nil =>
    exact ⟨fun h => absurd h (Option.some_ne_none _), fun ⟨_, ha, _⟩ => absurd ha List.not_mem_nil⟩
  | cons a l ih =>
    rw [List.mapM_cons, List.exists_mem_cons_iff, ← ih]
    cases f a with
    | none => exact ⟨fun _ => .inl rfl, fun _ => rfl⟩
    | some b => cases l.mapM f <;> simp

/-- The plan with the failures is read back. -/
theorem planOf?_planJson? {root : Path} {plan : Plan} {troubles : List Trouble} {j : Json}
    (h : planJson? root plan troubles = some j) : planOf? j = some (root, plan, troubles) := by
  obtain ⟨r, hr, h⟩ := Option.bind_eq_some_iff.mp h
  obtain ⟨steps, hsteps, h⟩ := Option.bind_eq_some_iff.mp h
  obtain ⟨errors, herrors, h⟩ := Option.bind_eq_some_iff.mp h
  obtain rfl := Option.some.inj h
  have hroot := pathOf?_pathJson? hr
  have hplan : itemsAs? stepOf? (.array steps) = some plan := mapM_of_mapM stepOf?_stepJson? hsteps
  have htroubles : itemsAs? troubleOf? (.array errors) = some troubles :=
    mapM_of_mapM troubleOf?_troubleJson? herrors
  simp [planOf?, hroot, hplan, htroubles]

/-! ## What cannot be written -/

/-- A path is not written exactly if it is not text. -/
theorem pathJson?_eq_none_iff {p : Path} : pathJson? p = none ↔ ¬p.IsText := by
  rw [pathJson?, Option.map_eq_none_iff, text?_eq_none_iff]

/-- A step is not written exactly if its path is not text. -/
theorem stepJson?_eq_none_iff {step : PlanStep} : stepJson? step = none ↔ ¬step.path.IsText := by
  cases step <;> exact Option.map_eq_none_iff.trans pathJson?_eq_none_iff

/-- A failure is not written exactly if its path is not text. -/
theorem troubleJson?_eq_none_iff {t : Trouble} : troubleJson? t = none ↔ ¬t.path.IsText :=
  Option.map_eq_none_iff.trans pathJson?_eq_none_iff

/-- A plan with failures is not written exactly if one of the paths is not text. -/
theorem planJson?_eq_none_iff {root : Path} {plan : Plan} {troubles : List Trouble} :
    planJson? root plan troubles = none ↔
      ¬root.IsText ∨ (∃ step ∈ plan, ¬step.path.IsText) ∨ ∃ t ∈ troubles, ¬t.path.IsText := by
  have hplan : plan.mapM stepJson? = none ↔ ∃ step ∈ plan, ¬step.path.IsText := by
    simp only [mapM_eq_none_iff, stepJson?_eq_none_iff]
  have htroubles : troubles.mapM troubleJson? = none ↔ ∃ t ∈ troubles, ¬t.path.IsText := by
    simp only [mapM_eq_none_iff, troubleJson?_eq_none_iff]
  rw [← hplan, ← htroubles, ← pathJson?_eq_none_iff, planJson?]
  cases pathJson? root with
  | none => exact ⟨fun _ => .inl rfl, fun _ => rfl⟩
  | some r =>
    cases plan.mapM stepJson? with
    | none => exact ⟨fun _ => .inr (.inl rfl), fun _ => rfl⟩
    | some steps => cases troubles.mapM troubleJson? <;> simp

/-- A plan with failures is written as JSON over several lines unless the root, or the path of a
step or of a failure, is not text. What is written is a JSON text, of one value only; that is read
from it, and from the value exactly the root, the steps and the failures in order. So two plans with
failures that are written alike are the same. -/
theorem planPage?_lawful (root : Path) (plan : Plan) (troubles : List Trouble) :
    (planPage? root plan troubles = none ↔
      ¬root.IsText ∨ (∃ step ∈ plan, ¬step.path.IsText) ∨ ∃ t ∈ troubles, ¬t.path.IsText) ∧
    (∀ page, planPage? root plan troubles = some page →
      ∃ doc, (∀ j, Padded Spells page.toList j ↔ j = doc) ∧ read? page.toList = some doc ∧
        planOf? doc = some (root, plan, troubles)) ∧
    ∀ page root' plan' troubles', planPage? root plan troubles = some page →
      planPage? root' plan' troubles' = some page →
        root' = root ∧ plan' = plan ∧ troubles' = troubles := by
  have hread {root : Path} {plan : Plan} {troubles : List Trouble} {page : String}
      (h : planPage? root plan troubles = some page) :
      ∃ doc, (∀ j, Padded Spells page.toList j ↔ j = doc) ∧ read? page.toList = some doc ∧
        planOf? doc = some (root, plan, troubles) := by
    obtain ⟨doc, hdoc, rfl⟩ := Option.map_eq_some_iff.mp h
    have hspells := spells_page doc
    exact ⟨doc, fun j => ⟨fun hj => hj.unique hspells, fun hj => hj ▸ hspells⟩,
      read?_eq_some_iff.mpr hspells, planOf?_planJson? hdoc⟩
  refine ⟨Option.map_eq_none_iff.trans planJson?_eq_none_iff, fun _ => hread,
    fun page root' plan' troubles' h h' => ?_⟩
  -- One value is read from the page, and one plan from the value.
  obtain ⟨doc, -, hdoc, hplan⟩ := hread h
  obtain ⟨doc', -, hdoc', hplan'⟩ := hread h'
  rw [← Option.some.inj (hdoc.symm.trans hdoc'), hplan] at hplan'
  obtain ⟨rfl, heq⟩ := Prod.mk.inj (Option.some.inj hplan')
  obtain ⟨rfl, rfl⟩ := Prod.mk.inj heq
  exact ⟨rfl, rfl, rfl⟩

/-- A plan with quotes, a backslash, an accent and control characters is written with escapes, and
the text determines it; a path with a byte that is not UTF-8 is not written. -/
theorem planPage?_lawful_escapes :
    let root := ofString "/r"
    let plan : Plan := [.write (ofString "/r/\"é\"") "\x01\\\n", .delete (ofString "/r/b")]
    let troubles : List Trouble := [⟨ofString "/r/c", "not read"⟩]
    let page := "\n".intercalate ["\x7b", "  \"root\": \"/r\",", "  \"commands\": [", "    \x7b",
      "      \"kind\": \"upsertFile\",", "      \"path\": \"/r/\\\"é\\\"\",",
      "      \"data\": \"\\u0001\\\\\\n\"", "    \x7d,", "    \x7b",
      "      \"kind\": \"deleteFile\",", "      \"path\": \"/r/b\"", "    \x7d", "  ],",
      "  \"errors\": [", "    \x7b", "      \"path\": \"/r/c\",",
      "      \"message\": \"not read\"", "    \x7d", "  ]", "\x7d"]
    planPage? root plan troubles = some page ∧
    (∃ doc, (∀ j, Padded Spells page.toList j ↔ j = doc) ∧ read? page.toList = some doc ∧
      planOf? doc = some (root, plan, troubles)) ∧
    (∀ root' plan' troubles', planPage? root' plan' troubles' = some page →
      root' = root ∧ plan' = plan ∧ troubles' = troubles) ∧
    planPage? ⟨[47, 255]⟩ plan troubles = none := by
  intro root plan troubles page
  have hpage : planPage? root plan troubles = some page := by decide +kernel
  have hnone : pathJson? ⟨[47, 255]⟩ = none := Option.map_eq_none_iff.mpr (by decide +kernel)
  obtain ⟨-, hread, hsame⟩ := planPage?_lawful root plan troubles
  refine ⟨hpage, hread page hpage,
    fun root' plan' troubles' => hsame page root' plan' troubles' hpage, ?_⟩
  exact (planPage?_lawful ⟨[47, 255]⟩ plan troubles).1.mpr (.inl (pathJson?_eq_none_iff.mp hnone))

end Report

end TreePlan
