import Mathlib.Data.List.Forall2
import TreePlan.Path.Split
import TreePlan.Plan.Report
import TreePlan.Proofs.Path.Cutting
import TreePlan.Proofs.Path.Text

/-!
# Paths as they are shown

A report shows a path below the root of the run by what is left of it there, and any other path in
full. Either way the text leads back to the path from the root (`components_push_shownPath`), so two
paths that are shown alike are one. The text identifies the path (`Identifies`), unless this is the
root itself: for that nothing is shown (`shownPath_eq_empty`). The main statement is
`shown_paths_identify`. A run on a single file has its root as the path of a step, which is
therefore not identified (`not_identifies_fileRoot`).
-/

namespace TreePlan

open TreePlan.Path

namespace Report

/-- From a directory, a text identifies a path. -/
structure Identifies (directory path : Path) (text : String) : Prop where
  /-- Something is shown. -/
  ne_empty : text ≠ ""
  /-- What the text spells, below the directory or as it is if it is absolute, is the path. -/
  components_eq : (directory.push (ofString text)).components = path.components
  /-- It is the path to the letter if both are normal forms. -/
  push_eq : directory.normalize = directory → path.normalize = path →
    directory.push (ofString text) = path

variable {root path : Path}

/-! ## Back from the text -/

/-- A relative path that is pushed onto an absolute one adds its names as components. -/
theorem components_push_relative {below : Path} (hroot : root.isAbsolute = true)
    (h : below.isAbsolute = false) :
    (root.push below).components = root.components ++ named below.bytes := by
  have habsolute : (root.push below).isAbsolute = true := (isAbsolute_push_eq root h).trans hroot
  rw [Path.components_eq, Path.components_eq root, leadSpans, leadSpans, habsolute, hroot,
    if_pos rfl, if_pos rfl, named_push root h, List.append_assoc]

/-- A path that is not below the root is shown in full. -/
theorem shownPath_of_not_below (h : path.startsWith root = false) :
    shownPath root path = path.toText := by
  rw [shownPath, stripBase?, h, if_neg Bool.false_ne_true, Option.getD_none]

/-- What is shown for a path at or below the root spells what is left of it there. -/
theorem exists_shownPath (hroot : root.isAbsolute = true) (htext : path.IsText)
    (h : path.startsWith root = true) :
    ∃ below, path.stripBase? root = some below ∧ ofString (shownPath root path) = below ∧
      (root.push below).components = path.components := by
  obtain ⟨l, hmem, hstrip, hrelative, hnamed, hcomponents⟩ := exists_stripBase? hroot h
  have hleft : (relative l).IsText := isText_relative fun n hn => htext.exists_encode (hmem n hn)
  refine ⟨relative l, hstrip, ?_, ?_⟩
  · rw [shownPath, hstrip, Option.getD_some, hleft.ofString_toText]
  · rw [components_push_relative hroot hrelative, ← hnamed, hcomponents]

/-- What is shown for a path leads back to it from the root. -/
theorem components_push_shownPath (hroot : root.isAbsolute = true) (hpath : path.isAbsolute = true)
    (htext : path.IsText) :
    (root.push (ofString (shownPath root path))).components = path.components := by
  cases hbelow : path.startsWith root with
  | true =>
    obtain ⟨below, -, hshown, hback⟩ := exists_shownPath hroot htext hbelow
    rw [hshown, hback]
  | false => rw [shownPath_of_not_below hbelow, htext.ofString_toText, push, if_pos hpath]

/-- Nothing is shown for the root. -/
theorem shownPath_eq_empty (h : path.components = root.components) : shownPath root path = "" := by
  have hbelow : path.startsWith root = true := by
    rw [startsWith, h, List.isPrefixOf_iff_prefix]
  have hnone : path.spans.drop root.components.length = [] := by
    rw [← h, components, List.length_map, List.drop_length]
  rw [shownPath, stripBase?, if_pos hbelow, hnone]
  rfl

/-- Something is shown for any path but the root. -/
theorem shownPath_ne_empty (hroot : root.isAbsolute = true) (hpath : path.isAbsolute = true)
    (htext : path.IsText) (h : path.components ≠ root.components) : shownPath root path ≠ "" := by
  intro hempty
  -- If nothing were shown, it would lead back to the root.
  have hback := components_push_shownPath hroot hpath htext
  have hrelative : (ofString "").isAbsolute = false := rfl
  rw [hempty, components_push_relative hroot hrelative] at hback
  exact h (hback.symm.trans (List.append_nil _))

/-- What is shown for a path other than the root leads back to it to the letter, if it and the root
are normal forms. -/
theorem push_shownPath (hroot : root.isAbsolute = true) (hpath : path.isAbsolute = true)
    (htext : path.IsText) (hne : path.components ≠ root.components)
    (hroot' : root.normalize = root) (hpath' : path.normalize = path) :
    root.push (ofString (shownPath root path)) = path := by
  cases hbelow : path.startsWith root with
  | true =>
    obtain ⟨below, hstrip, hshown, -⟩ := exists_shownPath hroot htext hbelow
    obtain ⟨l, hl, hrooted⟩ := normalize_of_isAbsolute hroot
    obtain ⟨l', hl', hrooted'⟩ := normalize_of_isAbsolute hpath
    rw [hroot'] at hrooted
    rw [hpath'] at hrooted'
    subst hrooted hrooted'
    -- The path has the names of the root and some more, as it is not the root.
    obtain ⟨more, rfl⟩ := (startsWith_rooted hl' hl).mp hbelow
    rw [hshown, ← Option.some.inj ((stripBase?_rooted hl').symm.trans hstrip)]
    cases more with
    | nil => exact absurd (by rw [List.append_nil]) hne
    | cons n rest => exact push_relative_rooted hl (hl' n (by simp)).solid
  | false => rw [shownPath_of_not_below hbelow, htext.ofString_toText, push, if_pos hpath]

/-- What is shown for a path other than the root identifies it from the root. -/
theorem identifies_shownPath (hroot : root.isAbsolute = true) (hpath : path.isAbsolute = true)
    (htext : path.IsText) (hne : path.components ≠ root.components) :
    Identifies root path (shownPath root path) :=
  ⟨shownPath_ne_empty hroot hpath htext hne, components_push_shownPath hroot hpath htext,
    push_shownPath hroot hpath htext hne⟩

/-- What is shown for a path that is not below the root identifies it from anywhere. -/
theorem identifies_of_not_below (hpath : path.isAbsolute = true) (htext : path.IsText)
    (h : path.startsWith root = false) (directory : Path) :
    Identifies directory path (shownPath root path) := by
  have hpush : directory.push (ofString (shownPath root path)) = path := by
    rw [shownPath_of_not_below h, htext.ofString_toText, push, if_pos hpath]
  refine ⟨fun hempty => ?_, congrArg components hpush, fun _ _ => hpush⟩
  rw [shownPath_of_not_below h, htext.toText_eq_empty_iff] at hempty
  rw [hempty] at hpath
  exact Bool.false_ne_true hpath

/-! ## Reports -/

/-- What is shown for a path identifies it from the root, unless it is the root; then nothing is
shown. If the path is not below the root, it is identified from anywhere. -/
structure Shows (root path : Path) (text : String) : Prop where
  /-- The path is not the root. -/
  identifies : path.components ≠ root.components → Identifies root path text
  /-- The path is the root. -/
  eq_empty : path.components = root.components → text = ""
  /-- The path is not below the root. -/
  anywhere : path.startsWith root = false → ∀ directory, Identifies directory path text

/-- What is shown for a path. -/
theorem shows_shownPath (hroot : root.isAbsolute = true) (hpath : path.isAbsolute = true)
    (htext : path.IsText) : Shows root path (shownPath root path) :=
  ⟨identifies_shownPath hroot hpath htext, shownPath_eq_empty, identifies_of_not_below hpath htext⟩

/-- The row says what is done where: the text in its middle is what is shown for the step's path. -/
def RowShows (root : Path) (step : PlanStep) (row : List String) : Prop :=
  ∃ action shown size, row = [action, shown, size] ∧ Shows root step.path shown

/-- The line says what failed where: the text between the yellow word at its front and the message
is what is shown for the path. -/
def LineShows (root : Path) (t : Trouble) (line : String) : Prop :=
  ∃ shown, line = escape "33" "skipped" ++ escape "39" "" ++ " " ++ shown ++ ": " ++ t.message ++
    "\n" ∧ Shows root t.path shown

/-- A plan is shown as a table with a row for each step, and failures as a line for each, in order,
and each row and line shows its path. The path is identified by its text from the root, or from
anywhere if it is not below the root; only for the root itself nothing is shown. Two paths that are
shown alike are one. -/
theorem shown_paths_identify {plan : Plan} {troubles : List Trouble}
    (hroot : root.isAbsolute = true)
    (hpaths : ∀ p ∈ plan.map PlanStep.path ++ troubles.map Trouble.path,
      p.isAbsolute = true ∧ p.IsText) :
    (plan ≠ [] → ∃ rows, List.Forall₂ (RowShows root) plan rows ∧
      planTable root plan = heading "Plan" ++ "\n\n" ++
        ((Table.mk ["Action", "Path", "Bytes"] rows).render ++ "\n\n" ++
          toString plan.length ++ " change(s)\n")) ∧
    (∃ lines, List.Forall₂ (LineShows root) troubles lines ∧
      troubleLines root troubles = String.join lines) ∧
    ∀ p ∈ plan.map PlanStep.path ++ troubles.map Trouble.path,
      ∀ q ∈ plan.map PlanStep.path ++ troubles.map Trouble.path,
        shownPath root p = shownPath root q → p.components = q.components := by
  have hshows (p : Path) (hp : p ∈ plan.map PlanStep.path ++ troubles.map Trouble.path) :
      Shows root p (shownPath root p) := shows_shownPath hroot (hpaths p hp).1 (hpaths p hp).2
  have hsteps (step : PlanStep) (h : step ∈ plan) : RowShows root step (stepCells root step) := by
    have hshown := hshows step.path (List.mem_append_left _ (List.mem_map_of_mem h))
    cases step with
    | delete path => exact ⟨_, _, _, rfl, hshown⟩
    | write path data => exact ⟨_, _, _, rfl, hshown⟩
  have hlines (t : Trouble) (h : t ∈ troubles) : LineShows root t (troubleLine root t) :=
    ⟨_, rfl, hshows t.path (List.mem_append_right _ (List.mem_map_of_mem h))⟩
  refine ⟨fun hne => ⟨plan.map (stepCells root), ?_, ?_⟩,
    ⟨troubles.map (troubleLine root), ?_, rfl⟩, fun p hp q hq hsame => ?_⟩
  · exact List.forall₂_map_right_iff.mpr (List.forall₂_same.mpr hsteps)
  · rw [planTable, List.isEmpty_eq_false_iff.mpr hne, if_neg Bool.false_ne_true]
  · exact List.forall₂_map_right_iff.mpr (List.forall₂_same.mpr hlines)
  · rw [← components_push_shownPath hroot (hpaths p hp).1 (hpaths p hp).2, hsame,
      components_push_shownPath hroot (hpaths q hq).1 (hpaths q hq).2]

/-- Below the directory `/d` a file is shown by its name, a file beside the directory in full, and
nothing is shown for the directory. -/
theorem shown_paths_identify_beside :
    let root := ofString "/d"
    let plan : Plan := [.write (ofString "/d/./é.md") "", .delete (ofString "/e.md"), .delete root]
    let troubles : List Trouble := [⟨ofString "/d/a.md", "not read"⟩]
    root.isAbsolute = true ∧
    (∀ p ∈ plan.map PlanStep.path ++ troubles.map Trouble.path, p.isAbsolute = true ∧ p.IsText) ∧
    (∃ rows, List.Forall₂ (RowShows root) plan rows ∧
      planTable root plan = heading "Plan" ++ "\n\n" ++
        ((Table.mk ["Action", "Path", "Bytes"] rows).render ++ "\n\n" ++
          toString plan.length ++ " change(s)\n")) ∧
    ∃ lines, List.Forall₂ (LineShows root) troubles lines ∧
      troubleLines root troubles = String.join lines := by
  intro root plan troubles
  have hroot : root.isAbsolute = true := by decide +kernel
  have hpaths : ∀ p ∈ plan.map PlanStep.path ++ troubles.map Trouble.path,
      p.isAbsolute = true ∧ p.IsText := by
    refine List.forall_mem_cons.mpr ⟨⟨by decide +kernel, _, rfl⟩, ?_⟩
    refine List.forall_mem_cons.mpr ⟨⟨by decide +kernel, _, rfl⟩, ?_⟩
    refine List.forall_mem_cons.mpr ⟨⟨hroot, _, rfl⟩, ?_⟩
    exact List.forall_mem_cons.mpr ⟨⟨by decide +kernel, _, rfl⟩, List.forall_mem_nil _⟩
  obtain ⟨htable, hlines, -⟩ := shown_paths_identify hroot hpaths
  exact ⟨hroot, hpaths, htable (List.cons_ne_nil _ _), hlines⟩

/-- In a run on a single file, its path is not identified from its directory nor from the root: the
root is the file, and nothing is shown for it. -/
theorem not_identifies_fileRoot :
    ¬ ∀ root path : Path, root.isAbsolute = true → path.IsText → path.startsWith root = true →
      ∃ directory, (directory = root ∨ root.dirname = .ok directory) ∧
        Identifies directory path (shownPath root path) := by
  intro h
  obtain ⟨directory, -, hidentifies⟩ :=
    h (ofString "/d/only.txt") (ofString "/d/only.txt") (by decide +kernel) ⟨_, rfl⟩
      (by decide +kernel)
  exact hidentifies.ne_empty (by decide +kernel)

end Report

end TreePlan
