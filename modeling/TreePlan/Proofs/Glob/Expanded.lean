import TreePlan.Proofs.Glob.Braces
import TreePlan.Proofs.Glob.Set

/-!
# Patterns in the place of what they stand for

What a pattern is expanded to has no choice left: a group that has stayed is closed where it was
closed before, and has no comma of its own, so expanding once more changes nothing
(`expand_of_mem_expand`). A pattern is compiled by parsing what it is expanded to, one after the
other, so patterns are compiled to the same set as what they stand for, and where they are not
compiled the fault is the same but for the pattern that is named (`compile_expanded`).
-/

namespace TreePlan.Braces

/-! ## Expanding again -/

/-- What a pattern is expanded to is expanded to itself. -/
theorem expand_of_mem_expand {text expanded : List Char} (h : expanded ∈ expand text) :
    expand expanded = [expanded] := by
  -- The induction is on the length of the pattern, which its first group shortens.
  induction hn : text.length using Nat.strongRecOn generalizing text expanded with
  | _ n ih =>
    subst hn
    by_cases hmem : '{' ∈ text
    · obtain ⟨before, inside, rfl, hbefore⟩ := List.eq_append_cons_of_mem hmem
      rcases group_cases inside with hnone | ⟨only, rest, hgroup⟩ | ⟨parts, rest, hgroup, htwo⟩
      · rw [expand_unclosed hbefore hnone, List.mem_singleton] at h
        rw [h, expand_unclosed hbefore hnone]
      · -- The group stays, and what follows it has been expanded.
        rw [expand_verbatim hbefore hgroup, List.mem_map] at h
        obtain ⟨after, hafter, rfl⟩ := h
        have hstays : Group (only ++ '}' :: after) [only] after :=
          ⟨hgroup.ne_nil, hgroup.balanced, by rw [List.intercalate_singleton]⟩
        have hagain := expand_verbatim hbefore hstays
        rw [ih _ (hgroup.length_rest_lt before) hafter rfl, List.map_singleton] at hagain
        rwa [List.append_assoc, List.cons_append] at hagain ⊢
      · rw [expand_choice hbefore hgroup htwo, List.mem_flatMap] at h
        obtain ⟨a, ha, hexpanded⟩ := h
        exact ih _ (hgroup.length_part_lt ha before) hexpanded rfl
    · rw [expand_of_not_mem hmem, List.mem_singleton] at h
      rw [h, expand_of_not_mem hmem]

/-- A text that a pattern is expanded to is expanded to itself. -/
theorem expandText_of_mem_expandText {pattern text : String} (h : text ∈ expandText pattern) :
    expandText text = [text] := by
  obtain ⟨expanded, hexpanded, rfl⟩ := List.mem_map.mp h
  rw [expandText, String.toList_ofList, expand_of_mem_expand hexpanded, List.map_singleton]

/-- Patterns that have been expanded stand for themselves. -/
theorem flatMap_expandText (patterns : List String) :
    (patterns.flatMap expandText).flatMap expandText = patterns.flatMap expandText := by
  rw [List.flatMap_assoc]
  refine List.flatMap_congr fun pattern _ => ?_
  have hself := List.flatMap_congr fun text (htext : text ∈ expandText pattern) =>
    expandText_of_mem_expandText htext
  rw [hself, List.flatMap_singleton']

end TreePlan.Braces

namespace TreePlan.PatternSet

/-! ## Compiling what patterns stand for -/

variable {patterns includes excludes : List String}

/-- A pattern is compiled by parsing what it stands for. -/
theorem compileOne_eq (pattern : String) :
    compileOne pattern =
      ((Braces.expandText pattern).mapM Pattern.parse).mapError (Fault.mk pattern) :=
  mapM_mapError _ _ _

/-- Patterns are compiled by parsing what they stand for, but for the pattern that a fault names. -/
theorem mapError_compileAll (patterns : List String) :
    (compileAll patterns).mapError Fault.fault =
      (patterns.flatMap Braces.expandText).mapM Pattern.parse := by
  induction patterns with
  | nil => rfl
  | cons pattern rest ih =>
    rw [List.flatMap_cons, List.mapM_append, ← ih, compileAll, List.mapM_cons, compileOne_eq,
      compileAll]
    cases (Braces.expandText pattern).mapM Pattern.parse with
    | error => rfl
    | ok => cases rest.mapM compileOne <;> rfl

/-- What patterns stand for is compiled like them, but for the pattern that a fault names. -/
theorem compileAll_expanded (patterns : List String) :
    (compileAll (patterns.flatMap Braces.expandText)).mapError Fault.fault =
      (compileAll patterns).mapError Fault.fault := by
  rw [mapError_compileAll, mapError_compileAll, Braces.flatMap_expandText]

/-- What includes and excludes stand for is compiled to the same set as they are. -/
theorem compile_expanded {set : PatternSet} :
    compile (includes.flatMap Braces.expandText) (excludes.flatMap Braces.expandText) = .ok set ↔
      compile includes excludes = .ok set := by
  have hall (patterns : List String) (all : List Pattern) :
      compileAll (patterns.flatMap Braces.expandText) = .ok all ↔ compileAll patterns = .ok all :=
    calc compileAll (patterns.flatMap Braces.expandText) = .ok all
      _ ↔ (compileAll (patterns.flatMap Braces.expandText)).mapError Fault.fault = .ok all :=
          mapError_eq_ok_iff.symm
      _ ↔ (compileAll patterns).mapError Fault.fault = .ok all := by rw [compileAll_expanded]
      _ ↔ compileAll patterns = .ok all := mapError_eq_ok_iff
  rw [compile_eq_ok_iff, compile_eq_ok_iff, hall, hall]

/-- Expansion is a fixed point and adds nothing: whatever a pattern is expanded to is expanded to
itself alone. So includes and excludes may be replaced by what they are expanded to: they compile
exactly if they did before, and the set includes and excludes the same paths. -/
theorem expansion_adds_nothing :
    (∀ pattern, ∀ text ∈ Braces.expandText pattern, Braces.expandText text = [text]) ∧
    ∀ includes excludes : List String,
      ((∃ set, compile (includes.flatMap Braces.expandText) (excludes.flatMap Braces.expandText) =
          .ok set) ↔ ∃ set, compile includes excludes = .ok set) ∧
      ∀ given expanded : PatternSet, compile includes excludes = .ok given →
        compile (includes.flatMap Braces.expandText) (excludes.flatMap Braces.expandText) =
          .ok expanded →
        ∀ p : Path, expanded.includesPath p = given.includesPath p ∧
          expanded.excludesPath p = given.excludesPath p := by
  refine ⟨fun pattern text htext => Braces.expandText_of_mem_expandText htext,
    fun includes excludes => ⟨exists_congr fun set => compile_expanded, ?_⟩⟩
  intro given expanded hgiven hexpanded p
  obtain rfl := Except.ok.inj (hgiven.symm.trans (compile_expanded.mp hexpanded))
  exact ⟨rfl, rfl⟩

/-- A literal group stays in both texts that a choice leaves, a group within the choice stays in one
of them, and the brace that is never closed stays in both: each of them is expanded to itself, and
in the place of the pattern they match what it matches. -/
theorem expansion_adds_nothing_nested :
    let pattern := "\x7bx\x7d\x7ba,\x7bb\x7d\x7d\x7bc,d"
    let texts := ["\x7bx\x7da\x7bc,d", "\x7bx\x7d\x7bb\x7d\x7bc,d"]
    Braces.expandText pattern = texts ∧ (∀ text ∈ texts, Braces.expandText text = [text]) ∧
      ∃ given expanded, compile [pattern] [] = .ok given ∧ compile texts [] = .ok expanded ∧
        ∀ p : Path, expanded.includesPath p = given.includesPath p ∧
          expanded.excludesPath p = given.excludesPath p := by
  intro pattern texts
  have htexts : Braces.expandText pattern = texts := by decide +kernel
  have hcompiles : (compile [pattern] []).toOption.isSome = true := by decide +kernel
  obtain ⟨hself, hset⟩ := expansion_adds_nothing
  obtain ⟨hiff, hsame⟩ := hset [pattern] []
  rw [List.flatMap_singleton, List.flatMap_nil, htexts] at hiff hsame
  cases hgiven : compile [pattern] [] with
  | error fault =>
    rw [hgiven] at hcompiles
    exact nomatch hcompiles
  | ok given =>
    obtain ⟨expanded, hexpanded⟩ := hiff.mpr ⟨given, hgiven⟩
    exact ⟨htexts, htexts ▸ hself pattern, given, expanded, rfl, hexpanded,
      hsame given expanded hgiven hexpanded⟩

end TreePlan.PatternSet
