import TreePlan.Glob.Set

/-!
# What a set of patterns matches

Patterns compile if all the patterns that they stand for do (`Compiles`, `exists_compileAll_iff`).
What is reported otherwise is one that does not, by the pattern as it was given (`Fault.Blames`).
What has been compiled matches a path if one of the patterns that the given ones stand for does
(`MatchedBy`), and it excludes a path that it matches or whose ancestor it matches.
-/

namespace TreePlan.PatternSet

/-! ## Mapping with failures -/

section Mapping

variable {α β ε δ : Type} {f : α → Except ε β}

/-- Relabelling a failure changes nothing about a success. -/
theorem mapError_eq_ok_iff {label : ε → δ} {x : Except ε β} {b : β} :
    x.mapError label = .ok b ↔ x = .ok b := by
  cases x with
  | error => exact ⟨nofun, nofun⟩
  | ok =>
    exact ⟨fun h => congrArg Except.ok (Except.ok.inj h),
      fun h => congrArg Except.ok (Except.ok.inj h)⟩

/-- Relabelling each failure of a mapping relabels the failure of the whole. -/
theorem mapM_mapError (f : α → Except ε β) (label : ε → δ) (l : List α) :
    l.mapM (fun a => (f a).mapError label) = (l.mapM f).mapError label := by
  induction l with
  | nil => rfl
  | cons a rest ih =>
    rw [List.mapM_cons, List.mapM_cons, ih]
    cases f a with
    | error => rfl
    | ok => cases rest.mapM f <;> rfl

/-- If a list is mapped, each element is, and the results are theirs. -/
theorem of_mapM_eq_ok {l : List α} {l' : List β} (h : l.mapM f = .ok l') :
    (∀ a ∈ l, ∃ b, f a = .ok b) ∧ ∀ b, b ∈ l' ↔ ∃ a ∈ l, f a = .ok b := by
  induction l generalizing l' with
  | nil =>
    obtain rfl := Except.ok.inj h
    exact ⟨nofun, fun b => ⟨nofun, fun ⟨_, ha, _⟩ => nomatch ha⟩⟩
  | cons a rest ih =>
    rw [List.mapM_cons] at h
    cases ha : f a with
    | error e =>
      rw [ha] at h
      exact nomatch h
    | ok first =>
      cases hrest : rest.mapM f with
      | error e =>
        rw [ha, hrest] at h
        exact nomatch h
      | ok others =>
        rw [ha, hrest] at h
        obtain rfl := Except.ok.inj h
        obtain ⟨hall, hmem⟩ := ih hrest
        refine ⟨List.forall_mem_cons.mpr ⟨⟨first, ha⟩, hall⟩, fun b => ?_⟩
        simp only [List.mem_cons, hmem, exists_eq_or_imp, ha, Except.ok.injEq]
        exact or_congr_left eq_comm

/-- If a list is not mapped, an element is not, and for the same reason. -/
theorem of_mapM_eq_error {l : List α} {e : ε} (h : l.mapM f = .error e) :
    ∃ a ∈ l, f a = .error e := by
  induction l with
  | nil => exact nomatch h
  | cons a rest ih =>
    rw [List.mapM_cons] at h
    cases ha : f a with
    | error e' =>
      rw [ha] at h
      exact ⟨a, List.mem_cons_self, by rw [ha, Except.error.inj h]⟩
    | ok first =>
      cases hrest : rest.mapM f with
      | error e' =>
        rw [ha, hrest] at h
        obtain ⟨a', ha', he⟩ := ih (hrest.trans (congrArg Except.error (Except.error.inj h)))
        exact ⟨a', List.mem_cons_of_mem a ha', he⟩
      | ok others =>
        rw [ha, hrest] at h
        exact nomatch h

/-- A list is mapped exactly if each element is. -/
theorem exists_mapM_iff {l : List α} :
    (∃ l', l.mapM f = .ok l') ↔ ∀ a ∈ l, ∃ b, f a = .ok b := by
  refine ⟨fun ⟨_, h⟩ => (of_mapM_eq_ok h).1, fun h => ?_⟩
  cases hl : l.mapM f with
  | error e =>
    obtain ⟨a, ha, he⟩ := of_mapM_eq_error hl
    obtain ⟨b, hb⟩ := h a ha
    exact nomatch he.symm.trans hb
  | ok l' => exact ⟨l', rfl⟩

end Mapping

/-! ## Compiling -/

/-- All the patterns that a pattern stands for compile. -/
def Compiles (pattern : String) : Prop :=
  ∀ text ∈ Braces.expandText pattern, ∃ compiled, Pattern.parse text = .ok compiled

/-- A fault is that of a pattern that one of the patterns stands for, told by the pattern as it was
given. -/
def Fault.Blames (fault : Fault) (patterns : List String) : Prop :=
  fault.pattern ∈ patterns ∧
    ∃ text ∈ Braces.expandText fault.pattern, Pattern.parse text = .error fault.fault

/-- One of the patterns that the given ones stand for matches a path. -/
def MatchedBy (patterns : List String) (p : Path) : Prop :=
  ∃ pattern ∈ patterns, ∃ text ∈ Braces.expandText pattern, ∃ compiled,
    Pattern.parse text = .ok compiled ∧ compiled.accepts (candidate p) = true

variable {pattern : String} {patterns includes excludes : List String} {fault : Fault} {p : Path}

/-- A pattern that is to blame among some is to blame among more. -/
theorem Fault.Blames.mono (h : fault.Blames patterns) {more : List String}
    (hmore : patterns ⊆ more) : fault.Blames more := ⟨hmore h.1, h.2⟩

/-- A pattern that is to blame does not compile. -/
theorem Fault.Blames.not_compiles (h : fault.Blames patterns) : ¬ Compiles fault.pattern := by
  obtain ⟨-, text, htext, hfault⟩ := h
  intro hcompiles
  obtain ⟨compiled, hcompiled⟩ := hcompiles text htext
  exact nomatch hfault.symm.trans hcompiled

/-- A pattern compiles exactly if what it stands for does. -/
theorem exists_compileOne_iff :
    (∃ compiled, compileOne pattern = .ok compiled) ↔ Compiles pattern := by
  rw [compileOne, exists_mapM_iff]
  simp only [mapError_eq_ok_iff, Compiles]

/-- A pattern that does not compile is to blame. -/
theorem blames_compileOne (h : compileOne pattern = .error fault) : fault.Blames [pattern] := by
  obtain ⟨text, htext, hparse⟩ := of_mapM_eq_error h
  cases hfault : Pattern.parse text with
  | error e =>
    rw [hfault] at hparse
    obtain rfl := Except.error.inj hparse
    exact ⟨List.mem_cons_self, text, htext, hfault⟩
  | ok compiled =>
    rw [hfault] at hparse
    exact nomatch hparse

/-- Patterns compile exactly if each of them does. -/
theorem exists_compileAll_iff :
    (∃ compiled, compileAll patterns = .ok compiled) ↔ ∀ pattern ∈ patterns, Compiles pattern := by
  simp only [← exists_compileOne_iff, ← exists_mapM_iff, compileAll]
  cases patterns.mapM compileOne with
  | error => exact ⟨nofun, nofun⟩
  | ok compiled => exact ⟨fun _ => ⟨_, rfl⟩, fun _ => ⟨_, rfl⟩⟩

/-- If patterns do not compile, one of them is to blame. -/
theorem blames_compileAll (h : compileAll patterns = .error fault) : fault.Blames patterns := by
  rw [compileAll] at h
  cases hall : patterns.mapM compileOne with
  | error fault' =>
    rw [hall] at h
    obtain rfl := Except.error.inj h
    obtain ⟨pattern, hpattern, hone⟩ := of_mapM_eq_error hall
    obtain ⟨hmem, htext⟩ := blames_compileOne hone
    exact ⟨List.mem_singleton.mp hmem ▸ hpattern, htext⟩
  | ok compiled =>
    rw [hall] at h
    exact nomatch h

/-- What patterns are compiled to is what the patterns that they stand for are compiled to. -/
theorem mem_of_compileAll_eq_ok {all : List Pattern} (h : compileAll patterns = .ok all)
    {compiled : Pattern} :
    compiled ∈ all ↔ ∃ pattern ∈ patterns, ∃ text ∈ Braces.expandText pattern,
      Pattern.parse text = .ok compiled := by
  rw [compileAll] at h
  cases hall : patterns.mapM compileOne with
  | error fault =>
    rw [hall] at h
    exact nomatch h
  | ok each =>
    rw [hall] at h
    obtain rfl := Except.ok.inj h
    rw [List.mem_flatten]
    constructor
    · rintro ⟨alone, halone, hcompiled⟩
      obtain ⟨pattern, hpattern, hone⟩ := ((of_mapM_eq_ok hall).2 alone).mp halone
      obtain ⟨text, htext, hparse⟩ := ((of_mapM_eq_ok hone).2 compiled).mp hcompiled
      exact ⟨pattern, hpattern, text, htext, mapError_eq_ok_iff.mp hparse⟩
    · rintro ⟨pattern, hpattern, text, htext, hparse⟩
      obtain ⟨alone, hone⟩ := (of_mapM_eq_ok hall).1 pattern hpattern
      exact ⟨alone, ((of_mapM_eq_ok hall).2 alone).mpr ⟨pattern, hpattern, hone⟩,
        ((of_mapM_eq_ok hone).2 compiled).mpr ⟨text, htext, mapError_eq_ok_iff.mpr hparse⟩⟩

/-- Compiled patterns accept a path exactly if one of the given ones matches it. -/
theorem any_accepts_iff {all : List Pattern} (h : compileAll patterns = .ok all) :
    all.any (·.accepts (candidate p)) = true ↔ MatchedBy patterns p := by
  rw [List.any_eq_true]
  constructor
  · rintro ⟨compiled, hcompiled, haccepts⟩
    obtain ⟨pattern, hpattern, text, htext, hparse⟩ := (mem_of_compileAll_eq_ok h).mp hcompiled
    exact ⟨pattern, hpattern, text, htext, compiled, hparse, haccepts⟩
  · rintro ⟨pattern, hpattern, text, htext, compiled, hparse, haccepts⟩
    exact ⟨compiled, (mem_of_compileAll_eq_ok h).mpr ⟨pattern, hpattern, text, htext, hparse⟩,
      haccepts⟩

/-! ## Sets -/

/-- Includes and excludes compile to a set exactly if both compile. -/
theorem compile_eq_ok_iff {set : PatternSet} :
    compile includes excludes = .ok set ↔
      compileAll includes = .ok set.includes ∧ compileAll excludes = .ok set.excludes := by
  unfold compile
  cases compileAll includes with
  | error fault => exact ⟨nofun, nofun⟩
  | ok included =>
    cases compileAll excludes with
    | error fault => exact ⟨nofun, nofun⟩
    | ok excluded =>
      constructor
      · intro h
        obtain rfl := Except.ok.inj h
        exact ⟨rfl, rfl⟩
      · rintro ⟨hincludes, hexcludes⟩
        obtain rfl := Except.ok.inj hincludes
        obtain rfl := Except.ok.inj hexcludes
        rfl

/-- Includes and excludes compile exactly if each of them does. -/
theorem exists_compile_iff :
    (∃ set, compile includes excludes = .ok set) ↔
      ∀ pattern ∈ includes ++ excludes, Compiles pattern := by
  simp only [compile_eq_ok_iff, List.forall_mem_append, ← exists_compileAll_iff]
  constructor
  · rintro ⟨set, hincludes, hexcludes⟩
    exact ⟨⟨_, hincludes⟩, _, hexcludes⟩
  · rintro ⟨⟨included, hincludes⟩, excluded, hexcludes⟩
    exact ⟨⟨included, excluded⟩, hincludes, hexcludes⟩

/-- If includes and excludes do not compile, one of them is to blame. -/
theorem blames_compile (h : compile includes excludes = .error fault) :
    fault.Blames (includes ++ excludes) := by
  rw [compile] at h
  cases hincludes : compileAll includes with
  | error fault' =>
    rw [hincludes] at h
    obtain rfl := Except.error.inj h
    exact (blames_compileAll hincludes).imp_left (List.mem_append_left _)
  | ok included =>
    cases hexcludes : compileAll excludes with
    | error fault' =>
      rw [hincludes, hexcludes] at h
      obtain rfl := Except.error.inj h
      exact (blames_compileAll hexcludes).imp_left (List.mem_append_right _)
    | ok excluded =>
      rw [hincludes, hexcludes] at h
      exact nomatch h

/-- A set includes what one of the includes matches. -/
theorem includesPath_iff {set : PatternSet} (h : compile includes excludes = .ok set) :
    set.includesPath p = true ↔ MatchedBy includes p :=
  any_accepts_iff (compile_eq_ok_iff.mp h).1

/-- A set excludes what one of the excludes matches, and what is below that. -/
theorem excludesPath_iff {set : PatternSet} (h : compile includes excludes = .ok set) :
    set.excludesPath p = true ↔ ∃ q ∈ p.ancestors, MatchedBy excludes q := by
  rw [excludesPath, List.any_eq_true]
  simp only [any_accepts_iff (compile_eq_ok_iff.mp h).2]

end TreePlan.PatternSet
