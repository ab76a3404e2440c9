import TreePlan.Proofs.Glob.Braces
import TreePlan.Proofs.Glob.Set
import TreePlan.Proofs.Path.Text

/-!
# Literal patterns

A pattern without wildcards, sets and groups is a literal: it is read as its own characters
(`parse_of_literal`) and matches its own text alone (`accepts_literal`). A path of plain names that
are valid UTF-8 (`Path.Ordinary`) is determined by its text (`Path.Ordinary.eq_of_toText`), and so
are its ancestors, so the path that a literal spells is the only one without a backslash that the
literal includes, and of these it excludes that path and what is below it (`literal_selects`). In a
path with a backslash, patterns see a separator: no literal includes such a path by its own name
(`not_literal_selects_backslash`).
-/

namespace TreePlan

namespace Path

/-! ## Ordinary paths -/

/-- A relative path of one or more plain names, all of them valid UTF-8, with one separator between
each two of them. -/
def Ordinary (p : Path) : Prop :=
  ∃ names : List (List UInt8), names ≠ [] ∧ (∀ n ∈ names, Plain n ∧ (Utf8.decode? n).isSome) ∧
    p.bytes = [separator].intercalate names

variable {p q : Path} {texts : List (List Char)}

/-- An ordinary path is spelled by texts. -/
theorem Ordinary.exists_texts (h : p.Ordinary) :
    ∃ texts : List (List Char), texts ≠ [] ∧ (∀ n ∈ texts.map Utf8.encode, Plain n) ∧
      p = relative (texts.map Utf8.encode) := by
  obtain ⟨names, hne, hnames, hbytes⟩ := h
  have hwritten : (names.map Utf8.decodeLossy).map Utf8.encode = names := by
    rw [List.map_map]
    have hname (n : List UInt8) (hn : n ∈ names) : (Utf8.encode ∘ Utf8.decodeLossy) n = id n :=
      Utf8.encode_decodeLossy (hnames n hn).2
    rw [List.map_congr_left hname, List.map_id]
  refine ⟨names.map Utf8.decodeLossy, fun hnil => hne (List.map_eq_nil_iff.mp hnil), ?_, ?_⟩
  · rw [hwritten]
    exact fun n hn => (hnames n hn).1
  · rw [hwritten]
    exact congrArg Path.mk (hbytes.trans (bytes_relative names).symm)

/-- Texts that are plain names spell an ordinary path. -/
theorem ordinary_relative (hne : texts ≠ []) (h : ∀ n ∈ texts.map Utf8.encode, Plain n) :
    (relative (texts.map Utf8.encode)).Ordinary := by
  refine ⟨_, fun hnil => hne (List.map_eq_nil_iff.mp hnil), fun n hn => ⟨h n hn, ?_⟩,
    bytes_relative _⟩
  obtain ⟨text, -, rfl⟩ := List.mem_map.mp hn
  exact Utf8.isSome_decode?_iff.mpr ⟨text, rfl⟩

/-- The text of a path that texts spell. -/
theorem toText_relative (texts : List (List Char)) :
    (relative (texts.map Utf8.encode)).toText.toList = ['/'].intercalate texts := by
  rw [toText, bytes_relative_encode, Utf8.decodeLossy_encode, String.toList_ofList]

/-- Ordinary paths with one text are one path. -/
theorem Ordinary.eq_of_toText (hp : p.Ordinary) (hq : q.Ordinary)
    (h : p.toText.toList = q.toText.toList) : p = q := by
  obtain ⟨texts, -, -, rfl⟩ := hp.exists_texts
  obtain ⟨texts', -, -, rfl⟩ := hq.exists_texts
  rw [toText_relative, toText_relative] at h
  have hbytes : (relative (texts.map Utf8.encode)).bytes =
      (relative (texts'.map Utf8.encode)).bytes := by
    rw [bytes_relative_encode, bytes_relative_encode, h]
  exact congrArg Path.mk hbytes

/-- The ancestors of an ordinary path are the ordinary paths whose components begin its own. -/
theorem Ordinary.mem_ancestors (hq : q.Ordinary) :
    p ∈ q.ancestors ↔ p.Ordinary ∧ p.components <+: q.components := by
  obtain ⟨texts, -, hplain, rfl⟩ := hq.exists_texts
  rw [mem_ancestors_relative hplain]
  constructor
  · rintro ⟨names, hne, hfirst, rfl⟩
    obtain ⟨first, hfirst', rfl⟩ := List.prefix_map_iff.mp hfirst
    have hplain' : ∀ n ∈ first.map Utf8.encode, Plain n := fun n hn => hplain n (hfirst.subset hn)
    refine ⟨ordinary_relative (fun hnil => hne (hnil ▸ rfl)) hplain', ?_⟩
    rw [components_relative hplain, components_relative hplain']
    exact hfirst.map _
  · rintro ⟨hp, hfirst⟩
    obtain ⟨first, hne, hplain', rfl⟩ := hp.exists_texts
    rw [components_relative hplain, components_relative hplain',
      List.prefix_map_iff_of_injective fun _ _ => Component.normal.inj] at hfirst
    exact ⟨_, fun hnil => hne (List.map_eq_nil_iff.mp hnil), hfirst, rfl⟩

/-- What is in front of lists with something between them is in front of longer ones. -/
theorem intercalate_prefix {α : Type} (between : List α) {l more : List (List α)}
    (h : l <+: more) : between.intercalate l <+: between.intercalate more := by
  induction l generalizing more with
  | nil => exact List.nil_prefix
  | cons a rest ih =>
    obtain ⟨after, rfl⟩ := h
    cases rest with
    | nil =>
      cases after with
      | nil => exact List.prefix_rfl
      | cons b after =>
        rw [List.singleton_append, List.intercalate_singleton, List.intercalate_cons_cons,
          List.append_assoc]
        exact List.prefix_append a _
    | cons b rest =>
      rw [List.cons_append, List.cons_append, List.intercalate_cons_cons,
        List.intercalate_cons_cons, List.prefix_append_right_inj]
      exact ih (List.prefix_append (b :: rest) after)

/-- The text of an ancestor of an ordinary path begins the text of the path. -/
theorem Ordinary.toText_prefix (hq : q.Ordinary) (hp : p ∈ q.ancestors) :
    p.toText.toList <+: q.toText.toList := by
  obtain ⟨texts, -, hplain, rfl⟩ := hq.exists_texts
  obtain ⟨names, -, hfirst, rfl⟩ := (mem_ancestors_relative hplain).mp hp
  obtain ⟨first, hfirst', rfl⟩ := List.prefix_map_iff.mp hfirst
  rw [toText_relative, toText_relative]
  exact intercalate_prefix ['/'] hfirst'

end Path

namespace Pattern

/-! ## Matching literals -/

/-- The characters that stand for more than themselves in a pattern, or may do so. -/
def special : List Char := ['*', '?', '[', ']', '{', '}']

/-- A character that is no wildcard and opens no set is read as itself. -/
theorem parseFrom_cons {c : Char} (hany : c ≠ '?') (hrun : c ≠ '*') (hset : c ≠ '[')
    (position : Nat) (last : Option Char) (tokens : List Token) (rest : List Char) :
    parseFrom position last tokens (c :: rest) =
      parseFrom (position + 1) (some c) (tokens ++ [.literal c]) rest := by
  rw [parseFrom]
  · exact hany
  · exact fun _ hc _ => hrun hc
  · exact fun _ hc _ => hrun hc
  · exact hrun
  · exact hset

/-- Characters that are no wildcards and open no set are read as themselves. -/
theorem parseFrom_of_literal {text : List Char} (h : ∀ c ∈ special, c ∉ text) (position : Nat)
    (last : Option Char) (tokens : List Token) :
    parseFrom position last tokens text = .ok (tokens ++ text.map .literal) := by
  induction text generalizing position last tokens with
  | nil => rw [parseFrom, List.map_nil, List.append_nil]
  | cons c rest ih =>
    have hne (d : Char) (hd : d ∈ special) : c ≠ d := fun hc => h d hd (hc ▸ List.mem_cons_self)
    have hrest (d : Char) (hd : d ∈ special) : d ∉ rest := List.not_mem_of_not_mem_cons (h d hd)
    rw [parseFrom_cons (hne '?' (by decide)) (hne '*' (by decide)) (hne '[' (by decide)),
      ih hrest, List.append_assoc, List.map_cons, List.singleton_append]

/-- A text without special characters is read as itself. -/
theorem parse_of_literal {text : String} (h : ∀ c ∈ special, c ∉ text.toList) :
    parse text = .ok ⟨text.toList.map .literal⟩ := by
  rw [parse, parseFrom_of_literal h, List.nil_append]
  rfl

/-- A literal matches its own text alone. -/
theorem accepts_literal {literal text : List Char} :
    accepts ⟨literal.map .literal⟩ text = true ↔ text = literal := by
  rw [accepts, beq_iff_eq]
  dsimp only
  induction literal generalizing text with
  | nil =>
    cases text with
    | nil => exact ⟨fun _ => rfl, fun _ => rfl⟩
    | cons => exact ⟨nofun, nofun⟩
  | cons c literal ih =>
    cases text with
    | nil => exact ⟨nofun, nofun⟩
    | cons d text =>
      have hstep : run (.literal c :: literal.map .literal) (d :: text) =
          if d == c then run (literal.map .literal) text else .mismatch := rfl
      rw [List.map_cons, hstep, List.cons.injEq]
      by_cases hsame : d = c
      · rw [if_pos (beq_iff_eq.mpr hsame), ih, and_iff_right hsame]
      · rw [if_neg fun h => hsame (beq_iff_eq.mp h)]
        exact ⟨nofun, fun h => absurd h.1 hsame⟩

end Pattern

namespace PatternSet

/-! ## Selecting by a literal -/

variable {literal : String} {p : Path}

/-- A literal stands for itself. -/
theorem expandText_of_literal (h : ∀ c ∈ Pattern.special, c ∉ literal.toList) :
    Braces.expandText literal = [literal] := by
  rw [Braces.expandText, Braces.expand_of_not_mem (h '{' (by decide)), List.map_singleton,
    String.ofList_toList]

/-- A literal compiles. -/
theorem compiles_of_literal (h : ∀ c ∈ Pattern.special, c ∉ literal.toList) : Compiles literal := by
  rw [Compiles, expandText_of_literal h, List.forall_mem_singleton]
  exact ⟨_, Pattern.parse_of_literal h⟩

/-- A literal matches the paths in which patterns see its text. -/
theorem matchedBy_literal (h : ∀ c ∈ Pattern.special, c ∉ literal.toList) :
    MatchedBy [literal] p ↔ candidate p = literal.toList := by
  rw [← Pattern.accepts_literal]
  constructor
  · rintro ⟨pattern, hpattern, text, htext, compiled, hcompiled, haccepts⟩
    obtain rfl := List.mem_singleton.mp hpattern
    rw [expandText_of_literal h, List.mem_singleton] at htext
    rw [htext, Pattern.parse_of_literal h] at hcompiled
    exact Except.ok.inj hcompiled ▸ haccepts
  · intro haccepts
    refine ⟨literal, List.mem_cons_self, literal, ?_, _, Pattern.parse_of_literal h, haccepts⟩
    rw [expandText_of_literal h]
    exact List.mem_cons_self

/-- In a path without a backslash, patterns see its text. -/
theorem candidate_eq (h : '\\' ∉ p.toText.toList) : candidate p = p.toText.toList := by
  have hchar (c : Char) (hc : c ∈ p.toText.toList) : (if c = '\\' then '/' else c) = id c := by
    have hne : c ≠ '\\' := fun he => h (he ▸ hc)
    exact if_neg hne
  rw [candidate, List.map_congr_left hchar, List.map_id]

/-- A literal selects what patterns see its text in. What they see in a path is its text, with a
separator for each backslash: a literal includes the path in which they see its own text, and
excludes what has such a path in front of it. So of the paths without a backslash the literal that
spells a path includes this path alone, and excludes it and what is below it. -/
theorem literal_selects {r q : Path} (hr : r.Ordinary) (hq : q.Ordinary)
    (hliteral : ∀ c ∈ Pattern.special, c ∉ r.toText.toList) :
    ∃ including excluding : PatternSet,
      compile [r.toText] [] = .ok including ∧ compile [] [r.toText] = .ok excluding ∧
      (including.includesPath q = true ↔ candidate q = r.toText.toList) ∧
      (excluding.excludesPath q = true ↔ ∃ above : Path, above.Ordinary ∧
        above.components <+: q.components ∧ candidate above = r.toText.toList) ∧
      ('\\' ∉ q.toText.toList →
        (including.includesPath q = true ↔ q = r) ∧
        (excluding.excludesPath q = true ↔ r.components <+: q.components)) := by
  have hcompiles := compiles_of_literal hliteral
  obtain ⟨including, hincluding⟩ : ∃ set, compile [r.toText] [] = .ok set :=
    exists_compile_iff.mpr (List.forall_mem_singleton.mpr hcompiles)
  obtain ⟨excluding, hexcluding⟩ : ∃ set, compile [] [r.toText] = .ok set :=
    exists_compile_iff.mpr (List.forall_mem_singleton.mpr hcompiles)
  have hincludes : including.includesPath q = true ↔ candidate q = r.toText.toList :=
    (includesPath_iff hincluding).trans (matchedBy_literal hliteral)
  have hexcludes : excluding.excludesPath q = true ↔
      ∃ above ∈ q.ancestors, candidate above = r.toText.toList := by
    rw [excludesPath_iff hexcluding]
    simp only [matchedBy_literal hliteral]
  refine ⟨including, excluding, hincluding, hexcluding, hincludes, ?_, fun hbackslash => ⟨?_, ?_⟩⟩
  · rw [hexcludes]
    simp only [hq.mem_ancestors, and_assoc]
  · rw [hincludes, candidate_eq hbackslash]
    exact ⟨hq.eq_of_toText hr, fun h => h ▸ rfl⟩
  · -- No ancestor has a backslash, so the only one that is excluded is the path itself.
    have hsees (above : Path) (habove : above ∈ q.ancestors) :
        candidate above = above.toText.toList :=
      candidate_eq fun h => hbackslash ((hq.toText_prefix habove).subset h)
    rw [hexcludes]
    constructor
    · rintro ⟨above, habove, htext⟩
      obtain ⟨hordinary, hfirst⟩ := hq.mem_ancestors.mp habove
      rw [hsees above habove] at htext
      exact hordinary.eq_of_toText hr htext ▸ hfirst
    · intro hfirst
      have hr' : r ∈ q.ancestors := hq.mem_ancestors.mpr ⟨hr, hfirst⟩
      exact ⟨r, hr', hsees r hr'⟩

/-- The directory `docs/é` does not include what is in it, and excludes it. -/
theorem literal_selects_accented :
    let r := Path.ofString "docs/é"
    let q := Path.ofString "docs/é/a.md"
    r.Ordinary ∧ q.Ordinary ∧ (∀ c ∈ Pattern.special, c ∉ r.toText.toList) ∧
      '\\' ∉ q.toText.toList ∧
      ∃ including excluding : PatternSet,
        compile [r.toText] [] = .ok including ∧ compile [] [r.toText] = .ok excluding ∧
        including.includesPath q ≠ true ∧ excluding.excludesPath q = true := by
  intro r q
  have hr : r.Ordinary :=
    ⟨[[100, 111, 99, 115], [195, 169]], by decide, by decide +kernel, by decide +kernel⟩
  have hq : q.Ordinary :=
    ⟨[[100, 111, 99, 115], [195, 169], [97, 46, 109, 100]], by decide, by decide +kernel,
      by decide +kernel⟩
  have htext : r.toText.toList = ['d', 'o', 'c', 's', '/', 'é'] := by decide +kernel
  have hliteral : ∀ c ∈ Pattern.special, c ∉ r.toText.toList := by
    rw [htext]
    simp [Pattern.special]
  have hbackslash : '\\' ∉ q.toText.toList := by decide +kernel
  obtain ⟨including, excluding, hincluding, hexcluding, -, -, hplain⟩ :=
    literal_selects hr hq hliteral
  obtain ⟨hincludes, hexcludes⟩ := hplain hbackslash
  refine ⟨hr, hq, hliteral, hbackslash, including, excluding, hincluding, hexcluding, ?_, ?_⟩
  · rw [Ne, hincludes]
    decide +kernel
  · rw [hexcludes]
    decide +kernel

/-- A literal with a backslash does not include the path that it spells: patterns see a separator
there. -/
theorem not_literal_selects_backslash :
    ¬ ∀ r q : Path, r.Ordinary → q.Ordinary → (∀ c ∈ Pattern.special, c ∉ r.toText.toList) →
      ∃ including excluding : PatternSet,
        compile [r.toText] [] = .ok including ∧ compile [] [r.toText] = .ok excluding ∧
        (including.includesPath q = true ↔ q = r) ∧
        (excluding.excludesPath q = true ↔ r.components <+: q.components) := by
  intro h
  have hr : (Path.ofString "a\\b").Ordinary :=
    ⟨[[97, 92, 98]], by decide, by decide +kernel, by decide +kernel⟩
  have htext : (Path.ofString "a\\b").toText.toList = ['a', '\\', 'b'] := by decide +kernel
  have hliteral : ∀ c ∈ Pattern.special, c ∉ (Path.ofString "a\\b").toText.toList := by
    rw [htext]
    simp [Pattern.special]
  obtain ⟨including, -, hincluding, -, hincludes, -⟩ := h _ _ hr hr hliteral
  have hsees :=
    (matchedBy_literal hliteral).mp ((includesPath_iff hincluding).mp (hincludes.mpr rfl))
  exact absurd hsees (by decide +kernel)

end PatternSet

end TreePlan
