import TreePlan.Proofs.Path.Relative
import TreePlan.Proofs.Text.Utf8

/-!
# Paths that are text

A path is text if its bytes are valid UTF-8 (`IsText`, `isText_iff_bytes`); then it is the path that
its text spells (`ofString_toText`). A separator is one byte that stands in no other character, so
the names between the separators of such a path are text themselves (`exists_encode_of_mem_names`),
and so are the relative paths that some of these names spell (`isText_relative`).
-/

namespace TreePlan.Path

/-- The path is spelled by a text. -/
def IsText (p : Path) : Prop := ∃ text : String, p = ofString text

variable {p : Path}

/-- The path that characters spell. -/
theorem bytes_ofString_ofList (text : List Char) :
    (ofString (String.ofList text)).bytes = Utf8.encode text :=
  congrArg Utf8.encode String.toList_ofList

/-- A path is text exactly if its bytes are. -/
theorem isText_iff_bytes : p.IsText ↔ ∃ text, p.bytes = Utf8.encode text := by
  constructor
  · rintro ⟨text, rfl⟩
    exact ⟨text.toList, rfl⟩
  · rintro ⟨text, htext⟩
    refine ⟨String.ofList text, congrArg Path.mk (htext.trans ?_)⟩
    exact (bytes_ofString_ofList text).symm

/-- The text of a path that is spelled by one. -/
theorem text?_ofString (text : String) : (ofString text).text? = some text := by
  rw [text?, ofString, Utf8.decode?_encode, Option.map_some, String.ofList_toList]

/-- A path has a text exactly if it is spelled by one. -/
theorem text?_eq_some_iff {text : String} : p.text? = some text ↔ p = ofString text := by
  constructor
  · intro h
    obtain ⟨chars, hchars, rfl⟩ := Option.map_eq_some_iff.mp h
    have hbytes := Utf8.encode_of_scan (Utf8.decode?_eq_some_iff.mp hchars)
    exact congrArg Path.mk (hbytes.symm.trans (bytes_ofString_ofList chars).symm)
  · rintro rfl
    exact text?_ofString text

/-- A path has no text exactly if none spells it. -/
theorem text?_eq_none_iff : p.text? = none ↔ ¬p.IsText := by
  rw [Option.eq_none_iff_forall_ne_some]
  exact ⟨fun h ⟨text, htext⟩ => h text (text?_eq_some_iff.mpr htext),
    fun h text htext => h ⟨text, text?_eq_some_iff.mp htext⟩⟩

/-- The text that spells a path is shown as it is. -/
theorem toText_ofString (text : String) : (ofString text).toText = text := by
  rw [toText, ofString, Utf8.decodeLossy_encode, String.ofList_toList]

/-- A path that is text is spelled by the text that is shown for it. -/
theorem IsText.ofString_toText (h : p.IsText) : ofString p.toText = p := by
  obtain ⟨text, rfl⟩ := h
  rw [toText_ofString]

/-- Nothing is shown for a path that is text only if nothing is in it. -/
theorem IsText.toText_eq_empty_iff (h : p.IsText) : p.toText = "" ↔ p = empty := by
  constructor
  · intro hempty
    rw [← h.ofString_toText, hempty]
    rfl
  · rintro rfl
    rfl

/-! ## Names -/

/-- The names between the separators of a text are text. -/
theorem exists_encode_of_mem_names {text : List Char} {name : List UInt8}
    (h : name ∈ names (Utf8.encode text)) : ∃ part, name = Utf8.encode part := by
  induction text generalizing name with
  | nil => exact ⟨[], List.mem_singleton.mp h⟩
  | cons c text ih =>
    rw [Utf8.encode_cons] at h
    by_cases hc : c = '/'
    · rw [hc, show String.utf8EncodeChar '/' = [separator] by decide, List.singleton_append, names,
        if_pos rfl] at h
      rcases List.mem_cons.mp h with rfl | h
      · exact ⟨[], rfl⟩
      · exact ih h
    · obtain ⟨first, more, hnames⟩ := List.exists_cons_of_ne_nil (names_ne_nil (Utf8.encode text))
      have hseparator : separator ∉ String.utf8EncodeChar c := by
        have hnot : '/' ∉ [c] := fun hmem => hc (List.mem_singleton.mp hmem).symm
        have hencode := Utf8.not_mem_encode (c := '/') (by decide) hnot
        rwa [Utf8.encode_cons, show Utf8.encode [] = [] from rfl, List.append_nil] at hencode
      rw [names_append hseparator hnames] at h
      rw [hnames] at ih
      rcases List.mem_cons.mp h with rfl | h
      · obtain ⟨part, rfl⟩ := ih List.mem_cons_self
        exact ⟨c :: part, (Utf8.encode_cons c part).symm⟩
      · exact ih (List.mem_cons_of_mem first h)

/-- What texts spell is what they are with separators between them. -/
theorem bytes_relative_encode (texts : List (List Char)) :
    (relative (texts.map Utf8.encode)).bytes = Utf8.encode (['/'].intercalate texts) := by
  rw [bytes_relative, Utf8.encode_intercalate]
  rfl

/-- The names of a path that is text are text. -/
theorem IsText.exists_encode (h : p.IsText) {name : List UInt8} (hname : name ∈ names p.bytes) :
    ∃ part, name = Utf8.encode part := by
  obtain ⟨text, rfl⟩ := h
  exact exists_encode_of_mem_names hname

/-- Names that are text spell a relative path that is text. -/
theorem isText_relative {l : List (List UInt8)} (h : ∀ n ∈ l, ∃ part, n = Utf8.encode part) :
    (relative l).IsText := by
  have htexts : ∃ texts : List (List Char), l = texts.map Utf8.encode := by
    induction l with
    | nil => exact ⟨[], rfl⟩
    | cons n l ih =>
      rw [List.forall_mem_cons] at h
      obtain ⟨part, rfl⟩ := h.1
      obtain ⟨texts, rfl⟩ := ih h.2
      exact ⟨part :: texts, rfl⟩
  obtain ⟨texts, rfl⟩ := htexts
  exact isText_iff_bytes.mpr ⟨_, bytes_relative_encode texts⟩

end TreePlan.Path
