import TreePlan.Path.Split
import TreePlan.Proofs.Path.Cutting
import TreePlan.Proofs.Path.Extension
import TreePlan.Proofs.Path.Joining
import TreePlan.Proofs.Path.Text

/-!
# Splitting off the last name

The directory of a path that ends in a name has the stack of the path before this name
(`exists_dirname`), and joining the name puts it back on the stack, so the join is the normal form
of the path, however the path is spelled (`exists_dirname_join`). The other way round, a name that
is joined onto a normal form is pushed onto what the components of this spell (`join_eq_push`), and
that is its directory (`dirname_join`). The main statement is `split_lawful`.
-/

namespace TreePlan.Path

/-! ## From the parts to the path -/

/-- The last name of a path is one of its components. -/
theorem mem_named_of_fileName? {p : Path} {name : List UInt8} (h : p.fileName? = some name) :
    .normal name ∈ named p.bytes := by
  obtain ⟨q, -, -, hnamed⟩ := exists_parent? h
  rw [hnamed]
  exact List.mem_append_right _ List.mem_cons_self

/-- A name is the component that it stands for, if this is a name. -/
theorem eq_of_ofName? {n name : List UInt8} (h : Component.ofName? n = some (.normal name)) :
    n = name := by
  unfold Component.ofName? at h
  split at h
  · exact nomatch h
  · split at h
    · exact nomatch h
    · split at h
      · exact nomatch h
      · exact Component.normal.inj (Option.some.inj h)

/-- The last name of a path is plain. -/
theorem plain_of_fileName? {p : Path} {name : List UInt8} (h : p.fileName? = some name) :
    Plain name := by
  rcases of_mem_named (mem_named_of_fileName? h) with hparent | ⟨_, hname, hplain⟩
  · exact nomatch hparent
  · exact Component.normal.inj hname ▸ hplain

/-- A path that ends in a name has a directory, and the name is the last step of its stack. -/
theorem exists_dirname {p : Path} {name : List UInt8} (h : p.fileName? = some name) :
    ∃ directory, p.dirname = .ok directory ∧ p.stack = .normal name :: directory.stack := by
  obtain ⟨q, hparent, habsolute, hnamed⟩ := exists_parent? h
  have hstack : p.stack = .normal name :: q.stack := by
    rw [stack_eq, hnamed, List.foldl_append, ← habsolute, ← stack_eq]
    rfl
  -- An empty parent is written as a dot, and both have nothing on their stack.
  have hdot : q.bytes = [] → q.stack = stack ⟨[dot]⟩ := by
    intro hempty
    rw [show q = empty from congrArg Path.mk hempty]
    decide
  refine ⟨if q.bytes = [] then ⟨[dot]⟩ else q, by rw [dirname, hparent], ?_⟩
  rw [hstack]
  split
  · rename_i hempty
    rw [hdot hempty]
  · rfl

/-- The last name of a path is joined onto its directory. -/
theorem exists_dirname_join {p : Path} {name : List UInt8} (h : p.fileName? = some name) :
    ∃ directory, p.dirname = .ok directory ∧ directory.join ⟨name⟩ = p.normalize := by
  obtain ⟨directory, hdirectory, hstack⟩ := exists_dirname h
  refine ⟨directory, hdirectory, ?_⟩
  have hjoin : (directory.join ⟨name⟩).stack = p.stack := by
    rw [stack_join, (plain_of_fileName? h).named_eq, hstack]
    rfl
  rw [← normalize_join, normalize_eq_of_stack hjoin]

/-- The last name of a path that is text is what its text spells. -/
theorem fileName?_of_basename {p : Path} (htext : p.IsText) {name : String}
    (h : p.basename = .ok name) : p.fileName? = some (ofString name).bytes := by
  unfold basename at h
  split at h
  · exact nomatch h
  · rename_i bytes hbytes
    obtain ⟨n, hn, hofName⟩ := List.mem_filterMap.mp (mem_named_of_fileName? hbytes)
    obtain rfl := eq_of_ofName? hofName
    obtain ⟨part, rfl⟩ := htext.exists_encode hn
    rw [hbytes, ← Except.ok.inj h, bytes_ofString_ofList, Utf8.decodeLossy_encode]

/-! ## From the path to the parts -/

/-- A name is plain if it is not empty, no separator is in it, and it is neither `.` nor `..`. -/
theorem plain_ofString {name : String} (hempty : name ≠ "") (hseparator : '/' ∉ name.toList)
    (hdot : name ≠ ".") (hdots : name ≠ "..") : Plain (ofString name).bytes := by
  have hne {other : String} (h : name ≠ other) :
      (ofString name).bytes ≠ (ofString other).bytes := by
    intro hbytes
    have htext := congrArg toText (show ofString name = ofString other from congrArg Path.mk hbytes)
    rw [toText_ofString, toText_ofString] at htext
    exact h htext
  exact plain_of_ne (Utf8.not_mem_encode (c := '/') (by decide) hseparator) (hne hempty) (hne hdot)
    (hne hdots)

/-- The normal form of a path is what is left of its components, or `.` if this is empty. -/
theorem normalize_eq_ofComponents (p : Path) :
    p.normalize =
      if (ofComponents p.stack.reverse).bytes = [] then ⟨[dot]⟩
      else ofComponents p.stack.reverse := by
  have hstack := (settled_stack p).stack_ofComponents
  rw [normalize, show p.normalComponents = p.stack.reverse from rfl]
  split
  · rename_i hnil
    rw [hnil]
    rfl
  · rename_i hne
    refine (if_neg fun hempty => hne ?_).symm
    rw [show ofComponents p.stack.reverse = empty from congrArg Path.mk hempty] at hstack
    rw [← hstack]
    rfl

/-- A plain name is joined onto a path by pushing it onto what is left of the path's components. -/
theorem join_eq_push (base : Path) {name : List UInt8} (h : Plain name) :
    base.join ⟨name⟩ = (ofComponents base.stack.reverse).push ⟨name⟩ := by
  have hstack : (base.join ⟨name⟩).stack = .normal name :: base.stack := by
    rw [stack_join, h.named_eq]
    rfl
  -- The name is on top of the stack of the join, so it is what is spelled last.
  have hspelled : ofComponents (base.join ⟨name⟩).stack.reverse =
      (ofComponents base.stack.reverse).push ⟨name⟩ := by
    rw [hstack, List.reverse_cons, ofComponents_concat]
    rfl
  have hne : ((ofComponents base.stack.reverse).push ⟨name⟩).bytes ≠ [] := by
    rw [push, h.isAbsolute_eq, if_neg Bool.false_ne_true]
    split
    · exact List.append_ne_nil_of_right_ne_nil _ h.ne_nil
    · exact List.append_ne_nil_of_right_ne_nil _ (List.cons_ne_nil _ _)
  rw [← normalize_join, normalize_eq_ofComponents, hspelled, if_neg hne]

/-- A normal form is the directory of what comes of joining a name onto it, and the name is the last
name of this. -/
theorem dirname_join {base : Path} (hbase : base.normalize = base) {name : List UInt8}
    (h : Plain name) :
    (base.join ⟨name⟩).dirname = .ok base ∧ (base.join ⟨name⟩).fileName? = some name := by
  have hstop := (settled_stack base).components_ofComponents.2
  have hparent := parent?_push hstop h.separator_not_mem h.ofName?_eq
  rw [join_eq_push base h]
  constructor
  · rw [dirname, hparent]
    dsimp only
    rw [← normalize_eq_ofComponents, hbase]
  · rw [fileName?, components_push _ h.separator_not_mem h.ofName?_eq, List.getLast?_concat]

/-- A path that is text and ends in a name has a directory, and the name joined onto this is the
normal form of the path. What comes of joining a name onto a normal form has this as its directory
and the name as its last. -/
theorem split_lawful :
    (∀ p : Path, p.IsText → ∀ name, p.basename = .ok name →
      ∃ directory, p.dirname = .ok directory ∧ directory.join (ofString name) = p.normalize) ∧
    ∀ (base : Path) (name : String), base.normalize = base →
      name ≠ "" → '/' ∉ name.toList → name ≠ "." → name ≠ ".." →
      (base.join (ofString name)).dirname = .ok base ∧
      (base.join (ofString name)).basename = .ok name := by
  constructor
  · intro p htext name h
    exact exists_dirname_join (fileName?_of_basename htext h)
  · intro base name hbase hempty hseparator hdot hdots
    obtain ⟨hdirectory, hname⟩ := dirname_join hbase (plain_ofString hempty hseparator hdot hdots)
    refine ⟨hdirectory, ?_⟩
    rw [basename, show ofString name = ⟨(ofString name).bytes⟩ from rfl, hname]
    exact congrArg Except.ok (toText_ofString name)

/-- The `..` and the detours of the spelling stay in the directory, and joining the name resolves
them; `é.md` below `../x` is split off as it was joined. -/
theorem split_lawful_detours :
    (ofString "a/../b//é.md/.").IsText ∧ (ofString "a/../b//é.md/.").basename = .ok "é.md" ∧
    (∃ directory, (ofString "a/../b//é.md/.").dirname = .ok directory ∧
      directory.join (ofString "é.md") = ofString "b/é.md") ∧
    (ofString "../x").normalize = ofString "../x" ∧
    ((ofString "../x").join (ofString "é.md")).dirname = .ok (ofString "../x") ∧
    ((ofString "../x").join (ofString "é.md")).basename = .ok "é.md" := by
  obtain ⟨hrejoin, hsplit⟩ := split_lawful
  have htext : (ofString "a/../b//é.md/.").IsText := ⟨_, rfl⟩
  have hname : (ofString "a/../b//é.md/.").basename = .ok "é.md" := by decide +kernel
  have hnormal : (ofString "a/../b//é.md/.").normalize = ofString "b/é.md" := by decide +kernel
  have hbase : (ofString "../x").normalize = ofString "../x" := by decide +kernel
  refine ⟨htext, hname, hnormal ▸ hrejoin _ htext _ hname, hbase, ?_⟩
  exact hsplit _ "é.md" hbase (by decide) (by decide +kernel) (by decide) (by decide)

end TreePlan.Path
