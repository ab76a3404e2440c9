import TreePlan.Path.Split
import TreePlan.Proofs.Path.Rooted

/-!
# Another extension

A name that has an extension is its stem, a dot and the extension, and the stem is not empty
(`eq_of_splitName`). So what putting another extension in its place makes of an absolute path in
normal form depends on the last name only (`withExtension?_rooted`), and it is one of three things
(`renamed`): the stem with the new extension; the stem alone if the new extension is empty; or, of
the stem `.`, the name `..`, which is where a path ends that is cut off after two dots.

So a target is a sibling of its source, or the directory two levels above it
(`normalize_spell_parent`), and two sources with one extension have different targets if these are
siblings (`renamed_injective`).
-/

namespace TreePlan.Path

/-! ## Splitting a name -/

/-- A name without a dot is not split. -/
theorem splitAtLastDot_of_not_mem {name : List UInt8} (h : dot ∉ name) :
    splitAtLastDot name = none := by
  induction name with
  | nil => rfl
  | cons a rest ih =>
    rw [List.mem_cons, not_or] at h
    rw [splitAtLastDot, ih h.2]
    exact if_neg (Ne.symm h.1)

/-- A name is split at a dot after which there is none. -/
theorem splitAtLastDot_append (before : List UInt8) {after : List UInt8} (h : dot ∉ after) :
    splitAtLastDot (before ++ dot :: after) = some (before, after) := by
  induction before with
  | nil =>
    rw [List.nil_append, splitAtLastDot, splitAtLastDot_of_not_mem h]
    exact if_pos rfl
  | cons a rest ih => rw [List.cons_append, splitAtLastDot, ih]

/-- What a name is split into makes up the name. -/
theorem eq_of_splitAtLastDot {name before after : List UInt8}
    (h : splitAtLastDot name = some (before, after)) : name = before ++ dot :: after := by
  induction name generalizing before after with
  | nil => exact nomatch h
  | cons a rest ih =>
    rw [splitAtLastDot] at h
    split at h
    · rename_i hrest
      obtain ⟨rfl, rfl⟩ := Prod.mk.inj (Option.some.inj h)
      rw [ih hrest, List.cons_append]
    · split at h
      · rename_i ha
        obtain ⟨rfl, rfl⟩ := Prod.mk.inj (Option.some.inj h)
        rw [ha, List.nil_append]
      · exact nomatch h

/-- A name with an extension is its stem, a dot and the extension, and the stem is not empty. -/
theorem eq_of_splitName {name stem ext : List UInt8} (h : splitName name = (stem, some ext)) :
    stem ≠ [] ∧ name = stem ++ dot :: ext := by
  unfold splitName at h
  split at h
  · exact nomatch (Prod.mk.inj h).2
  · exact nomatch (Prod.mk.inj h).2
  · rename_i before after hne hsplit
    obtain ⟨rfl, hext⟩ := Prod.mk.inj h
    obtain rfl := Option.some.inj hext
    exact ⟨hne, eq_of_splitAtLastDot hsplit⟩

/-- A name that ends with a dot has the empty extension. -/
theorem splitName_append_dot {stem : List UInt8} (h : stem ≠ []) :
    splitName (stem ++ [dot]) = (stem, some []) := by
  rw [splitName, splitAtLastDot_append stem List.not_mem_nil]
  cases stem with
  | nil => exact absurd rfl h
  | cons => rfl

/-! ## The new name -/

/-- The last name of a path, by its stem, after another extension has been put in its place. -/
def renamed (stem ext : List UInt8) : List UInt8 :=
  if stem = [dot] then [dot, dot] else if ext = [] then stem else stem ++ dot :: ext

/-- A name with no separator that is neither empty nor `.` nor `..` is plain. -/
theorem plain_of_ne {name : List UInt8} (h : separator ∉ name) (hnil : name ≠ [])
    (hdot : name ≠ [dot]) (hdots : name ≠ [dot, dot]) : Plain name := by
  refine ⟨h, ?_⟩
  rw [Component.ofName?, if_neg hnil, if_neg hdot, if_neg hdots]

/-- The new name is `..` or plain. -/
theorem plain_renamed {stem ext : List UInt8} (hstem : stem ≠ []) (hseparator : separator ∉ stem)
    (hext : separator ∉ ext) : renamed stem ext = [dot, dot] ∨ Plain (renamed stem ext) := by
  unfold renamed
  split
  · exact Or.inl rfl
  · rename_i hdot
    split
    · by_cases hdots : stem = [dot, dot]
      · exact Or.inl hdots
      · exact Or.inr (plain_of_ne hseparator hstem hdot hdots)
    · rename_i hne
      refine Or.inr (plain_of_ne ?_ (by simp) ?_ ?_)
      · rw [List.mem_append, List.mem_cons, not_or, not_or]
        exact ⟨hseparator, by decide, hext⟩
      · intro he
        have hlength := congrArg List.length he
        have := List.length_pos_iff.mpr hstem
        simp only [List.length_append, List.length_cons, List.length_nil] at hlength
        omega
      · intro he
        have hlength := congrArg List.length he
        have := List.length_pos_iff.mpr hstem
        have := List.length_pos_iff.mpr hne
        simp only [List.length_append, List.length_cons, List.length_nil] at hlength
        omega

/-- Different stems have different new names, if these are plain. -/
theorem renamed_injective {stem stem' ext : List UInt8} (h : Plain (renamed stem ext))
    (h' : Plain (renamed stem' ext)) (he : renamed stem ext = renamed stem' ext) :
    stem = stem' := by
  have hdots : ¬Plain [dot, dot] := fun hplain => nomatch hplain.ofName?_eq
  unfold renamed at h h' he
  split at h
  · exact absurd h hdots
  · rename_i hstem
    split at h'
    · exact absurd h' hdots
    · rename_i hstem'
      rw [if_neg hstem, if_neg hstem'] at he
      split at he
      · exact he
      · exact List.append_cancel_right he

/-! ## The new path -/

/-- A cut within the last name of a path leaves the part before the cut. -/
theorem slice_spell (l : List (List UInt8)) (before after : List UInt8) :
    (spell (l ++ [before ++ after])).slice 0 (1 + (spell l).bytes.length + before.length) =
      spell (l ++ [before]) := by
  rw [slice, List.drop_zero, spell_append_singleton, spell_append_singleton]
  congr 1
  rw [← List.cons_append, ← List.append_assoc]
  refine List.take_left' ?_
  rw [List.length_append, List.length_cons]
  omega

/-- The components of a path that ends with `..`. -/
theorem components_spell_parent {l : List (List UInt8)} (h : ∀ m ∈ l, Plain m) :
    (spell (l ++ [[dot, dot]])).components = .root :: (l.map .normal ++ [.parent]) := by
  have hall : ∀ n ∈ l ++ [[dot, dot]], separator ∉ n := by
    intro n hn
    rcases List.mem_append.mp hn with hn | hn
    · exact (h n hn).separator_not_mem
    · rw [List.mem_singleton.mp hn]
      decide
  rw [components_of_names (names_spell hall) (by simp), List.filterMap_append,
    filterMap_ofName? h]
  rfl

/-- What another extension makes of a path that has been cut off after the dot. -/
theorem setExtension_spell {l : List (List UInt8)} {stem : List UInt8} (ext : List UInt8)
    (h : ∀ m ∈ l, Plain m) (hstem : stem ≠ []) (hseparator : separator ∉ stem) :
    (spell (l ++ [stem ++ [dot]])).setExtension ext = spell (l ++ [renamed stem ext]) := by
  by_cases hdot : stem = [dot]
  · -- The path ends with `..`, so it has no file name.
    rw [hdot, renamed, if_pos rfl]
    have hname : (spell (l ++ [[dot, dot]])).fileName? = none := by
      rw [fileName?, components_spell_parent h, ← List.cons_append, List.getLast?_concat]
    rw [show [dot] ++ [dot] = [dot, dot] from rfl, setExtension, hname]
  · have hplain : Plain (stem ++ [dot]) := by
      refine plain_of_ne ?_ (by simp) ?_ ?_
      · rw [List.mem_append, not_or]
        exact ⟨hseparator, by decide⟩
      · intro he
        exact hstem (List.append_cancel_right (he.trans (List.nil_append [dot]).symm))
      · intro he
        exact hdot (List.append_cancel_right (he.trans (List.singleton_append (l := [dot])).symm))
    have hall : ∀ n ∈ l ++ [stem ++ [dot]], Plain n := by
      intro n hn
      rcases List.mem_append.mp hn with hn | hn
      · exact h n hn
      · exact List.mem_singleton.mp hn ▸ hplain
    have hname := fileName?_rooted hall
    have hspan := spans_rooted hall
    rw [spansFrom_append, spansFrom_singleton hplain, ← List.cons_append] at hspan
    rw [rooted_of_ne_nil (by simp)] at hname hspan
    rw [setExtension, hname, hspan, List.getLast?_concat]
    dsimp only
    rw [splitName_append_dot hstem]
    dsimp only
    rw [slice_spell, renamed, if_neg hdot]
    split
    · rfl
    · rw [spell_append_singleton, spell_append_singleton, List.append_assoc, List.cons_append]

/-- What another extension makes of an absolute path in normal form, by the stem of its last
name. -/
theorem withExtension?_rooted {l : List (List UInt8)} {n stem old ext : List UInt8}
    (h : ∀ m ∈ l ++ [n], Plain m) (hn : splitName n = (stem, some old))
    (hext : separator ∉ ext) :
    (rooted (l ++ [n])).withExtension? ext = some (spell (l ++ [renamed stem ext])) := by
  obtain ⟨hstem, hname⟩ := eq_of_splitName hn
  have hold : (rooted (l ++ [n])).extension? = some old := by
    rw [extension?, fileName?_rooted h, Option.bind_some, hn]
  have hplain : Plain n := h n (by simp)
  have hseparator : separator ∉ stem := by
    intro hmem
    exact hplain.separator_not_mem (hname ▸ List.mem_append_left _ hmem)
  have hkept : (rooted (l ++ [n])).bytes.length - old.length =
      1 + (spell l).bytes.length + (stem ++ [dot]).length := by
    rw [rooted_of_ne_nil (by simp), spell_append_singleton, hname]
    simp only [List.length_append, List.length_cons, List.length_nil]
    omega
  have hcut : (rooted (l ++ [n])).slice 0 (1 + (spell l).bytes.length + (stem ++ [dot]).length) =
      spell (l ++ [stem ++ [dot]]) := by
    have hslice := slice_spell l (stem ++ [dot]) old
    rw [List.append_assoc, List.singleton_append, ← hname] at hslice
    rw [rooted_of_ne_nil (by simp), hslice]
  rw [withExtension?, if_neg hext, hold]
  dsimp only [Option.map_some, Option.getD_some]
  rw [hkept, hcut, setExtension_spell ext (fun m hm => h m (List.mem_append_left _ hm)) hstem
    hseparator]

/-- A path that ends with `..` leads to the path above the one before. -/
theorem normalize_spell_parent {l : List (List UInt8)} (h : ∀ m ∈ l, Plain m) :
    (spell (l ++ [[dot, dot]])).normalize = rooted l.dropLast := by
  have hnormal : (spell (l ++ [[dot, dot]])).normalComponents =
      .root :: l.dropLast.map .normal := by
    rw [normalComponents, components_spell_parent h, List.foldl_cons, List.foldl_append,
      foldl_step_normal, show step [] .root = [.root] from rfl, ← List.reverse_cons,
      List.foldl_cons, List.foldl_nil, step_parent, List.reverse_reverse]
  rw [normalize, hnormal]
  exact ofComponents_root fun n hn => h n (List.mem_of_mem_dropLast hn)

end TreePlan.Path
