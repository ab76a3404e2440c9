import TreePlan.Host.Backing
import TreePlan.Proofs.Path.Rooted
import TreePlan.Proofs.Store

/-!
# Host trees of directories and files

A host tree is sound if it is a tree of directories and regular files (`HostTree.Sound`): there are
no links, and what stands somewhere stands in a directory. A walk along plain names then leads to
the place with these names and nowhere else (`walk_leads`), so what an absolute path in normal form
is looked up for depends on what stands at its names (`lookup_rooted`): the walk ends at what stands
there or at a free place in a directory, it reports a missing entry only if nothing stands there,
and otherwise the path is refused for another reason.
-/

namespace TreePlan

open TreePlan.Path

namespace HostTree

/-- A tree of directories and regular files. -/
structure Sound (t : HostTree) : Prop where
  /-- What stands somewhere is a file or a directory. -/
  isSome_kind : ∀ place node, t.node? place = some node → (kindOf node).isSome
  /-- What stands somewhere stands in a directory. -/
  parent : ∀ place name, (t.node? (place ++ [name])).isSome → t.node? place = some .directory

variable {t : HostTree}

/-! ## What stands where -/

/-- The root of the machine is a directory. -/
theorem node?_nil (t : HostTree) : t.node? [] = some .directory := if_pos rfl

/-- A file stands below the root of the machine. -/
theorem ne_nil_of_file {place : Location} {content : List UInt8}
    (h : t.node? place = some (.file content)) : place ≠ [] := by
  rintro rfl
  rw [node?_nil] at h
  exact nomatch h

/-- What stands below the root of the machine stands among the nodes. -/
theorem node?_of_ne_nil (t : HostTree) {place : Location} (h : place ≠ []) :
    t.node? place = t.nodes.get? place := if_neg h

/-- A tree is sound if every node that is listed is a file or a directory and stands in a
directory. -/
theorem sound_of_forall (h : ∀ p ∈ t.nodes.pairs,
    (kindOf p.2).isSome ∧ t.node? p.1.dropLast = some .directory) : t.Sound where
  isSome_kind place node hnode := by
    by_cases hnil : place = []
    · rw [hnil, node?_nil] at hnode
      rw [← Option.some.inj hnode]
      rfl
    · rw [node?_of_ne_nil t hnil] at hnode
      exact (h _ ((OrderedMap.get?_eq_some_iff _ _ _).mp hnode)).1
  parent place name hsome := by
    obtain ⟨node, hnode⟩ := Option.isSome_iff_exists.mp hsome
    have hne := List.append_ne_nil_of_right_ne_nil place (List.cons_ne_nil name [])
    rw [node?_of_ne_nil t hne] at hnode
    have hparent := (h _ ((OrderedMap.get?_eq_some_iff _ _ _).mp hnode)).2
    rwa [List.dropLast_concat] at hparent

/-- What lies above something is a directory. -/
theorem Sound.directory_above (ht : t.Sound) {place more : Location} (hmore : more ≠ [])
    (h : (t.node? (place ++ more)).isSome) : t.node? place = some .directory := by
  -- From the last name up: what is right above something is a directory, so something is there too.
  induction more using List.reverseRecOn with
  | nil => exact absurd rfl hmore
  | append_singleton more name ih =>
    rw [← List.append_assoc] at h
    have habove := ht.parent _ _ h
    by_cases hnil : more = []
    · rwa [hnil, List.append_nil] at habove
    · exact ih hnil (by rw [habove]; rfl)

/-- Nothing stands below a place without a directory. -/
theorem Sound.none_below (ht : t.Sound) {place more : Location} (hmore : more ≠ [])
    (h : t.node? place ≠ some .directory) : t.node? (place ++ more) = none := by
  rw [← Option.not_isSome_iff_eq_none]
  exact fun hsome => h (ht.directory_above hmore hsome)

/-- What stands at or below a place without a directory stands at the place. -/
theorem Sound.eq_nil_of_isSome (ht : t.Sound) {place more : Location}
    (h : t.node? place ≠ some .directory) (hsome : (t.node? (place ++ more)).isSome) :
    more = [] := by
  by_contra hmore
  exact h (ht.directory_above hmore hsome)

/-! ## Walks -/

/-- What a path leads to, if it leads to a place and nowhere else. -/
inductive Leads (t : HostTree) (place : Location) : Except IoError Found → Prop
  /-- It leads to what stands there. -/
  | node {node : HostNode} (h : t.node? place = some node) : Leads t place (.ok (.node place node))
  /-- It leads to a free place in a directory. -/
  | vacant (hne : place ≠ []) (hparent : t.node? place.dropLast = some .directory)
      (h : t.node? place = none) : Leads t place (.ok (.vacant place))
  /-- It leads nowhere, and nothing stands there. -/
  | missing (h : t.node? place = none) : Leads t place (.error (.system .noEntry))
  /-- It is refused. -/
  | refused {error : IoError} (h : error.kind ≠ .notFound) : Leads t place (.error error)

/-- A walk along plain names leads to the place with these names. -/
theorem walk_leads (ht : t.Sound) (purpose : Purpose) (links : Nat) (asDirectory : Bool)
    {names : List (List UInt8)} (hnames : ∀ n ∈ names, Plain n) {here : Location}
    (hhere : t.node? here = some .directory) :
    t.Leads (here ++ names) ((t.walk purpose links here asDirectory names).mapError .system) := by
  induction names generalizing here with
  | nil =>
    rw [walk, List.append_nil]
    exact .node hhere
  | cons name rest ih =>
    rw [List.forall_mem_cons] at hnames
    rw [walk, if_neg hnames.1.ne_dot, if_neg hnames.1.ne_dotDot, List.append_cons]
    -- The walk is refused, or it comes to a free place, a directory or a file; there are no links.
    split
    · exact .refused (by decide)
    · split
      · exact .refused (by decide)
      · split
        · rename_i hnone
          split
          · rename_i hrest
            rw [hrest, List.append_nil]
            exact .vacant (by simp) (by rwa [List.dropLast_concat]) hnone
          · rename_i hrest
            exact .missing (ht.none_below hrest (by rw [hnone]; exact (Option.some_ne_none _).symm))
        · rename_i hdirectory
          exact ih hnames.2 hdirectory
        · rename_i content hfile
          split
          · rename_i hlast
            rw [hlast.1, List.append_nil]
            exact .node hfile
          · exact .refused (by decide)
        · rename_i target hlink
          exact absurd (ht.isSome_kind _ _ hlink) Bool.false_ne_true

/-- A walk that is not refused goes along names that are not too long. -/
theorem length_le_of_walk (ht : t.Sound) {purpose : Purpose} {links : Nat} {asDirectory : Bool}
    {names : List (List UInt8)} (hnames : ∀ n ∈ names, Plain n) {here : Location} {found : Found}
    (h : t.walk purpose links here asDirectory names = .ok found) :
    ∀ n ∈ names, n.length ≤ nameLimit := by
  induction names generalizing here with
  | nil => exact List.forall_mem_nil _
  | cons name rest ih =>
    rw [List.forall_mem_cons] at hnames ⊢
    rw [walk, if_neg hnames.1.ne_dot, if_neg hnames.1.ne_dotDot] at h
    split at h
    · cases h
    · split at h
      · cases h
      · rename_i hlength
        -- The walk has got past this name, and it goes on along the others.
        refine ⟨Nat.le_of_not_gt hlength, ?_⟩
        split at h
        · split at h
          · rename_i hrest
            rw [hrest]
            exact List.forall_mem_nil _
          · cases h
        · exact ih hnames.2 h
        · split at h
          · rename_i hlast
            rw [hlast.1]
            exact List.forall_mem_nil _
          · cases h
        · rename_i target hlink
          exact absurd (ht.isSome_kind _ _ hlink) Bool.false_ne_true

/-- A walk to something along names that are not too long ends there. -/
theorem walk_of_node (ht : t.Sound) {purpose : Purpose} {links : Nat}
    {names : List (List UInt8)} (hnames : ∀ n ∈ names, Plain n)
    (hshort : ∀ n ∈ names, n.length ≤ nameLimit) {here : Location} {node : HostNode}
    (hhere : t.node? here = some .directory) (h : t.node? (here ++ names) = some node) :
    t.walk purpose links here false names = .ok (.node (here ++ names) node) := by
  induction names generalizing here with
  | nil =>
    rw [List.append_nil, hhere] at h
    rw [walk, List.append_nil, Option.some.inj h]
  | cons name rest ih =>
    rw [List.forall_mem_cons] at hnames hshort
    rw [walk, if_neg hnames.1.ne_dot, if_neg hnames.1.ne_dotDot,
      if_neg fun hlast => Bool.false_ne_true hlast.2.1, if_neg (Nat.not_lt.mpr hshort.1)]
    rw [List.append_cons here name rest] at h ⊢
    -- The walk ends with the last name; before that, there is a directory since something is below.
    by_cases hrest : rest = []
    · rw [hrest, List.append_nil] at h ⊢
      rw [h]
      cases node with
      | file content => exact if_pos ⟨rfl, rfl⟩
      | directory =>
        dsimp only
        rw [walk]
      | link target => exact absurd (ht.isSome_kind _ _ h) Bool.false_ne_true
    · have hdirectory : t.node? (here ++ [name]) = some .directory :=
        ht.directory_above hrest (by rw [h]; rfl)
      rw [hdirectory]
      exact ih hnames.2 hshort.2 hdirectory h

/-! ## Paths -/

/-- The names of an absolute path in normal form. -/
theorem namesOf_rooted {names : List (List UInt8)} (h : ∀ n ∈ names, Plain n) :
    namesOf (rooted names) = names := by
  by_cases hnil : names = []
  · rw [hnil]
    decide
  · rw [namesOf, rooted_of_ne_nil hnil, names_spell fun n hn => (h n hn).separator_not_mem,
      List.filter_cons_of_neg (by simp), List.filter_eq_self]
    exact fun n hn => decide_eq_true (h n hn).ne_nil

/-- An absolute path in normal form leads to the place with its names. -/
theorem lookup_rooted (ht : t.Sound) (purpose : Purpose) (asDirectory : Bool)
    {names : List (List UInt8)} (h : ∀ n ∈ names, Plain n) :
    t.Leads names (t.lookup purpose asDirectory (rooted names)) := by
  unfold lookup
  split
  · exact .refused (by decide)
  · split
    · rename_i hempty
      exact absurd (isAbsolute_rooted names) (by rw [isAbsolute, hempty]; decide)
    · split
      · exact .refused (by decide)
      -- A path that is not refused for its bytes or its length is walked along.
      · rw [isAbsolute_rooted, if_pos rfl, namesOf_rooted h]
        exact walk_leads ht purpose linkLimit asDirectory h (node?_nil t)

/-- A path that has not been refused in one tree leads to what stands there in another. -/
theorem lookup_of_lookup {t₁ : HostTree} (ht : t.Sound) (ht₁ : t₁.Sound) {purpose₁ : Purpose}
    {asDirectory : Bool} {names : List (List UInt8)} (hnames : ∀ n ∈ names, Plain n) {found : Found}
    (h₁ : t₁.lookup purpose₁ asDirectory (rooted names) = .ok found) {node : HostNode}
    (h : t.node? names = some node) (purpose : Purpose) :
    t.lookup purpose false (rooted names) = .ok (.node names node) := by
  unfold lookup at h₁ ⊢
  split at h₁
  · cases h₁
  · split at h₁
    · cases h₁
    · split at h₁
      · cases h₁
      · rename_i hzero hempty hlength
        -- What the path is refused for otherwise depends on the path only, not on the tree.
        rw [isAbsolute_rooted, if_pos rfl, namesOf_rooted hnames] at h₁ ⊢
        rw [if_neg hzero, if_neg hempty, if_neg hlength]
        obtain ⟨found', hwalk⟩ : ∃ found', t₁.walk purpose₁ linkLimit [] asDirectory names =
            .ok found' := by
          cases hwalk : t₁.walk purpose₁ linkLimit [] asDirectory names with
          | error error =>
            rw [hwalk] at h₁
            cases h₁
          | ok found' => exact ⟨found', rfl⟩
        rw [walk_of_node ht hnames (length_le_of_walk ht₁ hnames hwalk) (node?_nil t) h]
        rfl

/-- An absolute path in normal form with a name ends in no separator. -/
theorem endsInSeparator_rooted {names : List (List UInt8)} (h : ∀ n ∈ names, Plain n)
    (hne : names ≠ []) : endsInSeparator (rooted names) = false := by
  rw [endsInSeparator, beq_eq_false_iff_ne, rooted_of_ne_nil hne]
  exact getLast?_spell fun n hn => (h n hn).solid

end HostTree

end TreePlan
