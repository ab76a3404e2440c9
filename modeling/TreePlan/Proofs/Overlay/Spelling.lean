import TreePlan.Proofs.MemoryTree
import TreePlan.Proofs.Overlay.History
import TreePlan.Proofs.Path.Normal

/-!
# Spelling does not matter

Over a tree in memory, with keys that are read off the normal text of a path, a history is answered
alike however its paths are spelled. Two overlays that differ in spelling only (`Respelled`) hold
different texts in every entry, since what is staged, classified or listed is recorded as it was
spelled, and a child is spelled by its directory. But their entries have the same normal forms under
the same keys, and they stand over the same tree. Every operation keeps them so and answers them
alike, up to the spelling of the paths in its answer, if it is given paths with one normal form.
Hence two histories that differ in spelling only are answered alike from beginning to end
(`replies_eq_of_normal`).
-/

namespace TreePlan

/-! ## Answers up to spelling -/

/-- The entry with the normal form of its path. -/
def Entry.normal (entry : Entry) : Entry := ⟨entry.kind, entry.path.normalize⟩

/-- The step with the normal form of its path. -/
def PlanStep.normal : PlanStep → PlanStep
  | .delete path => .delete path.normalize
  | .write path data => .write path.normalize data

/-- The error with the normal form of the path that was asked for. -/
def RunError.normal : RunError → RunError
  | .fileDeleted path => .fileDeleted path.normalize
  | .io path cause => .io path.normalize cause
  | .directoryHandler path failure => .directoryHandler path.normalize failure
  | error => error

/-- A listing with the normal forms of its paths. -/
def normalPaths (answer : Except RunError (List Path)) : Except RunError (List Path) :=
  (answer.map (·.map Path.normalize)).mapError RunError.normal

variable {ω : Type}

/-- The operation with the normal forms of its paths. -/
def Operation.normal : Operation ω → Operation ω
  | classifyDirectory path => classifyDirectory path.normalize
  | classifyFile path => classifyFile path.normalize
  | classify path => classify path.normalize
  | list directory => list directory.normalize
  | read path => read path.normalize
  | discover directory includes excludes => discover directory.normalize includes excludes
  | stageWrite path data => stageWrite path.normalize data
  | stageDelete path => stageDelete path.normalize
  | key path => key path.normalize
  | isDirectory path => isDirectory path.normalize
  | isKnown path => isKnown path.normalize
  | plan => plan
  | sizes => sizes
  | elapse change => elapse change

/-- The answer with the normal forms of its paths. -/
def Operation.normalAnswer : (operation : Operation ω) → operation.Answer → operation.normal.Answer
  | classifyDirectory _, answer => Option.map Entry.normal answer
  | classifyFile _, answer => Option.map Entry.normal answer
  | classify _, answer => Option.map Entry.normal answer
  | list _, answer => normalPaths answer
  | read _, answer => Except.mapError RunError.normal answer
  | discover _ _ _, answer => normalPaths answer
  | stageWrite _ _, answer => answer
  | stageDelete _, answer => answer
  | key _, answer => answer
  | isDirectory _, answer => answer
  | isKnown _, answer => answer
  | plan, answer => List.map PlanStep.normal answer
  | sizes, answer => answer
  | elapse _, answer => answer

/-- A use of an overlay over a tree in memory, or a change of the tree. -/
inductive MemoryUse where
  /-- Use the overlay. -/
  | overlay (operation : Operation MemoryTree)
  /-- Write a file of the tree. -/
  | write (path : Path) (content : String)
  /-- Make a directory of the tree. -/
  | makeDirectories (path : Path)
  /-- Remove a node of the tree. -/
  | remove (path : Path)

namespace MemoryUse

/-- What a use is answered with. -/
def Answer : MemoryUse → Type
  | overlay operation => operation.Answer
  | write _ _ => Except IoError Unit
  | makeDirectories _ => Except IoError Unit
  | remove _ => Except IoError Unit

/-- The use with the normal forms of its paths. -/
def normal : MemoryUse → MemoryUse
  | overlay operation => overlay operation.normal
  | write path content => write path.normalize content
  | makeDirectories path => makeDirectories path.normalize
  | remove path => remove path.normalize

/-- The answer with the normal forms of its paths. A tree speaks in normal forms itself. -/
def normalAnswer : (use : MemoryUse) → use.Answer → use.normal.Answer
  | overlay operation, answer => operation.normalAnswer answer
  | write _ _, answer => answer
  | makeDirectories _, answer => answer
  | remove _, answer => answer

/-- What a change of the tree is answered with, and the overlay over the tree after it. -/
def change (f : MemoryTree → Except IoError Unit × MemoryTree) (o : Overlay MemoryTree) :
    Except IoError Unit × Overlay MemoryTree :=
  ((f o.world).1, { o with world := (f o.world).2 })

/-- The answer to a use and the overlay after it. -/
def run (b : Backing MemoryTree) :
    (use : MemoryUse) → Overlay MemoryTree → use.Answer × Overlay MemoryTree
  | overlay operation, o => operation.run b o
  | write path content, o => change (·.write path content) o
  | makeDirectories path, o => change (·.makeDirectories path) o
  | remove path, o => change (·.remove path) o

/-- The uses of a history with their answers, all with the normal forms of their paths. -/
def replies (b : Backing MemoryTree) :
    List MemoryUse → Overlay MemoryTree → List ((use : MemoryUse) × use.Answer)
  | [], _ => []
  | use :: rest, o =>
    ⟨use.normal, use.normalAnswer (use.run b o).1⟩ :: replies b rest (use.run b o).2

end MemoryUse

/-! ## Overlays up to spelling -/

/-- Two overlays over one tree differ in the spelling of their entries only. -/
structure Respelled (o o' : Overlay MemoryTree) : Prop where
  /-- The entries have the same normal forms, in one order. -/
  entries : o.stores.entries.byKey.mapValues Entry.normal =
    o'.stores.entries.byKey.mapValues Entry.normal
  /-- The relations are the same. -/
  relations : o.stores.relations = o'.stores.relations
  /-- The same is staged. -/
  changes : o.stores.changes = o'.stores.changes
  /-- The trees are the same. -/
  world : o.world = o'.world

/-- A tree in memory, with keys that are read off the normal text of a path. -/
def Backing.byNormalText (f : String → PathKey) : Backing MemoryTree :=
  .ofMemory (fun path => f path.normalText) id

namespace Respelled

variable {f : String → PathKey} {o o' : Overlay MemoryTree} {p q : Path}

/-- Two answers are the same up to spelling, and so are the overlays after them. -/
def Alike {α β : Type} (normal : α → β) (x y : α × Overlay MemoryTree) : Prop :=
  normal x.1 = normal y.1 ∧ Respelled x.2 y.2

/-- Paths with one normal form have one key. -/
theorem hash_congr (f : String → PathKey) (h : p.normalize = q.normalize) :
    (Backing.byNormalText f).hash p = (Backing.byNormalText f).hash q := by
  show f p.normalText = f q.normalText
  rw [Path.normalText, Path.normalText, h]

/-- The entries under a key have the same normal form. -/
theorem get? (h : Respelled o o') (k : PathKey) :
    (o.stores.entries.get? k).map Entry.normal = (o'.stores.entries.get? k).map Entry.normal := by
  rw [Entries.get?, Entries.get?, ← OrderedMap.get?_mapValues, h.entries, OrderedMap.get?_mapValues]

/-- Entries with the same normal form keep overlays respelled. -/
theorem record (h : Respelled o o') (k : PathKey) {entry entry' : Entry}
    (hentry : entry.normal = entry'.normal) :
    Respelled (o.record k entry) (o'.record k entry') where
  entries := by
    show (o.stores.entries.byKey.put k entry).mapValues Entry.normal =
      (o'.stores.entries.byKey.put k entry').mapValues Entry.normal
    rw [OrderedMap.mapValues_put, OrderedMap.mapValues_put, h.entries, hentry]
  relations := h.relations
  changes := h.changes
  world := h.world

/-- Entries of one kind whose paths have one normal form have the same normal form. -/
theorem normal_congr (kind : EntryKind) (h : p.normalize = q.normalize) :
    Entry.normal ⟨kind, p⟩ = Entry.normal ⟨kind, q⟩ := by
  rw [Entry.normal, Entry.normal, h]

/-- Relating keeps overlays respelled. -/
theorem relate (h : Respelled o o') (parent child : PathKey) :
    Respelled (o.relate parent child) (o'.relate parent child) where
  entries := h.entries
  relations := by rw [Overlay.relate, Overlay.relate, h.relations]
  changes := h.changes
  world := h.world

/-- Staging keeps overlays respelled. -/
theorem stageChange (h : Respelled o o') (hpath : p.normalize = q.normalize) (c : Change) :
    Respelled (o.stageChange (.byNormalText f) p c) (o'.stageChange (.byNormalText f) q c) := by
  rw [Overlay.stageChange, Overlay.stageChange, hash_congr f hpath]
  have hrecord := h.record ((Backing.byNormalText f).hash q) (normal_congr .file hpath)
  refine ⟨hrecord.entries, hrecord.relations, ?_, hrecord.world⟩
  rw [Overlay.stage, Overlay.stage, hrecord.changes]

/-- Classifying as one kind is answered alike. -/
theorem classifyAs (h : Respelled o o') (hpath : p.normalize = q.normalize) (kind : EntryKind) :
    Alike (Option.map Entry.normal) (o.classifyAs (.byNormalText f) kind p)
      (o'.classifyAs (.byNormalText f) kind q) := by
  have hget := h.get? ((Backing.byNormalText f).hash q)
  have hstat : o.world.stat p = o'.world.stat q := h.world ▸ o.world.stat_congr hpath
  unfold Overlay.classifyAs
  rw [hash_congr f hpath]
  cases hfound : o.stores.entries.get? ((Backing.byNormalText f).hash q) with
  | some entry =>
    rw [hfound] at hget
    obtain ⟨entry', hfound', hentry⟩ := Option.map_eq_some_iff.mp hget.symm
    rw [hfound']
    exact ⟨congrArg some hentry.symm, h⟩
  | none =>
    rw [hfound] at hget
    rw [Option.map_eq_none_iff.mp hget.symm]
    dsimp only [Backing.byNormalText, Backing.ofMemory, Backing.ofView, id]
    rw [hstat]
    cases o'.world.stat q with
    | error cause => exact ⟨rfl, h.entries, h.relations, h.changes, h.world⟩
    | ok found =>
      dsimp only
      split
      · exact ⟨congrArg some (normal_congr kind hpath), h.record _ (normal_congr kind hpath)⟩
      · exact ⟨rfl, h⟩

/-- Classifying is answered alike. -/
theorem classify (h : Respelled o o') (hpath : p.normalize = q.normalize) :
    Alike (Option.map Entry.normal) (o.classify (.byNormalText f) p)
      (o'.classify (.byNormalText f) q) := by
  obtain ⟨hanswer, hafter⟩ := h.classifyAs (f := f) hpath .directory
  unfold Overlay.classify Overlay.classifyDirectory Overlay.classifyFile
  generalize o.classifyAs (.byNormalText f) .directory p = x at hanswer hafter ⊢
  generalize o'.classifyAs (.byNormalText f) .directory q = y at hanswer hafter ⊢
  obtain ⟨found, o₁⟩ := x
  obtain ⟨found', o₁'⟩ := y
  cases found with
  | some entry =>
    obtain ⟨entry', rfl, -⟩ := Option.map_eq_some_iff.mp hanswer.symm
    exact ⟨hanswer, hafter⟩
  | none =>
    obtain rfl := Option.map_eq_none_iff.mp hanswer.symm
    exact hafter.classifyAs hpath .file

/-- Recording a child keeps overlays respelled. -/
theorem recordChild (h : Respelled o o') (hpath : p.normalize = q.normalize) (child : Listed) :
    Respelled (o.recordChild (.byNormalText f) p child)
      (o'.recordChild (.byNormalText f) q child) := by
  have hchild := Path.normalize_push_congr hpath (.ofString child.name)
  unfold Overlay.recordChild
  cases child.kind? with
  | none => exact h
  | some kind =>
    dsimp only
    rw [hash_congr f hpath, hash_congr f hchild]
    exact (h.relate _ _).record _ (normal_congr kind hchild)

/-- Recording children keeps overlays respelled. -/
theorem foldl_recordChild (h : Respelled o o') (hpath : p.normalize = q.normalize)
    (children : List Listed) :
    Respelled (children.foldl (Overlay.recordChild (.byNormalText f) p) o)
      (children.foldl (Overlay.recordChild (.byNormalText f) q) o') := by
  induction children generalizing o o' with
  | nil => exact h
  | cons child rest ih => exact ih (h.recordChild hpath child)

/-- The children of a directory have the same normal forms. -/
theorem map_normalize_childPaths (h : Respelled o o') (hpath : p.normalize = q.normalize) :
    (o.childPaths (.byNormalText f) p).map Path.normalize =
      (o'.childPaths (.byNormalText f) q).map Path.normalize := by
  have hentry (k : PathKey) :
      ((o.stores.entries.get? k).map (·.path)).map Path.normalize =
        ((o'.stores.entries.get? k).map (·.path)).map Path.normalize := by
    have hnormal := congrArg (Option.map (·.path)) (h.get? k)
    rw [Option.map_map, Option.map_map] at hnormal ⊢
    exact hnormal
  rw [Overlay.childPaths, Overlay.childPaths, List.map_filterMap, List.map_filterMap,
    hash_congr f hpath, h.relations]
  exact List.filterMap_congr fun k _ => hentry k

/-- Listing is answered alike. -/
theorem list (h : Respelled o o') (hpath : p.normalize = q.normalize) :
    Alike normalPaths (o.list (.byNormalText f) p) (o'.list (.byNormalText f) q) := by
  have hlist : o.world.list p = o'.world.list q := h.world ▸ o.world.list_congr hpath
  unfold Overlay.list
  dsimp only [Backing.byNormalText, Backing.ofMemory, Backing.ofView, id]
  rw [hlist]
  cases o'.world.list q with
  | error cause => exact ⟨congrArg (Except.error <| RunError.io · cause) hpath, h⟩
  | ok children =>
    have hafter := h.foldl_recordChild (f := f) hpath children
    exact ⟨congrArg Except.ok (hafter.map_normalize_childPaths hpath), hafter⟩

/-- Reading is answered alike. -/
theorem read (h : Respelled o o') (hpath : p.normalize = q.normalize) :
    Alike (Except.mapError RunError.normal) (o.read (.byNormalText f) p)
      (o'.read (.byNormalText f) q) := by
  have hread : o.world.read p = o'.world.read q := h.world ▸ o.world.read_congr hpath
  unfold Overlay.read
  rw [hash_congr f hpath, h.changes]
  rcases o'.stores.changes.get? ((Backing.byNormalText f).hash q) with _ | data | _
  · dsimp only [Backing.byNormalText, Backing.ofMemory, Backing.ofView, id]
    rw [hread]
    cases o'.world.read q with
    | ok content => exact ⟨rfl, h⟩
    | error cause => exact ⟨rfl, h.entries, h.relations, h.changes, h.world⟩
  · exact ⟨rfl, h⟩
  · exact ⟨congrArg (Except.error <| RunError.fileDeleted ·) hpath, h⟩

/-- A tree is searched alike. -/
theorem searchAll_congr (f : String → PathKey) (hpath : p.normalize = q.normalize)
    (excludes includes : List String) (found : OrderedMap PathKey Path) (t : MemoryTree) :
    Overlay.searchAll (.byNormalText f) p excludes includes found t =
      Overlay.searchAll (.byNormalText f) q excludes includes found t := by
  induction includes generalizing found t with
  | nil => rfl
  | cons pattern rest ih =>
    have hglob : (Backing.byNormalText f).glob p pattern excludes t =
        (Backing.byNormalText f).glob q pattern excludes t :=
      congrArg (fun answer => (answer.mapError SearchError.invalidPattern, t))
        (t.glob_congr hpath pattern excludes)
    rw [Overlay.searchAll, Overlay.searchAll, hglob]
    obtain ⟨answer, t'⟩ := (Backing.byNormalText f).glob q pattern excludes t
    cases answer with
    | error cause => rfl
    | ok paths => exact ih _ _

/-- Recording the same files keeps overlays respelled. -/
theorem foldl_record (h : Respelled o o') (files : List (PathKey × Path)) :
    Respelled (files.foldl (fun o p => o.record p.1 ⟨.file, p.2⟩) o)
      (files.foldl (fun o p => o.record p.1 ⟨.file, p.2⟩) o') := by
  induction files generalizing o o' with
  | nil => exact h
  | cons file rest ih => exact ih (h.record file.1 rfl)

/-- Discovering is answered alike. -/
theorem discover (h : Respelled o o') (hpath : p.normalize = q.normalize)
    (includes excludes : List String) :
    Alike normalPaths (o.discover (.byNormalText f) p includes excludes)
      (o'.discover (.byNormalText f) q includes excludes) := by
  unfold Overlay.discover
  rw [searchAll_congr f hpath, h.world]
  obtain ⟨answer, t⟩ := Overlay.searchAll (.byNormalText f) q excludes includes .empty o'.world
  have h' : Respelled { o with world := t } { o' with world := t } :=
    ⟨h.entries, h.relations, h.changes, rfl⟩
  cases answer with
  | error cause => exact ⟨rfl, h'⟩
  | ok found =>
    exact ⟨rfl, h'.foldl_record found.pairs⟩

/-- The plans have the same normal forms. -/
theorem map_normal_plan (h : Respelled o o') :
    o.plan.map PlanStep.normal = o'.plan.map PlanStep.normal := by
  have hstep (staged : PathKey × Change) :
      ((o.stores.entries.get? staged.1).map fun entry =>
          Overlay.stepFor entry.path staged.2).map PlanStep.normal =
        ((o'.stores.entries.get? staged.1).map fun entry =>
          Overlay.stepFor entry.path staged.2).map PlanStep.normal := by
    obtain ⟨k, change⟩ := staged
    have hnormal := congrArg (Option.map fun entry => Overlay.stepFor entry.path change) (h.get? k)
    rw [Option.map_map, Option.map_map] at hnormal ⊢
    cases change <;> exact hnormal
  rw [Overlay.plan, Overlay.plan, List.map_filterMap, List.map_filterMap, h.changes]
  exact List.filterMap_congr fun staged _ => hstep staged

/-- The stores have the same sizes. -/
theorem sizes_eq (h : Respelled o o') : o.sizes = o'.sizes := by
  have hsize : o.stores.entries.size = o'.stores.entries.size := by
    have hlength := congrArg OrderedMap.size h.entries
    rw [OrderedMap.size, OrderedMap.size, OrderedMap.mapValues, OrderedMap.mapValues,
      List.length_map, List.length_map] at hlength
    exact hlength
  rw [Overlay.sizes, Overlay.sizes, Stores.sizes, Stores.sizes, hsize, h.relations, h.changes]

/-- A path is recorded in both overlays or in neither. -/
theorem isKnown_eq (h : Respelled o o') (hpath : p.normalize = q.normalize) :
    o.isKnown (.byNormalText f) p = o'.isKnown (.byNormalText f) q := by
  have hsome := congrArg Option.isSome (h.get? ((Backing.byNormalText f).hash q))
  rw [Option.isSome_map, Option.isSome_map] at hsome
  rw [Overlay.isKnown, Overlay.isKnown, hash_congr f hpath]
  exact hsome

/-- A path is recorded as a directory in both overlays or in neither. -/
theorem isDirectory_eq (h : Respelled o o') (hpath : p.normalize = q.normalize) :
    o.isDirectory (.byNormalText f) p = o'.isDirectory (.byNormalText f) q := by
  have hkind := congrArg (Option.map (·.kind)) (h.get? ((Backing.byNormalText f).hash q))
  rw [Option.map_map, Option.map_map] at hkind
  rw [Overlay.isDirectory, Overlay.isDirectory, hash_congr f hpath]
  exact congrArg (· == some EntryKind.directory) hkind

end Respelled

/-! ## Histories -/

variable {f : String → PathKey} {o o' : Overlay MemoryTree}

/-- An operation with normal forms of paths has normal forms of paths. -/
theorem Operation.normal_normal (operation : Operation ω) :
    operation.normal.normal = operation.normal := by
  cases operation with
  | plan | sizes | elapse => rfl
  | _ => simp only [Operation.normal, Path.normalize_normalize]

/-- An operation is answered alike if its paths are replaced by their normal forms. -/
theorem Operation.run_normal (h : Respelled o o') (operation : Operation MemoryTree) :
    operation.normalAnswer (operation.run (.byNormalText f) o).1 ≍
        operation.normal.normalAnswer (operation.normal.run (.byNormalText f) o').1 ∧
      Respelled (operation.run (.byNormalText f) o).2
        (operation.normal.run (.byNormalText f) o').2 := by
  have hnormal (path : Path) : path.normalize = path.normalize.normalize :=
    (Path.normalize_normalize path).symm
  cases operation with
  | classifyDirectory path =>
    exact And.imp_left heq_of_eq (h.classifyAs (hnormal path) .directory)
  | classifyFile path => exact And.imp_left heq_of_eq (h.classifyAs (hnormal path) .file)
  | classify path => exact And.imp_left heq_of_eq (h.classify (hnormal path))
  | list directory => exact And.imp_left heq_of_eq (h.list (hnormal directory))
  | read path => exact And.imp_left heq_of_eq (h.read (hnormal path))
  | discover directory includes excludes =>
    exact And.imp_left heq_of_eq (h.discover (hnormal directory) includes excludes)
  | stageWrite path data => exact ⟨.rfl, h.stageChange (hnormal path) (.write data)⟩
  | stageDelete path => exact ⟨.rfl, h.stageChange (hnormal path) .delete⟩
  | key path => exact ⟨heq_of_eq (Respelled.hash_congr f (hnormal path)), h⟩
  | isDirectory path => exact ⟨heq_of_eq (h.isDirectory_eq (hnormal path)), h⟩
  | isKnown path => exact ⟨heq_of_eq (h.isKnown_eq (hnormal path)), h⟩
  | plan => exact ⟨heq_of_eq h.map_normal_plan, h⟩
  | sizes => exact ⟨heq_of_eq h.sizes_eq, h⟩
  | elapse change => exact ⟨.rfl, h.entries, h.relations, h.changes, congrArg change h.world⟩

namespace MemoryUse

/-- A use with normal forms of paths has normal forms of paths. -/
theorem normal_normal (use : MemoryUse) : use.normal.normal = use.normal := by
  cases use with
  | overlay operation => exact congrArg overlay operation.normal_normal
  | _ => simp only [normal, Path.normalize_normalize]

/-- The same change of the tree is answered alike. -/
theorem change_congr (h : Respelled o o')
    {g g' : MemoryTree → Except IoError Unit × MemoryTree} (hg : g o'.world = g' o'.world) :
    (change g o).1 = (change g' o').1 ∧ Respelled (change g o).2 (change g' o').2 := by
  unfold change
  rw [h.world, hg]
  exact ⟨rfl, h.entries, h.relations, h.changes, rfl⟩

/-- A use is answered alike if its paths are replaced by their normal forms. -/
theorem run_normal (h : Respelled o o') (use : MemoryUse) :
    use.normalAnswer (use.run (.byNormalText f) o).1 ≍
        use.normal.normalAnswer (use.normal.run (.byNormalText f) o').1 ∧
      Respelled (use.run (.byNormalText f) o).2 (use.normal.run (.byNormalText f) o').2 := by
  cases use with
  | overlay operation => exact operation.run_normal h
  | write path content =>
    refine And.imp_left heq_of_eq (change_congr h ?_)
    rw [MemoryTree.write, MemoryTree.write, Path.normalize_normalize]
  | makeDirectories path =>
    refine And.imp_left heq_of_eq (change_congr h ?_)
    rw [MemoryTree.makeDirectories, MemoryTree.makeDirectories, Path.normalize_normalize]
  | remove path =>
    refine And.imp_left heq_of_eq (change_congr h ?_)
    rw [MemoryTree.remove, MemoryTree.remove, Path.normalize_normalize]

/-- A history is answered alike if all its paths are replaced by their normal forms. -/
theorem replies_normal (history : List MemoryUse) {o o' : Overlay MemoryTree}
    (h : Respelled o o') :
    replies (.byNormalText f) history o = replies (.byNormalText f) (history.map normal) o' := by
  induction history generalizing o o' with
  | nil => rfl
  | cons use rest ih =>
    obtain ⟨hanswer, hafter⟩ := use.run_normal (f := f) h
    exact congrArg₂ List.cons (Sigma.ext use.normal_normal.symm hanswer) (ih hafter)

/-- Over any tree in memory, and with keys that are any function of the normal text of a path, two
histories of uses of an overlay and changes of the tree that differ in the spelling of their paths
only are answered alike: the same answer to every use, up to the spelling of the paths in it. -/
theorem replies_eq_of_normal (f : String → PathKey) (t : MemoryTree)
    (history history' : List MemoryUse) (h : history.map normal = history'.map normal) :
    replies (.byNormalText f) history (.new t) = replies (.byNormalText f) history' (.new t) := by
  have hself : Respelled (.new t) (.new t) := ⟨rfl, rfl, rfl, rfl⟩
  rw [replies_normal history hself, h, ← replies_normal history' hself]

/-- With the usual keys, a file that is written, listed and staged under other spellings is answered
for alike. -/
theorem replies_eq_of_normal_dots :
    replies (.ofMemory PathKey.ofPath id)
        [.write (.ofString "/r/./a.ts") "a", .overlay (.list (.ofString "//r/b/..")),
          .overlay (.stageDelete (.ofString "/r//a.ts")), .overlay .plan] (.new .new) =
      replies (.ofMemory PathKey.ofPath id)
        [.write (.ofString "/r/a.ts") "a", .overlay (.list (.ofString "/r/")),
          .overlay (.stageDelete (.ofString "/../r/a.ts/.")), .overlay .plan] (.new .new) :=
  replies_eq_of_normal (fun text => ⟨Blake3.hash (Utf8.encode text.toList)⟩) .new _ _ (by rfl)

end MemoryUse

end TreePlan
