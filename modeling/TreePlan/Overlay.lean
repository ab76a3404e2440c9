import TreePlan.Backing
import TreePlan.Plan
import TreePlan.Store.Changes
import TreePlan.Store.Entries
import TreePlan.Store.Relations

/-!
# Overlays

An overlay lies in front of a backing that is only ever asked. It records what paths are, collects
the children of directories, and stages writes and deletions; a plan is drawn from what is staged.
Every operation is a function from an overlay to an answer and the overlay after it. An operation
that fails leaves the stores as they were.
-/

namespace TreePlan

/-- What an overlay remembers. -/
structure Stores where
  /-- What paths are. -/
  entries : Entries
  /-- Which children directories ever had. -/
  relations : Relations
  /-- What is staged. -/
  changes : Changes
deriving DecidableEq, Inhabited

/-- Stores without content. -/
def Stores.empty : Stores := ⟨.empty, .empty, .empty⟩

/-- The sizes of the stores. -/
structure Stores.Sizes where
  /-- How many keys have an entry. -/
  entries : Nat
  /-- How many directories have children. -/
  listedDirectories : Nat
  /-- How many keys are staged. -/
  stagedChanges : Nat
deriving DecidableEq, Repr

/-- The sizes of the stores. -/
def Stores.sizes (s : Stores) : Sizes := ⟨s.entries.size, s.relations.size, s.changes.size⟩

/-- The stores, the world beneath them, and what has happened. -/
structure Overlay (ω : Type) where
  /-- What is remembered. -/
  stores : Stores
  /-- The world that the backing answers from. -/
  world : ω
  /-- What has happened, oldest first. -/
  journal : List Event

namespace Overlay

variable {ω : Type}

/-- The overlay over a world of which nothing is known. -/
def new (world : ω) : Overlay ω := ⟨.empty, world, []⟩

/-- The overlay with another entry recorded. -/
def record (o : Overlay ω) (k : PathKey) (e : Entry) : Overlay ω :=
  { o with stores := { o.stores with entries := o.stores.entries.record k e } }

/-- The overlay with a child related to a parent. -/
def relate (o : Overlay ω) (parent child : PathKey) : Overlay ω :=
  { o with stores := { o.stores with relations := o.stores.relations.relate parent child } }

/-- The overlay with an outcome staged. -/
def stage (o : Overlay ω) (k : PathKey) (c : Change) : Overlay ω :=
  { o with stores := { o.stores with changes := o.stores.changes.stage k c } }

variable (b : Backing ω)

/-- The overlay after one more event. -/
def log (e : Event) (o : Overlay ω) : Overlay ω :=
  { o with world := b.notice e o.world, journal := o.journal ++ [e] }

/-! ## Classification -/

/-- The entry recorded for a path, whatever its kind; if there is none, the backing is asked, and an
answer of the wanted kind is recorded. -/
def classifyAs (kind : EntryKind) (path : Path) (o : Overlay ω) : Option Entry × Overlay ω :=
  match o.stores.entries.get? (b.hash path) with
  | some e => (some e, o)
  | none =>
    match b.stat path o.world with
    | (.error cause, w) => (none, { o with world := w }.log b (.missed path cause))
    | (.ok found, w) =>
      if found = some kind then
        (some ⟨kind, path⟩, { o with world := w }.record (b.hash path) ⟨kind, path⟩)
      else (none, { o with world := w })

/-- Classifies a path as a directory. -/
def classifyDirectory (path : Path) (o : Overlay ω) : Option Entry × Overlay ω :=
  classifyAs b .directory path o

/-- Classifies a path as a file. -/
def classifyFile (path : Path) (o : Overlay ω) : Option Entry × Overlay ω :=
  classifyAs b .file path o

/-- Classifies a path as a directory or else as a file. -/
def classify (path : Path) (o : Overlay ω) : Option Entry × Overlay ω :=
  match classifyDirectory b path o with
  | (some e, o) => (some e, o)
  | (none, o) => classifyFile b path o

/-- Whether a path has been recorded as a directory. -/
def isDirectory (path : Path) (o : Overlay ω) : Bool :=
  o.stores.entries.kind? (b.hash path) == some .directory

/-- Whether a path has been recorded. -/
def isKnown (path : Path) (o : Overlay ω) : Bool := o.stores.entries.contains (b.hash path)

/-! ## Listing -/

/-- Records one child of a directory, if it is a file or a directory. -/
def recordChild (directory : Path) (o : Overlay ω) (child : Listed) : Overlay ω :=
  match child.kind? with
  | none => o
  | some kind =>
    let path := directory.push (.ofString child.name)
    (o.relate (b.hash directory) (b.hash path)).record (b.hash path) ⟨kind, path⟩

/-- The paths under which the children of a directory are recorded. -/
def childPaths (directory : Path) (o : Overlay ω) : List Path :=
  (o.stores.relations.childrenOf (b.hash directory)).filterMap
    fun k => (o.stores.entries.get? k).map (·.path)

/-- Lists a directory: asks the backing, records what it shows, and answers with every child that
the directory ever had. -/
def list (directory : Path) (o : Overlay ω) : Except RunError (List Path) × Overlay ω :=
  match b.list directory o.world with
  | (.error cause, w) => (.error (.io directory cause), { o with world := w })
  | (.ok children, w) =>
    let o := children.foldl (recordChild b directory) { o with world := w }
    (.ok (childPaths b directory o), o)

/-! ## Reading and staging -/

/-- Reads a file, staged content first. A path staged for deletion cannot be read; a file that the
backing cannot read is empty. -/
def read (path : Path) (o : Overlay ω) : Except RunError String × Overlay ω :=
  match o.stores.changes.get? (b.hash path) with
  | some (.write data) => (.ok data, o)
  | some .delete => (.error (.fileDeleted path), o)
  | none =>
    match b.read path o.world with
    | (.ok content, w) => (.ok content, { o with world := w })
    | (.error cause, w) => (.ok "", { o with world := w }.log b (.readAsEmpty path cause))

/-- Stages an outcome for a path, which counts as a file from then on. -/
def stageChange (path : Path) (c : Change) (o : Overlay ω) : Overlay ω :=
  (o.record (b.hash path) ⟨.file, path⟩).stage (b.hash path) c

/-- Stages a path for deletion. -/
def stageDelete (path : Path) (o : Overlay ω) : Overlay ω := stageChange b path .delete o

/-- Stages new content for a path. -/
def stageWrite (path : Path) (data : String) (o : Overlay ω) : Overlay ω :=
  stageChange b path (.write data) o

/-! ## Discovery -/

/-- Adds found paths to those found before, one for each key. -/
def addFound (found : OrderedMap PathKey Path) (paths : List Path) : OrderedMap PathKey Path :=
  paths.foldl (fun m p => m.putIfAbsent (b.hash p) p) found

/-- The files that the patterns find, one pattern after the other. -/
def searchAll (directory : Path) (excludes : List String) :
    List String → OrderedMap PathKey Path → ω →
      Except SearchError (OrderedMap PathKey Path) × ω
  | [], found, w => (.ok found, w)
  | pattern :: rest, found, w =>
    match b.glob directory pattern excludes w with
    | (.error error, w) => (.error error, w)
    | (.ok paths, w) => searchAll directory excludes rest (addFound b found paths) w

/-- Finds the files under a directory that any include matches, and records each as a file. -/
def discover (directory : Path) (includes excludes : List String) (o : Overlay ω) :
    Except RunError (List Path) × Overlay ω :=
  match searchAll b directory excludes includes .empty o.world with
  | (.error error, w) => (.error error.toRunError, { o with world := w })
  | (.ok found, w) =>
    -- nothing is recorded before all patterns have been searched
    (.ok (found.pairs.map (·.2)),
      found.pairs.foldl (fun o p => o.record p.1 ⟨.file, p.2⟩) { o with world := w })

/-! ## The plan -/

/-- The step that carries out a change at a path. -/
def stepFor (path : Path) : Change → PlanStep
  | .write data => .write path data
  | .delete => .delete path

/-- One step for each staged key, in the order in which the keys were first staged. -/
def plan (o : Overlay ω) : Plan :=
  o.stores.changes.toList.filterMap fun (k, c) =>
    (o.stores.entries.get? k).map fun e => stepFor e.path c

/-- The sizes of the stores. -/
def sizes (o : Overlay ω) : Stores.Sizes := o.stores.sizes

end Overlay

end TreePlan
