import TreePlan.Backing
import TreePlan.Path.Normal
import TreePlan.Store.OrderedMap

/-!
# A tree in memory

Files and directories by normal form, in the order in which they were made; the tree begins with its
root. Children are listed in that order too, and a search visits siblings by name.
-/

namespace TreePlan

/-- A file with its content, or a directory. -/
inductive MemoryNode where
  /-- A file. -/
  | file (content : String)
  /-- A directory. -/
  | directory
deriving DecidableEq, Repr

/-- The kind of a node. -/
def MemoryNode.kind : MemoryNode → EntryKind
  | .file _ => .file
  | .directory => .directory

/-- The nodes of a tree by the normal form of their paths. -/
structure MemoryTree where
  /-- The nodes. -/
  nodes : OrderedMap Path MemoryNode
deriving DecidableEq, Inhabited

namespace MemoryTree

/-- The tree with nothing but its root. -/
def new : MemoryTree := ⟨OrderedMap.empty.put ⟨[Path.separator]⟩ .directory⟩

/-- The node at a path, however it is spelled. -/
def node? (t : MemoryTree) (p : Path) : Option MemoryNode := t.nodes.get? p.normalize

/-! ## Changes -/

/-- Makes directories one after the other; a file in the way ends it. -/
def makeEach (t : MemoryTree) : List Path → Except IoError Unit × MemoryTree
  | [] => (.ok (), t)
  | p :: rest =>
    match t.nodes.get? p with
    | some .directory => t.makeEach rest
    | some (.file _) => (.error (.fileInTheWay p), t)
    | none => makeEach ⟨t.nodes.put p .directory⟩ rest

/-- Makes a directory and the directories above it. -/
def makeDirectories (t : MemoryTree) (p : Path) : Except IoError Unit × MemoryTree :=
  t.makeEach p.normalize.ancestors

/-- Puts a file at a normal form unless a directory is there. -/
def putFile (t : MemoryTree) (p : Path) (content : String) : Except IoError Unit × MemoryTree :=
  match t.nodes.get? p with
  | some .directory => (.error (.wroteDirectory p), t)
  | _ => (.ok (), ⟨t.nodes.put p (.file content)⟩)

/-- Writes a file and makes the directories above it. -/
def write (t : MemoryTree) (p : Path) (content : String) : Except IoError Unit × MemoryTree :=
  match p.normalize.parent? with
  | none => t.putFile p.normalize content
  | some parent =>
    match t.makeDirectories parent with
    | (.error e, t) => (.error e, t)
    | (.ok (), t) => t.putFile p.normalize content

/-- Removes a node with everything beneath it. -/
def remove (t : MemoryTree) (p : Path) : Except IoError Unit × MemoryTree :=
  if t.nodes.contains p.normalize then
    (.ok (), ⟨t.nodes.filterKeys fun q => !q.startsWith p.normalize⟩)
  else (.error (.absent p.normalize), t)

/-! ## Questions -/

/-- What a path is. -/
def stat (t : MemoryTree) (p : Path) : Except IoError (Option EntryKind) :=
  match t.node? p with
  | some node => .ok (some node.kind)
  | none => .error (.absent p.normalize)

/-- The name and kind of a node that is a child of a directory. -/
def asChild? (parent : Path) (child : Path × MemoryNode) : Option Listed :=
  if (child.1.parent?.map Path.components) = some parent.components then
    child.1.fileName?.map fun name => ⟨String.ofList (Utf8.decodeLossy name), some child.2.kind⟩
  else none

/-- The children of a directory in the order in which they were made. -/
def list (t : MemoryTree) (p : Path) : Except IoError (List Listed) :=
  match t.node? p with
  | some .directory => .ok (t.nodes.pairs.filterMap (asChild? p.normalize))
  | some (.file _) => .error (.listedFile p.normalize)
  | none => .error (.absent p.normalize)

/-- The content of a file. -/
def read (t : MemoryTree) (p : Path) : Except IoError String :=
  match t.node? p with
  | some (.file content) => .ok content
  | some .directory => .error (.readDirectory p.normalize)
  | none => .error (.absent p.normalize)

/-- The files at or below a path: depth first, siblings by name. -/
def filesUnder (t : MemoryTree) (root : Path) : List Path :=
  ((t.nodes.pairs.filter fun p => p.2.kind = .file ∧ p.1.startsWith root).map (·.1)).mergeSort
    fun p q => p.compare q != .gt

/-- The files under a directory that a pattern matches and no exclude excludes. -/
def glob (t : MemoryTree) (p : Path) (pattern : String) (excludes : List String) :
    Except PatternSet.Fault (List Path) :=
  (PatternSet.compile [pattern] excludes).map fun set =>
    (t.filesUnder p.normalize).filter fun file =>
      match file.stripBase? p.normalize with
      | some relative => !set.excludesPath relative && set.includesPath relative
      | none => false

end MemoryTree

/-- The backing of a world that holds a tree. -/
def Backing.ofMemory {ω : Type} (hash : Hasher) (view : ω → MemoryTree) : Backing ω :=
  .ofView hash view MemoryTree.stat MemoryTree.list MemoryTree.read MemoryTree.glob

end TreePlan
