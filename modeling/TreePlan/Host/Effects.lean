import TreePlan.Host.Tree

/-!
# Changing a host tree

Making directories, writing, appending and removing, with the errors that the system gives.
-/

namespace TreePlan.HostTree

/-- The tree with a node put at a location. -/
def put (t : HostTree) (place : Location) (node : HostNode) : HostTree :=
  { t with nodes := t.nodes.put place node }

/-- The tree without the nodes whose location passes a test. -/
def drop (t : HostTree) (test : Location → Bool) : HostTree :=
  { t with nodes := t.nodes.filterKeys fun place => !test place }

/-- Makes one directory in a directory that exists. -/
def makeDirectory (t : HostTree) (p : Path) : Except IoError HostTree :=
  match t.lookup .entry false p with
  | .error e => .error e
  | .ok (.node ..) => .error (.system .exists)
  | .ok (.vacant place) => .ok (t.put place .directory)

/-- Makes a directory again after the one above it has been made. -/
def makeLast (t : HostTree) (p : Path) : Except IoError Unit × HostTree :=
  match t.makeDirectory p with
  | .ok t => (.ok (), t)
  | .error e => if t.isDirectory p then (.ok (), t) else (.error e, t)

/-- Makes a directory and the directories above it, which are listed nearest first. -/
def makeAll (t : HostTree) : Path → (above : List Path) → Except IoError Unit × HostTree
  | p, above =>
    if p.components = [] then (.ok (), t)
    else match t.makeDirectory p, above with
      | .ok t, _ => (.ok (), t)
      | .error (.system .noEntry), parent :: rest =>
        match t.makeAll parent rest with
        | (.error e, t) => (.error e, t)
        | (.ok (), t) => t.makeLast p
      | .error e, _ => if t.isDirectory p then (.ok (), t) else (.error e, t)
termination_by _ above => above.length

/-- The paths above a path, nearest first. -/
def above (p : Path) : List Path :=
  (p.spans.dropLast.reverse.map fun s => p.slice 0 s.stop) ++
    if p.isAbsolute ∨ p.spans = [] then [] else [.empty]

/-- Makes a directory and the directories above it. -/
def makeDirectories (t : HostTree) (p : Path) : Except IoError Unit × HostTree :=
  t.makeAll p (above p)

/-- The place of the file that writing to a path opens, and its content if it is there. -/
def openFile (t : HostTree) (p : Path) : Except IoError (Location × Option (List UInt8)) :=
  match t.lookup .writing (endsInSeparator p) p with
  | .error e => .error e
  | .ok (.vacant place) => .ok (place, none)
  | .ok (.node place (.file content)) => .ok (place, some content)
  | .ok (.node ..) => .error (.system .isDirectory)

/-- Writes a file; its directory has to exist. -/
def write (t : HostTree) (p : Path) (content : List UInt8) : Except IoError HostTree :=
  (t.openFile p).map fun found => t.put found.1 (.file content)

/-- Removes a file or a link. -/
def removeFile (t : HostTree) (p : Path) : Except IoError HostTree :=
  match t.lookup .entry false p with
  | .error e => .error e
  | .ok (.vacant _) => .error (.system .noEntry)
  | .ok (.node _ .directory) => .error (.system .isDirectory)
  | .ok (.node place _) =>
    if endsInSeparator p then .error (.system .notDirectory) else .ok (t.drop (· == place))

end TreePlan.HostTree
