import TreePlan.IoError
import TreePlan.Store.OrderedMap

/-!
# Host trees

The files of a machine: regular files, directories and symbolic links by location, and a working
directory that relative paths start from. `lookup` walks a path the way the system does: it follows
links on the way, gives up after forty of them, and wants a directory before every separator.
-/

namespace TreePlan

/-- The names on the way from the root of the machine. -/
abbrev Location := List (List UInt8)

/-- What stands at a location. -/
inductive HostNode where
  /-- A regular file. -/
  | file (content : List UInt8)
  /-- A directory. -/
  | directory
  /-- A symbolic link. -/
  | link (target : Path)
deriving DecidableEq, Repr

/-- What stands where below the root of the machine, and where relative paths start. -/
structure HostTree where
  /-- The nodes by location; the root is not among them. -/
  nodes : OrderedMap Location HostNode
  /-- The working directory. -/
  workingDirectory : Location
deriving DecidableEq, Inhabited

namespace HostTree

/-- What stands at a location. -/
def node? (t : HostTree) (place : Location) : Option HostNode :=
  if place = [] then some .directory else t.nodes.get? place

/-- The absolute path of a location. -/
def pathOf (place : Location) : Path :=
  match place with
  | [] => ⟨[Path.separator]⟩
  | names => ⟨names.flatMap (Path.separator :: ·)⟩

/-! ## Looking up paths -/

/-- What a path is looked up for. -/
inductive Purpose where
  /-- What it leads to, a link in last place followed. -/
  | target
  /-- What stands there itself, be it a link. -/
  | entry
  /-- A file to be written, which need not be there yet; a separator in last place rules it out. -/
  | writing
deriving DecidableEq, Repr

/-- What a walk ends at. -/
inductive Found where
  /-- A node. -/
  | node (place : Location) (node : HostNode)
  /-- A free place in a directory. -/
  | vacant (place : Location)
deriving DecidableEq, Repr

/-- The longest name. -/
def nameLimit : Nat := 255

/-- The length from which on a path is too long. -/
def pathLimit : Nat := 4096

/-- The most links that a walk follows. -/
def linkLimit : Nat := 40

/-- The names between the separators of a path. -/
def namesOf (p : Path) : List (List UInt8) := (Path.names p.bytes).filter (· ≠ [])

/-- The path ends in a separator. -/
def endsInSeparator (p : Path) : Bool := p.bytes.getLast? == some Path.separator

/-- Walks from a directory along names. `asDirectory`: a separator follows the last name, so what
stands there has to be a directory, or a link to one. -/
def walk (t : HostTree) (purpose : Purpose) (links : Nat) (here : Location) (asDirectory : Bool) :
    List (List UInt8) → Except Errno Found
  | [] => .ok (.node here .directory)
  | name :: rest =>
    if name = [Path.dot] then t.walk purpose links here asDirectory rest
    else if name = [Path.dot, Path.dot] then t.walk purpose links here.dropLast asDirectory rest
    -- this is settled before anything is looked up in last place, links included
    else if rest = [] ∧ asDirectory ∧ purpose = .writing then .error .isDirectory
    else if name.length > nameLimit then .error .nameTooLong
    else match t.node? (here ++ [name]) with
      | none => if rest = [] then .ok (.vacant (here ++ [name])) else .error .noEntry
      | some .directory => t.walk purpose links (here ++ [name]) asDirectory rest
      | some (.file content) =>
        if rest = [] ∧ !asDirectory then .ok (.node (here ++ [name]) (.file content))
        else .error .notDirectory
      | some (.link target) =>
        if rest = [] ∧ !asDirectory ∧ purpose = .entry then
          .ok (.node (here ++ [name]) (.link target))
        else match links with
          | 0 => .error .loop
          | links + 1 =>
            -- the walk goes on from the directory that holds the link
            if target.bytes = [] then .error .noEntry
            else t.walk purpose links (if target.isAbsolute then [] else here)
              (asDirectory || rest = [] && endsInSeparator target) (namesOf target ++ rest)
termination_by names => (links, names.length)

/-- Where a path leads, before anything is done there. -/
def lookup (t : HostTree) (purpose : Purpose) (asDirectory : Bool) (p : Path) :
    Except IoError Found :=
  if (0 : UInt8) ∈ p.bytes then .error .zeroByte
  else if p.bytes = [] then .error (.system .noEntry)
  else if p.bytes.length ≥ pathLimit then .error (.system .nameTooLong)
  else (t.walk purpose linkLimit (if p.isAbsolute then [] else t.workingDirectory) asDirectory
    (namesOf p)).mapError .system

/-- The node that a path leads to, links followed. -/
def find (t : HostTree) (p : Path) : Except IoError (Location × HostNode) :=
  match t.lookup .target (endsInSeparator p) p with
  | .error e => .error e
  | .ok (.vacant _) => .error (.system .noEntry)
  | .ok (.node place node) => .ok (place, node)

/-- The node that a path leads to, a link in last place not followed. -/
def findHere (t : HostTree) (p : Path) : Except IoError (Location × HostNode) :=
  match t.lookup .entry (endsInSeparator p) p with
  | .error e => .error e
  | .ok (.vacant _) => .error (.system .noEntry)
  | .ok (.node place node) => .ok (place, node)

/-- Whether a path leads to a directory. -/
def isDirectory (t : HostTree) (p : Path) : Bool :=
  match t.find p with
  | .ok (_, .directory) => true
  | _ => false

/-- The absolute path without links that a path leads to. -/
def canonical (t : HostTree) (p : Path) : Except IoError Path :=
  (t.find p).map fun found => pathOf found.1

/-! ## Reading -/

/-- Names and nodes in a directory, by the bytes of the names. -/
def children (t : HostTree) (place : Location) : List (List UInt8 × HostNode) :=
  (t.nodes.pairs.filterMap fun (at', node) =>
    match at'.getLast? with
    | some name => if at' = place ++ [name] then some (name, node) else none
    | none => none).mergeSort fun a b => compareBytes a.1 b.1 != .gt

/-- The bytes of a file. -/
def readBytes (t : HostTree) (p : Path) : Except IoError (List UInt8) :=
  match t.find p with
  | .error e => .error e
  | .ok (_, .file content) => .ok content
  | .ok _ => .error (.system .isDirectory)

/-- The text of a file. -/
def readText (t : HostTree) (p : Path) : Except IoError String :=
  match t.readBytes p with
  | .error e => .error e
  | .ok content =>
    match Utf8.decode? content with
    | some text => .ok (String.ofList text)
    | none => .error .notText

end HostTree

end TreePlan
