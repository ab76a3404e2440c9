import TreePlan.Backing
import TreePlan.Host.Tree

/-!
# Overlays over a host

The host tree as a backing. Listings are sorted by name and show links as neither files nor
directories. A search walks the tree depth first with siblings by the bytes of their names and does
not enter what is excluded; of links it follows only one that it starts from.
-/

namespace TreePlan.HostTree

/-- The kind of a node; a link is of neither kind. -/
def kindOf : HostNode → Option EntryKind
  | .file _ => some .file
  | .directory => some .directory
  | .link _ => none

/-- What a path is, links followed. -/
def stat (t : HostTree) (p : Path) : Except IoError (Option EntryKind) :=
  (t.find p).map fun found => kindOf found.2

/-- The children of a directory, sorted by name. -/
def list (t : HostTree) (p : Path) : Except IoError (List Listed) :=
  match t.find p with
  | .error e => .error e
  | .ok (place, .directory) =>
    .ok (((t.children place).map fun (name, node) =>
      ⟨String.ofList (Utf8.decodeLossy name), kindOf node⟩).mergeSort fun a b => a.name ≤ b.name)
  | .ok _ => .error (.system .notDirectory)

/-- The files below a directory, depth first. What `enters` rejects is left out with everything
beneath it. -/
def filesBelow (t : HostTree) (enters : Path → Bool) : (depth : Nat) → Path → Location → List Path
  | 0, _, _ => []
  | depth + 1, path, place =>
    (t.children place).flatMap fun (name, node) =>
      let child := path.push ⟨name⟩
      if enters child then
        match node with
        | .file _ => [child]
        | .directory => t.filesBelow enters depth child (place ++ [name])
        | .link _ => []
      else []

/-- The length of the longest location. -/
def height (t : HostTree) : Nat := t.nodes.keys.foldl (fun n place => max n place.length) 0

/-- The files at or below a path. -/
def filesFrom (t : HostTree) (enters : Path → Bool) (root : Path) : List Path :=
  match t.findHere root with
  | .error _ => []
  | .ok (_, .file _) => [root]
  | .ok (place, .directory) => t.filesBelow enters (t.height + 1) root place
  | .ok (_, .link _) =>
    match t.find root with
    | .ok (place, .directory) => t.filesBelow enters (t.height + 1) root place
    | _ => []

/-- Whether a search under `root` enters a path. -/
def entersUnder (set : PatternSet) (root path : Path) : Bool :=
  match path.stripBase? root with
  | some relative => relative.bytes.isEmpty || !set.excludesPath relative
  | none => true

/-- The files under a directory that a pattern matches and no exclude excludes. -/
def glob (t : HostTree) (root : Path) (pattern : String) (excludes : List String) :
    Except PatternSet.Fault (List Path) :=
  (PatternSet.compile [pattern] excludes).map fun set =>
    (t.filesFrom (entersUnder set root) root).filter fun path =>
      match path.stripBase? root with
      | some relative => set.includesPath relative
      | none => false

end TreePlan.HostTree

namespace TreePlan

/-- The backing of a world that holds a host tree. -/
def Backing.ofHost {ω : Type} (hash : Hasher) (view : ω → HostTree) : Backing ω :=
  .ofView hash view HostTree.stat HostTree.list HostTree.readText HostTree.glob

end TreePlan
