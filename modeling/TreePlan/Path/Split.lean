import TreePlan.Path.Normal

/-!
# Parts of a path

`dirname` and `basename` split off the last component and say why they cannot. A file name falls
into stem and extension at its last dot, unless that dot opens the name; `withExtension?` puts
another extension in its place.
-/

namespace TreePlan.Path

/-- Why a path has no such part. -/
inductive Fault where
  /-- The root and the empty path have no parent directory. -/
  | noParent (path : Path)
  /-- The last component is not a name. -/
  | noFileName (path : Path)
deriving DecidableEq, Repr

/-- The fault in words. -/
def Fault.message : Fault → String
  | .noParent p => p.toText ++ " has no parent directory"
  | .noFileName p => p.toText ++ " has no file name"

/-- The parent directory, `.` for a bare name. -/
def dirname (p : Path) : Except Fault Path :=
  match p.parent? with
  | none => .error (.noParent p)
  | some q => .ok (if q.bytes = [] then ⟨[dot]⟩ else q)

/-- The last component as text. -/
def basename (p : Path) : Except Fault String :=
  match p.fileName? with
  | none => .error (.noFileName p)
  | some name => .ok (String.ofList (Utf8.decodeLossy name))

/-- A name before and after its last dot, if it has a dot. -/
def splitAtLastDot : List UInt8 → Option (List UInt8 × List UInt8)
  | [] => none
  | b :: rest =>
    match splitAtLastDot rest with
    | some (before, after) => some (b :: before, after)
    | none => if b = dot then some ([], rest) else none

/-- Stem and extension of a name; a dot that opens the name does not count. -/
def splitName (name : List UInt8) : List UInt8 × Option (List UInt8) :=
  match splitAtLastDot name with
  | none => (name, none)
  | some ([], _) => (name, none)
  | some (stem, ext) => (stem, some ext)

/-- The extension of the file name, without its dot. -/
def extension? (p : Path) : Option (List UInt8) := p.fileName?.bind fun name => (splitName name).2

/-- The path up to the end of its stem, with the extension appended; nothing is appended for the
empty extension, and a path without a file name stays as it is. -/
def setExtension (p : Path) (ext : List UInt8) : Path :=
  match p.fileName?, p.spans.getLast? with
  | some name, some last =>
    let stem := p.slice 0 (last.start + (splitName name).1.length)
    if ext = [] then stem else ⟨stem.bytes ++ dot :: ext⟩
  | _, _ => p

/-- The path with another extension; none if the extension holds a separator. -/
def withExtension? (p : Path) (ext : List UInt8) : Option Path :=
  if separator ∈ ext then none
  else
    let kept := p.bytes.length - ((p.extension?.map List.length).getD 0)
    some ((p.slice 0 kept).setExtension ext)

end TreePlan.Path
