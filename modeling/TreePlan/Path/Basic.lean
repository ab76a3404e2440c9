import TreePlan.Text.Utf8

/-!
# Paths

A path is any sequence of bytes. It is read as components: a leading separator is the root, `.`
counts only at the front of a relative path, and empty names between separators are skipped.
`spans` keeps where each component lies in the bytes, so that parts of a path are cut out of its
own spelling: `parent?`, `stripBase?` and `withExtension?` never respell what they keep.
-/

namespace TreePlan

/-- A path: bytes, with `/` as the only separator. -/
structure Path where
  /-- The path as it is spelled. -/
  bytes : List UInt8
deriving DecidableEq, Hashable, Inhabited, Repr

/-- A component of a path. -/
inductive Component where
  /-- The root, from a leading separator. -/
  | root
  /-- A `.` at the front of a relative path. -/
  | current
  /-- A `..`. -/
  | parent
  /-- Any other name. -/
  | normal (name : List UInt8)
deriving DecidableEq, Inhabited, Repr

namespace Path

/-- The separator `/`. -/
def separator : UInt8 := 47

/-- The byte `.`. -/
def dot : UInt8 := 46

/-- The path that a text spells. -/
def ofString (text : String) : Path := ⟨Utf8.encode text.toList⟩

/-- The path as text, with U+FFFD for what is not valid UTF-8. -/
def toText (p : Path) : String := String.ofList (Utf8.decodeLossy p.bytes)

/-- The path as text, if it is valid UTF-8. -/
def text? (p : Path) : Option String := (Utf8.decode? p.bytes).map String.ofList

/-- The empty path. -/
def empty : Path := ⟨[]⟩

/-- The path begins with a separator. -/
def isAbsolute (p : Path) : Bool := p.bytes.head? == some separator

end Path

/-- The component that a name between separators stands for, if any: empty names and `.` are
skipped. -/
def Component.ofName? (name : List UInt8) : Option Component :=
  if name = [] then none
  else if name = [Path.dot] then none
  else if name = [Path.dot, Path.dot] then some .parent
  else some (.normal name)

/-- The component as it is spelled. -/
def Component.bytes : Component → List UInt8
  | .root => [Path.separator]
  | .current => [Path.dot]
  | .parent => [Path.dot, Path.dot]
  | .normal name => name

/-- A component and the bytes `start` up to `stop` of the path that spell it. -/
structure Span where
  /-- The component. -/
  component : Component
  /-- The index of its first byte. -/
  start : Nat
  /-- The index after its last byte. -/
  stop : Nat
deriving DecidableEq, Repr

namespace Path

/-- The names between separators; one more than there are separators. -/
def names : List UInt8 → List (List UInt8)
  | [] => [[]]
  | b :: rest =>
    if b = separator then [] :: names rest
    else match names rest with
      | [] => [[b]]
      | name :: more => (b :: name) :: more

/-- The components of names that lie one separator apart, the first of them at `offset`. -/
def spansFrom (offset : Nat) : List (List UInt8) → List Span
  | [] => []
  | name :: rest =>
    match Component.ofName? name with
    | none => spansFrom (offset + name.length + 1) rest
    | some c =>
      ⟨c, offset, offset + name.length⟩ :: spansFrom (offset + name.length + 1) rest

/-- The components of a path with their places. -/
def spans (p : Path) : List Span :=
  match names p.bytes with
  | [] => []
  | name :: rest =>
    let others := spansFrom (name.length + 1) rest
    if name = [] then
      if rest = [] then [] else ⟨.root, 0, 1⟩ :: others
    else if name = [dot] then ⟨.current, 0, 1⟩ :: others
    else spansFrom 0 [name] ++ others

/-- The components of a path. -/
def components (p : Path) : List Component := p.spans.map (·.component)

/-- The bytes from `start` up to `stop`. -/
def slice (p : Path) (start stop : Nat) : Path := ⟨(p.bytes.take stop).drop start⟩

/-- The path without its last component; none for the root and for the empty path. -/
def parent? (p : Path) : Option Path :=
  match p.spans.reverse with
  | [] => none
  | last :: before =>
    if last.component = .root then none
    else some (p.slice 0 ((before.head?.map (·.stop)).getD 0))

/-- The last component, if it is a name. -/
def fileName? (p : Path) : Option (List UInt8) :=
  match p.components.getLast? with
  | some (.normal name) => some name
  | _ => none

/-- Whether the components of `base` begin those of `p`. -/
def startsWith (p base : Path) : Bool := base.components.isPrefixOf p.components

/-- What is left of `p` below `base`, in the spelling of `p`. -/
def stripBase? (p base : Path) : Option Path :=
  if p.startsWith base then
    match p.spans.drop base.components.length with
    | [] => some empty
    | first :: more => some (p.slice first.start ((more.getLast?.map (·.stop)).getD first.stop))
  else none

/-- Appends a path with a separator where one is needed; an absolute path replaces what it is
appended to. -/
def push (base p : Path) : Path :=
  if p.isAbsolute then p
  else if base.bytes = [] ∨ base.bytes.getLast? = some separator then ⟨base.bytes ++ p.bytes⟩
  else ⟨base.bytes ++ separator :: p.bytes⟩

/-- The path that the components spell. -/
def ofComponents (cs : List Component) : Path :=
  cs.foldl (fun p c => p.push ⟨c.bytes⟩) empty

/-- The paths met on the way from `p` down the components. -/
def descend (p : Path) : List Component → List Path
  | [] => []
  | c :: cs => let q := p.push ⟨c.bytes⟩; q :: q.descend cs

/-- The path's ancestors from the front, and then the path: `a`, `a/b`, … -/
def ancestors (p : Path) : List Path := empty.descend p.components

end Path

/-- Where a component stands in the order of paths: root, `.`, `..`, then names by their bytes. -/
def Component.rank : Component → Nat
  | .root => 0
  | .current => 1
  | .parent => 2
  | .normal _ => 3

/-- The order of names as bytes: the shorter of two that agree comes first. -/
def compareBytes : List UInt8 → List UInt8 → Ordering
  | [], [] => .eq
  | [], _ :: _ => .lt
  | _ :: _, [] => .gt
  | a :: as, b :: bs => if a < b then .lt else if b < a then .gt else compareBytes as bs

/-- The order of components. -/
def Component.compare : Component → Component → Ordering
  | .normal a, .normal b => compareBytes a b
  | a, b => Ord.compare a.rank b.rank

/-- The order of component lists, first difference first. -/
def compareComponents : List Component → List Component → Ordering
  | [], [] => .eq
  | [], _ :: _ => .lt
  | _ :: _, [] => .gt
  | a :: as, b :: bs => (a.compare b).then (compareComponents as bs)

/-- The order of paths, component by component. -/
def Path.compare (p q : Path) : Ordering := compareComponents p.components q.components

end TreePlan
