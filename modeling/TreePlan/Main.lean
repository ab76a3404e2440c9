import Std.Time.DateTime
import TreePlan.Cli.Program

/-!
# The program on a machine

Takes a picture of the files that a command line is about, runs the program on the picture, and
carries over to the machine what the run has changed.
-/

namespace TreePlan.Machine

/-- A path as text for the machine. -/
def textOf (place : Location) : String := (HostTree.pathOf place).toText

/-- What stands at a location of the machine; a link leads where all links on the way lead. -/
def nodeAt (place : Location) : IO (Option HostNode) := do
  let name := String.ofList (Utf8.decodeLossy (place.getLast?.getD []))
  let entry : IO.FS.DirEntry := ⟨textOf place.dropLast, name⟩
  try
    match (← entry.path.symlinkMetadata).type with
    | .dir => return some .directory
    | .file => return some (.file (← IO.FS.readBinFile entry.path).toList)
    | .symlink => return some (.link (.ofString (← IO.FS.realPath entry.path).toString))
    | .other => return none
  catch _ => return none

/-- The picture with everything on the way along names from a location. -/
def takeWay (links : Nat) (here : Location) (t : HostTree) : List (List UInt8) → IO HostTree
  | [] => return t
  | name :: rest => do
    if name = [Path.dot] then takeWay links here t rest
    else if name = [Path.dot, Path.dot] then takeWay links here.dropLast t rest
    else
      let place := here ++ [name]
      match ← nodeAt place with
      | none => return t
      | some (.link target) =>
        -- links are read resolved, so the walk starts anew from the root of the machine
        let t := t.put place (.link target)
        match links with
        | 0 => return t
        | links + 1 => takeWay links [] t (HostTree.namesOf target ++ rest)
      | some node => takeWay links place (t.put place node) rest
termination_by names => (links, names.length)

/-- The picture with everything on the way to a path. -/
def takePath (t : HostTree) (p : Path) : IO HostTree :=
  takeWay HostTree.linkLimit (if p.isAbsolute then [] else t.workingDirectory) t
    (HostTree.namesOf p)

/-- The picture with everything below a location. -/
partial def takeBelow (place : Location) (t : HostTree) : IO HostTree := do
  let directory : IO.FS.DirEntry := ⟨textOf place, "."⟩
  let mut t := t
  for entry in ← directory.path.readDir do
    let child := place ++ [Utf8.encode entry.fileName.toList]
    match ← nodeAt child with
    | none => pure ()
    | some .directory => t ← takeBelow child (t.put child .directory)
    | some (.link target) => t ← takePath (t.put child (.link target)) target
    | some node => t := t.put child node
  return t

/-- A picture of the files that a command line is about. -/
def picture (env : Environment) (here : Path) (a : Cli.Arguments) : IO HostTree := do
  let start : HostTree := ⟨.empty, HostTree.namesOf here⟩
  let mut t ← takePath start here
  t ← takePath t a.target.root
  if let .ok (place, .directory) := t.find a.target.root then
    t ← takeBelow place t
  if let .ok root := t.canonical a.target.root then
    t ← takePath t ((Settings.directoryFor t root).push Settings.fileName)
  if let some config := a.config then
    t ← takePath t config
    t ← takePath t (Settings.withSuffix config)
  let settings := match Cli.Session.start t env a.target.root a.config with
    | .ok s => s.settings.logging
    | .error _ => {}
  takePath t (Log.fileLocation env none (Cli.logSettings a settings).file)

/-- Carries over what is new or changed, and then what is gone. -/
def carryOver (before after : HostTree) : IO Unit := do
  for (place, node) in after.nodes.pairs do
    if before.nodes.get? place ≠ some node then
      match node with
      | .directory => IO.FS.createDirAll (textOf place)
      | .file content => IO.FS.writeBinFile (textOf place) ⟨content.toArray⟩
      | .link _ => pure ()
  for (place, _) in before.nodes.pairs do
    if !after.nodes.contains place then IO.FS.removeFile (textOf place)

/-- The environment. -/
def environment : IO Environment := do
  let content := (← IO.FS.readBinFile "/proc/self/environ").toList
  let texts := (content.splitBy fun _ b => b ≠ 0).filterMap fun bytes =>
    (Utf8.decode? (bytes.filter (· ≠ 0)))
  return texts.map fun text =>
    (String.ofList (text.takeWhile (· ≠ '=')), String.ofList ((text.dropWhile (· ≠ '=')).drop 1))

/-- A number with zeros in front. -/
def padded (width : Nat) (n : Nat) : String :=
  let digits := Nat.toDigits 10 n
  String.ofList (List.replicate (width - digits.length) '0' ++ digits)

/-- The fraction of a second, no longer than needed in groups of three digits. -/
def fraction (nanoseconds : Nat) : String :=
  if nanoseconds = 0 then ""
  else if nanoseconds % 1000000 = 0 then "." ++ padded 3 (nanoseconds / 1000000)
  else if nanoseconds % 1000 = 0 then "." ++ padded 6 (nanoseconds / 1000)
  else "." ++ padded 9 nanoseconds

/-- The time, written out. -/
def now : IO Clock := do
  let time := Std.Time.DateTime.ofTimestampWithZone (← Std.Time.Timestamp.now) .UTC
  let day := padded 4 time.year.toInt.toNat ++ "-" ++ padded 2 time.month.val.toNat ++ "-" ++
    padded 2 time.day.val.toNat
  let hour := padded 2 time.hour.val.toNat ++ ":" ++ padded 2 time.minute.val.toNat ++ ":" ++
    padded 2 time.second.val.toNat
  return ⟨day ++ "T" ++ hour ++ fraction time.nanosecond.val.toNat ++ "+00:00", 0⟩

/-- Runs the program with a command line. -/
def run (line : List String) : IO UInt32 := do
  let env ← environment
  let here := Path.ofString (← IO.currentDir).toString
  let tree ← match Cli.Arguments.parse line with
    | .ok a => picture env here a
    | .error _ => pure ⟨.empty, HostTree.namesOf here⟩
  let (exit, console) := Cli.run line { tree, environment := env, clock := ← now }
  carryOver tree console.tree
  IO.print console.output
  IO.eprint console.messages
  return exit.number.toUInt32

end TreePlan.Machine

/-- The program. -/
def main (line : List String) : IO UInt32 := TreePlan.Machine.run line
