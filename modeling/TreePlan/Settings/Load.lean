import TreePlan.Host.Tree
import TreePlan.Path.Split
import TreePlan.Settings.Decode
import TreePlan.Settings.Environment
import TreePlan.Toml.Document

/-!
# Loading settings

Settings come in three layers: the defaults, a file, and the environment. The file is `repomod.toml`
in the directory of a run, which need not be there, or one that is named and has to be.
-/

namespace TreePlan

/-- Where a path leads from a directory, as far as their spelling tells. -/
def Path.relativeTo (p base : Path) : Path :=
  let rec strip : List Component → List Component → List Component
    | a :: as, b :: bs =>
      if a = b then strip as bs else .parent :: bs.map (fun _ => .parent) ++ a :: as
    | [], bs => bs.map fun _ => .parent
    | as, [] => as
  .ofComponents (strip p.components base.components)

namespace HostTree

/-- The working directory as a path. -/
def workingPath (t : HostTree) : Path := pathOf t.workingDirectory

/-- Whether a path leads to a file. -/
def isFile (t : HostTree) (p : Path) : Bool :=
  match t.find p with
  | .ok (_, .file _) => true
  | _ => false

end HostTree

namespace Settings

/-- The name of the file with the settings of a directory. -/
def fileName : Path := .ofString "repomod.toml"

/-- The file whose name is that of a path with `.toml` appended. -/
def withSuffix (p : Path) : Path :=
  let dummy := Utf8.encode "dummy".toList
  let longer := match p.extension? with
    | some ext => ext ++ Path.dot :: dummy
    | none => dummy
  (p.setExtension longer).setExtension (Utf8.encode "toml".toList)

/-- The file with the settings that a path names: the path itself, or with `.toml` appended. -/
def findFile? (t : HostTree) (p : Path) : Option Path :=
  let full := t.workingPath.push p
  if t.isFile full then some full
  else if t.isFile (withSuffix full) then some (withSuffix full)
  else none

/-- A text without a byte-order mark before it. -/
def withoutMark : List UInt8 → List UInt8
  | 0xEF :: 0xBB :: 0xBF :: rest => rest
  | content => content

/-- The settings in a file, none of them if it is not there. -/
def readFile (t : HostTree) (p : Path) : Except SettingsFault (Option (List (String × Value))) :=
  match findFile? t p with
  | none => .ok none
  | some file =>
    match t.readBytes file with
    | .error _ => .ok none
    | .ok content =>
      match Toml.document? (Utf8.decodeLossy (withoutMark content)) with
      | none => .error .unreadable
      | some entries =>
        .ok (some (Value.ofEntries (some (file.relativeTo t.workingPath).toText) entries))

/-- The settings that hold where no other are given. -/
def defaults : List (String × Value) :=
  let usual : Settings := {}
  [("logging.enabled", .scalar none (.bool usual.logging.enabled)),
    ("logging.level", .scalar none (.text usual.logging.level)),
    ("logging.format", .scalar none (.text usual.logging.format)),
    ("logging.output", .scalar none (.text usual.logging.output)),
    ("logging.color", .scalar none (.bool usual.logging.color)),
    ("discovery.exclude",
      .array none (usual.discovery.exclude.map fun pattern => .scalar none (.text pattern)))]

/-- The settings that layers over the defaults amount to. -/
def ofLayers (layers : List (List (String × Value))) : Except SettingsFault Settings :=
  (layers.foldl Value.overlay (Value.emptyTable.overlay defaults)).decodeSettings

/-- The settings in a file that has to be there, under those of the environment. -/
def loadFile (t : HostTree) (env : Environment) (p : Path) : Except SettingsFault Settings := do
  match ← readFile t p with
  | none => throw (.missingFile p)
  | some layer => ofLayers [layer, env.layer]

/-- The directory whose settings a run over a root uses: the root, or the one that holds it. -/
def directoryFor (t : HostTree) (root : Path) : Path :=
  if t.isDirectory root then root else root.parent?.getD root

/-- The settings for a run over a root. -/
def load (t : HostTree) (env : Environment) (root : Path) : Except SettingsFault Settings := do
  let layer ← readFile t ((directoryFor t root).push fileName)
  ofLayers [layer.getD [], env.layer]

end Settings

end TreePlan
