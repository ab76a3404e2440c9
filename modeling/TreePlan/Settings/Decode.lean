import TreePlan.Settings
import TreePlan.Settings.Value
import TreePlan.Text.Quoted

/-!
# Reading settings from layered values

Truth values may be given as words or numbers, and texts as anything without parts. A list in
place of a section gives its fields in order. What does not fit is reported with its key and its
origin.
-/

namespace TreePlan

/-- What was found in place of something else. -/
inductive Found where
  /-- A value without parts. -/
  | scalar (value : Scalar)
  /-- A list. -/
  | array
  /-- A table. -/
  | table
deriving DecidableEq, Inhabited, Repr

/-- What a value is found to be. -/
def Value.found : Value → Found
  | scalar _ value => .scalar value
  | array .. => .array
  | table .. => .table

/-- What was found, in words. -/
def Found.text : Found → String
  | scalar .nothing => "unit value"
  | scalar (.bool value) => "boolean `" ++ toString value ++ "`"
  | scalar (.int value) => "integer `" ++ toString value ++ "`"
  | scalar (.float value) => "floating point `" ++ value.toPointedText ++ "`"
  | scalar (.text value) => "string " ++ Quoted.text value
  | array => "sequence"
  | table => "map"

/-- Why settings cannot be read. -/
inductive SettingsFault where
  /-- A file that was asked for is not there. -/
  | missingFile (path : Path)
  /-- A file is not a document. -/
  | unreadable
  /-- The value at a key is not of the kind that a field has. -/
  | wrongValue (found : Found) (expected : String) (key : String) (origin : Origin)
  /-- A value is not built as a section, a list or a table. -/
  | wrongShape (found : Found) (expected : String)
deriving DecidableEq, Inhabited, Repr

namespace SettingsFault

/-- The fault in words. -/
def message : SettingsFault → String
  | missingFile path => "configuration file \"" ++ path.toText ++ "\" not found"
  | unreadable => "TOML parse error"
  | wrongValue found expected key origin =>
    "invalid type: " ++ found.text ++ ", expected " ++ expected ++
      (if key = "" then "" else " for key `" ++ key ++ "`") ++
      (origin.map (" in " ++ ·)).getD ""
  | wrongShape found expected => "invalid type: " ++ found.text ++ ", expected " ++ expected

/-- The fault seen from the table that holds the value under a key. -/
def underKey (name : String) : SettingsFault → SettingsFault
  | wrongValue found expected key origin =>
    wrongValue found expected
      (name ++ (if key = "" ∨ key.startsWith "[" then "" else ".") ++ key) origin
  | fault => fault

/-- The fault seen from the list that holds the value at an index. -/
def atIndex (index : Nat) : SettingsFault → SettingsFault
  | wrongValue found expected key origin =>
    wrongValue found expected ("[" ++ toString index ++ "]" ++ key) origin
  | fault => fault

end SettingsFault

namespace Value

/-- What a reading of a value answers. -/
abbrev Decoded (α : Type) := Except SettingsFault α

/-- The truth value that a word stands for. -/
def wordBool? (word : String) : Option Bool :=
  if word ∈ ["1", "true", "on", "yes"] then some true
  else if word ∈ ["0", "false", "off", "no"] then some false
  else none

/-- A truth value. -/
def decodeBool (v : Value) : Decoded Bool :=
  let fault (found : Found) : Decoded Bool := .error (.wrongValue found "a boolean" "" v.origin)
  match v with
  | scalar _ (.bool value) => .ok value
  | scalar _ (.int value) => .ok (value ≠ 0)
  | scalar _ (.float value) => .ok !value.isZero
  | scalar _ (.text value) =>
    match wordBool? (Lower.text value) with
    | some value => .ok value
    | none => fault (.scalar (.text (Lower.text value)))
  | v => fault v.found

/-- A text. -/
def decodeText (v : Value) : Decoded String :=
  match v with
  | scalar _ (.bool value) => .ok (toString value)
  | scalar _ (.int value) => .ok (toString value)
  | scalar _ (.float value) => .ok value.toText
  | scalar _ (.text value) => .ok value
  | v => .error (.wrongValue v.found "a string" "" v.origin)

/-- A path, if there is one. -/
def decodeFile (v : Value) : Decoded (Option Path) :=
  match v with
  | scalar _ .nothing => .ok none
  | v => v.decodeText.map fun text => some (.ofString text)

/-- A list of texts. -/
def decodeTexts (v : Value) : Decoded (List String) :=
  match v with
  | array _ items =>
    items.zipIdx.mapM fun (item, index) => item.decodeText.mapError (.atIndex index)
  | v => .error (.wrongShape v.found "a sequence")

/-- A table of texts. -/
def decodeTable (v : Value) : Decoded (List (String × String)) :=
  match v with
  | table _ entries =>
    entries.mapM fun (key, value) =>
      (value.decodeText.map fun text => (key, text)).mapError (.underKey key)
  | v => .error (.wrongShape v.found "a map")

/-- A field of a section: the entry under its name, or the value at its index in a list. -/
def decodeField {α : Type} (name : String) (index : Nat) (decode : Value → Decoded α) (default : α)
    (v : Value) : Decoded α :=
  match v with
  | array _ items =>
    match items[index]? with
    | some value => (decode value).mapError (.atIndex index)
    | none => .ok default
  | v =>
    match v.entry? name with
    | some value => (decode value).mapError (.underKey name)
    | none => .ok default

/-- Fails unless a value is built as a section. -/
def isSection (name : String) (v : Value) : Decoded Unit :=
  match v with
  | scalar .. => .error (.wrongShape v.found ("struct " ++ name))
  | _ => .ok ()

/-- How a run logs. -/
def decodeLogging (v : Value) : Decoded LogSettings := do
  v.isSection "LoggingConfig"
  let usual : LogSettings := {}
  return {
    enabled := ← v.decodeField "enabled" 0 decodeBool usual.enabled
    level := ← v.decodeField "level" 1 decodeText usual.level
    format := ← v.decodeField "format" 2 decodeText usual.format
    output := ← v.decodeField "output" 3 decodeText usual.output
    file := ← v.decodeField "file" 4 decodeFile usual.file
    color := ← v.decodeField "color" 5 decodeBool usual.color
    modules := ← v.decodeField "modules" 6 decodeTable usual.modules }

/-- What discovery leaves out. -/
def decodeDiscovery (v : Value) : Decoded DiscoverySettings := do
  v.isSection "DiscoveryConfig"
  let usual : DiscoverySettings := {}
  return { exclude := ← v.decodeField "exclude" 0 decodeTexts usual.exclude }

/-- All settings. -/
def decodeSettings (v : Value) : Decoded Settings := do
  v.isSection "RepomodConfig"
  return {
    logging := ← v.decodeField "logging" 0 decodeLogging {}
    discovery := ← v.decodeField "discovery" 1 decodeDiscovery {} }

end Value

end TreePlan
