import TreePlan.Json
import TreePlan.Settings

/-!
# Settings as JSON

Settings may also be given as a JSON value. Nothing is converted here: a value of the wrong kind
is no setting. A list in place of a section gives its fields in order and has no more items than
the section has fields.
-/

namespace TreePlan

namespace Json

/-- A truth value. -/
def bool? : Json → Option Bool
  | bool value => some value
  | _ => none

/-- A text. -/
def text? : Json → Option String
  | text value => some value
  | _ => none

/-- A path, if there is one. -/
def file? : Json → Option (Option Path)
  | null => some none
  | text value => some (some (.ofString value))
  | _ => none

/-- A list of texts. -/
def texts? : Json → Option (List String)
  | array items => items.mapM text?
  | _ => none

/-- Texts by name. -/
def textTable? : Json → Option (List (String × String))
  | object members => members.mapM fun (key, value) => (text? value).map fun text => (key, text)
  | _ => none

/-- The value is built as a section with a number of fields. -/
def isSection (fields : Nat) : Json → Bool
  | object _ => true
  | array items => items.length ≤ fields
  | _ => false

/-- A field of a section: the member under its name, or the item at its index in a list. -/
def field? {α : Type} (name : String) (index : Nat) (read : Json → Option α) (default : α) :
    Json → Option α
  | object members =>
    match members.find? (·.1 = name) with
    | some (_, value) => read value
    | none => some default
  | array items =>
    match items[index]? with
    | some value => read value
    | none => some default
  | _ => none

end Json

/-- How a run logs. -/
def LogSettings.ofJson? (j : Json) : Option LogSettings := do
  let usual : LogSettings := {}
  if !j.isSection 7 then none
  return {
    enabled := ← j.field? "enabled" 0 Json.bool? usual.enabled
    level := ← j.field? "level" 1 Json.text? usual.level
    format := ← j.field? "format" 2 Json.text? usual.format
    output := ← j.field? "output" 3 Json.text? usual.output
    file := ← j.field? "file" 4 Json.file? usual.file
    color := ← j.field? "color" 5 Json.bool? usual.color
    modules := ← j.field? "modules" 6 Json.textTable? usual.modules }

/-- What discovery leaves out. -/
def DiscoverySettings.ofJson? (j : Json) : Option DiscoverySettings := do
  let usual : DiscoverySettings := {}
  if !j.isSection 1 then none
  return { exclude := ← j.field? "exclude" 0 Json.texts? usual.exclude }

/-- All settings. -/
def Settings.ofJson? (j : Json) : Option Settings := do
  if !j.isSection 2 then none
  return {
    logging := ← j.field? "logging" 0 LogSettings.ofJson? {}
    discovery := ← j.field? "discovery" 1 DiscoverySettings.ofJson? {} }

end TreePlan
