import TreePlan.Decimal.Binary64
import TreePlan.Text.Lower
import TreePlan.Toml.Item

/-!
# Layered values

Settings come in layers, and a later layer is put over the earlier ones: tables are merged key by
key, whatever else is replaced. Keys are compared in lower case. Every value remembers where it
was given, for messages about values that do not fit.
-/

namespace TreePlan

/-- Where a value was given, if it was given and not made on the way to another. -/
abbrev Origin := Option String

/-- A value without parts. -/
inductive Scalar where
  /-- No value. -/
  | nothing
  /-- A truth value. -/
  | bool (value : Bool)
  /-- A whole number. -/
  | int (value : Int)
  /-- A number. -/
  | float (value : Binary64)
  /-- A text. -/
  | text (value : String)
deriving DecidableEq, Inhabited, Repr

/-- A value of a layer. -/
inductive Value where
  /-- A value without parts. -/
  | scalar (origin : Origin) (value : Scalar)
  /-- A list. -/
  | array (origin : Origin) (items : List Value)
  /-- A table. -/
  | table (origin : Origin) (entries : List (String × Value))
deriving Inhabited, Repr

namespace Value

/-- No value. -/
def nothing : Value := .scalar none .nothing

/-- A table without entries. -/
def emptyTable : Value := .table none []

/-- The origin of a value. -/
def origin : Value → Origin
  | scalar origin _ => origin
  | array origin _ => origin
  | table origin _ => origin

/-- The value under a key of a table. -/
def entry? (key : String) : Value → Option Value
  | table _ entries => (entries.find? (·.1 = key)).map (·.2)
  | _ => none

/-- A table with a value under a key; what is no table is replaced by one. -/
def withEntry (root : Value) (key : String) (value : Value) : Value :=
  match root with
  | table origin entries =>
    .table origin <|
      if entries.any (·.1 = key) then entries.map fun e => if e.1 = key then (key, value) else e
      else entries ++ [(key, value)]
  | _ => .table none [(key, value)]

mutual

/-- Puts a value under a key. The entries of a table are put one by one into what is there; a table
without entries makes an empty one only where nothing is. -/
def put (root : Value) (key : String) : Value → Value
  | table _ entries =>
    let name := Lower.text key
    root.withEntry name (putAll ((root.entry? name).getD emptyTable) entries)
  | array origin items => root.withEntry (Lower.text key) (.array origin items)
  | scalar origin value => root.withEntry (Lower.text key) (.scalar origin value)

/-- Puts entries one by one. -/
def putAll (root : Value) : List (String × Value) → Value
  | [] => root
  | (key, value) :: rest => putAll (put root key value) rest

end

mutual

/-- The value of an item of a document. -/
def ofItem (origin : Origin) : Toml.Item → Value
  | .text value => .scalar origin (.text value)
  | .int value => .scalar origin (.int value)
  | .float value => .scalar origin (.float value)
  | .bool value => .scalar origin (.bool value)
  | .moment value => .scalar origin (.text value)
  | .array items => .array origin (ofItems origin items)
  | .table _ entries => .table origin (ofEntries origin entries)
  | .tables elements => .array origin (ofElements origin elements)

/-- The values of items. -/
def ofItems (origin : Origin) : List Toml.Item → List Value
  | [] => []
  | item :: rest => ofItem origin item :: ofItems origin rest

/-- The values of entries. -/
def ofEntries (origin : Origin) : List (String × Toml.Item) → List (String × Value)
  | [] => []
  | (key, item) :: rest => (key, ofItem origin item) :: ofEntries origin rest

/-- The tables of several elements. -/
def ofElements (origin : Origin) : List (List (String × Toml.Item)) → List Value
  | [] => []
  | entries :: rest => .table origin (ofEntries origin entries) :: ofElements origin rest

end

end Value

end TreePlan
