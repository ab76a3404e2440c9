import TreePlan.Decimal.Binary64

/-!
# TOML items

The values of a TOML document, and the rules by which keys and headers put them in place. A table
remembers how it came to be, for that decides what may still be added to it: a header may name a
table once, keys with dots may add only to tables that such keys made, and an inline table is
closed.
-/

namespace TreePlan.Toml

/-- How a table came to be. -/
inductive TableForm where
  /-- Written between braces. -/
  | closed
  /-- Named by a header. -/
  | named
  /-- Passed through by a header. -/
  | implied
  /-- Made by a key with dots. -/
  | dotted
deriving DecidableEq, Repr

/-- A value of a document. -/
inductive Item where
  /-- A text. -/
  | text (value : String)
  /-- A whole number. -/
  | int (value : Int)
  /-- A number. -/
  | float (value : Binary64)
  /-- A truth value. -/
  | bool (value : Bool)
  /-- A date, a time or both, as it is written. -/
  | moment (value : String)
  /-- A list of values. -/
  | array (items : List Item)
  /-- A table. -/
  | table (form : TableForm) (entries : List (String × Item))
  /-- Tables under one header. -/
  | tables (elements : List (List (String × Item)))
deriving Inhabited, Repr

/-- The entries of a table. -/
abbrev Entries := List (String × Item)

/-- The item under a key. -/
def Entries.get? (es : Entries) (key : String) : Option Item :=
  (es.find? (·.1 = key)).map (·.2)

/-- The entries with an item under a key, in place of the one that was there. -/
def Entries.put (es : Entries) (key : String) (item : Item) : Entries :=
  if es.any (·.1 = key) then es.map fun e => if e.1 = key then (key, item) else e
  else es ++ [(key, item)]

/-- The entries with an item under a new key. -/
def Entries.add? (es : Entries) (key : String) (item : Item) : Option Entries :=
  if es.any (·.1 = key) then none else some (es ++ [(key, item)])

/-- Changes the last of several tables. -/
def onLast? (f : Entries → Option Entries) (tables : List Entries) : Option (List Entries) :=
  match tables.getLast? with
  | none => none
  | some es => (f es).map fun es => tables.dropLast ++ [es]

/-- Adds an item under a key with dots: `path` before its last part, `key` its last part. -/
def Entries.addAt? (es : Entries) (path : List String) (key : String) (item : Item) :
    Option Entries :=
  match path with
  | [] => es.add? key item
  | part :: rest =>
    let within (sub : Entries) := addAt? sub rest key item
    match es.get? part with
    | none => (within []).map fun sub => es.put part (.table .dotted sub)
    | some (.table .dotted sub) => (within sub).map fun sub => es.put part (.table .dotted sub)
    | some (.table .implied sub) =>
      if rest = [] then none else (within sub).map fun sub => es.put part (.table .implied sub)
    | some (.tables ts) =>
      if rest = [] then none else (onLast? within ts).map fun ts => es.put part (.tables ts)
    | some _ => none

/-- Changes the table that the path of a header leads to; missing tables on the way are made. -/
def Entries.within? (es : Entries) (path : List String) (f : Entries → Option Entries) :
    Option Entries :=
  match path with
  | [] => f es
  | part :: rest =>
    let next (sub : Entries) := within? sub rest f
    match es.get? part with
    | none => (next []).map fun sub => es.put part (.table .implied sub)
    | some (.table .closed _) => none
    | some (.table form sub) => (next sub).map fun sub => es.put part (.table form sub)
    | some (.tables ts) => (onLast? next ts).map fun ts => es.put part (.tables ts)
    | some _ => none

/-- Opens a table under a key: a new one, or one that headers have only passed through. -/
def Entries.openTable? (key : String) (es : Entries) : Option Entries :=
  match es.get? key with
  | none => some (es.put key (.table .named []))
  | some (.table .implied sub) => some (es.put key (.table .named sub))
  | some _ => none

/-- Opens one more of several tables under a key. -/
def Entries.openElement? (key : String) (es : Entries) : Option Entries :=
  match es.get? key with
  | none => some (es.put key (.tables [[]]))
  | some (.tables ts) => some (es.put key (.tables (ts ++ [[]])))
  | some _ => none

end TreePlan.Toml
