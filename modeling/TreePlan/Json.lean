import TreePlan.Key

/-!
# JSON

Values, and how they are written: on one line, or indented by two blanks a level. Text is written as
it is but for quotes, backslashes and control characters.
-/

namespace TreePlan

/-- A JSON value; numbers are whole. -/
inductive Json where
  /-- `null`. -/
  | null
  /-- A truth value. -/
  | bool (value : Bool)
  /-- A whole number. -/
  | int (value : Int)
  /-- A text. -/
  | text (value : String)
  /-- A list of values. -/
  | array (items : List Json)
  /-- Members in order. -/
  | object (members : List (String × Json))
deriving Inhabited, Repr

namespace Json

/-- A character inside a quoted text. -/
def escapeChar (c : Char) : List Char :=
  if c = '"' then ['\\', '"']
  else if c = '\\' then ['\\', '\\']
  else if c = '\x08' then ['\\', 'b']
  else if c = '\x0c' then ['\\', 'f']
  else if c = '\n' then ['\\', 'n']
  else if c = '\r' then ['\\', 'r']
  else if c = '\t' then ['\\', 't']
  else if c < ' ' then
    ['\\', 'u', '0', '0', PathKey.hexDigit (c.toNat / 16), PathKey.hexDigit (c.toNat % 16)]
  else [c]

/-- A text in quotes. -/
def quote (text : List Char) : List Char := '"' :: text.flatMap escapeChar ++ ['"']

/-- The start of a line at a level. -/
def newLine (level : Nat) : List Char := '\n' :: List.replicate (2 * level) ' '

mutual

/-- A value on one line without blanks. -/
def compact : Json → List Char
  | .null => "null".toList
  | .bool value => (if value then "true" else "false").toList
  | .int value => (toString value).toList
  | .text value => quote value.toList
  | .array [] => "[]".toList
  | .array (item :: rest) => '[' :: compact item ++ compactItems rest ++ [']']
  | .object [] => ['\x7b', '\x7d']
  | .object ((key, value) :: rest) =>
    '\x7b' :: quote key.toList ++ ':' :: compact value ++ compactMembers rest ++ ['\x7d']

/-- Items after the first. -/
def compactItems : List Json → List Char
  | [] => []
  | item :: rest => ',' :: compact item ++ compactItems rest

/-- Members after the first. -/
def compactMembers : List (String × Json) → List Char
  | [] => []
  | (key, value) :: rest => ',' :: quote key.toList ++ ':' :: compact value ++ compactMembers rest

end

mutual

/-- A value over several lines, its first line begun at a level. -/
def pretty (level : Nat) : Json → List Char
  | .null => "null".toList
  | .bool value => (if value then "true" else "false").toList
  | .int value => (toString value).toList
  | .text value => quote value.toList
  | .array [] => "[]".toList
  | .array (item :: rest) =>
    '[' :: newLine (level + 1) ++ pretty (level + 1) item ++ prettyItems level rest
      ++ newLine level ++ [']']
  | .object [] => ['\x7b', '\x7d']
  | .object ((key, value) :: rest) =>
    '\x7b' :: newLine (level + 1) ++ quote key.toList ++ ": ".toList ++ pretty (level + 1) value
      ++ prettyMembers level rest ++ newLine level ++ ['\x7d']

/-- Items after the first, of an array begun at a level. -/
def prettyItems (level : Nat) : List Json → List Char
  | [] => []
  | item :: rest =>
    ',' :: newLine (level + 1) ++ pretty (level + 1) item ++ prettyItems level rest

/-- Members after the first, of an object begun at a level. -/
def prettyMembers (level : Nat) : List (String × Json) → List Char
  | [] => []
  | (key, value) :: rest =>
    ',' :: newLine (level + 1) ++ quote key.toList ++ ": ".toList ++ pretty (level + 1) value
      ++ prettyMembers level rest

end

/-- The value on one line. -/
def line (j : Json) : String := String.ofList j.compact

/-- The value over several lines. -/
def page (j : Json) : String := String.ofList (j.pretty 0)

end Json

end TreePlan
