import TreePlan.Toml.Scalar

/-!
# Reading TOML documents

A reader takes characters and answers with a value and the characters after it, or with nothing. A
document is read line by line; values that hold others nest less than eighty deep.
-/

namespace TreePlan.Toml

/-- A reader of values. -/
abbrev Reader (α : Type) := List Char → Option (α × List Char)

/-! ## Blanks, comments and line ends -/

/-- A blank within a line. -/
def isBlank (c : Char) : Bool := c == ' ' || c == '\t'

/-- The text after blanks. -/
def skipBlanks (text : List Char) : List Char := text.dropWhile isBlank

/-- A character that may stand in a line. -/
def isPrintable (c : Char) : Bool := c == '\t' || (0x20 ≤ c.toNat && c.toNat ≠ 0x7F)

/-- The text after a line end, if it begins with one. -/
def lineEnd? : List Char → Option (List Char)
  | '\n' :: rest => some rest
  | '\r' :: '\n' :: rest => some rest
  | _ => none

/-- The text after a comment, if it begins with one. -/
def skipComment : List Char → List Char
  | '#' :: rest => rest.dropWhile isPrintable
  | text => text

/-- The text after blanks, a comment and a line end; the document may end in place of the latter. -/
def restOfLine? (text : List Char) : Option (List Char) :=
  match skipComment (skipBlanks text) with
  | [] => some []
  | rest => lineEnd? rest

/-- The text after blanks, comments and line ends. -/
def skipLines : (fuel : Nat) → List Char → List Char
  | 0, text => text
  | fuel + 1, text =>
    let rest := skipComment (skipBlanks text)
    match lineEnd? rest with
    | some rest => skipLines fuel rest
    | none => rest

/-! ## Texts -/

/-- The character of four or eight digits to the base sixteen. -/
def codePoint? (digits : List Char) (count : Nat) : Option Char :=
  let n := valueOf 16 digits
  if digits.length = count ∧ digits.all isHexDigit ∧ (n < 0xD800 ∨ 0xE000 ≤ n ∧ n < 0x110000) then
    some (Char.ofNat n)
  else none

/-- The character that an escape stands for; the text begins after the backslash. -/
def escape? : Reader Char
  | 'b' :: rest => some ('\x08', rest)
  | 't' :: rest => some ('\t', rest)
  | 'n' :: rest => some ('\n', rest)
  | 'f' :: rest => some ('\x0c', rest)
  | 'r' :: rest => some ('\r', rest)
  | '"' :: rest => some ('"', rest)
  | '\\' :: rest => some ('\\', rest)
  | 'u' :: rest => (codePoint? (rest.take 4) 4).map fun c => (c, rest.drop 4)
  | 'U' :: rest => (codePoint? (rest.take 8) 8).map fun c => (c, rest.drop 8)
  | _ => none

/-- A text of one line up to its closing quote, in which a backslash begins an escape. -/
def basic? : (fuel : Nat) → Reader (List Char)
  | 0, _ => none
  | fuel + 1, text =>
    match text with
    | '"' :: rest => some ([], rest)
    | '\\' :: rest => do
      let (c, rest) ← escape? rest
      let (cs, rest) ← basic? fuel rest
      return (c :: cs, rest)
    | c :: rest =>
      if isPrintable c then (basic? fuel rest).map fun (cs, rest) => (c :: cs, rest) else none
    | [] => none

/-- A text of one line up to its closing quote, in which every character stands for itself. -/
def literal? : Reader (List Char)
  | [] => none
  | c :: rest =>
    if c = '\'' then some ([], rest)
    else if isPrintable c then (literal? rest).map fun (cs, rest) => (c :: cs, rest)
    else none

/-- The text after blanks and line ends. -/
def skipFolded : (fuel : Nat) → List Char → List Char
  | 0, text => text
  | fuel + 1, text =>
    match lineEnd? (skipBlanks text) with
    | some rest => skipFolded fuel rest
    | none => skipBlanks text

/-- A text of several lines up to its three closing quotes. One or two quotes may stand anywhere,
before the closing ones too. `folds`: a backslash begins an escape, or folds the line end after
it. -/
def lines? (quote : Char) (folds : Bool) : (fuel : Nat) → Reader (List Char)
  | 0, _ => none
  | fuel + 1, text =>
    match text with
    | [] => none
    | c :: rest =>
      if c = quote then
        let run := (text.takeWhile (· == quote)).length
        if run < 3 then
          (lines? quote folds fuel (text.drop run)).map fun (cs, rest) =>
            (List.replicate run quote ++ cs, rest)
        -- of four or five quotes the last three close the text
        else if run ≤ 5 then some (List.replicate (run - 3) quote, text.drop run)
        else none
      else if c = '\\' ∧ folds then
        match lineEnd? (skipBlanks rest) with
        | some after => lines? quote folds fuel (skipFolded after.length after)
        | none => do
          let (c, rest) ← escape? rest
          let (cs, rest) ← lines? quote folds fuel rest
          return (c :: cs, rest)
      else match lineEnd? text with
        | some rest => (lines? quote folds fuel rest).map fun (cs, rest) => ('\n' :: cs, rest)
        | none =>
          if isPrintable c then
            (lines? quote folds fuel rest).map fun (cs, rest) => (c :: cs, rest)
          else none

/-- The text after a line end that directly follows opening quotes. -/
def afterOpening (text : List Char) : List Char := (lineEnd? text).getD text

/-- A text of any form, its opening quotes included. -/
def text? : Reader (List Char)
  | '"' :: '"' :: '"' :: rest => lines? '"' true (rest.length + 1) (afterOpening rest)
  | '\'' :: '\'' :: '\'' :: rest => lines? '\'' false (rest.length + 1) (afterOpening rest)
  | '"' :: rest => basic? (rest.length + 1) rest
  | '\'' :: rest => literal? rest
  | _ => none

/-! ## Keys -/

/-- A character of a key without quotes. -/
def isBare (c : Char) : Bool := c.isAlphanum || c == '_' || c == '-'

/-- One part of a key. -/
def part? (text : List Char) : Option (String × List Char) :=
  match text with
  | '"' :: rest => (basic? (rest.length + 1) rest).map fun (cs, rest) => (String.ofList cs, rest)
  | '\'' :: rest => (literal? rest).map fun (cs, rest) => (String.ofList cs, rest)
  | _ =>
    match text.takeWhile isBare with
    | [] => none
    | bare => some (String.ofList bare, text.dropWhile isBare)

/-- A key: parts with dots between them, and blanks around the parts. -/
def key? : (fuel : Nat) → Reader (List String)
  | 0, _ => none
  | fuel + 1, text => do
    let (part, rest) ← part? (skipBlanks text)
    match skipBlanks rest with
    | '.' :: rest =>
      let (parts, rest) ← key? fuel rest
      return (part :: parts, rest)
    | rest => return ([part], rest)

/-- How deep values and keys nest at most. -/
def nestingLimit : Nat := 79

/-- A key with at most as many parts as values may nest: the parts before the last, and the last. -/
def dottedKey? (text : List Char) : Option ((List String × String) × List Char) := do
  let (parts, rest) ← key? (text.length + 1) text
  let last ← parts.getLast?
  if parts.length ≤ nestingLimit then return ((parts.dropLast, last), rest) else none

/-! ## Values -/

/-- A character of a number, a date or a time. -/
def isWordChar (c : Char) : Bool :=
  c.isAlphanum || c == '+' || c == '-' || c == '_' || c == '.' || c == ':'

/-- A word; one blank between a date and a time belongs to it. -/
def word (text : List Char) : List Char × List Char :=
  let first := text.takeWhile isWordChar
  let rest := text.dropWhile isWordChar
  match date? first, rest with
  | some (_, []), ' ' :: c :: more =>
    if c.isDigit then
      (first ++ ' ' :: (c :: more).takeWhile isWordChar, (c :: more).dropWhile isWordChar)
    else (first, rest)
  | _, _ => (first, rest)

/-- The items of an array after its opening bracket, up to the closing one. -/
def items? (value : Reader Item) : (fuel : Nat) → Reader (List Item)
  | 0, _ => none
  | fuel + 1, text =>
    match skipLines text.length text with
    | ']' :: rest => some ([], rest)
    | text => do
      let (item, rest) ← value text
      match skipLines rest.length rest with
      | ',' :: rest =>
        let (items, rest) ← items? value fuel rest
        return (item :: items, rest)
      | ']' :: rest => return ([item], rest)
      | _ => none

/-- A key, an equals sign and a value. -/
def pair? (value : Reader Item) (text : List Char) :
    Option ((List String × String × Item) × List Char) := do
  let ((path, key), rest) ← dottedKey? text
  let rest ← expect? '=' (skipBlanks rest)
  let (item, rest) ← value (skipBlanks rest)
  return ((path, key, item), rest)

/-- The pairs of an inline table, at least one, up to the closing brace. -/
def pairs? (value : Reader Item) : (fuel : Nat) → Entries → Reader Entries
  | 0, _, _ => none
  | fuel + 1, entries, text => do
    let ((path, key, item), rest) ← pair? value text
    let entries ← entries.addAt? path key item
    match skipBlanks rest with
    | ',' :: rest => pairs? value fuel entries rest
    | '\x7d' :: rest => return (entries, rest)
    | _ => none

/-- A value, nested at most `depth` deep. -/
def value? : (depth : Nat) → Reader Item
  | depth, text =>
    match text with
    | '"' :: _ => (text? text).map fun (cs, rest) => (.text (String.ofList cs), rest)
    | '\'' :: _ => (text? text).map fun (cs, rest) => (.text (String.ofList cs), rest)
    | '[' :: rest =>
      match depth with
      | 0 => none
      | depth + 1 =>
        (items? (value? depth) (rest.length + 1) rest).map fun (items, rest) => (.array items, rest)
    | '\x7b' :: rest =>
      match depth with
      | 0 => none
      | depth + 1 =>
        match skipBlanks rest with
        | '\x7d' :: rest => some (.table .closed [], rest)
        | rest => (pairs? (value? depth) (rest.length + 1) [] rest).map fun (entries, rest) =>
          (.table .closed entries, rest)
    | text =>
      let (w, rest) := word text
      (scalar? w).map fun item => (item, rest)
termination_by depth => depth

/-! ## Documents -/

/-- What has been read of a document, and the header that the next pairs stand under. -/
structure Progress where
  /-- The entries so far. -/
  root : Entries
  /-- The path of the header, if there has been one. -/
  header : List String

/-- A header up to the end of its line. -/
def header? (p : Progress) (text : List Char) : Option (Progress × List Char) :=
  match text with
  | '[' :: rest => do
    let ((path, key), rest) ← dottedKey? rest
    let rest ← (expect? ']' rest).bind (expect? ']')
    let rest ← restOfLine? rest
    let root ← p.root.within? path (·.openElement? key)
    return (⟨root, path ++ [key]⟩, rest)
  | _ => do
    let ((path, key), rest) ← dottedKey? text
    let rest ← (expect? ']' rest).bind restOfLine?
    let root ← p.root.within? path (·.openTable? key)
    return (⟨root, path ++ [key]⟩, rest)

/-- The lines of a document up to its end. -/
def readLines? : (fuel : Nat) → Progress → List Char → Option Entries
  | 0, _, _ => none
  | fuel + 1, p, text =>
    match skipBlanks text with
    | [] => some p.root
    | '[' :: rest => do
      let (p, rest) ← header? p rest
      readLines? fuel p rest
    | c :: rest =>
      if c = '#' ∨ c = '\n' ∨ c = '\r' then
        (restOfLine? (c :: rest)).bind fun rest => readLines? fuel p rest
      else do
        let ((path, key, item), rest) ← pair? (value? nestingLimit) (c :: rest)
        let root ← p.root.within? p.header (·.addAt? path key item)
        let rest ← restOfLine? rest
        readLines? fuel { p with root } rest

/-- The entries of a document; a byte-order mark before it does not count. -/
def document? (text : List Char) : Option Entries :=
  let text := match text with
    | '\uFEFF' :: rest => rest
    | text => text
  readLines? (text.length + 1) ⟨[], []⟩ text

end TreePlan.Toml
