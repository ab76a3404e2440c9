import TreePlan.Toml.Item

/-!
# TOML scalars

Numbers, truth values, dates and times. Each reader takes the whole word and answers with its value,
or with nothing if the word is not of that kind.
-/

namespace TreePlan.Toml

/-! ## Numbers -/

/-- The digits of a number with single underscores between digits. -/
def digits? (isDigit : Char → Bool) : List Char → Option (List Char)
  | [] => none
  | [c] => if isDigit c then some [c] else none
  | c :: '_' :: rest =>
    if isDigit c then (digits? isDigit rest).map (c :: ·) else none
  | c :: rest => if isDigit c then (digits? isDigit rest).map (c :: ·) else none

/-- Decimal digits without a zero in front. -/
def wholeDigits? (text : List Char) : Option (List Char) :=
  match digits? Char.isDigit text with
  | some ('0' :: _ :: _) => none
  | found => found

/-- The value of a digit. -/
def digitValue (c : Char) : Nat :=
  if c.isDigit then c.toNat - 48
  else if 'a' ≤ c ∧ c ≤ 'z' then c.toNat - 87
  else c.toNat - 55

/-- The value of digits to a base. -/
def valueOf (base : Nat) (digits : List Char) : Nat :=
  digits.foldl (fun n c => n * base + digitValue c) 0

/-- The number if 64 bits with a sign hold it. -/
def int64? (n : Int) : Option Int :=
  if -9223372036854775808 ≤ n ∧ n < 9223372036854775808 then some n else none

/-- The sign of a number, and the rest. -/
def splitSign : List Char → Bool × List Char
  | '-' :: rest => (true, rest)
  | '+' :: rest => (false, rest)
  | text => (false, text)

/-- The character is a digit to the base sixteen. -/
def isHexDigit (c : Char) : Bool :=
  c.isDigit || ('a' ≤ c && c ≤ 'f') || ('A' ≤ c && c ≤ 'F')

/-- A whole number. -/
def int? (text : List Char) : Option Int :=
  match text with
  | '0' :: 'x' :: rest => (digits? isHexDigit rest).bind fun ds => int64? (valueOf 16 ds)
  | '0' :: 'o' :: rest =>
    (digits? (fun c => '0' ≤ c && c ≤ '7') rest).bind fun ds => int64? (valueOf 8 ds)
  | '0' :: 'b' :: rest =>
    (digits? (fun c => c == '0' || c == '1') rest).bind fun ds => int64? (valueOf 2 ds)
  | _ =>
    let (negative, rest) := splitSign text
    (wholeDigits? rest).bind fun ds =>
      int64? (if negative then -(valueOf 10 ds : Int) else valueOf 10 ds)

/-- The digits and the value of an exponent: a sign and digits. -/
def exponent? (text : List Char) : Option Int :=
  let (negative, rest) := splitSign text
  (digits? Char.isDigit rest).map fun ds =>
    if negative then -(valueOf 10 ds : Int) else valueOf 10 ds

/-- A number with a fraction, an exponent or both; one that is too great is refused. -/
def decimal? (text : List Char) : Option Binary64 := do
  let (negative, rest) := splitSign text
  let inWhole (c : Char) : Bool := c.isDigit || c == '_'
  let whole ← wholeDigits? (rest.takeWhile inWhole)
  let rest := rest.dropWhile inWhole
  let (places, rest) ← match rest with
    | '.' :: rest => do
      let places ← digits? Char.isDigit (rest.takeWhile inWhole)
      pure (places, rest.dropWhile inWhole)
    | c :: _ => if c = 'e' ∨ c = 'E' then pure ([], rest) else none
    | [] => none
  let exponent ← match rest with
    | [] => pure 0
    | c :: rest => if c = 'e' ∨ c = 'E' then exponent? rest else none
  let x := Binary64.ofDecimal negative (valueOf 10 (whole ++ places)) (exponent - places.length)
  if x = .infinite false then none else some x

/-- A number, or one of the special values. -/
def float? (text : List Char) : Option Binary64 :=
  let (negative, word) := splitSign text
  if word = "inf".toList then some (.infinite negative)
  else if word = "nan".toList then some .nan
  else decimal? text

/-! ## Dates and times -/

/-- Two digits of a number up to a bound. -/
def twoDigits? (least most : Nat) : List Char → Option (Nat × List Char)
  | a :: b :: rest =>
    let n := valueOf 10 [a, b]
    if a.isDigit ∧ b.isDigit ∧ least ≤ n ∧ n ≤ most then some (n, rest) else none
  | _ => none

/-- A given character. -/
def expect? (c : Char) : List Char → Option (List Char)
  | d :: rest => if c = d then some rest else none
  | [] => none

/-- How many days a month has. -/
def daysIn (year month : Nat) : Nat :=
  if month = 2 then
    if year % 4 = 0 ∧ (year % 100 ≠ 0 ∨ year % 400 = 0) then 29 else 28
  else if month = 4 ∨ month = 6 ∨ month = 9 ∨ month = 11 then 30
  else 31

/-- A date as it is written, and the rest. -/
def date? (text : List Char) : Option (List Char × List Char) := do
  let year := text.take 4
  if year.length = 4 ∧ year.all Char.isDigit then pure () else none
  let (month, rest) ← twoDigits? 1 12 (← expect? '-' (text.drop 4))
  let (_, rest) ← twoDigits? 1 (daysIn (valueOf 10 year) month) (← expect? '-' rest)
  return (text.take 10, rest)

/-- The fraction of a second, no finer than a billionth and without zeros at its end. -/
def fraction (places : List Char) : List Char :=
  match ((places.take 9).reverse.dropWhile (· == '0')).reverse with
  | [] => []
  | ds => '.' :: ds

/-- A time of day as it is written, and the rest. -/
def time? (text : List Char) : Option (List Char × List Char) := do
  let (_, rest) ← twoDigits? 0 23 text
  let (_, rest) ← twoDigits? 0 59 (← expect? ':' rest)
  let (_, rest) ← twoDigits? 0 60 (← expect? ':' rest)
  match rest with
  | '.' :: rest =>
    let places := rest.takeWhile Char.isDigit
    if places = [] then none
    else return (text.take 8 ++ fraction places, rest.dropWhile Char.isDigit)
  | rest => return (text.take 8, rest)

/-- The offset from universal time as it is written. -/
def offset? : List Char → Option (List Char)
  | [c] => if c = 'Z' ∨ c = 'z' then some ['Z'] else none
  | sign :: rest =>
    if sign = '+' ∨ sign = '-' then do
      let (hours, minutes) ← twoDigits? 0 23 rest
      let (m, rest') ← twoDigits? 0 59 (← expect? ':' minutes)
      if rest' = [] then
        -- no offset at all has no sign
        return (if sign = '-' ∧ hours = 0 ∧ m = 0 then '+' else sign) :: rest
      else none
    else none
  | [] => none

/-- A date, a time, or a date with a time and perhaps an offset, in its usual form. -/
def moment? (text : List Char) : Option (List Char) :=
  match date? text with
  | none => match time? text with
    | some (time, []) => some time
    | _ => none
  | some (date, []) => some date
  | some (date, c :: rest) =>
    if c = 'T' ∨ c = 't' ∨ c = ' ' then
      match time? rest with
      | none => none
      | some (time, []) => some (date ++ 'T' :: time)
      | some (time, offset) => (offset? offset).map fun o => date ++ 'T' :: time ++ o
    else none

/-- The value of a word that is not a text. -/
def scalar? (word : List Char) : Option Item :=
  if word = "true".toList then some (.bool true)
  else if word = "false".toList then some (.bool false)
  else match moment? word with
    | some m => some (.moment (String.ofList m))
    | none => match int? word with
      | some n => some (.int n)
      | none => (float? word).map .float

end TreePlan.Toml
