/-!
# Binary floating point in decimal

Numbers of 64 bits, exact: a mantissa below `2 ^ 53` times a power of two. A decimal is read as the
nearest of them, ties to an even mantissa, and a number is written with the fewest digits that read
back as it, without an exponent.
-/

namespace TreePlan

/-- A binary floating-point number of 64 bits. -/
inductive Binary64 where
  /-- Not a number. -/
  | nan
  /-- Beyond all others. -/
  | infinite (negative : Bool)
  /-- `mantissa * 2 ^ exponent`. -/
  | finite (negative : Bool) (mantissa : Nat) (exponent : Int)
deriving DecidableEq, Inhabited, Repr

namespace Binary64

/-- A positive fraction. -/
structure Ratio where
  /-- Above the line. -/
  num : Nat
  /-- Below the line. -/
  den : Nat

/-- `n * base ^ e`. -/
def scaled (n base : Nat) (e : Int) : Ratio :=
  if 0 ≤ e then ⟨n * base.pow e.toNat, 1⟩ else ⟨n, base.pow (-e).toNat⟩

/-- The first fraction is at most the second. -/
def Ratio.le (a b : Ratio) : Bool := a.num * b.den ≤ b.num * a.den

/-- The first fraction is less than the second. -/
def Ratio.lt (a b : Ratio) : Bool := a.num * b.den < b.num * a.den

/-- `2 ^ 53`, which every mantissa is below. -/
def mantissaLimit : Nat := 9007199254740992

/-- `2 ^ 52`, the least mantissa of 53 bits. -/
def leastFull : Nat := 4503599627370496

/-- The least exponent of a number. -/
def leastExponent : Int := -1074

/-- The greatest exponent of a number. -/
def greatestExponent : Int := 971

/-- The whole number nearest to `num / den`, ties to even. -/
def nearest (num den : Nat) : Nat :=
  let q := num / den
  let r := num % den
  if 2 * r > den ∨ 2 * r = den ∧ q % 2 = 1 then q + 1 else q

/-- The exponent under which the mantissa of a fraction has 53 bits, or the least one. -/
def exponentOf (r : Ratio) : Int :=
  let guess : Int := (Nat.log2 r.num : Int) - Nat.log2 r.den - 53
  let fits (e : Int) : Bool := r.lt (scaled mantissaLimit 2 e)
  max leastExponent
    (if fits guess then guess else if fits (guess + 1) then guess + 1 else guess + 2)

/-- The number nearest to a positive fraction. -/
def ofRatio (negative : Bool) (r : Ratio) : Binary64 :=
  let e := exponentOf r
  let s := scaled 1 2 (-e)
  let m := nearest (r.num * s.num) (r.den * s.den)
  -- rounding up may carry into a digit more
  let (m, e) := if m = mantissaLimit then (leastFull, e + 1) else (m, e)
  if e > greatestExponent then infinite negative else finite negative m e

/-- How many decimal digits a number has. -/
def digitCount (n : Nat) : Nat := (Nat.toDigits 10 n).length

/-- The number nearest to `digits * 10 ^ exponent`. -/
def ofDecimal (negative : Bool) (digits : Nat) (exponent : Int) : Binary64 :=
  let magnitude : Int := exponent + digitCount digits
  if digits = 0 ∨ magnitude < -330 then finite negative 0 leastExponent
  else if magnitude > 310 then infinite negative
  else ofRatio negative (scaled digits 10 exponent)

/-- The number is zero. -/
def isZero : Binary64 → Bool
  | finite _ m _ => m == 0
  | _ => false

/-! ## Writing -/

/-- The lower end of what reads as `m * 2 ^ e`. -/
def lowerEnd (m : Nat) (e : Int) : Ratio :=
  if m = leastFull ∧ e > leastExponent then scaled (4 * m - 1) 2 (e - 2)
  else scaled (4 * m - 2) 2 (e - 2)

/-- The upper end of what reads as `m * 2 ^ e`. -/
def upperEnd (m : Nat) (e : Int) : Ratio := scaled (4 * m + 2) 2 (e - 2)

/-- Whether `c * 10 ^ p` reads as `m * 2 ^ e`; the ends do if the mantissa is even. -/
def readsBack (m : Nat) (e : Int) (c : Nat) (p : Int) : Bool :=
  let r := scaled c 10 p
  if m % 2 = 0 then (lowerEnd m e).le r && r.le (upperEnd m e)
  else (lowerEnd m e).lt r && r.lt (upperEnd m e)

/-- The power of ten of the leading digit of a positive fraction. -/
def leadingPower (r : Ratio) : Int :=
  if r.den ≤ r.num then (digitCount (r.num / r.den) : Int) - 1
  else -(((List.range 400).find? fun s => r.den ≤ r.num * Nat.pow 10 s).getD 400 : Nat)

/-- Of the two neighbours of `m * 2 ^ e` on the grid of `10 ^ p`, the nearer that reads back. -/
def onGrid? (m : Nat) (e p : Int) : Option (Nat × Int) :=
  let v := scaled m 2 e
  let g := scaled 1 10 p
  let lower := v.num * g.den / (v.den * g.num)
  let down := readsBack m e lower p
  let up := readsBack m e (lower + 1) p
  let nearerUp := (v.num * g.den - lower * (v.den * g.num)) * 2 ≥ v.den * g.num
  if up && (!down || nearerUp) then some (lower + 1, p)
  else if down then some (lower, p)
  else none

/-- The fewest digits `c` and the power `p` with which `c * 10 ^ p` reads as `m * 2 ^ e`. -/
def shortest (m : Nat) (e : Int) : Nat × Int :=
  let top := leadingPower (scaled m 2 e)
  let (c, p) := ((List.range 17).findSome? fun (n : Nat) => onGrid? m e (top - n)).getD (m, 0)
  -- the neighbour above may be the next power of ten
  if c % 10 = 0 then (c / 10, p + 1) else (c, p)

/-- `c * 10 ^ p` without an exponent. -/
def positional (c : Nat) (p : Int) : List Char :=
  let digits := Nat.toDigits 10 c
  if 0 ≤ p then digits ++ List.replicate p.toNat '0'
  else
    let places := (-p).toNat
    let padded := List.replicate (places + 1 - digits.length) '0' ++ digits
    padded.take (padded.length - places) ++ '.' :: padded.drop (padded.length - places)

/-- The number as text. -/
def toText : Binary64 → String
  | nan => "NaN"
  | infinite negative => if negative then "-inf" else "inf"
  | finite negative m e =>
    let (c, p) := if m = 0 then (0, 0) else shortest m e
    String.ofList ((if negative then ['-'] else []) ++ positional c p)

/-- The number as text that always shows a point if the number is finite. -/
def toPointedText (x : Binary64) : String :=
  let text := x.toText
  match x with
  | finite .. => if '.' ∈ text.toList then text else text ++ ".0"
  | _ => text

/-! ## Reading -/

/-- The value of decimal digits. -/
def ofDigits (digits : List Char) : Nat := digits.foldl (fun n c => n * 10 + (c.toNat - 48)) 0

/-- The exponent after an `e`: an optional sign and digits; none if it is not of that form. -/
def readExponent? : List Char → Option Int
  | '-' :: d :: ds =>
    if (d :: ds).all Char.isDigit then some (-(ofDigits (d :: ds) : Int)) else none
  | '+' :: d :: ds => if (d :: ds).all Char.isDigit then some (ofDigits (d :: ds)) else none
  | d :: ds => if (d :: ds).all Char.isDigit then some (ofDigits (d :: ds)) else none
  | [] => none

/-- Reads a decimal without a sign: digits with or without a point, some digit at least, and perhaps
an exponent. -/
def readUnsigned? (negative : Bool) (text : List Char) : Option Binary64 :=
  let whole := text.takeWhile Char.isDigit
  let rest := text.dropWhile Char.isDigit
  let (places, rest) := match rest with
    | '.' :: rest => (rest.takeWhile Char.isDigit, rest.dropWhile Char.isDigit)
    | rest => ([], rest)
  if whole = [] ∧ places = [] then none
  else
    let digits := ofDigits (whole ++ places)
    match rest with
    | [] => some (ofDecimal negative digits (-(places.length : Int)))
    | c :: rest =>
      if c = 'e' ∨ c = 'E' then
        (readExponent? rest).map fun x => ofDecimal negative digits (x - places.length)
      else none

/-- Reads a number, or one of the words for the special values in any case. -/
def read? (text : List Char) : Option Binary64 :=
  let (negative, text) := match text with
    | '-' :: rest => (true, rest)
    | '+' :: rest => (false, rest)
    | text => (false, text)
  let word := String.ofList (text.map Char.toLower)
  if word = "nan" then some .nan
  else if word = "inf" ∨ word = "infinity" then some (.infinite negative)
  else readUnsigned? negative text

end Binary64

end TreePlan
