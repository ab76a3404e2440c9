import TreePlan.Settings.Value
import TreePlan.Toml.Scalar

/-!
# Places of values

A key may name a place inside the settings: `a.b` the entry `b` of the table `a`, `a[1]` the
second value of the array `a`, `a[-1]` its last. Putting a value there makes the tables and arrays
on the way. A key that is no such expression names an entry as it is.
-/

namespace TreePlan

/-- Where a value goes. -/
inductive Place where
  /-- An entry of the whole. -/
  | root (key : String)
  /-- An entry of the table at a place. -/
  | child (place : Place) (key : String)
  /-- A value of the array at a place; a negative index counts from the end. -/
  | element (place : Place) (index : Int)
deriving DecidableEq, Repr

namespace Place

/-! ## Reading -/

/-- A character of a name. -/
def isNameChar (c : Char) : Bool := c.isAlphanum || c == ' ' || c == '_' || c == '-'

/-- A blank around an index. -/
def isPadding (c : Char) : Bool := c == ' ' || c == '\t'

/-- The value of digits, if there are any and it fits 64 bits with its sign. -/
def index? (negative : Bool) (digits : List Char) : Option Int :=
  let n : Int := Binary64.ofDigits digits
  if digits = [] then none else Toml.int64? (if negative then -n else n)

/-- An index in brackets, the opening one left out, and the rest. -/
def subscript? (text : List Char) : Option (Int × List Char) :=
  let text := text.dropWhile isPadding
  let (negative, text) := match text with
    | '-' :: rest => (true, rest)
    | '+' :: rest => (false, rest)
    | text => (false, text)
  match index? negative (text.takeWhile Char.isDigit),
      (text.dropWhile Char.isDigit).dropWhile isPadding with
  | some n, ']' :: rest => some (n, rest)
  | _, _ => none

/-- The place that the rest of an expression leads to. -/
def follow? : (fuel : Nat) → Place → List Char → Option Place
  | _, place, [] => some place
  | 0, _, _ => none
  | fuel + 1, place, '.' :: rest =>
    match rest.takeWhile isNameChar with
    | [] => none
    | name => follow? fuel (.child place (String.ofList name)) (rest.dropWhile isNameChar)
  | fuel + 1, place, '[' :: rest =>
    (subscript? rest).bind fun (n, rest) => follow? fuel (.element place n) rest
  | _, _, _ => none

/-- The place that a key names. -/
def ofKey (key : String) : Place :=
  let text := key.toList
  match text.takeWhile isNameChar with
  | [] => .root key
  | name =>
    (follow? text.length (.root (String.ofList name)) (text.dropWhile isNameChar)).getD (.root key)

/-! ## Putting -/

/-- Changes a value of an array; what is no array is replaced by one, and values of nothing fill up
what is missing before the value or, under a negative index, between it and the array. -/
def modifyElement (index : Int) (f : Value → Value) (v : Value) : Value :=
  let (origin, items) := match v with
    | .array origin items => (origin, items)
    | _ => (none, [])
  let nothings (n : Nat) : List Value := List.replicate n .nothing
  -- a negative index before the first value makes room in front
  let start := (index + items.length).toNat
  let (items, n) :=
    if 0 ≤ index then (items ++ nothings (index.toNat + 1 - items.length), index.toNat)
    else (nothings (-(index + items.length)).toNat ++ items, start)
  .array origin (items.modify n f)

/-- Changes what is at a place. Above it, entries are made as they are named. -/
def modify (f : Value → Value) : Place → Value → Value
  | root key, v => v.withEntry key (f ((v.entry? key).getD .nothing))
  | child place key, v =>
    modify (fun parent => parent.withEntry key (f ((parent.entry? key).getD .nothing))) place v
  | element place index, v => modify (modifyElement index f) place v

/-- Puts a value at a place of the whole. -/
def put (whole : Value) (value : Value) : Place → Value
  | root key => whole.put key value
  | child place key => place.modify (fun parent => parent.put key value) whole
  | element place index => place.modify (modifyElement index fun _ => value) whole

end Place

/-- Puts a layer over the settings so far. -/
def Value.overlay (whole : Value) (layer : List (String × Value)) : Value :=
  layer.foldl (fun whole e => Place.put whole e.2 (.ofKey e.1)) whole

end TreePlan
