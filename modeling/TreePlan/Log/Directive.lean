import TreePlan.Text.Classes
import TreePlan.Text.Utf8

/-!
# Log directives

A directive `target[span{field}]=level` says how severe what comes from a target has to be to be
logged. Every part may be missing. A directive is read character by character without the white
space at its ends; its parts are cut out of the text as it is given, so white space in front
shifts them.
-/

namespace TreePlan.Log

/-- How severe what is logged has to be at least; nothing is as severe as `off`. -/
inductive Level where
  /-- Nothing is logged. -/
  | off
  /-- Errors. -/
  | error
  /-- Warnings too. -/
  | warn
  /-- News too. -/
  | info
  /-- Details too. -/
  | debug
  /-- Everything. -/
  | trace
deriving DecidableEq, Inhabited, Repr

/-- How much a level lets through. -/
def Level.rank : Level → Nat
  | off => 0
  | error => 1
  | warn => 2
  | info => 3
  | debug => 4
  | trace => 5

/-- The level of a rank. -/
def Level.ofRank? : Nat → Option Level
  | 0 => some off
  | 1 => some error
  | 2 => some warn
  | 3 => some info
  | 4 => some debug
  | 5 => some trace
  | _ => none

/-- The digits of a number, after a plus sign or without. -/
def rankDigits : List Char → List Char
  | '+' :: rest => rest
  | text => text

/-- The level that a text names, by a word in any case or by its rank. -/
def Level.ofText? (text : String) : Option Level :=
  let digits := rankDigits text.toList
  if digits ≠ [] ∧ digits.all Char.isDigit then
    ofRank? (digits.foldl (fun n c => n * 10 + (c.toNat - 48)) 0)
  else match String.ofList (text.toList.map Char.toLower) with
    | "" => some error
    | "error" => some error
    | "warn" => some warn
    | "info" => some info
    | "debug" => some debug
    | "trace" => some trace
    | "off" => some off
    | _ => none

/-- Something to look for among the fields of a line. -/
structure FieldTest where
  /-- The name of the field. -/
  name : String
  /-- Whether a value is asked for too. -/
  hasValue : Bool
deriving DecidableEq, Repr

/-- What is logged at a level. -/
structure Directive where
  /-- What the target begins with. -/
  target? : Option String := none
  /-- The span that has to be open. -/
  span? : Option String := none
  /-- The fields that have to be there. -/
  fields : List FieldTest := []
  /-- The level. -/
  level : Level := .trace
deriving DecidableEq, Repr

namespace Directive

/-- Why a text is no directive. -/
inductive Fault where
  /-- It is not built as one. -/
  | malformed
  /-- It names no level. -/
  | level
deriving DecidableEq, Repr

/-- The fault in words. -/
def Fault.message : Fault → String
  | malformed => "invalid filter directive"
  | level => "error parsing level filter: expected one of \"off\", \"error\", \"warn\", " ++
      "\"info\", \"debug\", \"trace\", or a number 0-5"

/-- Where a reading stands; parts that are being read have the offset of their first byte. -/
inductive State where
  /-- Before the first character. -/
  | start
  /-- In a level or a target. -/
  | word (first : Nat)
  /-- In the name of a span. -/
  | span (first : Nat)
  /-- In a field. -/
  | field (first : Nat)
  /-- After the last field. -/
  | fields
  /-- After the span. -/
  | target
  /-- In a level. -/
  | level (first : Nat)
  /-- After the directive. -/
  | complete
deriving DecidableEq, Repr

/-- The bytes of a text from `first` up to `stop`. -/
def cut (raw : List UInt8) (first stop : Nat) : String :=
  String.ofList (Utf8.decodeLossy ((raw.take stop).drop first))

/-- The bytes of a text from `first` on. -/
def cutFrom (raw : List UInt8) (first : Nat) : String := cut raw first raw.length

/-- What a field asks for. -/
def fieldTest (text : String) : FieldTest :=
  ⟨String.ofList (text.toList.takeWhile (· ≠ '=')), '=' ∈ text.toList⟩

/-- With a field that ends at an offset. -/
def withField (raw : List UInt8) (d : Directive) (first stop : Nat) : Except Fault Directive :=
  match cut raw first stop with
  | "" => .error .malformed
  | text => .ok { d with fields := d.fields ++ [fieldTest text] }

/-- With a level; all is logged if none is given. -/
def withLevel (d : Directive) (text : String) : Except Fault Directive :=
  if text = "" then .ok { d with level := .trace }
  else match Level.ofText? text with
    | some level => .ok { d with level }
    | none => .error .level

/-- With a level, or else with a target of which all is logged. -/
def withWord (d : Directive) (text : String) : Directive :=
  if text = "" then { d with level := .trace, target? := none }
  else match Level.ofText? text with
    | some level => { d with level, target? := none }
    | none => { d with level := .trace, target? := some text }

/-- A character that a directive may begin with. -/
def mayBegin (c : Char) : Bool := c == '-' || c == ':' || c == '_' || Text.isAlphanumeric c

/-- The reading after the character at an offset. -/
def readChar (raw : List UInt8) (d : Directive) (offset : Nat) (c : Char) :
    State → Except Fault (Directive × State)
  | .start =>
    if c = '[' then .ok (d, .span (offset + 1))
    else if mayBegin c then .ok (d, .word offset)
    else .error .malformed
  | .word first =>
    -- the word is a target if more follows, and may be a level if it stands alone
    if c = '=' then .ok ({ d with target? := some (cut raw first offset) }, .level (offset + 1))
    else if c = '[' then .ok ({ d with target? := some (cut raw first offset) }, .span (offset + 1))
    else if c = ',' then .ok (d.withWord (cutFrom raw first), .complete)
    else .ok (d, .word first)
  | .span first =>
    if c = ']' then .ok ({ d with span? := some (cut raw first offset) }, .target)
    else if c = '\x7b' then
      let name := cut raw first offset
      .ok ({ d with span? := if name = "" then none else some name }, .field (offset + 1))
    else .ok (d, .span first)
  | .field first =>
    if c = '\x7d' then (withField raw d first offset).map (·, .fields)
    else if c = ',' then (withField raw d first offset).map (·, .field (offset + 1))
    else .ok (d, .field first)
  | .fields => if c = ']' then .ok (d, .target) else .error .malformed
  | .target => if c = '=' then .ok (d, .level (offset + 1)) else .error .malformed
  | .level first =>
    if c = ',' then (d.withLevel (cut raw first offset)).map (·, .complete)
    else .ok (d, .level first)
  | .complete => .error .malformed

/-- The directive at the end of a reading. -/
def finish (raw : List UInt8) (d : Directive) : State → Except Fault Directive
  | .word first => .ok (d.withWord (cutFrom raw first))
  | .level first => d.withLevel (cutFrom raw first)
  | .target => .ok d
  | .complete => .ok d
  | _ => .error .malformed

/-- Reads the characters from an offset on. -/
def readFrom (raw : List UInt8) (d : Directive) (state : State) (offset : Nat) :
    List Char → Except Fault Directive
  | [] => finish raw d state
  | c :: rest =>
    match readChar raw d offset c state with
    | .error fault => .error fault
    | .ok (d, state) => readFrom raw d state (offset + c.utf8Size) rest

/-- Reads a directive. -/
def parse (text : String) : Except Fault Directive :=
  readFrom (Utf8.encode text.toList) {} .start 0 (Text.trim text.toList)

end Directive

end TreePlan.Log
