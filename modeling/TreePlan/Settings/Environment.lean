import TreePlan.Settings.Place

/-!
# Settings from the environment

A variable `REPOMOD__SECTION__KEY`, in any case, sets `section.key`. Truth values and numbers are
recognized by their text; the list of excludes has its items between commas.
-/

namespace TreePlan

/-- The variables of the environment by name. -/
abbrev Environment := List (String × String)

namespace Environment

/-- The value of a variable. -/
def get? (env : Environment) (name : String) : Option String :=
  (env.find? (·.1 = name)).map (·.2)

/-- What the names of settings begin with, in lower case. -/
def settingPrefix : List Char := "repomod__".toList

/-- Two underscores separate what a dot separates in a key. -/
def dotted : List Char → List Char
  | '_' :: '_' :: rest => '.' :: dotted rest
  | c :: rest => c :: dotted rest
  | [] => []

/-- The key that a variable sets. -/
def settingKey? (name : String) : Option String :=
  let lower := (Lower.text name).toList
  if settingPrefix.isPrefixOf lower then
    some (String.ofList (dotted (lower.drop settingPrefix.length)))
  else none

/-- The key whose value is a list. -/
def listKey : String := "discovery.exclude"

/-- A whole number of 64 bits: an optional sign and digits. -/
def int? (text : String) : Option Int :=
  let (negative, digits) := match text.toList with
    | '-' :: rest => (true, rest)
    | '+' :: rest => (false, rest)
    | text => (false, text)
  if digits.all Char.isDigit then Place.index? negative digits else none

/-- Where settings from the environment are given. -/
def origin : Origin := some "the environment"

/-- The parts of a text between separators. -/
def splitAt (separator : Char) : List Char → List (List Char)
  | [] => [[]]
  | c :: rest =>
    match splitAt separator rest with
    | [] => [[c]]
    | part :: parts => if c = separator then [] :: part :: parts else (c :: part) :: parts

/-- The value that a text stands for under a key. -/
def valueOf (key text : String) : Value :=
  let lower := Lower.text text
  if lower = "true" then .scalar origin (.bool true)
  else if lower = "false" then .scalar origin (.bool false)
  else match int? text with
    | some n => .scalar origin (.int n)
    | none => match Binary64.read? text.toList with
      | some x => .scalar origin (.float x)
      | none =>
        if key = listKey then
          .array origin ((splitAt ',' text.toList).map fun part =>
            .scalar origin (.text (String.ofList part)))
        else .scalar origin (.text text)

/-- The settings that the environment gives. -/
def layer (env : Environment) : List (String × Value) :=
  env.filterMap fun (name, text) => (settingKey? name).map fun key => (key, valueOf key text)

end Environment

end TreePlan
