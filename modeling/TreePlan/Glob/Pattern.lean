/-!
# Glob patterns

`?` is any character, `*` any run, `[a-z]` and `[!a-z]` a character in or out of a set; none of them
crosses a separator. `**` is a whole component and spans any number of components. A pattern matches
a text as a whole.
-/

namespace TreePlan

/-- A member of a character set. -/
inductive CharRange where
  /-- One character. -/
  | single (c : Char)
  /-- All characters between two, both included. -/
  | between (first last : Char)
deriving DecidableEq, Repr

/-- Whether the range holds a character. -/
def CharRange.holds (c : Char) : CharRange → Bool
  | .single d => c == d
  | .between first last => first ≤ c && c ≤ last

/-- An element of a pattern. -/
inductive Token where
  /-- This character. -/
  | literal (c : Char)
  /-- `?`: any character but the separator. -/
  | anyChar
  /-- `*`: any run without a separator. -/
  | anyRun
  /-- `**`: any run of whole components. -/
  | anyDepth
  /-- `[…]`: a character of the set. -/
  | oneOf (set : List CharRange)
  /-- `[!…]`: a character outside the set. -/
  | noneOf (set : List CharRange)
deriving DecidableEq, Repr

/-- A pattern: its elements from left to right. -/
structure Pattern where
  /-- The elements. -/
  tokens : List Token
deriving DecidableEq, Repr

namespace Pattern

/-- What is wrong with a pattern. -/
inductive Cause where
  /-- More than two `*` in a row. -/
  | wildcards
  /-- A `**` that is not a whole component. -/
  | recursive
  /-- A set that is never closed. -/
  | range
deriving DecidableEq, Repr

/-- A cause and the position, in characters, that it is reported at. -/
structure Fault where
  /-- Where. -/
  position : Nat
  /-- What. -/
  cause : Cause
deriving DecidableEq, Repr

/-- The cause in words. -/
def Cause.message : Cause → String
  | .wildcards => "wildcards are either regular `*` or recursive `**`"
  | .recursive => "recursive wildcards must form a single path component"
  | .range => "invalid range pattern"

/-- The fault in words. -/
def Fault.message (f : Fault) : String :=
  "Pattern syntax error near position " ++ toString f.position ++ ": " ++ f.cause.message

/-- The members that the text between the brackets of a set spells. -/
def charRanges : List Char → List CharRange
  | first :: '-' :: last :: rest => .between first last :: charRanges rest
  | c :: rest => .single c :: charRanges rest
  | [] => []

/-- The text up to the first closing bracket, and what follows the bracket. -/
def splitAtClose : List Char → Option (List Char × List Char)
  | [] => none
  | c :: rest =>
    if c = ']' then some ([], rest)
    else (splitAtClose rest).map fun (inside, after) => (c :: inside, after)

/-- The set that was opened just before the text, and what follows it. The first character of the
set is a member even if it is a closing bracket. -/
def charSet? : List Char → Option (Token × List Char)
  | '!' :: first :: rest =>
    (splitAtClose rest).map fun (inside, after) => (.noneOf (charRanges (first :: inside)), after)
  | '!' :: [] => none
  | first :: rest =>
    (splitAtClose rest).map fun (inside, after) => (.oneOf (charRanges (first :: inside)), after)
  | [] => none

theorem length_splitAtClose {text inside after : List Char}
    (h : splitAtClose text = some (inside, after)) : after.length < text.length := by
  induction text generalizing inside after with
  | nil => simp [splitAtClose] at h
  | cons c rest ih =>
    rw [splitAtClose] at h
    split at h
    · simp only [Option.some.injEq, Prod.mk.injEq] at h
      simp [← h.2]
    · simp only [Option.map_eq_some_iff, Prod.mk.injEq] at h
      obtain ⟨⟨inside', after'⟩, h', -, rfl⟩ := h
      have := ih h'
      simp only [List.length_cons]
      omega

theorem length_charSet? {text after : List Char} {t : Token}
    (h : charSet? text = some (t, after)) : after.length < text.length := by
  unfold charSet? at h
  split at h
  · simp only [Option.map_eq_some_iff, Prod.mk.injEq] at h
    obtain ⟨⟨inside, after'⟩, h', -, rfl⟩ := h
    have := length_splitAtClose h'
    simp only [List.length_cons]
    omega
  · simp at h
  · simp only [Option.map_eq_some_iff, Prod.mk.injEq] at h
    obtain ⟨⟨inside, after'⟩, h', -, rfl⟩ := h
    have := length_splitAtClose h'
    simp only [List.length_cons]
    omega
  · simp at h

/-- The tokens with a `**` after them. Of several in a row one is kept, but the first two elements
of a pattern are not joined. -/
def pushDepth (tokens : List Token) : List Token :=
  if tokens.length > 1 ∧ tokens.getLast? = some .anyDepth then tokens else tokens ++ [.anyDepth]

/-- Reads the rest of a pattern. `position` is where the rest begins, `last` the character before
it, `tokens` what has been read. -/
def parseFrom (position : Nat) (last : Option Char) (tokens : List Token) :
    List Char → Except Fault (List Token)
  | [] => .ok tokens
  | '?' :: rest => parseFrom (position + 1) (some '?') (tokens ++ [.anyChar]) rest
  | '*' :: '*' :: '*' :: _ => .error ⟨position + 2, .wildcards⟩
  | '*' :: '*' :: rest =>
    if last = none ∨ last = some '/' then
      match rest with
      | [] => .ok (pushDepth tokens)
      | c :: rest =>
        -- the separator belongs to the `**` before it
        if c = '/' then parseFrom (position + 3) (some '/') (pushDepth tokens) rest
        else .error ⟨position + 2, .recursive⟩
    else .error ⟨position - 1, .recursive⟩
  | '*' :: rest => parseFrom (position + 1) (some '*') (tokens ++ [.anyRun]) rest
  | '[' :: rest =>
    match _h : charSet? rest with
    | none => .error ⟨position, .range⟩
    | some (set, after) =>
      parseFrom (position + 1 + (rest.length - after.length)) (some ']') (tokens ++ [set]) after
  | c :: rest => parseFrom (position + 1) (some c) (tokens ++ [.literal c]) rest
termination_by text => text.length
decreasing_by
  all_goals
    try have := length_charSet? _h
    simp only [List.length_cons]
    omega

/-- The pattern that a text spells. -/
def parse (text : String) : Except Fault Pattern :=
  (parseFrom 0 none [] text.toList).map Pattern.mk

/-- How an attempt to match ended. -/
inductive Outcome where
  /-- The whole text matched. -/
  | matched
  /-- It did not, but a wildcard before may take in more. -/
  | mismatch
  /-- The text ran out, so no wildcard before helps by taking in more. -/
  | exhausted
deriving DecidableEq, Repr

/-- Tries the rest of a pattern after longer and longer runs, up to a separator. -/
def sweepRun (next : List Char → Outcome) : List Char → Outcome
  | [] => next []
  | c :: rest =>
    match next (c :: rest) with
    | .mismatch => if c = '/' then .mismatch else sweepRun next rest
    | other => other

/-- Tries the rest of a pattern after every separator, and at the end of the text. -/
def sweepDepth (next : List Char → Outcome) : List Char → Outcome
  | [] => next []
  | c :: rest =>
    if c = '/' then
      match next rest with
      | .mismatch => sweepDepth next rest
      | other => other
    else sweepDepth next rest

/-- Whether one character is what a token asks for. -/
def Token.admits (c : Char) : Token → Bool
  | .literal d => c == d
  | .anyChar => c != '/'
  | .oneOf set => c != '/' && set.any (·.holds c)
  | .noneOf set => c != '/' && !set.any (·.holds c)
  | .anyRun | .anyDepth => false

/-- Matches tokens against a text. -/
def run : List Token → List Char → Outcome
  | [], [] => .matched
  | [], _ :: _ => .mismatch
  | .anyRun :: more, text => sweepRun (run more) text
  | .anyDepth :: more, text =>
    match run more text with
    | .mismatch => sweepDepth (run more) text
    | other => other
  | _ :: _, [] => .exhausted
  | t :: more, c :: rest => if Token.admits c t then run more rest else .mismatch

/-- Whether the pattern matches the whole text. -/
def accepts (p : Pattern) (text : List Char) : Bool := run p.tokens text == .matched

end Pattern

end TreePlan
