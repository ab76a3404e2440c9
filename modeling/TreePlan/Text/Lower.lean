import TreePlan.Text.Lower.Ranges
import TreePlan.Text.Ranges

/-!
# Lower case

A text in lower case, character by character. A capital sigma at the end of a word becomes the final
form of the letter, and a capital I with a dot keeps its dot.
-/

namespace TreePlan.Lower

/-- The lower-case form of a character, or the character. -/
def ofChar (c : Char) : Char :=
  if c.toNat < 0x80 then c.toLower
  else match findRange mapped (·.1) (·.2.1) c.toNat with
    | some (first, _, step, form) =>
      if (c.toNat - first) % step = 0 then Char.ofNat (form + (c.toNat - first)) else c
    | none => c

/-- The nearest character that is not passed over has a case. -/
def meetsCased (text : List Char) : Bool :=
  match text.dropWhile (inRanges ignorable ·) with
  | [] => false
  | c :: _ => inRanges cased c

/-- The text in lower case; `before` is what comes before it, last character first. -/
def textFrom (before : List Char) : List Char → List Char
  | [] => []
  | c :: rest =>
    (if c = '\u0130' then ['i', '\u0307']
      else if c = '\u03A3' then
        [if meetsCased before && !meetsCased rest then '\u03C2' else '\u03C3']
      else [ofChar c]) ++ textFrom (c :: before) rest

/-- The text in lower case. -/
def text (s : String) : String := String.ofList (textFrom [] s.toList)

end TreePlan.Lower
