import TreePlan.Text.Replace
import TreePlan.Transform
import TreePlan.Transforms.Discovery

/-!
# Replacing text in files

Writes every discovered file that holds a text with that text replaced. The empty text is found
everywhere and replaced nowhere.
-/

namespace TreePlan

/-- The transform that replaces `source` by `target` in every discovered file. -/
def replacement (ω : Type) (d : Discovery) (source target : String) : Transform ω Unit where
  includes := d.includes
  excludes := d.excludes
  handleData v data := pure <|
    match Text.replace? source target data with
    | some new => .stage v.path new
    | none => .noop

end TreePlan
