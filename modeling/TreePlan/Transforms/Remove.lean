import TreePlan.Transform
import TreePlan.Transforms.Discovery

/-!
# Removing files

Deletes every discovered file.
-/

namespace TreePlan

/-- The transform that deletes every discovered file. -/
def removal (ω : Type) (d : Discovery) : Transform ω Unit where
  includes := d.includes
  excludes := d.excludes
  handleFile v := pure [.delete v.path]

end TreePlan
