/-!
# Discovery

Which files a built-in transform works on.
-/

namespace TreePlan

/-- Patterns of files to include and to exclude. -/
structure Discovery where
  /-- The includes. -/
  includes : List String
  /-- The excludes. -/
  excludes : List String
deriving DecidableEq, Repr

/-- A discovery; everything is included if no include is given. -/
def Discovery.new (includes excludes : List String) : Discovery :=
  ⟨if includes.isEmpty then ["**/*"] else includes, excludes⟩

/-- A discovery always includes something. -/
theorem Discovery.isEmpty_includes (includes excludes : List String) :
    (Discovery.new includes excludes).includes.isEmpty = false := by
  unfold Discovery.new
  cases includes <;> rfl

end TreePlan
