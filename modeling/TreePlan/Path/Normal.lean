import TreePlan.Path.Basic

/-!
# Normal forms

`normalize` is lexical: no file system is asked, so a path that does not exist yet has a normal
form like any other. It drops `.`, lets `..` cancel the name before it, drops `..` at the root and
keeps it at the front of a relative path. `join` appends a segment below a base and normalizes.
-/

namespace TreePlan.Path

/-- The components so far, last first, after one more component. -/
def step (stack : List Component) : Component → List Component
  | .current => stack
  | .parent =>
    match stack with
    | .normal _ :: below => below
    | .root :: below => .root :: below
    | other => .parent :: other
  | c => c :: stack

/-- The components of the normal form. -/
def normalComponents (p : Path) : List Component := (p.components.foldl step []).reverse

/-- The normal form of a path; `.` where nothing is left. -/
def normalize (p : Path) : Path :=
  match p.normalComponents with
  | [] => ⟨[dot]⟩
  | cs => ofComponents cs

/-- The segment below the base, normalized. A leading root of the segment is ignored, so the base is
never discarded. -/
def join (base segment : Path) : Path :=
  ((segment.components.filter (· ≠ .root)).foldl (fun p c => p.push ⟨c.bytes⟩) base).normalize

end TreePlan.Path
