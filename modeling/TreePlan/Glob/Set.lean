import TreePlan.Glob.Braces
import TreePlan.Glob.Pattern
import TreePlan.Path.Basic

/-!
# Pattern sets

Includes and excludes, matched against paths relative to where a search starts. An exclude that
matches a directory excludes everything beneath it.
-/

namespace TreePlan

/-- Compiled includes and excludes. -/
structure PatternSet where
  /-- A path is included if one of these matches it. -/
  includes : List Pattern
  /-- A path is excluded if one of these matches it or an ancestor of it. -/
  excludes : List Pattern
deriving DecidableEq, Repr

namespace PatternSet

/-- A pattern, as it was given, of which one expansion does not compile. -/
structure Fault where
  /-- The pattern before its brace groups are expanded. -/
  pattern : String
  /-- What is wrong with the expansion. -/
  fault : Pattern.Fault
deriving DecidableEq, Repr

/-- The patterns that one text stands for. -/
def compileOne (pattern : String) : Except Fault (List Pattern) :=
  (Braces.expandText pattern).mapM fun text => (Pattern.parse text).mapError (Fault.mk pattern)

/-- The patterns that texts stand for, in order; the first that does not compile is reported. -/
def compileAll (patterns : List String) : Except Fault (List Pattern) :=
  (patterns.mapM compileOne).map List.flatten

/-- Compiles includes, then excludes. -/
def compile (includes excludes : List String) : Except Fault PatternSet := do
  let compiledIncludes ← compileAll includes
  let compiledExcludes ← compileAll excludes
  return ⟨compiledIncludes, compiledExcludes⟩

/-- The text of a path that patterns are matched against; a backslash counts as a separator. -/
def candidate (p : Path) : List Char :=
  p.toText.toList.map fun c => if c = '\\' then '/' else c

/-- Whether an include matches the path. -/
def includesPath (s : PatternSet) (relative : Path) : Bool :=
  s.includes.any (·.accepts (candidate relative))

/-- Whether an exclude matches the path or one of its ancestors. -/
def excludesPath (s : PatternSet) (relative : Path) : Bool :=
  relative.ancestors.any fun p => s.excludes.any (·.accepts (candidate p))

end PatternSet

end TreePlan
