import TreePlan.Json
import TreePlan.Plan
import TreePlan.Plan.Table
import TreePlan.RunError

/-!
# Reports

A plan as a table or as JSON, the handlers' failures one a line, and the summary of what was
applied. Paths in tables are shown relative to the root of the run, as far as they lie below it.
-/

namespace TreePlan

/-- A file or data handler that failed during a run. -/
structure Trouble where
  /-- The path that it handled. -/
  path : Path
  /-- Why it failed. -/
  message : String
deriving DecidableEq, Repr

/-- What applying a plan has done. -/
structure Applied where
  /-- Files written. -/
  written : Nat := 0
  /-- Files deleted. -/
  deleted : Nat := 0
  /-- Files to delete that were gone already. -/
  missing : Nat := 0
deriving DecidableEq, Repr

namespace Report

/-- A terminal's escape sequence. -/
def escape (code text : String) : String := "\x1b[" ++ code ++ "m" ++ text

/-- A title in bold and underlined. -/
def heading (title : String) : String :=
  escape "4" (escape "1" title) ++ escape "0" "" ++ escape "0" ""

/-- A path relative to the root if it lies at or below it, and in full otherwise. -/
def shownPath (root path : Path) : String := ((path.stripBase? root).getD path).toText

/-- The cells of a step: what is done, where, and how many bytes are written. -/
def stepCells (root : Path) : PlanStep → List String
  | .delete path => ["delete", shownPath root path, "-"]
  | .write path data => ["write", shownPath root path, toString data.utf8ByteSize]

/-- A plan as a table. -/
def planTable (root : Path) (plan : Plan) : String :=
  heading "Plan" ++ "\n\n" ++
    if plan.isEmpty then "No changes.\n"
    else (Table.mk ["Action", "Path", "Bytes"] (plan.map (stepCells root))).render ++ "\n\n" ++
      toString plan.length ++ " change(s)\n"

/-- A path as a JSON text, if it is text. -/
def pathJson? (path : Path) : Option Json := path.text?.map .text

/-- A step as JSON, if its path is text. -/
def stepJson? : PlanStep → Option Json
  | .delete path => (pathJson? path).map fun p =>
    .object [("kind", .text "deleteFile"), ("path", p)]
  | .write path data => (pathJson? path).map fun p =>
    .object [("kind", .text "upsertFile"), ("path", p), ("data", .text data)]

/-- A failure as JSON, if its path is text. -/
def troubleJson? (t : Trouble) : Option Json :=
  (pathJson? t.path).map fun p => .object [("path", p), ("message", .text t.message)]

/-- A plan with the failures as a JSON value, if all their paths are text. -/
def planJson? (root : Path) (plan : Plan) (troubles : List Trouble) : Option Json := do
  let root ← pathJson? root
  let steps ← plan.mapM stepJson?
  let errors ← troubles.mapM troubleJson?
  return .object [("root", root), ("commands", .array steps), ("errors", .array errors)]

/-- A plan with the failures as JSON over several lines, if all their paths are text. -/
def planPage? (root : Path) (plan : Plan) (troubles : List Trouble) : Option String :=
  (planJson? root plan troubles).map Json.page

/-- What is said of a path that is not text where text is needed. -/
def notTextMessage : String := "path contains invalid UTF-8 characters"

/-- The summary of what was applied. -/
def summary (a : Applied) : String :=
  heading "Applied" ++ "\n\n" ++
    "  Written: " ++ toString a.written ++ "\n" ++
    "  Deleted: " ++ toString a.deleted ++ "\n" ++
    if a.missing > 0 then "  Already absent: " ++ toString a.missing ++ "\n" else ""

/-- One failure. -/
def troubleLine (root : Path) (t : Trouble) : String :=
  escape "33" "skipped" ++ escape "39" "" ++ " " ++ shownPath root t.path ++ ": " ++
    t.message ++ "\n"

/-- The failures, one after the other. -/
def troubleLines (root : Path) (troubles : List Trouble) : String :=
  String.join (troubles.map (troubleLine root))

end Report

end TreePlan
