import TreePlan.Host.Effects
import TreePlan.Plan.Report

/-!
# Applying a plan

Carries out the steps of a plan on a host tree in order, up to the first that the system refuses. A
write makes the directories above its file; a file to delete that is gone already is counted.
-/

namespace TreePlan

/-- Carries out one step. -/
def PlanStep.apply (t : HostTree) (done : Applied) :
    PlanStep → Except RunError Applied × HostTree
  | .delete path =>
    match t.removeFile path with
    | .ok t => (.ok { done with deleted := done.deleted + 1 }, t)
    | .error e =>
      if e.kind = .notFound then (.ok { done with missing := done.missing + 1 }, t)
      else (.error (.io path e), t)
  | .write path data =>
    let above := path.parent?
    match (above.map t.makeDirectories).getD (.ok (), t) with
    | (.error e, t) => (.error (.io (above.getD path) e), t)
    | (.ok (), t) =>
      -- directories that were made stay, whatever becomes of the file
      match t.write path (Utf8.encode data.toList) with
      | .ok t => (.ok { done with written := done.written + 1 }, t)
      | .error e => (.error (.io path e), t)

/-- Carries out steps in order, each in the way of `act`, up to the first that fails. -/
def applyWith {ω : Type} (act : ω → Applied → PlanStep → Except RunError Applied × ω)
    (done : Applied) : Plan → ω → Except RunError Applied × ω
  | [], w => (.ok done, w)
  | step :: rest, w =>
    match act w done step with
    | (.error e, w) => (.error e, w)
    | (.ok done, w) => applyWith act done rest w

/-- Carries out a plan. -/
def Plan.apply (plan : Plan) (t : HostTree) : Except RunError Applied × HostTree :=
  applyWith PlanStep.apply {} plan t

end TreePlan
