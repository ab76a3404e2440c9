import TreePlan.Path.Basic
import TreePlan.Settings.Environment

/-!
# Where the log file is

A path given for one run wins over `REPOMOD_LOG_FILE`, that over the settings, and these over the
place for state of the user's programs.
-/

namespace TreePlan.Log

/-- A path that is given and not empty. -/
def given? (p : Option Path) : Option Path := p.filter (·.bytes ≠ [])

/-- The value of a variable as a path. -/
def pathVariable? (env : Environment) (name : String) : Option Path :=
  given? ((env.get? name).map .ofString)

/-- The home directory where the environment names none: that of the system's first account. -/
def accountHome : Path := .ofString "/root"

/-- The directory for the state of the user's programs. -/
def stateDirectory (env : Environment) : Path :=
  match (pathVariable? env "XDG_STATE_HOME").filter (·.isAbsolute) with
  | some p => p
  | none => ((pathVariable? env "HOME").getD accountHome).push (.ofString ".local/state")

/-- The log file. -/
def fileLocation (env : Environment) (forRun inSettings : Option Path) : Path :=
  match given? forRun, pathVariable? env "REPOMOD_LOG_FILE", given? inSettings with
  | some p, _, _ => p
  | none, some p, _ => p
  | none, none, some p => p
  | none, none, none => (stateDirectory env).push (.ofString "repomod/repomod.log")

end TreePlan.Log
