import TreePlan.Cli.Help
import TreePlan.Cli.Session

/-!
# The program

A run of the program on a console: the command line is read, the session started, the log set up,
and the command carried out. What is said on the command line about the log wins over the
settings.
-/

namespace TreePlan.Cli

/-- How a run of the program ends. -/
inductive ExitCode where
  /-- All went well. -/
  | success
  /-- The command failed. -/
  | failure
  /-- The command line was not understood. -/
  | usage
  /-- The program broke down. -/
  | breakdown
deriving DecidableEq, Repr

/-- The number of an exit code. -/
def ExitCode.number : ExitCode → Nat
  | success => 0
  | failure => 1
  | usage => 2
  | breakdown => 101

/-- The settings for the log with what the command line says about it. -/
def logSettings (a : Arguments) (s : LogSettings) : LogSettings :=
  { s with
    level := a.logLevel.getD s.level
    format := a.logFormat.getD s.format
    output := a.logOutput.getD s.output
    file := a.logFile.orElse fun _ => s.file }

/-- A text that ends in a line end. -/
def completeLine (text : String) : String :=
  if text.toList.getLast? = some '\n' then text else text ++ "\n"

/-- Says why the command failed. -/
def fail (c : Console) (during : String) (f : Failure) : ExitCode × Console :=
  match f with
  | .breakdown _ => (.breakdown, c.say (f.message ++ "\n"))
  | _ => (.failure, c.say ("Error" ++ during ++ ": " ++ f.message ++ "\n"))

/-- Carries out a command line that has been understood. -/
def carryOut (a : Arguments) (c : Console) : ExitCode × Console :=
  match Session.start c.tree c.environment a.target.root a.config with
  | .error f => fail c " initializing" f
  | .ok s =>
    match Log.setUp (logSettings a s.settings.logging) c with
    | (.error fault, c) => fail c " initializing logging" (.log fault)
    | (.ok (), c) =>
      match s.execute a.action a.target c with
      | (.error f, c) => fail c "" f
      | (.ok printed, c) =>
        (.success, (c.print (completeLine printed.output)).say printed.messages)

/-- Runs the program with a command line that leaves out its name. -/
def run (line : List String) (c : Console) : ExitCode × Console :=
  match Arguments.parse line with
  | .error stop =>
    if stop.isAnswer then (.success, c.print stop.message) else (.usage, c.say stop.message)
  | .ok a => carryOut a c

end TreePlan.Cli
