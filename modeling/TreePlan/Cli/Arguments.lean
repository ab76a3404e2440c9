import TreePlan.Path.Basic

/-!
# Command lines

A command line names a command, what it works on, and options. It is read from left to right in
two levels: options before the command, and those after it, where the general options may stand
too. An option's value is settled only when the next thing begins, so of several mistakes the one
that is met first in this way is reported.
-/

namespace TreePlan.Cli

/-- How a plan is shown. -/
inductive Format where
  /-- As a table. -/
  | text
  /-- As JSON. -/
  | json
deriving DecidableEq, Inhabited, Repr

/-- What a command works on and what becomes of its plan. -/
structure Target where
  /-- The directory or file to work on. -/
  root : Path
  /-- Patterns of files to include. -/
  includes : List String
  /-- Patterns of files and directories to exclude. -/
  excludes : List String
  /-- How the plan is shown. -/
  format : Format
  /-- Whether the plan is carried out. -/
  apply : Bool
deriving DecidableEq, Inhabited, Repr

/-- What a command does. -/
inductive Action where
  /-- Replaces a text by another. -/
  | replace (source target : String)
  /-- Moves files from one extension to another. -/
  | renameExtension (source target : String)
  /-- Deletes files. -/
  | remove
deriving DecidableEq, Inhabited, Repr

/-- A command line that has been understood. -/
structure Arguments where
  /-- What to do. -/
  action : Action
  /-- What to do it to. -/
  target : Target
  /-- The file with the settings. -/
  config : Option Path
  /-- The level of the log. -/
  logLevel : Option String
  /-- The form of its lines. -/
  logFormat : Option String
  /-- Where they go. -/
  logOutput : Option String
  /-- The file that they go to. -/
  logFile : Option Path
deriving DecidableEq, Inhabited, Repr

/-- The commands. -/
inductive CommandName where
  /-- Replaces a text. -/
  | replace
  /-- Renames extensions. -/
  | renameExt
  /-- Deletes files. -/
  | remove
deriving DecidableEq, Repr

/-- What a help page is about. -/
inductive Topic where
  /-- The whole program. -/
  | program
  /-- A command. -/
  | command (name : CommandName)
  /-- The help itself. -/
  | help
deriving DecidableEq, Repr

/-- Why a command line is not carried out. -/
inductive Stop where
  /-- Help is asked for. -/
  | help (topic : Topic)
  /-- The version is asked for. -/
  | version
  /-- There is nothing on the line. -/
  | nothing
  /-- There are options but no command. -/
  | missingCommand
  /-- There is no such command. -/
  | unknownCommand
  /-- There is no such option, or a word too many. -/
  | unknownArgument
  /-- A value is missing or cannot be used. -/
  | badValue
  /-- A switch has a value. -/
  | needlessValue
  /-- Something is given twice. -/
  | givenTwice
  /-- Something that has to be given is not. -/
  | missingArgument
deriving DecidableEq, Repr

/-- What can be given. -/
inductive Slot where
  /-- The root. -/
  | root
  /-- An include. -/
  | includes
  /-- An exclude. -/
  | excludes
  /-- How the plan is shown. -/
  | format
  /-- That the plan is carried out. -/
  | apply
  /-- The file with the settings. -/
  | config
  /-- What is to be replaced or renamed. -/
  | source
  /-- What it becomes. -/
  | target
  /-- The level of the log. -/
  | logLevel
  /-- The form of its lines. -/
  | logFormat
  /-- Where they go. -/
  | logOutput
  /-- The file that they go to. -/
  | logFile
deriving DecidableEq, Repr

namespace Slot

/-- The name of the option. -/
def name : Slot → String
  | root => "ROOT"
  | includes => "include"
  | excludes => "exclude"
  | format => "format"
  | apply => "apply"
  | config => "config"
  | source => "from"
  | target => "to"
  | logLevel => "log-level"
  | logFormat => "log-format"
  | logOutput => "log-output"
  | logFile => "log-file"

/-- Whether it may be given more than once. -/
def repeats : Slot → Bool
  | includes => true
  | excludes => true
  | _ => false

/-- Whether a value can be used. -/
def accepts (value : String) : Slot → Bool
  | format => value == "text" || value == "json"
  | root => value != ""
  | config => value != ""
  | logFile => value != ""
  | _ => true

end Slot

/-- The commands by name. -/
def CommandName.ofText? : String → Option CommandName
  | "replace" => some .replace
  | "rename-ext" => some .renameExt
  | "remove" => some .remove
  | _ => none

/-- The options that may stand anywhere. -/
def generalSlots : List Slot := [.config, .logLevel, .logFormat, .logOutput, .logFile]

/-- The options of a command besides the general ones. -/
def ownSlots : CommandName → List Slot
  | .remove => [.includes, .excludes, .format, .apply]
  | _ => [.includes, .excludes, .format, .apply, .source, .target]

/-- The options before the command, or after it. -/
def slotsAt : Option CommandName → List Slot
  | none => generalSlots
  | some name => ownSlots name ++ generalSlots

/-- What has been read of a command line at one level. -/
structure Progress where
  /-- What has been settled, in order. -/
  given : List (Slot × String) := []
  /-- What was begun last, and its value if it has been met. -/
  waiting : Option (Slot × Option String) := none
  /-- Whether a root has been met. -/
  hasRoot : Bool := false
deriving DecidableEq, Inhabited, Repr

namespace Progress

/-- Takes a value for a slot. -/
def take (p : Progress) (slot : Slot) (value : String) : Except Stop Progress :=
  if !slot.repeats ∧ p.given.any (·.1 = slot) then .error .givenTwice
  else if slot.accepts value then .ok { p with given := p.given ++ [(slot, value)] }
  else .error .badValue

/-- Settles what was begun last. -/
def settle (p : Progress) : Except Stop Progress :=
  match p.waiting with
  | none => .ok p
  | some (_, none) => .error .badValue
  | some (slot, some value) => { p with waiting := none }.take slot value

/-- Whether an option waits for its value. -/
def isOpen (p : Progress) : Bool :=
  match p.waiting with
  | some (_, none) => true
  | _ => false

/-- The last value of a slot. -/
def get? (p : Progress) (slot : Slot) : Option String :=
  (p.given.reverse.find? (·.1 = slot)).map (·.2)

/-- All values of a slot. -/
def all (p : Progress) (slot : Slot) : List String :=
  p.given.filterMap fun (s, value) => if s = slot then some value else none

end Progress

/-- The topic of the help at a level. -/
def topicAt : Option CommandName → Topic
  | none => .program
  | some name => .command name

/-- Reads an option with two dashes, which are left out. -/
def readOption (level : Option CommandName) (p : Progress) (text : List Char) :
    Except Stop Progress :=
  let name := String.ofList (text.takeWhile (· ≠ '='))
  let value? : Option String := match text.dropWhile (· ≠ '=') with
    | [] => none
    | _ :: value => some (String.ofList value)
  if name = "help" ∨ level = none ∧ name = "version" then
    if value?.isSome then .error .needlessValue
    else p.settle.bind fun _ => .error (if name = "help" then .help (topicAt level) else .version)
  else match (slotsAt level).find? (·.name = name), value? with
    | none, _ => .error .unknownArgument
    | some .apply, some _ => .error .needlessValue
    | some .apply, none => p.settle.bind (·.take .apply "true")
    | some slot, some value => p.settle.bind (·.take slot value)
    | some slot, none => p.settle.map fun p => { p with waiting := some (slot, none) }

/-- Reads options of one letter, the dash left out; each of them ends the reading. -/
def readLetters (level : Option CommandName) (p : Progress) : List Char → Except Stop Progress
  | 'h' :: _ => p.settle.bind fun _ => .error (.help (topicAt level))
  | 'V' :: _ => if level = none then p.settle.bind fun _ => .error .version
    else .error .unknownArgument
  | _ => .error .unknownArgument

/-- Reads a word that belongs to no option: the root, once. -/
def readWord (level : Option CommandName) (afterDashes : Bool) (p : Progress) (word : String) :
    Except Stop Progress :=
  if level = none then
    .error (if afterDashes ∧ (word = "help" ∨ (CommandName.ofText? word).isSome) then
      .unknownArgument else .unknownCommand)
  else if p.hasRoot then .error .unknownArgument
  else p.settle.map fun p => { p with waiting := some (.root, some word), hasRoot := true }

/-- Reads a word of a line that may still hold options. -/
def readArgument (level : Option CommandName) (p : Progress) (word : String) :
    Except Stop Progress :=
  match word.toList with
  | '-' :: '-' :: text => readOption level p text
  | '-' :: c :: text => readLetters level p (c :: text)
  | _ =>
    match p.waiting with
    | some (slot, none) => .ok { p with waiting := some (slot, some word) }
    | _ => readWord level false p word

/-- Reads the words after two dashes. -/
def readWords (level : Option CommandName) (p : Progress) : List String → Except Stop Progress
  | [] => .ok p
  | word :: rest =>
    match readWord level true p word with
    | .error stop => .error stop
    | .ok p => readWords level p rest

/-- Reads the words after a command. -/
def readCommand (name : CommandName) (p : Progress) : List String → Except Stop Progress
  | [] => .ok p
  | word :: rest =>
    if word = "--" then readWords (some name) p rest
    else match readArgument (some name) p word with
      | .error stop => .error stop
      | .ok p => readCommand name p rest

/-- What the words after `help` ask for. -/
def helpFor : List String → Stop
  | [] => .help .program
  | ["help"] => .help .help
  | [word] =>
    ((CommandName.ofText? word).map fun name => .help (.command name)).getD .unknownCommand
  | _ => .unknownCommand

/-- What is given for a command that reads a source and a target. -/
def Progress.pair? (p : Progress) : Option (String × String) := do
  return (← p.get? .source, ← p.get? .target)

/-- The action of a command, if all it needs is given. -/
def Progress.action? (p : Progress) : CommandName → Option Action
  | .replace => p.pair?.map fun (source, target) => .replace source target
  | .renameExt => p.pair?.map fun (source, target) => .renameExtension source target
  | .remove => some .remove

/-- The target of a command, if it is given. -/
def Progress.target? (p : Progress) : Option Target :=
  (p.get? .root).map fun root =>
    { root := .ofString root
      includes := p.all .includes
      excludes := p.all .excludes
      format := if p.get? .format = some "json" then .json else .text
      apply := (p.get? .apply).isSome }

/-- The command line that was read before and after a command; what was given after it counts. -/
def finish (before after : Progress) (name : CommandName) : Except Stop Arguments :=
  match after.settle with
  | .error stop => .error stop
  | .ok after =>
    match after.action? name, after.target? with
    | some action, some target =>
      -- the last option before the command has waited for all of the command to be read
      match before.settle with
      | .error stop => .error stop
      | .ok before =>
        let general (slot : Slot) : Option String :=
          (after.get? slot).orElse fun _ => before.get? slot
        .ok { action, target
              config := (general .config).map .ofString
              logLevel := general .logLevel
              logFormat := general .logFormat
              logOutput := general .logOutput
              logFile := (general .logFile).map .ofString }
    | _, _ => .error .missingArgument

/-- What ends a line without a command. -/
def withoutCommand (p : Progress) : Stop :=
  match p.settle with
  | .error stop => stop
  | .ok p => if p.given.isEmpty then .nothing else .missingCommand

/-- Reads a command line from where the command may come. -/
def readProgram (p : Progress) : List String → Except Stop Arguments
  | [] => .error (withoutCommand p)
  | word :: rest =>
    if p.isOpen = false ∧ word = "help" then .error (helpFor rest)
    else match if p.isOpen then none else CommandName.ofText? word with
      | some name =>
        match readCommand name {} rest with
        | .error stop => .error stop
        | .ok after => finish p after name
      | none =>
        if word = "--" then
          match readWords none p rest with
          | .error stop => .error stop
          | .ok p => .error (withoutCommand p)
        else match readArgument none p word with
          | .error stop => .error stop
          | .ok p => readProgram p rest

/-- Reads a command line without the name of the program. -/
def Arguments.parse (line : List String) : Except Stop Arguments := readProgram {} line

end TreePlan.Cli
