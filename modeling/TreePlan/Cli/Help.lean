import TreePlan.Cli.Arguments

/-!
# Help pages

What a command does, how it is called, and what can be given to it, in columns.
-/

namespace TreePlan.Cli

/-- The name of the program. -/
def programName : String := "repomod"

/-- The version of the program. -/
def versionLine : String := programName ++ " 0.4.0\n"

/-- What is said of the help command. -/
def helpAbout : String := "Print this message or the help of the given subcommand(s)"

/-- The name of a command. -/
def CommandName.text : CommandName → String
  | replace => "replace"
  | renameExt => "rename-ext"
  | remove => "remove"

/-- What a command does. -/
def CommandName.about : CommandName → String
  | replace => "Replace a string in every discovered file"
  | renameExt => "Rename files from one extension to another, keeping their content"
  | remove => "Delete every discovered file"

/-- What an option of a command is for. -/
def Slot.about (name : CommandName) : Slot → String
  | root => "Directory (or single file) to transform"
  | includes => "Glob pattern relative to ROOT; repeatable, defaults to every file"
  | excludes => "Glob pattern relative to ROOT; excluded directories are skipped whole"
  | format => "Output format [default: text] [possible values: text, json]"
  | apply => "Write the plan to disk instead of only printing it"
  | config => "Configuration file path (replaces <ROOT>/repomod.toml)"
  | source => if name = .replace then "Text to search for" else "Source extension, without the dot"
  | target => if name = .replace then "Replacement text" else "Target extension, without the dot"
  | logLevel => "Log level (trace, debug, info, warn, error, off)"
  | logFormat => "Log format (json, text)"
  | logOutput => "Log output (stdout, stderr, file, file+stderr, both)"
  | logFile => "Log file path (if output includes \"file\")"

/-- An option with what stands for its value. -/
def Slot.usage (s : Slot) : String :=
  "--" ++ s.name ++
    if s = .apply then ""
    else
      let value := s.name.toList.map fun c => if c = '-' then '_' else c.toUpper
      " <" ++ String.ofList value ++ ">"

/-- Two columns: every left side is filled up to the longest. -/
def columns (rows : List (String × String)) : String :=
  let width := (rows.map (·.1.length)).foldl max 0
  String.join <| rows.map fun (left, right) =>
    left ++ String.ofList (List.replicate (width + 2 - left.length) ' ') ++ right ++ "\n"

/-- The row of an option. -/
def optionRow (name : CommandName) (s : Slot) : String × String :=
  ("      " ++ s.usage, s.about name)

/-- The row that is about the help. -/
def helpRow : String × String := ("  -h, --help", "Print help")

/-- The options of a command in the order in which they are shown. -/
def shownSlots : CommandName → List Slot
  | .remove => [.includes, .excludes, .format, .apply, .config, .logLevel, .logFormat, .logOutput,
      .logFile]
  | _ => [.includes, .excludes, .format, .apply, .config, .source, .logLevel, .logFormat, .target,
      .logOutput, .logFile]

/-- The line on how a command is called. -/
def usageLine (name : CommandName) : String :=
  "Usage: " ++ programName ++ " " ++ name.text ++ " [OPTIONS] " ++
    (if name = .remove then "" else Slot.source.usage ++ " " ++ Slot.target.usage ++ " ") ++
    "<ROOT>\n"

/-- The page of a command. -/
def commandPage (name : CommandName) : String :=
  name.about ++ "\n\n" ++ usageLine name ++
    "\nArguments:\n" ++ columns [("  <ROOT>", Slot.root.about name)] ++
    "\nOptions:\n" ++ columns ((shownSlots name).map (optionRow name) ++ [helpRow])

/-- The page of the program. -/
def programPage : String :=
  let commands : List CommandName := [.replace, .renameExt, .remove]
  "Plan and apply codemod-style file transformations\n\n" ++
    "Usage: " ++ programName ++ " [OPTIONS] <COMMAND>\n" ++
    "\nCommands:\n" ++
      columns (commands.map (fun name => ("  " ++ name.text, name.about)) ++
        [("  help", helpAbout)]) ++
    "\nOptions:\n" ++
      columns (generalSlots.map (optionRow .remove) ++
        [helpRow, ("  -V, --version", "Print version")])

/-- The page about the help itself. -/
def helpPage : String :=
  helpAbout ++ "\n\nUsage: " ++ programName ++ " help [COMMAND]...\n\nArguments:\n" ++
    columns [("  [COMMAND]...", "Print help for the subcommand(s)")]

/-- The page about a topic. -/
def pageOf : Topic → String
  | .program => programPage
  | .command name => commandPage name
  | .help => helpPage

/-- What is said of a command line that is not carried out, besides the pages. -/
def Stop.message : Stop → String
  | .help topic => pageOf topic
  | .version => versionLine
  | .nothing => programPage
  | .missingCommand => "error: a command is missing\n"
  | .unknownCommand => "error: there is no such command\n"
  | .unknownArgument => "error: there is no such argument\n"
  | .badValue => "error: a value is missing or cannot be used\n"
  | .needlessValue => "error: a switch takes no value\n"
  | .givenTwice => "error: an argument is given twice\n"
  | .missingArgument => "error: a required argument is missing\n"

/-- Whether what is said answers a question and is no error. -/
def Stop.isAnswer : Stop → Bool
  | .help _ => true
  | .version => true
  | _ => false

end TreePlan.Cli
