import GridRules.Cli.Arguments
/-!
What a command line asks for. Options before the command are for all commands, those behind it for
the command alone.
-/

namespace GridRules

namespace Cli

inductive Command where
  /-- Checks a tracker document. -/
  | validate (tracker : String) (asJson : Bool)
  /-- Applies the calculations of a grid to a row. -/
  | calc (tracker gridId row : String) (changed : List String) (settings : Option String)
  /-- Checks a value against the rules of a field. -/
  | check (tracker gridId fieldId value : String) (row settings : Option String)
  /-- Resolves a function to its options. -/
  | options (tracker functionId : String) (gridData : Option String) (allowHttp : Bool)
      (args : List String) (settings : Option String)

/-- What is left to do behind the name of a command. -/
inductive CommandRequest where
  | run (command : Command)
  | help (command : String)
  /-- The words cannot be understood. -/
  | unusable

/-- What holds for all commands. -/
structure CommonOptions where
  noEnvFile : Bool
  envFile : Option String
  verbose : Bool
  jsonLogs : Bool

inductive Invocation where
  | version
  | help
  /-- The words cannot be understood. -/
  | unusable
  | command (common : CommonOptions) (request : CommandRequest)

def helpOption : OptionSpec := .flag "help" ["--help"]

def commonSpecs : List OptionSpec := [
  .flag "version" ["--version", "-V"],
  .flag "no-dotenv" ["--no-dotenv"],
  .valued "env-file" ["--env-file"],
  .flag "verbose" ["--verbose", "-v"],
  .flag "json-logs" ["--json-logs"],
  helpOption]

def gridOption : OptionSpec := .valued "grid" ["--grid", "-g"]

def rowOption : OptionSpec := .valued "row" ["--row", "-r"]

def settingsOption : OptionSpec := .valued "settings" ["--settings", "-s"]

/-- Commands with their options. -/
def commandSpecs : List (String × List OptionSpec) := [
  ("validate", [.valued "format" ["--format", "-f"], helpOption]),
  ("calc", [gridOption, rowOption, .valued "changed" ["--changed", "-c"], settingsOption,
    helpOption]),
  ("check", [gridOption, .valued "field" ["--field"], .valued "value" ["--value"], rowOption,
    settingsOption, helpOption]),
  ("options", [.valued "function" ["--function", "-F"], .valued "grid-data" ["--grid-data"],
    .flag "allow-http" ["--allow-http"], .valued "arg" ["--arg", "-a"], settingsOption,
    helpOption])]

namespace Command

def ofValidate? (words : Words) (tracker : String) : Option Command :=
  match (words.option? "format").getD "console" with
  | "console" => some (.validate tracker false)
  | "json" => some (.validate tracker true)
  | _ => none

def ofCalc? (words : Words) (tracker : String) : Option Command := do
  let gridId ← words.option? "grid"
  let row ← words.option? "row"
  return .calc tracker gridId row (words.allOf "changed") (words.option? "settings")

def ofCheck? (words : Words) (tracker : String) : Option Command := do
  let gridId ← words.option? "grid"
  let fieldId ← words.option? "field"
  let value ← words.option? "value"
  return .check tracker gridId fieldId value (words.option? "row") (words.option? "settings")

def ofOptions? (words : Words) (tracker : String) : Option Command := do
  let functionId ← words.option? "function"
  return .options tracker functionId (words.option? "grid-data") (words.hasOption "allow-http")
    (words.allOf "arg") (words.option? "settings")

/-- The command of a name, for words with the tracker as their only argument. -/
def ofWords? (name : String) (words : Words) : Option Command :=
  match words.arguments with
  | [tracker] =>
    match name with
    | "validate" => ofValidate? words tracker
    | "calc" => ofCalc? words tracker
    | "check" => ofCheck? words tracker
    | "options" => ofOptions? words tracker
    | _ => none
  | _ => none

end Command

namespace CommandRequest

/-- What the words behind the name of a command ask for. -/
def ofWords (name : String) (specs : List OptionSpec) (words : List String) : CommandRequest :=
  match splitWords specs true words with
  | none => .unusable
  | some words =>
    if words.hasOption "help" then .help name
    else
      match Command.ofWords? name words with
      | some command => .run command
      | none => .unusable

end CommandRequest

namespace Invocation

/-- The first of the options that are answered before anything else. -/
def early? (words : Words) : Option Invocation :=
  words.options.findSome? fun entry =>
    if entry.1 = "version" then some .version
    else if entry.1 = "help" then some .help
    else none

def ofWords (words : List String) : Invocation :=
  match splitWords commonSpecs false words with
  | none => .unusable
  | some words =>
    match early? words, words.arguments with
    | some answer, _ => answer
    | none, [] => .unusable
    | none, name :: rest =>
      match commandSpecs.lookup name with
      | none => .unusable
      | some specs =>
        .command
          { noEnvFile := words.hasOption "no-dotenv"
            envFile := words.option? "env-file"
            verbose := words.hasOption "verbose"
            jsonLogs := words.hasOption "json-logs" }
          (.ofWords name specs rest)

end Invocation

end Cli

end GridRules
