import GridRules.Calculation.Engine
import GridRules.Cli.Command
import GridRules.Cli.Inputs
import GridRules.Json.Write
import GridRules.Options.Resolve
import GridRules.Options.Secrets
import GridRules.Schema.Validate
import GridRules.Settings.EnvFile
import GridRules.Validation.Planner
/-!
Running commands. A command reads a tracker document, prints its result as JSON, and logs beside it.
-/

namespace GridRules

namespace Cli

/-- The version that the program tells. -/
def versionText : String := "0.1.0"

def logSource : String := "trackerflow.cli"

/-- A source of events of the calculation of rows. -/
def calculationSource : String := "trackerflow.engine.calculation"

/-- Prints a value, which fails if an integer in it is too long to be written. -/
def printJson (v : Value) : Script Unit :=
  if v.printable then Script.print (Json.indented 0 v ++ "\n") else Script.exit 1

/-- What is logged about the graphs of a tracker that do not compile. -/
def graphEvents (tracker : Tracker) : List LogEvent :=
  tracker.options.functions.filterMap fun (_, definition) =>
    match definition.body, definition.compileGraph tracker.options.connectors.keys with
    | .graph _, .error issues => some (compileFailure definition.id issues)
    | _, _ => none

/-- What is logged about the report on a tracker. -/
def reportEvents (report : ValidationReport) : List LogEvent :=
  if report.valid then []
  else [⟨.info, "trackerflow.engine.schema_validator", "tracker_invalid", [
    ("errors", .int report.errors.length), ("warnings", .int report.warnings.length)]⟩]

/-- The report on a document, and what is logged about it. -/
def reportOn (v : Value) : Except Fault (ValidationReport × List LogEvent) :=
  match Tracker.ofValue v with
  | .error e => .ok (⟨[e.firstLine], []⟩, [])
  | .ok tracker => do
    let report ← tracker.validate
    return (report, graphEvents tracker ++ reportEvents report)

def reportValue (report : ValidationReport) : Value :=
  .object [
    ("valid", .bool report.valid),
    ("errors", .list (report.errors.map .str)),
    ("warnings", .list (report.warnings.map .str))]

/-- Shows a report to a reader. -/
def showReport (report : ValidationReport) (name : String) : Script Unit := do
  for warning in report.warnings do
    Script.say (.warning warning)
  if report.valid then Script.print ("✅ Tracker " ++ name ++ " is valid.\n")
  else
    Script.say (.panel ⟨"Tracker Validation Failed",
      toString report.errors.length ++ " error(s) in " ++ name, report.errors, none⟩)

def runValidate (around : Surroundings) (log : LogSetup) (path : String) (asJson : Bool) :
    Script Unit := do
  let document ← readJson around path "Tracker"
  let (report, events) ← orCrash (reportOn document)
  Script.logAll log (events ++ [⟨.debug, logSource, "tracker_validated", [
    ("valid", .bool report.valid), ("errors", .int report.errors.length),
    ("warnings", .int report.warnings.length)]⟩])
  if asJson then printJson (reportValue report) else showReport report (fileName path)
  if !report.valid then Script.exit 1

/-- What is logged about the compilation of a plan. -/
def planEvents (plan : CalculationPlan) : List LogEvent :=
  (plan.skipped.map fun target =>
    ⟨.warning, calculationSource, "calculation_rule_skipped", [
      ("grid_id", .str plan.gridId), ("target", .str target), ("reason", .str "malformed")]⟩) ++
  [⟨.debug, calculationSource, "calculation_plan_compiled", [
    ("grid_id", .str plan.gridId), ("targets", .int plan.targets.length)]⟩]

/-- What is logged about targets on a cycle, before any target is computed. -/
def cycleEvents (plan : CalculationPlan) (changed : List String) : List LogEvent :=
  let (_, cyclic) := plan.evaluationOrder (plan.impacted changed)
  if cyclic.isEmpty then [] else [
    ⟨.warning, calculationSource, "calculation_cycle_skipped", [
      ("grid_id", .str plan.gridId), ("targets", .list (cyclic.map .str))]⟩]

/-- What is logged once a plan was applied. -/
def resultEvents (result : CalculationResult) : List LogEvent :=
  [⟨.debug, logSource, "calculations_applied", [
    ("updated", .list (result.updated.map .str)),
    ("skipped_cyclic", .list (result.skippedCyclic.map .str))]⟩]

def resultValue (result : CalculationResult) : Value :=
  .object [
    ("row", .object result.row.entries),
    ("updatedFieldIds", .list (result.updated.map .str)),
    ("skippedCyclicTargets", .list (result.skippedCyclic.map .str))]

def runCalc (around : Surroundings) (log : LogSetup) (path gridId row : String)
    (changed : List String) (settingsPath : Option String) : Script Unit := do
  let tracker ← loadTracker around path
  if (tracker.grid? gridId).isNone then
    Script.refuse "Unknown Grid" ("Grid \"" ++ gridId ++ "\" not found in " ++ fileName path)
      [] none
  let settings ← loadSettings around settingsPath
  let row ← parseRow (some row)
  let engine := CalculationEngine.ofSettings settings.cache
  let (plan, _) := engine.compile gridId (some ⟨0, tracker.calculations⟩)
  Script.logAll log (planEvents plan ++ cycleEvents plan changed)
  let result ← orCrash (plan.apply (.given row) changed)
  Script.logAll log (resultEvents result)
  printJson (resultValue result)

/-- What is logged about rules that are no list. -/
def ruleEvents (tracker : Tracker) (gridId fieldId : String) : List LogEvent :=
  match ValidationPlanner.rulesValue tracker gridId fieldId with
  | .null | .list _ => []
  | _ => [⟨.warning, "trackerflow.engine.validation", "validation_rules_ignored", [
      ("grid_id", .str gridId), ("field_id", .str fieldId), ("reason", .str "not a list")]⟩]

def runCheck (around : Surroundings) (log : LogSetup) (path gridId fieldId raw : String)
    (row settingsPath : Option String) : Script Unit := do
  let tracker ← loadTracker around path
  if (tracker.field? fieldId).isNone then
    Script.refuse "Unknown Field" ("Field \"" ++ fieldId ++ "\" not found in " ++ fileName path)
      [] none
  let settings ← loadSettings around settingsPath
  Script.logAll log (ruleEvents tracker gridId fieldId)
  let planner := ValidationPlanner.ofSettings settings.cache
  match planner.compileForField tracker gridId fieldId with
  | none => Script.exit 1
  | some (plan, _) =>
    let plan ← orCrash plan
    let value ← parseValue raw
    let row ← parseRow row
    let message ← orCrash (plan.check value row)
    Script.logAll log [⟨.debug, logSource, "field_checked", [("valid", .bool message.isNone)]⟩]
    printJson (.object [
      ("field", .str (gridId ++ "." ++ fieldId)),
      ("valid", .bool message.isNone),
      ("error", optionalValue .str message)])
    if message.isSome then Script.exit 1

/-- The collaborators of a command: secrets come from the environment, and there is no network. -/
def collaborators (around : Surroundings) (settings : Settings) : Collaborators where
  fetch _ := .failed "ConnectError"
  secret := some fun refId =>
    .value (optionalValue .str
      (secretFrom around.environment settings.options.secretEnvPrefix refId))
  ai := none
  remote := none

/-- The rows of grids in a file. -/
def readGridData (around : Surroundings) : Option String → Script Entries
  | none => pure []
  | some path => do
    match ← readJson around path "Grid data" with
    | .object rows => return rows
    | _ =>
      Script.refuse "Invalid Grid Data" (fileName path ++ " must map grid ids to row lists") [] none

/-- A resolution as it is printed. It happens at one moment, so it has no duration. -/
def resolutionValue (resolution : Resolution) : Value :=
  .object ([
    ("options", .list (resolution.options.map OptionItem.toValue)),
    ("meta", .object [
      ("source", .str resolution.source.name),
      ("functionId", .str resolution.functionId),
      ("fromCache", .bool resolution.fromCache),
      ("fetchedAt", .str resolution.fetchedAt.text),
      ("durationMs", .float (.ofInt 0)),
      ("expiresAt", optionalValue (fun t : Instant => .str t.text) resolution.expiresAt)])] ++
    if resolution.warnings.isEmpty then []
    else [("warnings", .list (resolution.warnings.map .str))])

def runOptions (around : Surroundings) (log : LogSetup) (path functionId : String)
    (gridData : Option String) (allowHttp : Bool) (args : List String)
    (settingsPath : Option String) : Script Unit := do
  let tracker ← loadTracker around path
  let settings ← loadSettings around settingsPath
  let rows ← readGridData around gridData
  let args ← parseArgs [] args
  let resolver : Resolver := ⟨settings, allowHttp, collaborators around settings⟩
  let (run, _) := resolver.resolve (.ofSettings settings.cache) ⟨.int 0, around.now⟩
    { functionId := some functionId
      context := ⟨tracker, rows, .nowhere⟩
      args := args
      runtime := none
      forceRefresh := false
      ttlOverride := none }
  Script.logAll log run.events
  let resolution ← orCrash run.result
  printJson (resolutionValue resolution)
  if resolution.options.isEmpty && !resolution.warnings.isEmpty then Script.exit 1

namespace Command

def trackerPath : Command → String
  | .validate path _ => path
  | .calc path _ _ _ _ => path
  | .check path _ _ _ _ _ => path
  | .options path _ _ _ _ _ => path

/-- The files that a command reads. -/
def paths : Command → List String
  | .validate path _ => [path]
  | .calc path _ _ _ settings => path :: settings.toList
  | .check path _ _ _ _ settings => path :: settings.toList
  | .options path _ gridData _ _ settings => path :: gridData.toList ++ settings.toList

/-- What every event of a command tells: its name and what it works on. -/
def logContext (command : Command) : Entries :=
  let tracker : String × Value := ("tracker", .str (fileName command.trackerPath))
  match command with
  | .validate _ _ => [("command", .str "validate"), tracker]
  | .calc _ gridId _ _ _ => [("command", .str "calc"), tracker, ("grid_id", .str gridId)]
  | .check _ gridId fieldId _ _ _ =>
    [("command", .str "check"), tracker, ("grid_id", .str gridId), ("field_id", .str fieldId)]
  | .options _ functionId _ _ _ _ =>
    [("command", .str "options"), tracker, ("function_id", .str functionId)]

def perform (command : Command) (around : Surroundings) (level : LogLevel) : Script Unit :=
  let log : LogSetup := ⟨level, command.logContext⟩
  match command with
  | .validate path asJson => runValidate around log path asJson
  | .calc path gridId row changed settings => runCalc around log path gridId row changed settings
  | .check path gridId fieldId value row settings =>
    runCheck around log path gridId fieldId value row settings
  | .options path functionId gridData allowHttp args settings =>
    runOptions around log path functionId gridData allowHttp args settings

end Command

/-- The environment of a command: variables of a file are added, unless that is turned off. -/
def CommonOptions.extend (common : CommonOptions) (around : Surroundings) :
    Script Surroundings := do
  match common.envFile with
  | none => return around
  | some path =>
    if common.noEnvFile then
      Script.say (.warning "--env-file ignored because --no-dotenv is set.")
      return around
    else
      match around.read path with
      | .missing =>
        Script.say (.error (".env file not found: " ++ plainPath path))
        Script.exit 1
      | .unreadable => return around
      | .text text =>
        return { around with environment := EnvFile.extend around.environment text }

def helpText : String :=
  "Usage: trackerflow [OPTIONS] COMMAND [ARGS]...\n\n" ++
  "trackerflow: expressions, validation, calculations and dynamic options for tracker " ++
  "schemas.\n\n" ++
  "Commands:\n" ++
  "  validate  Validate a tracker document's layout, calculations, validations and dynamic " ++
  "options.\n" ++
  "  calc      Apply a grid's calculations to one row.\n" ++
  "  check     Check one value against a field's validation rules.\n" ++
  "  options   Resolve a dynamic-options function and print the options.\n"

/-- What a command line that cannot be understood ends with. -/
def usageStatus : UInt8 := 2

namespace CommandRequest

def perform (request : CommandRequest) (around : Surroundings) (level : LogLevel) : Script Unit :=
  match request with
  | .run command => command.perform around level
  | .help command => Script.print ("Usage: trackerflow " ++ command ++ " [OPTIONS] TRACKER\n")
  | .unusable => Script.exit usageStatus

end CommandRequest

namespace Invocation

/-- The files that have to be there before a command is run. -/
def paths : Invocation → List String
  | .command common (.run asked) => common.envFile.toList ++ asked.paths
  | .command common _ => common.envFile.toList
  | _ => []

/-- The outcome of a command line. -/
def perform (invocation : Invocation) (around : Surroundings) : Outcome :=
  Script.outcome (match invocation with
    | .version => Script.print ("trackerflow version " ++ versionText ++ "\n")
    | .help => Script.print helpText
    | .unusable => Script.exit usageStatus
    | .command common request => do
      let around ← common.extend around
      request.perform around (if common.verbose then .debug else .info))

end Invocation

end Cli

end GridRules
