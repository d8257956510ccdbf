import GridRules.Options.Apply
import GridRules.Options.Builtin
import GridRules.Options.GraphPlan
import GridRules.Options.HttpGet
import GridRules.Options.LayoutRows
/-!
Executing option functions, flat ones and graphs. What goes wrong with the data becomes a warning.
Where the network is not allowed, a function that needs it is not begun, and its result says so.
-/

namespace GridRules

structure ExecutionResult where
  options : List OptionItem
  /-- Whether the function has to be executed where the network is allowed. -/
  requiresRemote : Bool
  warnings : List String
  deriving DecidableEq

namespace ExecutionResult

/-- A result without options. -/
def nothing (warnings : List String) : ExecutionResult := ⟨[], false, warnings⟩

def needsServer (functionId : String) : ExecutionResult :=
  ⟨[], true, ["Function \"" ++ functionId ++ "\" requires server execution"]⟩

end ExecutionResult

/-- What all executions in one place share. -/
structure Executor where
  settings : Settings
  /-- Whether requests may be made and models be asked. -/
  allowHttp : Bool
  /-- Connectors that go over those of the tracker. -/
  connectors : Assoc Connector
  collaborators : Collaborators

/-- A call of a function. -/
structure Execution where
  executor : Executor
  context : OptionsContext
  args : Entries

/-- What is logged about a graph that does not compile. -/
def compileFailure (functionId : String) (issues : List CompileIssue) : LogEvent :=
  ⟨.debug, "trackerflow.options.graph", "graph_compile_failed",
    [("function_id", .str functionId), ("issues", .int issues.length)]⟩

/-- What a node hands on. -/
inductive NodeResult where
  | value (v : Value)
  | options (items : List OptionItem)

namespace NodeResult

def toValue : NodeResult → Value
  | .value v => v
  | .options items => .list (items.map OptionItem.toValue)

def ofRows (rows : List Entries) : NodeResult :=
  .value (.list (rows.map .object))

end NodeResult

namespace Execution

def logSource : String := "trackerflow.options.executor"

def inputs (execution : Execution) : Inputs :=
  ⟨execution.args, execution.context.lookup⟩

def connectors (execution : Execution) : Assoc Connector :=
  execution.context.connectors.putAll execution.executor.connectors

/-- The rows of a grid, which has to be in the tracker or to have rows. -/
def gridRows (execution : Execution) (gridId : String) : Run (List Entries) := do
  let context := execution.context
  if (context.tracker.grid? gridId).isNone && !context.gridData.has gridId then
    Run.warn ("Grid \"" ++ gridId ++ "\" not found")
    return []
  return normalizeRows (.list (context.gridRows gridId))

def layoutRows (execution : Execution) (source : LayoutFieldsSource) : List Entries :=
  execution.context.tracker.layoutRows source

def fetch (execution : Execution) (source : HttpGetSource) : Run Value :=
  source.fetchJson execution.connectors execution.inputs execution.executor.settings.http
    execution.executor.collaborators

/-- The options of a builtin function as rows. -/
def builtinRows (execution : Execution) (functionId : String) : Run (List Entries) := do
  if !isBuiltin functionId then
    Run.warn ("Builtin function \"" ++ functionId ++ "\" was not found")
  return (builtinOptions functionId execution.context.tracker).map OptionItem.entries

/-- The rows that a request fetches. -/
def fetchRows (execution : Execution) (source : HttpGetSource) : Run (List Entries) := do
  let payload ← execution.fetch source
  match payload with
  | .null | .list _ => pure ()
  | _ => Run.warn "HTTP response did not resolve to a list"
  return normalizeRows payload

/-- The rows of a source. -/
def sourceRows (execution : Execution) : Source → Run (List Entries)
  | .builtin functionId => execution.builtinRows functionId
  | .gridRows gridId => execution.gridRows gridId
  | .layoutFields source => pure (execution.layoutRows source)
  | .httpGet source => execution.fetchRows source

/-- The options that a flat function makes. -/
def runFlat (execution : Execution) (pipeline : Pipeline) : Run (List OptionItem) := do
  let rows ← execution.sourceRows pipeline.source
  let rows ← Run.ofExcept (Transform.applyAll pipeline.transforms rows execution.inputs)
  Run.ofExcept (pipeline.output.options rows execution.inputs)

/-- A field as the current context shows it. -/
def fieldMetadata (field : TrackerField) : Value :=
  .object [
    ("id", .str field.id),
    ("label", .str field.label),
    ("dataType", .str field.dataType),
    ("config", .object field.config)]

def layoutMetadata (node : LayoutNode) : Value :=
  .object [("gridId", .str node.gridId), ("fieldId", .str node.fieldId)]

/-- Where options are needed, and what is around that place. -/
def currentContext (execution : Execution) (config : CurrentContextConfig) : Value :=
  let runtime := execution.context.runtime
  let tracker := execution.context.tracker
  .object ([
      ("gridId", optionalValue .str runtime.gridId),
      ("fieldId", optionalValue .str runtime.fieldId),
      ("rowIndex", optionalValue .int runtime.rowIndex)] ++
    (if config.includeRowValues then [("row", .object (runtime.row.getD []))] else []) ++
    (if config.includeFieldMetadata then
      [("fields", .list (tracker.fields.map fieldMetadata))] else []) ++
    (if config.includeLayoutMetadata then
      [("layout", .list (tracker.layoutNodes.map layoutMetadata))] else []))

/-- The part of a value that a model is to read. -/
def aiInput (config : AiExtractConfig) (v : Value) : Except Fault Value :=
  match config.inputPath with
  | none | some "" => .ok v
  | some path => v.lookupD path

/-- The rows that a model finds in a value. -/
def extractRows (execution : Execution) (config : AiExtractConfig) (v : Value) :
    Run (List Entries) := do
  match execution.executor.collaborators.ai with
  | none =>
    Run.warn "AI extractor is not configured for ai.extract_options node"
    return []
  | some extract =>
    let input ← Run.ofExcept (aiInput config v)
    let maxRows := config.maxRows.getD execution.executor.settings.options.aiMaxRows
    let request : AiRequest := ⟨config.prompt, input, maxRows⟩
    Run.call (.ai request)
    match extract request with
    | .value found => return normalizeRows found
    | .failed reason => Run.interrupt (.failed reason)

/-- What a node makes of the value that it takes. -/
def runNode (execution : Execution) (v : Value) : NodeConfig → Run NodeResult
  | .start => pure (.value (.object [
      ("args", .object execution.args),
      ("runtime", execution.context.runtime.toValue)]))
  | .gridRows gridId => do return .ofRows (← execution.gridRows gridId)
  | .currentContext config => pure (.value (execution.currentContext config))
  | .layoutFields source => pure (.ofRows (execution.layoutRows source))
  | .httpGet source => do return .value (← execution.fetch source)
  | .transform step => do return .ofRows (← Run.ofExcept (step.apply v execution.inputs))
  | .aiExtract config => do return .ofRows (← execution.extractRows config v)
  | .output mapping => do
    return .options (← Run.ofExcept (mapping.options (normalizeRows v) execution.inputs))

/-- The value that a node takes: null where nothing was handed on to it. -/
def takenValue (plan : GraphPlan) (results : Assoc NodeResult) (nodeId : String) : Value :=
  match (plan.incoming.get? nodeId).bind results.get? with
  | some result => result.toValue
  | none => .null

/-- Runs nodes one behind the other, with the results of those before them. -/
def runNodes (execution : Execution) (plan : GraphPlan) (results : Assoc NodeResult) :
    List String → Run (Assoc NodeResult)
  | [] => pure results
  | nodeId :: rest =>
    match plan.nodes.get? nodeId with
    | none => execution.runNodes plan results rest
    | some config => do
      let result ← execution.runNode (takenValue plan results nodeId) config
      execution.runNodes plan (results.put nodeId result) rest

/-- The options that a graph makes. -/
def runGraph (execution : Execution) (plan : GraphPlan) : Run (List OptionItem) := do
  let results ← execution.runNodes plan [] plan.executionOrder
  match results.get? plan.returnNodeId with
  | some (.options items) => return items
  | _ => return []

/-- The result of a run that makes options, as far as the settings let it be. -/
def finish (execution : Execution) (functionId : String) (run : Run (List OptionItem)) :
    Run ExecutionResult := do
  let (items, warnings) ← run.collect
  if !warnings.isEmpty then
    Run.log .info logSource "options_executed_with_warnings"
      [("function_id", .str functionId), ("warnings", .list (warnings.map .str))]
  return ⟨items.take execution.executor.settings.options.maxItems.1, false, warnings⟩

/-- Executes the plan of a graph. -/
def executePlan (execution : Execution) (functionId : String) (plan : GraphPlan) :
    Run ExecutionResult :=
  if plan.requiresRemote && !execution.executor.allowHttp then
    pure (.needsServer functionId)
  else execution.finish functionId (execution.runGraph plan)

/-- Reports a graph that cannot be executed. -/
def refuseGraph (functionId : String) (issues : List CompileIssue) : Run ExecutionResult := do
  let messages := issues.map CompileIssue.message
  Run.report (compileFailure functionId issues)
  Run.log .info logSource "options_graph_invalid"
    [("function_id", .str functionId), ("issues", .list (messages.map .str))]
  return .nothing messages

/-- Executes a pipeline. -/
def executePipeline (execution : Execution) (functionId : String) (pipeline : Pipeline) :
    Run ExecutionResult :=
  if pipeline.source.isRemote && !execution.executor.allowHttp then
    pure (.needsServer functionId)
  else execution.finish functionId (execution.runFlat pipeline)

end Execution

namespace FunctionDefinition

/-- Executes a function; `plan` is what compiling its graph has given, if it is one. -/
def executeWith (definition : FunctionDefinition) (execution : Execution)
    (plan : Except (List CompileIssue) GraphPlan) : Run ExecutionResult :=
  if !definition.enabled then
    pure (.nothing ["Function \"" ++ definition.id ++ "\" is disabled"])
  else
    match definition.body, plan with
    | .flat pipeline, _ => execution.executePipeline definition.id pipeline
    | .graph _, .ok plan => execution.executePlan definition.id plan
    | .graph _, .error issues => Execution.refuseGraph definition.id issues

/-- Executes a function. -/
def execute (definition : FunctionDefinition) (execution : Execution) : Run ExecutionResult :=
  definition.executeWith execution (definition.compileGraph execution.connectors.keys)

/-- Executes a function with a cache for the plans of graphs. -/
def executeCached (definition : FunctionDefinition) (execution : Execution) (plans : PlanCache) :
    Run ExecutionResult × PlanCache :=
  if !definition.enabled then (definition.execute execution, plans)
  else
    let (plan, plans) := definition.compileGraphCached execution.connectors.keys plans
    (definition.executeWith execution plan, plans)

end FunctionDefinition

end GridRules
