import GridRules.Options.Builtin
import GridRules.Options.GraphPlan
import GridRules.Schema.Report
import GridRules.Tracker.Basic
/-!
Checks of option functions: graphs have to compile, and what sources refer to has to exist.
-/

namespace GridRules

/-- Whether a value says anything: null, false, zero and what is empty do not. -/
def Value.saysSomething : Value → Bool
  | .null => false
  | .bool b => b
  | .int n => n != 0
  | .float x => !x.isZero
  | .str s => s != ""
  | .list items => !items.isEmpty
  | .object entries => !entries.isEmpty

namespace Tracker

/-- The connector that a request in a graph names. -/
def namedConnector? (node : GraphNode) : Option String :=
  let connector := (node.config.getD []).getD "connectorId"
  if node.kind = NodeKind.httpGet.name && connector.saysSomething then some connector.display
  else none

/-- Connectors that a graph names in a tracker that has none. -/
def connectorProblems (tracker : Tracker) (spec : GraphSpec) : List String :=
  if !tracker.options.connectors.isEmpty then []
  else
    spec.nodes.filterMap fun node =>
      (namedConnector? node).map fun connector =>
        "[node " ++ node.id ++ "] source.http_get references missing connector \"" ++ connector ++
          "\""

/-- What is wrong with the source of a pipeline. -/
def sourceProblem? (tracker : Tracker) : Source → Option String
  | .gridRows gridId =>
    if (tracker.grid? gridId).isSome then none
    else some ("grid_rows source references missing grid \"" ++ gridId ++ "\"")
  | .httpGet source =>
    if tracker.options.connectors.has source.connectorId then none
    else some ("http_get source references missing connector \"" ++ source.connectorId ++ "\"")
  | .builtin functionId =>
    if isBuiltin functionId then none
    else some ("builtin_ref references unknown builtin \"" ++ functionId ++ "\"")
  | .layoutFields _ => none

def functionErrors (tracker : Tracker) (definition : FunctionDefinition) : List String :=
  match definition.body with
  | .flat pipeline => (tracker.sourceProblem? pipeline.source).toList
  | .graph spec =>
    (match definition.compileGraph tracker.options.connectors.keys with
      | .ok _ => []
      | .error issues => issues.map CompileIssue.text) ++ tracker.connectorProblems spec

def functionReport (tracker : Tracker) (key : String) (definition : FunctionDefinition) :
    ValidationReport :=
  let named := "dynamicOptions function \"" ++ key ++ "\""
  let shadowed :=
    if isBuiltin key then [named ++ " is shadowed by the builtin of the same id"] else []
  let misplaced :=
    if definition.id = key then []
    else [named ++ ": key does not match function id \"" ++ definition.id ++ "\""]
  ⟨(tracker.functionErrors definition).map fun error => named ++ ": " ++ error,
    shadowed ++ misplaced⟩

def connectorWarning? (key : String) (connector : Connector) : Option String :=
  if connector.id = key then none
  else some ("dynamicOptions connector \"" ++ key ++ "\": key does not match connector id \"" ++
    connector.id ++ "\"")

def checkOptionFunctions (tracker : Tracker) : ValidationReport :=
  let warnings := tracker.options.connectors.filterMap fun entry =>
    connectorWarning? entry.1 entry.2
  tracker.options.functions.foldl (fun report entry =>
    report.merge (tracker.functionReport entry.1 entry.2)) ⟨[], warnings⟩

end Tracker

end GridRules
