import GridRules.Cache.Bounded
import GridRules.Graph.Basic
import GridRules.Json.Canonical
import GridRules.Options.Definition
import GridRules.Options.NodeConfig
/-!
Compiling a graph. The graph is checked as a whole without running any of it, and all issues are
kept; a graph without issues has a plan, which lists the nodes to run in order.
-/

namespace GridRules

structure CompileIssue where
  message : String
  nodeId : Option String
  edgeId : Option String
  deriving DecidableEq

namespace CompileIssue

def plain (message : String) : CompileIssue := ⟨message, none, none⟩

def atNode (nodeId message : String) : CompileIssue := ⟨message, some nodeId, none⟩

def text (issue : CompileIssue) : String :=
  match issue.nodeId, issue.edgeId with
  | some node, _ => "[node " ++ node ++ "] " ++ issue.message
  | none, some edge => "[edge " ++ edge ++ "] " ++ issue.message
  | none, none => issue.message

end CompileIssue

structure GraphPlan where
  functionId : String
  /-- The nodes on the way from the entry to the return, in the order they are run. -/
  executionOrder : List String
  nodes : Assoc NodeConfig
  /-- The node that each node takes its value from. -/
  incoming : Assoc String
  returnNodeId : String
  requiresRemote : Bool
  /-- Whether a node that is run reads the row that options are for. -/
  usesRuntimeRow : Bool
  deriving DecidableEq

abbrev PlanCache := BoundedCache String GraphPlan

/-- A node whose kind exists; it has no configuration if there is something wrong with that. -/
structure DraftNode where
  id : String
  kind : NodeKind
  config : Option NodeConfig

/-- A graph with what is known about it so far. -/
structure DraftGraph where
  nodes : List DraftNode
  links : LinkGraph
  issues : List CompileIssue

def quotedId (id : String) : String :=
  "\"" ++ id ++ "\""

namespace DraftGraph

def node? (draft : DraftGraph) (id : String) : Option DraftNode :=
  draft.nodes.find? fun node => node.id == id

def addNode (draft : DraftGraph) (node : GraphNode) : DraftGraph :=
  let refuse message :=
    { draft with issues := draft.issues ++ [CompileIssue.atNode node.id message] }
  if (draft.node? node.id).isSome then refuse ("Duplicate node id " ++ quotedId node.id)
  else
    match NodeKind.ofName? node.kind with
    | none => refuse ("Unknown node kind " ++ quotedId node.kind)
    | some kind =>
      let links := { draft.links with nodes := draft.links.nodes ++ [node.id] }
      match NodeConfig.decode kind (NodeConfig.tagged kind node.config) with
      | .ok config => { draft with nodes := draft.nodes ++ [⟨node.id, kind, some config⟩]
                                   links := links }
      | .failed problems =>
        { nodes := draft.nodes ++ [⟨node.id, kind, none⟩]
          links := links
          issues := draft.issues ++ problems.map fun problem =>
            CompileIssue.atNode node.id (NodeConfig.problemText kind problem) }

def addEdge (draft : DraftGraph) (edge : GraphEdge) : DraftGraph :=
  if (draft.node? edge.source).isSome && (draft.node? edge.target).isSome then
    { draft with links := draft.links.addLink ⟨edge.source, edge.target, edge.id⟩ }
  else
    { draft with issues := draft.issues ++
        [⟨"Edge " ++ quotedId edge.id ++ " references a missing node", none, some edge.id⟩] }

def ofSpec (spec : GraphSpec) : DraftGraph :=
  spec.edges.foldl addEdge (spec.nodes.foldl addNode ⟨[], ⟨[], []⟩, []⟩)

def entryIssues (draft : DraftGraph) (entryId : String) : List CompileIssue :=
  match draft.node? entryId with
  | none => [.plain ("entryNodeId " ++ quotedId entryId ++ " does not exist")]
  | some entry =>
    if entry.kind ≠ .start then
      [.atNode entry.id "entryNodeId must reference a control.start node"]
    else if (draft.links.outgoing entry.id).isEmpty then
      [.atNode entry.id "control.start must have at least one outgoing connection"]
    else []

def returnIssues (draft : DraftGraph) (returnId : String) : List CompileIssue :=
  match draft.node? returnId with
  | none => [.plain ("returnNodeId " ++ quotedId returnId ++ " does not exist")]
  | some ret =>
    if ret.kind ≠ .output then
      [.atNode ret.id "returnNodeId must reference an output.options node"]
    else []

def outputIssues (draft : DraftGraph) : List CompileIssue :=
  if draft.nodes.countP (fun node => node.kind == .output) = 1 then []
  else [.plain "Graph must contain exactly one output.options node"]

/-- Connectors that requests name and that do not exist, if there are any connectors. -/
def connectorIssues (draft : DraftGraph) (connectors : List String) : List CompileIssue :=
  if connectors.isEmpty then []
  else
    draft.nodes.filterMap fun node =>
      match node.config with
      | some (.httpGet source) =>
        if connectors.contains source.connectorId then none
        else some (.atNode node.id
          ("source.http_get references missing connector " ++ quotedId source.connectorId))
      | _ => none

/-- What is wrong with one link to a node. -/
def linkIssue? (draft : DraftGraph) (node : DraftNode) (taken : PortType) (link : Link) :
    Option CompileIssue :=
  (draft.node? link.source).bind fun source =>
    if source.kind.gives.fits taken then none
    else some ⟨"Type mismatch: " ++ source.kind.name ++ " (" ++ source.kind.gives.name ++ ") -> " ++
      node.kind.name ++ " (" ++ taken.name ++ ")", some node.id, some link.key⟩

/-- What is wrong with the links to a node. -/
def inputIssues (draft : DraftGraph) (node : DraftNode) : List CompileIssue :=
  let links := draft.links.incoming node.id
  match node.kind.takes with
  | none =>
    if links.isEmpty then []
    else [.atNode node.id (node.kind.name ++ " should not have incoming edges")]
  | some taken =>
    if links.isEmpty then [.atNode node.id (node.kind.name ++ " requires an incoming connection")]
    else
      (if 1 < links.length then
        [.atNode node.id (node.kind.name ++ " accepts only one incoming connection in v1")]
      else []) ++ links.filterMap (draft.linkIssue? node taken)

/-- The node that a node takes its value from. -/
def inputNode? (draft : DraftGraph) (node : DraftNode) : Option String :=
  if node.kind.takes.isNone then none
  else ((draft.links.incoming node.id).head?).map Link.source

def cycleIssues (draft : DraftGraph) : List CompileIssue :=
  if draft.links.isAcyclic then [] else [.plain "Graph contains a cycle"]

/-- What can be reached from the entry, if that exists. -/
def reached (draft : DraftGraph) (entryId : String) : List String :=
  match draft.node? entryId with
  | none => []
  | some entry => draft.links.reachableFrom entry.id

def reachIssues (draft : DraftGraph) (entryId returnId : String) : List CompileIssue :=
  match draft.node? returnId with
  | none => []
  | some ret =>
    if (draft.reached entryId).contains ret.id then []
    else [.atNode ret.id "Return node is not reachable from entry node"]

/-- All issues of a graph. -/
def allIssues (draft : DraftGraph) (spec : GraphSpec) (connectors : List String) :
    List CompileIssue :=
  draft.issues ++ draft.entryIssues spec.entryNodeId ++ draft.returnIssues spec.returnNodeId ++
    draft.outputIssues ++ draft.connectorIssues connectors ++
    draft.nodes.flatMap draft.inputIssues ++ draft.cycleIssues ++
    draft.reachIssues spec.entryNodeId spec.returnNodeId

/-- The nodes between the entry and the return, in topological order. -/
def executionOrder (draft : DraftGraph) (entryId returnId : String) : List String :=
  let reached := draft.reached entryId
  let leading := draft.links.leadingTo returnId
  draft.links.topologicalOrder.filter fun id => reached.contains id && leading.contains id

/-- The plan of a graph without issues. -/
def plan (draft : DraftGraph) (functionId : String) (spec : GraphSpec) : GraphPlan :=
  let order := draft.executionOrder spec.entryNodeId spec.returnNodeId
  let kinds := order.filterMap fun id => (draft.node? id).map DraftNode.kind
  { functionId := functionId
    executionOrder := order
    nodes := draft.nodes.filterMap fun node => node.config.map fun config => (node.id, config)
    incoming := draft.nodes.filterMap fun node =>
      (draft.inputNode? node).map fun source => (node.id, source)
    returnNodeId := spec.returnNodeId
    requiresRemote := kinds.any NodeKind.isRemote
    usesRuntimeRow := kinds.contains .currentContext }

end DraftGraph

def sortTexts (texts : List String) : List String :=
  texts.mergeSort fun a b => decide (a ≤ b)

/-- What tells graphs apart: the function, its version, the graph and the connectors. -/
def graphSignature (definition : FunctionDefinition) (connectors : List String) : String :=
  Canonical.signature (.list [
    .str definition.id,
    .int definition.version.1,
    optionalValue (GraphSpec.toValue true) definition.body.graphSpec,
    .list ((sortTexts connectors.eraseDups).map .str)])

/-- Compiles a graph; connectors are the ones that requests may go through. -/
def GraphSpec.compile (spec : GraphSpec) (functionId : String) (connectors : List String) :
    Except (List CompileIssue) GraphPlan :=
  let draft := DraftGraph.ofSpec spec
  let issues := draft.allIssues spec connectors
  if issues.isEmpty then .ok (draft.plan functionId spec) else .error issues

def notGraphIssue : CompileIssue := .plain "Function is not a graph_v1 definition"

namespace FunctionDefinition

/-- Compiles the graph of a definition. -/
def compileGraph (definition : FunctionDefinition) (connectors : List String) :
    Except (List CompileIssue) GraphPlan :=
  match definition.body with
  | .flat _ => .error [notGraphIssue]
  | .graph spec => spec.compile definition.id connectors

/-- Compiles the graph of a definition, or takes its plan from the cache. Only plans are kept,
not issues. -/
def compileGraphCached (definition : FunctionDefinition) (connectors : List String)
    (cache : PlanCache) : Except (List CompileIssue) GraphPlan × PlanCache :=
  match definition.body with
  | .flat _ => (.error [notGraphIssue], cache)
  | .graph spec =>
    let key := graphSignature definition connectors
    match cache.get key with
    | (some plan, cache) => (.ok plan, cache)
    | (none, cache) =>
      match spec.compile definition.id connectors with
      | .ok plan => (.ok plan, cache.put key plan)
      | .error issues => (.error issues, cache)

end FunctionDefinition

end GridRules
