import GridRules.Options.Transform
/-!
Graphs as they are authored: nodes and edges, with an entry node and a return node. Kinds and
configurations of nodes are not looked at here; whoever compiles the graph does that.
-/

namespace GridRules

structure GraphPosition where
  x : Binary64
  y : Binary64
  deriving DecidableEq

structure GraphNode where
  id : String
  kind : String
  position : Option GraphPosition
  config : Option Entries
  deriving DecidableEq

structure GraphEdge where
  id : String
  source : String
  target : String
  sourceHandle : Option String
  targetHandle : Option String
  deriving DecidableEq

structure GraphSpec where
  nodes : List GraphNode
  edges : List GraphEdge
  entryNodeId : String
  returnNodeId : String
  deriving DecidableEq

namespace GraphPosition

def decode : Value → Decoded GraphPosition :=
  Decode.closed "GraphPosition" ["x", "y"] fun es =>
    GraphPosition.mk
      <$> Decode.required es "x" Decode.number
      <*> Decode.required es "y" Decode.number

def toValue (full : Bool) (position : GraphPosition) : Value :=
  modelValue full [("x", .float position.x), ("y", .float position.y)]

end GraphPosition

namespace GraphNode

def decode : Value → Decoded GraphNode :=
  Decode.closed "GraphNode" ["id", "kind", "position", "config"] fun es =>
    GraphNode.mk
      <$> Decode.required es "id" Decode.nonEmpty
      <*> Decode.required es "kind" Decode.nonEmpty
      <*> Decode.optional es "position" GraphPosition.decode
      <*> Decode.optional es "config" Decode.rawObject

def toValue (full : Bool) (node : GraphNode) : Value :=
  modelValue full [
    ("id", .str node.id),
    ("kind", .str node.kind),
    ("position", optionalValue (GraphPosition.toValue full) node.position),
    ("config", optionalValue .object node.config)]

end GraphNode

namespace GraphEdge

def decode : Value → Decoded GraphEdge :=
  Decode.closed "GraphEdge" ["id", "source", "target", "sourceHandle", "targetHandle"] fun es =>
    GraphEdge.mk
      <$> Decode.required es "id" Decode.nonEmpty
      <*> Decode.required es "source" Decode.nonEmpty
      <*> Decode.required es "target" Decode.nonEmpty
      <*> Decode.optional es "sourceHandle" Decode.text
      <*> Decode.optional es "targetHandle" Decode.text

def toValue (full : Bool) (edge : GraphEdge) : Value :=
  modelValue full [
    ("id", .str edge.id),
    ("source", .str edge.source),
    ("target", .str edge.target),
    ("sourceHandle", optionalValue .str edge.sourceHandle),
    ("targetHandle", optionalValue .str edge.targetHandle)]

end GraphEdge

namespace GraphSpec

def decode : Value → Decoded GraphSpec :=
  Decode.closed "GraphSpec" ["nodes", "edges", "entryNodeId", "returnNodeId"] fun es =>
    GraphSpec.mk
      <$> Decode.field es "nodes" [] (Decode.list GraphNode.decode)
      <*> Decode.field es "edges" [] (Decode.list GraphEdge.decode)
      <*> Decode.required es "entryNodeId" Decode.nonEmpty
      <*> Decode.required es "returnNodeId" Decode.nonEmpty

def toValue (full : Bool) (graph : GraphSpec) : Value :=
  modelValue full [
    ("nodes", .list (graph.nodes.map (GraphNode.toValue full))),
    ("edges", .list (graph.edges.map (GraphEdge.toValue full))),
    ("entryNodeId", .str graph.entryNodeId),
    ("returnNodeId", .str graph.returnNodeId)]

end GraphSpec

end GridRules
