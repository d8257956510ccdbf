import GridRules.Assoc
/-!
Directed graphs on texts. A graph has its nodes and its links in the order they were added; links
from one node to another are told apart by a key. The elementary cycles are those of a graph that is
given by what each node depends on; a cycle is listed once, from its least node on.
-/

namespace GridRules

structure Link where
  source : String
  target : String
  key : String
  deriving DecidableEq

structure LinkGraph where
  nodes : List String
  links : List Link

/-- All that `next` leads to from the starting points, they themselves included. Every round goes
one step further, so as many rounds as there are nodes lead to all of them. -/
def closure (next : String → List String) : Nat → List String → List String
  | 0, reached => reached
  | fuel + 1, reached =>
    let new := (reached.flatMap next).filter fun node => !reached.contains node
    if new.isEmpty then reached else closure next fuel (reached ++ new.eraseDups)

namespace LinkGraph

/-- Adds a link; one that is there already is not added twice. -/
def addLink (graph : LinkGraph) (link : Link) : LinkGraph :=
  if graph.links.contains link then graph else { graph with links := graph.links ++ [link] }

def outgoing (graph : LinkGraph) (node : String) : List Link :=
  graph.links.filter fun link => link.source == node

/-- The nodes that links of a node lead to, each once. -/
def successors (graph : LinkGraph) (node : String) : List String :=
  ((graph.outgoing node).map Link.target).eraseDups

/-- The nodes that links to a node come from, each once. -/
def predecessors (graph : LinkGraph) (node : String) : List String :=
  ((graph.links.filter fun link => link.target == node).map Link.source).eraseDups

/-- The links to a node, those from one source together. -/
def incoming (graph : LinkGraph) (node : String) : List Link :=
  (graph.predecessors node).flatMap fun source =>
    graph.links.filter fun link => link.target == node && link.source == source

/-- The successors of the node that was done last and that wait for no other node. -/
def freed (graph : LinkGraph) (done : List String) (node : String) : List String :=
  (graph.successors node).filter fun next =>
    (graph.predecessors next).all fun source => done.contains source

/-- Takes the nodes in the queue one by one, and puts those that become free behind the others. -/
def takeFree (graph : LinkGraph) : Nat → List String → List String → List String
  | 0, done, _ => done
  | _, done, [] => done
  | fuel + 1, done, node :: queue =>
    let done := done ++ [node]
    graph.takeFree fuel done (queue ++ graph.freed done node)

/-- The nodes in an order in which every link leads forward; nodes on cycles and behind them are
left out. -/
def topologicalOrder (graph : LinkGraph) : List String :=
  graph.takeFree graph.nodes.length []
    (graph.nodes.filter fun node => (graph.predecessors node).isEmpty)

def isAcyclic (graph : LinkGraph) : Bool :=
  graph.topologicalOrder.length == graph.nodes.length

/-- The node and all that its links lead to. -/
def reachableFrom (graph : LinkGraph) (node : String) : List String :=
  closure graph.successors graph.nodes.length [node]

/-- The node and all from which links lead to it. -/
def leadingTo (graph : LinkGraph) (node : String) : List String :=
  closure graph.predecessors graph.nodes.length [node]

end LinkGraph

/-- What a node depends on. -/
def dependenciesOf (dependsOn : Assoc (List String)) (node : String) : List String :=
  (dependsOn.get? node).getD []

/-- The nodes that depend on a node. -/
def dependentsOf (dependsOn : Assoc (List String)) (node : String) : List String :=
  (dependsOn.filter fun entry => entry.2.contains node).map (·.1)

/-- The nodes that a cycle from `start` on may go through: those that are greater and from which
only such nodes lead back to the start. -/
def cycleNodes (dependsOn : Assoc (List String)) (start : String) : List String :=
  (closure
    (fun node => (dependentsOf dependsOn node).filter fun other => decide (start < other))
    dependsOn.length [start]).drop 1

/-- All ways to go on along `path`, whose last node is `current`, and back to `start`. -/
def cyclesAlong (dependsOn : Assoc (List String)) (start : String) (within : List String) :
    Nat → List String → String → List (List String)
  | 0, _, _ => []
  | fuel + 1, path, current =>
    let next := dependenciesOf dependsOn current
    let further := next.filter fun node => within.contains node && !path.contains node
    (if next.contains start then [path] else []) ++
      further.flatMap fun node => cyclesAlong dependsOn start within fuel (path ++ [node]) node

/-- The cycles whose least node is `start`. -/
def cyclesFrom (dependsOn : Assoc (List String)) (start : String) : List (List String) :=
  let within := cycleNodes dependsOn start
  cyclesAlong dependsOn start within (within.length + 1) [start] start

/-- All elementary cycles, in the order of their nodes. -/
def elementaryCycles (dependsOn : Assoc (List String)) : List (List String) :=
  (dependsOn.keys.flatMap (cyclesFrom dependsOn)).mergeSort fun a b => !b.lex a

end GridRules
