import GridRules.Proofs.DistinctKeys
import GridRules.Proofs.GraphChains
import GridRules.Proofs.Runs

namespace GridRules

/-- The way back from a node along the nodes that values are taken from, as far as it leads. -/
inductive Traced (incoming : Assoc String) : String → List String → Prop where
  | source {id : String} (h : incoming.get? id = none) : Traced incoming id [id]
  | step {id before : String} {path : List String} (h : incoming.get? id = some before)
      (rest : Traced incoming before path) : Traced incoming id (id :: path)

section Traced

variable {incoming : Assoc String} {id : String} {path other : List String}

theorem Traced.unique (h : Traced incoming id path) (h' : Traced incoming id other) :
    path = other := by
  induction h generalizing other with
  | source hn =>
    cases h' with
    | source => rfl
    | step hs => simp [hn] at hs
  | step hs _ ih =>
    cases h' with
    | source hn => simp [hn] at hs
    | step hs' rest =>
      obtain rfl := Option.some.inj (hs.symm.trans hs')
      rw [ih rest]

theorem traced_reverse {first last : String}
    (chain : path.IsChain fun a b => incoming.get? b = some a) (hfirst : path.head? = some first)
    (hlast : path.getLast? = some last) (source : incoming.get? first = none) :
    Traced incoming last path.reverse := by
  induction path using List.reverseRecOn generalizing last with
  | nil => simp at hfirst
  | append_singleton front node ih =>
    obtain rfl : node = last := by simpa using hlast
    rw [List.reverse_append, List.reverse_singleton, List.singleton_append]
    cases hl : front.getLast? with
    | none =>
      obtain rfl := List.getLast?_eq_none_iff.mp hl
      obtain rfl : node = first := by simpa using hfirst
      exact .source source
    | some before =>
      have hne : front ≠ [] := by
        rintro rfl
        simp at hl
      have hf : front.head? = some first := by rwa [List.head?_append_of_ne_nil _ hne] at hfirst
      obtain ⟨hfront, _, link⟩ := List.isChain_append.mp chain
      exact .step (link before hl node rfl) (ih hfront hf hl)

end Traced

namespace GraphPlan

/-- One node of a plan takes its value from the other, which gives what fits. -/
def Feeds (plan : GraphPlan) (a b : String) : Prop :=
  plan.incoming.get? b = some a ∧ ∃ source target taken, plan.nodes.get? a = some source ∧
    plan.nodes.get? b = some target ∧ target.kind.takes = some taken ∧
    source.kind.gives.fits taken

/-- The nodes to run are one chain from the entry to the return: what the way back from the return
passes, the other way round. -/
structure SingleChain (plan : GraphPlan) (entryId : String) : Prop where
  distinct : plan.executionOrder.Nodup
  first : plan.executionOrder.head? = some entryId
  last : plan.executionOrder.getLast? = some plan.returnNodeId
  feeds : plan.executionOrder.IsChain plan.Feeds
  traced : ∀ path, Traced plan.incoming plan.returnNodeId path ↔
    path = plan.executionOrder.reverse

end GraphPlan

namespace DraftGraph

section Lookups

variable {β : Type} {draft : DraftGraph}

/-- Looking up what nodes have under their ids is looking it up for the node with the id. -/
theorem get?_filterMap_nodes {nodes : List DraftNode} (distinct : (nodes.map DraftNode.id).Nodup)
    (f : DraftNode → Option β) (id : String) :
    Assoc.get? (nodes.filterMap fun node => (f node).map fun b => (node.id, b)) id =
      (nodes.find? fun node => node.id == id).bind f := by
  induction nodes with
  | nil => rfl
  | cons node nodes ih =>
    obtain ⟨fresh, distinct⟩ := List.nodup_cons.mp distinct
    have hr := ih distinct
    by_cases he : node.id = id
    · have absent : nodes.find? (fun other => other.id == id) = none := by
        simpa [List.find?_eq_none, he] using fresh
      cases hf : f node with
      | none => simp [hf, hr, he, absent]
      | some b => simp [hf, he, Assoc.get?_cons]
    · cases hf : f node with
      | none => simp [hf, hr, he]
      | some b => simp [hf, he, hr, Assoc.get?_cons, Ne.symm he]

variable (functionId : String) (spec : GraphSpec)

theorem plan_nodes_get? (wf : draft.WellFormed) (id : String) :
    (draft.plan functionId spec).nodes.get? id = (draft.node? id).bind DraftNode.config :=
  get?_filterMap_nodes wf.distinct DraftNode.config id

theorem plan_incoming_get? (wf : draft.WellFormed) (id : String) :
    (draft.plan functionId spec).incoming.get? id = (draft.node? id).bind draft.inputNode? :=
  get?_filterMap_nodes wf.distinct draft.inputNode? id

theorem WellFormed.exists_config (wf : draft.WellFormed) {id : String} {node : DraftNode}
    (h : draft.node? id = some node) : ∃ config,
      (draft.plan functionId spec).nodes.get? id = some config ∧ config.kind = node.kind := by
  obtain ⟨config, hc, hk⟩ := wf.configured node (mem_of_node? h).1
  exact ⟨config, by rw [plan_nodes_get? functionId spec wf, h, Option.bind_some, hc], hk⟩

end Lookups

section Plan

variable {draft : DraftGraph} {spec : GraphSpec} {connectors : List String} (functionId : String)
  (wf : draft.WellFormed) (sound : draft.Sound spec.entryNodeId spec.returnNodeId connectors)

include wf sound

theorem Sound.feeds_of_linked {a b : String} (h : draft.links.Linked a b) :
    (draft.plan functionId spec).Feeds a b := by
  have linked := h
  obtain ⟨link, hl, rfl, rfl⟩ := h
  obtain ⟨source, target, taken, hs, ht, hk, fits, _⟩ := sound.fed_of_link wf hl
  obtain ⟨hm, hid⟩ := mem_of_node? ht
  have incoming := (sound.inputNode?_eq_some_iff wf hm).mpr (hid ▸ linked)
  obtain ⟨sourceConfig, hsc, hsk⟩ := wf.exists_config functionId spec hs
  obtain ⟨targetConfig, htc, htk⟩ := wf.exists_config functionId spec ht
  refine ⟨?_, sourceConfig, targetConfig, taken, hsc, htc, htk ▸ hk, hsk ▸ fits⟩
  rw [plan_incoming_get? functionId spec wf, ht, Option.bind_some, incoming]

theorem Sound.plan_singleChain :
    (draft.plan functionId spec).SingleChain spec.entryNodeId := by
  obtain ⟨chain, hfirst, hlast, distinct⟩ := sound.executionOrder_isChain wf
  have feeds : (draft.plan functionId spec).executionOrder.IsChain
      (draft.plan functionId spec).Feeds := chain.imp fun _ _ =>
        sound.feeds_of_linked functionId wf
  have source : (draft.plan functionId spec).incoming.get? spec.entryNodeId = none := by
    obtain ⟨node, hn, hk⟩ := sound.entry
    rw [plan_incoming_get? functionId spec wf, hn, Option.bind_some, inputNode?, hk]
    rfl
  have trace : Traced (draft.plan functionId spec).incoming spec.returnNodeId
      (draft.plan functionId spec).executionOrder.reverse :=
    traced_reverse (feeds.imp fun _ _ h => h.1) hfirst hlast source
  exact ⟨distinct, hfirst, hlast, feeds, fun path =>
    ⟨fun h => h.unique trace, fun h => h ▸ trace⟩⟩

theorem Sound.exists_configs :
    ∃ nodes : List (String × NodeConfig),
      nodes.map Prod.fst = (draft.plan functionId spec).executionOrder ∧
      ∀ node ∈ nodes, (draft.plan functionId spec).nodes.get? node.1 = some node.2 := by
  have each : ∀ id ∈ (draft.plan functionId spec).executionOrder, ∃ config,
      (draft.plan functionId spec).nodes.get? id = some config := by
    intro id hm
    have reached := ((mem_executionOrder wf sound).mp hm).1
    obtain ⟨node, hn⟩ := Option.isSome_iff_exists.mp
      (node?_isSome_iff.mpr (wf.mem_ids sound.entry_mem reached))
    obtain ⟨config, hc, _⟩ := wf.exists_config functionId spec hn
    exact ⟨config, hc⟩
  have : Nonempty NodeConfig := ⟨.start⟩
  choose! config hconfig using each
  refine ⟨(draft.plan functionId spec).executionOrder.map fun id => (id, config id), ?_, ?_⟩
  · rw [List.map_map]
    exact List.map_id _
  · intro node hn
    obtain ⟨id, hm, rfl⟩ := List.mem_map.mp hn
    exact hconfig id hm

end Plan

end DraftGraph

namespace Execution

variable {execution : Execution}

/-- Runs nodes one behind the other, each on what the one before it has just handed on. -/
def runAlong (execution : Execution) (v : Value) :
    List (String × NodeConfig) → Run (Assoc NodeResult)
  | [] => pure []
  | (id, config) :: rest => do
    let result ← execution.runNode v config
    let more ← execution.runAlong result.toValue rest
    return (id, result) :: more

/-- Nodes that each take their value from the one before are run along their chain. The induction
goes along the nodes that are left, and what the last one has handed on is the value given. -/
theorem runNodes_eq_runAlong {plan : GraphPlan} {nodes : List (String × NodeConfig)}
    (configs : ∀ node ∈ nodes, plan.nodes.get? node.1 = some node.2)
    (chain : (nodes.map Prod.fst).IsChain fun a b => plan.incoming.get? b = some a)
    {results : Assoc NodeResult} (distinct : (results.keys ++ nodes.map Prod.fst).Nodup)
    {given : Value}
    (first : ∀ id ∈ (nodes.map Prod.fst).head?, takenValue plan results id = given) :
    execution.runNodes plan results (nodes.map Prod.fst) = do
      let more ← execution.runAlong given nodes
      return results ++ more := by
  induction nodes generalizing results given with
  | nil => simp [runNodes, runAlong]
  | cons node nodes ih =>
    obtain ⟨id, config⟩ := node
    have hc : plan.nodes.get? id = some config := configs (id, config) (by simp)
    have hg : takenValue plan results id = given := first id (by simp)
    have fresh : id ∉ results.keys := not_mem_front distinct
    have step (result : NodeResult) :
        execution.runNodes plan (results.put id result) (nodes.map Prod.fst) = do
          let more ← execution.runAlong result.toValue nodes
          return results.put id result ++ more := by
      apply ih
      · exact fun node hn => configs node (List.mem_cons_of_mem _ hn)
      · exact chain.tail
      · simpa [Assoc.put_of_not_mem fresh, Assoc.keys] using distinct
      · -- the next node takes its value from the one that has just been run
        intro next hn
        have hi : plan.incoming.get? next = some id := by
          cases nodes with
          | nil => simp at hn
          | cons other nodes =>
            obtain rfl : other.1 = next := by simpa using hn
            exact (List.isChain_cons_cons.mp chain).1
        simp [takenValue, hi, Assoc.get?_put]
    simp only [List.map_cons, runNodes, runAlong, hc, hg, step, bind_assoc, pure_bind]
    simp [Assoc.put_of_not_mem fresh]

end Execution

namespace GraphPlan

variable {plan : GraphPlan} {entryId : String}

/-- A chain is run with each node on the value that the node before it has just made. -/
theorem SingleChain.runNodes_eq (single : plan.SingleChain entryId)
    {nodes : List (String × NodeConfig)} (ids : nodes.map Prod.fst = plan.executionOrder)
    (configs : ∀ node ∈ nodes, plan.nodes.get? node.1 = some node.2) (execution : Execution) :
    execution.runNodes plan [] plan.executionOrder = execution.runAlong .null nodes := by
  have chain : (nodes.map Prod.fst).IsChain fun a b => plan.incoming.get? b = some a :=
    ids ▸ single.feeds.imp fun _ _ h => h.1
  have distinct : (Assoc.keys ([] : Assoc NodeResult) ++ nodes.map Prod.fst).Nodup := by
    simpa [Assoc.keys, ids] using single.distinct
  have first : ∀ id ∈ (nodes.map Prod.fst).head?, Execution.takenValue plan [] id = .null := by
    intro id _
    cases h : plan.incoming.get? id <;> simp [Execution.takenValue, h]
  rw [← ids, Execution.runNodes_eq_runAlong configs chain distinct first]
  simp

end GraphPlan

namespace GraphSpec

variable {spec other : GraphSpec} {functionId : String} {connectors : List String}
  {plan : GraphPlan}

theorem compile_eq_ok_iff :
    spec.compile functionId connectors = .ok plan ↔
      (spec.Configured ∧
        (DraftGraph.ofSpec spec).Sound spec.entryNodeId spec.returnNodeId connectors) ∧
      (DraftGraph.ofSpec spec).plan functionId spec = plan := by
  rw [← DraftGraph.allIssues_ofSpec_eq_nil_iff]
  by_cases h : (DraftGraph.ofSpec spec).allIssues spec connectors = [] <;> simp [compile, h]

/-- Two graphs have the same nodes and edges, however they are listed. -/
structure SameGraph (spec other : GraphSpec) : Prop where
  nodes : spec.nodes.Perm other.nodes
  edges : spec.edges.Perm other.edges
  entry : spec.entryNodeId = other.entryNodeId
  output : spec.returnNodeId = other.returnNodeId

theorem SameGraph.configured (same : spec.SameGraph other) (configured : spec.Configured) :
    other.Configured where
  distinct := (same.nodes.map _).nodup configured.distinct
  drafts node hm := configured.drafts node (same.nodes.symm.subset hm)
  ends edge hm := by
    obtain ⟨hs, ht⟩ := configured.ends edge (same.edges.symm.subset hm)
    exact ⟨(same.nodes.map _).subset hs, (same.nodes.map _).subset ht⟩

theorem SameGraph.sameParts (same : spec.SameGraph other) (configured : spec.Configured) :
    (DraftGraph.ofSpec spec).SameParts (DraftGraph.ofSpec other) := by
  have configured' := same.configured configured
  constructor
  · rw [DraftGraph.ofSpec_nodes configured, DraftGraph.ofSpec_nodes configured']
    exact same.nodes.filterMap _
  · intro link
    rw [DraftGraph.mem_ofSpec_links configured, DraftGraph.mem_ofSpec_links configured']
    simp only [same.edges.mem_iff]

theorem SameGraph.compile_eq_ok (same : spec.SameGraph other)
    (h : spec.compile functionId connectors = .ok plan) :
    ∃ plan', other.compile functionId connectors = .ok plan' ∧
      plan'.executionOrder = plan.executionOrder := by
  obtain ⟨⟨configured, sound⟩, rfl⟩ := compile_eq_ok_iff.mp h
  have configured' := same.configured configured
  have parts := same.sameParts configured
  have wf := DraftGraph.ofSpec_wellFormed configured
  have wf' := DraftGraph.ofSpec_wellFormed configured'
  refine ⟨_, compile_eq_ok_iff.mpr ⟨⟨configured', ?_⟩, rfl⟩, ?_⟩
  · exact same.entry ▸ same.output ▸ sound.of_sameParts parts wf wf'
  · have order := sound.executionOrder_sameParts parts wf wf'
    rwa [DraftGraph.plan, DraftGraph.plan, ← same.entry, ← same.output]

end GraphSpec

namespace FunctionDefinition

/-- A graph that compiles is run along a single chain from its entry to its return: its nodes are
told apart, each takes the value that the one before it has just made, and the chain is the same
however the nodes and edges are listed. -/
theorem compileGraph_singleChain {definition : FunctionDefinition} {connectors : List String}
    {plan : GraphPlan} (h : definition.compileGraph connectors = .ok plan) :
    ∃ spec, definition.body = .graph spec ∧ plan.returnNodeId = spec.returnNodeId ∧
      plan.SingleChain spec.entryNodeId ∧
      (∃ nodes : List (String × NodeConfig), nodes.map Prod.fst = plan.executionOrder ∧
        (∀ node ∈ nodes, plan.nodes.get? node.1 = some node.2) ∧
        ∀ execution : Execution,
          execution.runNodes plan [] plan.executionOrder = execution.runAlong .null nodes) ∧
      ∀ other, spec.SameGraph other → ∃ plan',
        { definition with body := .graph other }.compileGraph connectors = .ok plan' ∧
          plan'.executionOrder = plan.executionOrder := by
  obtain ⟨spec, hbody⟩ : ∃ spec, definition.body = .graph spec := by
    cases hb : definition.body with
    | flat pipeline => simp [compileGraph, hb] at h
    | graph spec => exact ⟨spec, rfl⟩
  have compiled : spec.compile definition.id connectors = .ok plan := by
    simpa [compileGraph, hbody] using h
  obtain ⟨⟨configured, sound⟩, rfl⟩ := GraphSpec.compile_eq_ok_iff.mp compiled
  have wf := DraftGraph.ofSpec_wellFormed configured
  have single := sound.plan_singleChain definition.id wf
  obtain ⟨nodes, ids, configs⟩ := sound.exists_configs definition.id wf
  exact ⟨spec, hbody, rfl, single, ⟨nodes, ids, configs, single.runNodes_eq ids configs⟩,
    fun other same => same.compile_eq_ok compiled⟩

/-- The first wards of a grid, by a graph with a second source that no node takes its value from;
nodes and edges are listed from the end, and the edges have no names of their own. -/
def firstWardsGraph : GraphSpec :=
  { nodes := [
      ⟨"out", "output.options", none, some [("mapping",
        .object [("label", .str "name"), ("value", .str "code")])]⟩,
      ⟨"few", "transform.limit", none, some [("count", .int 3)]⟩,
      ⟨"aside", "source.layout_fields", none, none⟩,
      ⟨"rows", "source.grid_rows", none, some [("gridId", .str "wards")]⟩,
      ⟨"begin", "control.start", none, none⟩]
    edges := [⟨"e", "few", "out", none, none⟩, ⟨"e", "begin", "aside", none, none⟩,
      ⟨"e", "rows", "few", none, none⟩, ⟨"e", "begin", "rows", none, none⟩]
    entryNodeId := "begin"
    returnNodeId := "out" }

def firstWards : FunctionDefinition :=
  ⟨"wards", "First wards", none, ⟨1, Nat.one_pos⟩, none, true, .graph firstWardsGraph⟩

theorem compileGraph_singleChain_firstWards :
    ∃ plan, firstWards.compileGraph [] = .ok plan ∧
      plan.executionOrder = ["begin", "rows", "few", "out"] ∧ plan.SingleChain "begin" ∧
      ∀ other, firstWardsGraph.SameGraph other → ∃ plan',
        { firstWards with body := .graph other }.compileGraph [] = .ok plan' ∧
          plan'.executionOrder = ["begin", "rows", "few", "out"] := by
  obtain ⟨plan, compiled, order⟩ : ∃ plan, firstWards.compileGraph [] = .ok plan ∧
      plan.executionOrder = ["begin", "rows", "few", "out"] := by
    have clean : (DraftGraph.ofSpec firstWardsGraph).allIssues firstWardsGraph [] = [] := by
      decide +kernel
    refine ⟨(DraftGraph.ofSpec firstWardsGraph).plan "wards" firstWardsGraph, ?_, ?_⟩
    · simp [compileGraph, firstWards, GraphSpec.compile, clean]
    · decide +kernel
  obtain ⟨spec, hbody, _, single, _, listings⟩ := compileGraph_singleChain compiled
  obtain rfl : firstWardsGraph = spec := FunctionBody.graph.inj hbody
  exact ⟨plan, compiled, order, single, order ▸ listings⟩

end FunctionDefinition

end GridRules
