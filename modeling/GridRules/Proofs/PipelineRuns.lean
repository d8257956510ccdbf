import GridRules.Proofs.LocalRuns
import GridRules.Proofs.PipelineGraphs
import GridRules.Proofs.PipelineParts

namespace GridRules

theorem normalizeRows_objects (rows : List Entries) :
    normalizeRows (.list (rows.map .object)) = rows := by
  simp [normalizeRows, rowOf, Function.comp_def]

namespace Execution

variable {execution : Execution}

/-- The options among the results of nodes. -/
def optionsOf (returnId : String) (results : Assoc NodeResult) : List OptionItem :=
  match results.get? returnId with
  | some (.options items) => items
  | _ => []

theorem runGraph_eq (plan : GraphPlan) :
    execution.runGraph plan =
      optionsOf plan.returnNodeId <$> execution.runNodes plan [] plan.executionOrder := by
  rw [map_eq_pure_bind]
  unfold runGraph optionsOf
  congr
  funext results
  cases results.get? plan.returnNodeId with
  | none => rfl
  | some result => cases result <;> rfl

theorem optionsOf_cons_of_ne {id returnId : String} (h : returnId ≠ id) (result : NodeResult)
    (results : Assoc NodeResult) :
    optionsOf returnId ((id, result) :: results) = optionsOf returnId results := by
  rw [optionsOf, optionsOf, Assoc.get?_cons, if_neg h]

/-- Nodes of transforms and the output behind them make the options that the transforms and the
mapping make. -/
theorem runAlong_steps {outputId : String} {steps : List (String × Transform)}
    (fresh : outputId ∉ steps.map Prod.fst) (mapping : OutputMapping) (rows : List Entries) :
    optionsOf outputId <$> execution.runAlong (.list (rows.map .object))
        (steps.map (fun step => (step.1, .transform step.2)) ++ [(outputId, .output mapping)]) =
      Run.ofExcept (Transform.applyAll (steps.map Prod.snd) rows execution.inputs) >>=
        fun rows => Run.ofExcept (mapping.options rows execution.inputs) := by
  induction steps generalizing rows with
  | nil =>
    have single (items : List OptionItem) :
        optionsOf outputId [(outputId, .options items)] = items := by
      simp [optionsOf, Assoc.get?_cons]
    simp [runAlong, runNode, Transform.applyAll, normalizeRows_objects, Run.ofExcept_ok, single]
  | cons step steps ih =>
    obtain ⟨id, step⟩ := step
    have hne : outputId ≠ id := fun he => fresh (by simp [he])
    have later : outputId ∉ steps.map Prod.fst := fun hm => fresh (List.mem_cons_of_mem _ hm)
    simp only [List.map_cons, List.cons_append, runAlong, runNode, Transform.applyAll,
      Run.ofExcept_bind, bind_assoc, pure_bind, map_bind, map_pure, optionsOf_cons_of_ne hne]
    -- what the step has made is handed on as a list of its rows
    refine bind_congr fun rows => ?_
    rw [← ih later rows, map_eq_pure_bind]
    rfl

theorem runNode_source {source : Source} {config : NodeConfig}
    (ofSource : NodeConfig.OfSource source config) (v : Value) :
    execution.runNode v config = NodeResult.ofRows <$> execution.sourceRows source := by
  cases ofSource with
  | gridRows gridId =>
    rw [map_eq_pure_bind]
    rfl
  | layoutFields source =>
    rw [sourceRows, map_pure]
    rfl

/-- The chain of a pipeline makes the options that the pipeline makes. -/
theorem runAlong_chainNodes {source : Source} {config : NodeConfig}
    (ofSource : NodeConfig.OfSource source config) {startId sourceId outputId : String}
    {steps : List (String × Transform)} (hstart : outputId ≠ startId)
    (hsource : outputId ≠ sourceId) (fresh : outputId ∉ steps.map Prod.fst)
    (mapping : OutputMapping) (named : Bool) :
    optionsOf outputId <$>
        execution.runAlong .null (chainNodes startId (sourceId, config) steps (outputId, mapping)) =
      execution.runFlat ⟨named, source, steps.map Prod.snd, mapping⟩ := by
  have start : execution.runNode .null .start = pure (.value (.object [
      ("args", .object execution.args), ("runtime", execution.context.runtime.toValue)])) := rfl
  simp only [chainNodes, runAlong, start, runNode_source ofSource, pure_bind, map_bind, map_pure,
    bind_map_left, bind_assoc, optionsOf_cons_of_ne hstart, optionsOf_cons_of_ne hsource, runFlat]
  refine bind_congr fun rows => ?_
  rw [← runAlong_steps fresh, map_eq_pure_bind]
  rfl

end Execution

namespace GraphSpec

variable {spec : GraphSpec} {chain : List GraphNode} {nodes : List (String × NodeConfig)}

/-- Nodes in line compile, and the plan runs them along the line. -/
theorem LinesUp.compile (lines : spec.LinesUp chain) (drafts : Drafted chain (draftsOf nodes))
    (along : (DraftGraph.ofSpec spec).Line spec.entryNodeId spec.returnNodeId (draftsOf nodes))
    (functionId : String) (connectors : List String) :
    ∃ plan, spec.compile functionId connectors = .ok plan ∧ plan.requiresRemote = false ∧
      ∀ execution : Execution, execution.runGraph plan =
        Execution.optionsOf spec.returnNodeId <$> execution.runAlong .null nodes := by
  have wf := DraftGraph.ofSpec_wellFormed (lines.configured drafts)
  have sound := along.sound wf connectors
  refine ⟨_, compile_eq_ok_iff.mpr ⟨⟨lines.configured drafts, sound⟩, rfl⟩,
    along.requiresRemote_eq functionId spec, fun execution => ?_⟩
  have single := sound.plan_singleChain functionId wf
  have ids : nodes.map Prod.fst =
      ((DraftGraph.ofSpec spec).plan functionId spec).executionOrder := by
    rw [DraftGraph.plan, along.executionOrder_eq wf, draftsOf, List.map_map]
    rfl
  have configs : ∀ node ∈ nodes,
      ((DraftGraph.ofSpec spec).plan functionId spec).nodes.get? node.1 = some node.2 := by
    intro node hn
    have found := along.node?_eq wf (List.mem_map_of_mem hn)
    rw [DraftGraph.plan_nodes_get? functionId spec wf]
    exact Option.bind_eq_some_iff.mpr ⟨_, found, rfl⟩
  rw [Execution.runGraph_eq, single.runNodes_eq ids configs]
  rfl

theorem LinesUp.line_chainNodes {source : Source} {config : NodeConfig}
    (ofSource : NodeConfig.OfSource source config) {startId sourceId : String}
    {steps : List (String × Transform)} {output : String × OutputMapping}
    (lines : spec.LinesUp chain)
    (drafts : Drafted chain (draftsOf (chainNodes startId (sourceId, config) steps output))) :
    (DraftGraph.ofSpec spec).Line spec.entryNodeId spec.returnNodeId
      (draftsOf (chainNodes startId (sourceId, config) steps output)) := by
  apply lines.line_ofSpec drafts
  case supplies => exact (List.isChain_map _).mpr (isChain_chainNodes ofSource)
  case first => exact ⟨_, rfl, rfl⟩
  case last =>
    refine ⟨.ofConfig output.1 (.output output.2), ?_, rfl⟩
    simp [chainNodes, draftsOf, List.getLast?_cons]
  case outputs =>
    rw [draftsOf, List.countP_map]
    exact countP_chainNodes ofSource
  case offline =>
    intro drafted hd
    obtain ⟨node, hn, rfl⟩ := List.mem_map.mp hd
    exact offline_chainNodes ofSource node hn

end GraphSpec

section Parts

variable {start source output : GraphNode} {steps : List GraphNode} {pipeline : Pipeline}
  {config : NodeConfig}

theorem drafted_steps {transforms : List Transform}
    (applies : List.Forall₂ GraphNode.Applies steps transforms) :
    Drafted steps (((steps.map GraphNode.id).zip transforms).map fun step =>
      .ofConfig step.1 (.transform step.2)) := by
  induction applies with
  | nil => exact .nil
  | cons h _ ih => exact .cons h.draft?_eq ih

theorem drafted_parts (ofSource : NodeConfig.OfSource pipeline.source config)
    (starts : start.Starts) (reads : source.Reads pipeline.source)
    (applies : List.Forall₂ GraphNode.Applies steps pipeline.transforms)
    (maps : output.Maps pipeline.output) :
    Drafted (start :: source :: (steps ++ [output]))
      (draftsOf (chainNodes start.id (source.id, config)
        ((steps.map GraphNode.id).zip pipeline.transforms) (output.id, pipeline.output))) := by
  refine .cons starts.draft?_eq (.cons (reads.draft?_eq ofSource) ?_)
  rw [List.map_append, List.map_map]
  exact List.rel_append (drafted_steps applies) (.cons maps.draft?_eq .nil)

end Parts

namespace FunctionDefinition

/-- A graph whose nodes are the parts of a pipeline in line, from the start to the output, comes to
what the pipeline comes to: options, warnings and whether the network is needed, or the same
interruption. -/
theorem execute_graph_eq_execute_flat {flat graph : FunctionDefinition} {pipeline : Pipeline}
    {spec : GraphSpec} {start source output : GraphNode} {steps : List GraphNode}
    (isFlat : flat.body = .flat pipeline) (isGraph : graph.body = .graph spec)
    (flatEnabled : flat.enabled = true) (graphEnabled : graph.enabled = true)
    (ofTracker : (∃ gridId, pipeline.source = .gridRows gridId) ∨
      ∃ fields, pipeline.source = .layoutFields fields)
    (starts : start.Starts) (reads : source.Reads pipeline.source)
    (applies : List.Forall₂ GraphNode.Applies steps pipeline.transforms)
    (maps : output.Maps pipeline.output)
    (lines : spec.LinesUp (start :: source :: (steps ++ [output]))) (execution : Execution) :
    (graph.execute execution).result = (flat.execute execution).result := by
  obtain ⟨config, ofSource⟩ : ∃ config, NodeConfig.OfSource pipeline.source config := by
    rcases ofTracker with ⟨gridId, h⟩ | ⟨fields, h⟩
    · exact ⟨.gridRows gridId, by rw [h]; exact .gridRows gridId⟩
    · exact ⟨.layoutFields fields, by rw [h]; exact .layoutFields fields⟩
  have drafts := drafted_parts ofSource starts reads applies maps
  obtain ⟨plan, compiled, offline, runs⟩ := lines.compile drafts
    (lines.line_chainNodes ofSource drafts) graph.id execution.connectors.keys
  have same : execution.runGraph plan = execution.runFlat pipeline := by
    have returns : output.id = spec.returnNodeId := by
      simpa [List.getLast?_cons] using lines.output
    have hlength : (steps.map GraphNode.id).length = pipeline.transforms.length := by
      rw [List.length_map, applies.length_eq]
    have distinct : (start.id :: source.id :: steps.map GraphNode.id ++ [output.id]).Nodup := by
      simpa using lines.distinct
    obtain ⟨hstart, hsource, hsteps⟩ : output.id ≠ start.id ∧ output.id ≠ source.id ∧
        output.id ∉ steps.map GraphNode.id := by
      simpa using not_mem_front distinct
    have fresh : output.id ∉
        ((steps.map GraphNode.id).zip pipeline.transforms).map Prod.fst := by
      rwa [List.map_fst_zip hlength.le]
    rw [runs, ← returns, Execution.runAlong_chainNodes ofSource hstart hsource fresh
      pipeline.output pipeline.namesEngine, List.map_snd_zip hlength.ge]
  have notRemote : pipeline.source.isRemote = false := by
    rcases ofTracker with ⟨_, h⟩ | ⟨_, h⟩ <;> rw [h] <;> rfl
  simp [execute, executeWith, compileGraph, isFlat, isGraph, flatEnabled, graphEnabled, compiled,
    Execution.executePlan, Execution.executePipeline, offline, notRemote, same,
    execution.finish_result]

def openRooms : Pipeline :=
  { namesEngine := true
    source := .gridRows "rooms"
    transforms := [.filter ⟨false, [⟨"state", .eq, .str "open", none, none⟩], none⟩,
      .limit ⟨20, Nat.succ_pos 19⟩]
    output := ⟨.path "name", .path "code", none, none⟩ }

/-- The nodes of a graph for the same pipeline. -/
def openRoomNodes : List GraphNode := [
  ⟨"begin", "control.start", none, none⟩,
  ⟨"rows", "source.grid_rows", none, some [("gridId", .str "rooms")]⟩,
  ⟨"open", "transform.filter", none, some [("predicates", .list [.object [
    ("field", .str "state"), ("op", .str "eq"), ("value", .str "open")]])]⟩,
  ⟨"few", "transform.limit", none, some [("count", .int 20)]⟩,
  ⟨"out", "output.options", none, some [("mapping",
    .object [("label", .str "name"), ("value", .str "code")])]⟩]

def openRoomGraph : GraphSpec :=
  { nodes := openRoomNodes.reverse
    edges := [⟨"e", "few", "out", none, none⟩, ⟨"e", "open", "few", none, none⟩,
      ⟨"e", "begin", "rows", none, none⟩, ⟨"e", "rows", "open", none, none⟩]
    entryNodeId := "begin"
    returnNodeId := "out" }

theorem execute_graph_eq_execute_flat_openRooms :
    openRoomGraph.LinesUp openRoomNodes ∧ ∀ execution : Execution,
      (FunctionDefinition.execute ⟨"graph", "Open rooms", none, ⟨1, Nat.one_pos⟩, none, true,
        .graph openRoomGraph⟩ execution).result =
      (FunctionDefinition.execute ⟨"flat", "Open rooms", none, ⟨1, Nat.one_pos⟩, none, true,
        .flat openRooms⟩ execution).result := by
  have starts : openRoomNodes[0].Starts := ⟨by decide, by decide⟩
  have reads : openRoomNodes[1].Reads openRooms.source :=
    ⟨.gridRows, by decide, by decide, by rfl⟩
  have applies : List.Forall₂ GraphNode.Applies [openRoomNodes[2], openRoomNodes[3]]
      openRooms.transforms :=
    .cons ⟨.filter, by decide, by decide, by rfl⟩
      (.cons ⟨.limit, by decide, by decide, by rfl⟩ .nil)
  have maps : openRoomNodes[4].Maps openRooms.output := ⟨by decide, _, rfl, by rfl⟩
  have lines : openRoomGraph.LinesUp openRoomNodes :=
    ⟨List.reverse_perm _, by decide, by decide, by decide, by decide⟩
  exact ⟨lines, execute_graph_eq_execute_flat rfl rfl rfl rfl (.inl ⟨"rooms", rfl⟩) starts reads
    applies maps lines⟩

end FunctionDefinition

end GridRules
