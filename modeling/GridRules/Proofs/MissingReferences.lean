import GridRules.Proofs.NodeReferences
import GridRules.Schema.Validate
/-!
What the check of a tracker promises to executions of its functions. Graphs compile, and sources
find what they refer to, apart from two things that the check does not look at in a graph: grids,
and a connector under `connector_id` where there are no connectors at all.
-/

namespace GridRules

namespace ValidationReport

theorem errors_foldl_merge {α : Type} (f : α → ValidationReport) (items : List α)
    (report : ValidationReport) :
    (items.foldl (fun report item => report.merge (f item)) report).errors =
      report.errors ++ items.flatMap fun item => (f item).errors := by
  induction items generalizing report with
  | nil => exact (List.append_nil _).symm
  | cons item items ih =>
    rw [List.foldl_cons, ih, List.flatMap_cons, ← List.append_assoc]
    rfl

end ValidationReport

namespace Tracker

variable {tracker : Tracker}

/-- In a report without errors there is none on an option function. -/
theorem functionErrors_of_validate {report : ValidationReport}
    (valid : tracker.validate = .ok report) (clean : report.errors = []) {key : String}
    {definition : FunctionDefinition} (mem : (key, definition) ∈ tracker.options.functions) :
    tracker.functionErrors definition = [] := by
  obtain ⟨calculations, -, valid⟩ := bind_eq_ok_iff.mp valid
  obtain ⟨rules, -, valid⟩ := bind_eq_ok_iff.mp valid
  obtain rfl := pure_eq_ok_iff.mp valid
  simp only [ValidationReport.merge, List.append_eq_nil_iff] at clean
  have functions := clean.2
  rw [checkOptionFunctions, ValidationReport.errors_foldl_merge, List.nil_append,
    List.flatMap_eq_nil_iff] at functions
  exact List.map_eq_nil_iff.mp (functions _ mem)

/-- A source without a problem refers to nothing that is missing. -/
theorem not_missing_of_sourceProblem? {execution : Execution} {source : Source} {w : String}
    (h : execution.context.tracker.sourceProblem? source = none)
    (own : execution.connectors = execution.context.connectors) :
    ¬ execution.Missing source w := by
  rintro (⟨absent, -⟩ | ⟨absent⟩ | ⟨unknown⟩)
  · simp [sourceProblem?, absent] at h
  · have absent : execution.context.tracker.options.connectors.get? _ = none := own ▸ absent
    simp [sourceProblem?, Assoc.has, absent] at h
  · simp [sourceProblem?, unknown] at h

/-- Without connectors, no request of a checked graph names one. -/
theorem namedConnector?_eq_none {spec : GraphSpec} (h : tracker.connectorProblems spec = [])
    (alone : tracker.options.connectors = []) {node : GraphNode} (hnode : node ∈ spec.nodes) :
    namedConnector? node = none := by
  simp only [connectorProblems, alone, List.isEmpty_nil, Bool.not_true, Bool.false_eq_true,
    if_false, List.filterMap_eq_nil_iff] at h
  exact Option.map_eq_none_iff.mp (h node hnode)

end Tracker

namespace GraphSpec

variable {spec : GraphSpec} {functionId : String} {connectors : List String}

theorem issues_ne_nil_of_compile {issues : List CompileIssue}
    (h : spec.compile functionId connectors = .error issues) : issues ≠ [] := by
  unfold compile at h
  dsimp only at h
  split at h
  next => cases h
  next hne =>
    obtain rfl := Except.error.inj h
    exact fun hnil => hne (List.isEmpty_iff.mpr hnil)

end GraphSpec

namespace Execution

/-- What a node of a graph refers to is missing, as a warning says, and the check of the tracker
does not see it: it does not look at grids, and it looks for no other spelling than
`connectorId`. -/
inductive Overlooked (execution : Execution) (node : GraphNode) : String → Prop where
  | grid {gridId : String} (kind : node.kind = NodeKind.gridRows.name)
      (refers : node.reference "gridId" = .ok gridId)
      (absent : execution.context.tracker.grid? gridId = none)
      (empty : execution.context.gridData.has gridId = false) :
    Overlooked execution node ("Grid \"" ++ gridId ++ "\" not found")
  | connector {connectorId : String} (kind : node.kind = NodeKind.httpGet.name)
      (refers : node.reference "connectorId" = .ok connectorId)
      (alone : execution.context.connectors = [])
      (respelled : (node.config.getD []).has "connectorId" = false) :
    Overlooked execution node ("Connector \"" ++ connectorId ++ "\" not found")

end Execution

namespace FunctionDefinition

/-- A plan was compiled from a graph that is cached under the same text as the definition. -/
def PlannedAlike (definition : FunctionDefinition) (connectors : List String)
    (compiled : Except (List CompileIssue) GraphPlan) : Prop :=
  ∀ plan, compiled = .ok plan → ∃ (other : FunctionDefinition) (connectors' : List String),
    other.compileGraph connectors' = .ok plan ∧
      graphText other connectors' = graphText definition connectors

section Checked

variable {definition : FunctionDefinition} {execution : Execution}
  (clean : execution.context.tracker.functionErrors definition = [])
  (own : execution.connectors = execution.context.connectors)

include clean own

/-- The graph of a checked function compiles, with the connectors that it is executed with. -/
theorem compiles_of_functionErrors (graph : definition.isGraph = true) :
    ∃ plan, definition.compileGraph execution.connectors.keys = .ok plan := by
  rw [own, OptionsContext.connectors]
  cases hbody : definition.body with
  | flat pipeline => simp [isGraph, hbody, FunctionBody.isGraph] at graph
  | graph spec =>
    simp only [Tracker.functionErrors, compileGraph, hbody, List.append_eq_nil_iff] at clean ⊢
    cases hcompiled : spec.compile definition.id
        execution.context.tracker.options.connectors.keys with
    | ok plan => exact ⟨plan, rfl⟩
    | error issues =>
      rw [hcompiled] at clean
      exact absurd (List.map_eq_nil_iff.mp clean.1) (GraphSpec.issues_ne_nil_of_compile hcompiled)

/-- What is missing in a source of a checked function is overlooked in a node of its graph. -/
theorem exists_overlooked {compiled : Except (List CompileIssue) GraphPlan}
    (planned : definition.PlannedAlike execution.connectors.keys compiled) {source : Source}
    {w : String} (reads : definition.Reads compiled source)
    (missing : execution.Missing source w) :
    ∃ spec node, definition.body = .graph spec ∧ node ∈ spec.nodes ∧
      execution.Overlooked node w := by
  cases hbody : definition.body with
  | flat pipeline =>
    simp only [Reads, hbody] at reads
    simp only [Tracker.functionErrors, hbody, Option.toList_eq_nil_iff] at clean
    exact absurd missing (Tracker.not_missing_of_sourceProblem? (reads ▸ clean) own)
  | graph spec =>
    cases compiled with
    | error issues => simp only [Reads, hbody] at reads
    | ok plan =>
      simp only [Reads, hbody] at reads
      obtain ⟨other, connectors, hcompiled, htext⟩ := planned plan rfl
      obtain ⟨spec', hbody'⟩ := exists_spec_of_compileGraph hcompiled
      simp only [compileGraph, hbody'] at hcompiled
      obtain ⟨⟨node', hnode', names'⟩, connected⟩ :=
        GraphSpec.exists_names_of_compile hcompiled reads
      obtain ⟨-, hform, hconnectors⟩ := alike_of_graphText htext.symm
      rw [hbody, hbody'] at hform
      obtain ⟨node, hnode, names⟩ := GraphSpec.exists_names_of_form_eq hform hnode' names'
      refine ⟨spec, node, rfl, hnode, ?_⟩
      cases missing with
      | grid absent empty => exact .grid names.1 names.2 absent empty
      | builtin => exact names.elim
      | connector absent =>
        have alone : execution.context.connectors = [] := by
          rcases connected with rfl | hmem
          · have none : execution.connectors.keys = [] :=
              List.eq_nil_iff_forall_not_mem.mpr fun id hid =>
                List.not_mem_nil ((hconnectors id).mp hid)
            exact own ▸ List.map_eq_nil_iff.mp none
          · exact absurd ((hconnectors _).mpr (hmem _ rfl)) (Assoc.get?_eq_none_iff.mp absent)
        refine .connector names.1 names.2 alone ?_
        have unnamed : Tracker.namedConnector? node = none := by
          simp only [Tracker.functionErrors, hbody, List.append_eq_nil_iff] at clean
          exact Tracker.namedConnector?_eq_none clean.2 alone hnode
        cases hspelled : (node.config.getD []).has "connectorId" with
        | false => rfl
        | true => exact absurd unnamed (GraphNode.namedConnector?_ne_none names.1 names.2 hspelled)

end Checked

/-- A plan, from the cache too, is one for the graph as it is written back. -/
theorem plannedAlike_of_run (limit : Positive) {calls : List (FunctionDefinition × List String)}
    {definition : FunctionDefinition} {connectors : List String}
    {compiled : Except (List CompileIssue) GraphPlan}
    (tellsApart : Sha256.TellsApart fun text =>
      ∃ call, (call = (definition, connectors) ∨ call ∈ calls) ∧ text = graphText call.1 call.2)
    (h : compiled = definition.compileGraph connectors ∨
      compiled = (definition.compileGraphCached connectors (PlanCache.after limit calls)).1) :
    definition.PlannedAlike connectors compiled ∧
      ((∃ plan, definition.compileGraph connectors = .ok plan) → ∃ plan, compiled = .ok plan) := by
  rcases h with rfl | rfl
  · exact ⟨fun plan hplan => ⟨definition, connectors, hplan, rfl⟩, fun h => h⟩
  rcases definition.compileGraphCached_fst connectors (PlanCache.after limit calls) with
    hnew | ⟨found, hfound, hold⟩
  · rw [hnew]
    exact ⟨fun plan hplan => ⟨definition, connectors, hplan, rfl⟩, fun h => h⟩
  · obtain ⟨call, hm, hkey, hcall⟩ := PlanCache.holds_after limit calls _ _ hfound
    rw [graphSignature_eq, graphSignature_eq] at hkey
    rw [hold]
    refine ⟨fun plan hplan => ⟨call.1, call.2, ?_, ?_⟩, fun _ => ⟨found, rfl⟩⟩
    · exact hcall.trans hplan
    · exact tellsApart _ _ ⟨call, .inr hm, rfl⟩ ⟨_, .inl rfl, rfl⟩ hkey

/-- In a tracker whose check reports no error, the graph of every function compiles, and an
execution with the connectors of the tracker warns of nothing as not found but of what the check
overlooks in a node of a graph. -/
theorem execute_finds_references (limit : Positive)
    (calls : List (FunctionDefinition × List String)) (definition : FunctionDefinition)
    (execution : Execution) {run : Run ExecutionResult}
    {compiled : Except (List CompileIssue) GraphPlan}
    (hrun : run = definition.execute execution ∧
        compiled = definition.compileGraph execution.connectors.keys ∨
      run = (definition.executeCached execution (PlanCache.after limit calls)).1 ∧
        compiled = (definition.compileGraphCached execution.connectors.keys
          (PlanCache.after limit calls)).1)
    (tellsApart : Sha256.TellsApart fun text =>
      ∃ call, (call = (definition, execution.connectors.keys) ∨ call ∈ calls) ∧
        text = graphText call.1 call.2)
    {report : ValidationReport} (valid : execution.context.tracker.validate = .ok report)
    (clean : report.errors = []) {key : String}
    (mem : (key, definition) ∈ execution.context.functions)
    (own : execution.connectors = execution.context.connectors) :
    (definition.isGraph = true → ∃ plan, compiled = .ok plan) ∧
      ∀ result, run.result = .ok result → ∀ w ∈ result.warnings, NotFound w →
        ∃ spec node, definition.body = .graph spec ∧ node ∈ spec.nodes ∧
          execution.Overlooked node w := by
  have clean := Tracker.functionErrors_of_validate valid clean mem
  have hwith : run = definition.executeWith execution compiled := by
    rcases hrun with ⟨rfl, rfl⟩ | ⟨rfl, rfl⟩
    · rfl
    · exact definition.executeCached_fst execution _
  obtain ⟨planned, compiles⟩ :=
    plannedAlike_of_run limit tellsApart (hrun.imp And.right And.right)
  have compiles : definition.isGraph = true → ∃ plan, compiled = .ok plan :=
    fun graph => compiles (compiles_of_functionErrors clean own graph)
  refine ⟨compiles, fun result hresult w hw found => ?_⟩
  obtain ⟨source, reads, missing⟩ := accounts_executeWith compiles (hwith ▸ hresult) w hw found
  exact exists_overlooked clean own planned reads missing

/-- A tracker with these grids and functions, and with nothing else. -/
def trackerWith (gridIds : List String) (functions : List FunctionDefinition) : Tracker where
  tabs := []
  sections := []
  grids := gridIds.map fun gridId => ⟨gridId, gridId, none, none⟩
  fields := []
  layoutNodes := []
  validations := []
  calculations := []
  options := ⟨functions.map fun definition => (definition.id, definition), []⟩

theorem validate_trackerWith {gridIds : List String} {functions : List FunctionDefinition}
    (layout : (trackerWith gridIds functions).checkLayout = ⟨[], []⟩)
    (options : (trackerWith gridIds functions).checkOptionFunctions = ⟨[], []⟩) :
    (trackerWith gridIds functions).validate = .ok ⟨[], []⟩ := by
  have cycles : elementaryCycles [] = [] := by decide +kernel
  have checked : (trackerWith gridIds functions).checkedCalculations = .ok [] := rfl
  have calculations : (trackerWith gridIds functions).checkCalculations = .ok ⟨[], []⟩ := by
    simp [Tracker.checkCalculations, checked, cycles, bind, Except.bind, pure, Except.pure]
  have rules : (trackerWith gridIds functions).checkRules = .ok ⟨[], []⟩ := rfl
  rw [Tracker.validate, calculations, rules, layout, options]
  rfl

/-- An execution where the network is allowed and nobody answers. -/
def executionIn (tracker : Tracker) : Execution where
  executor := ⟨.default, true, [],
    { fetch := fun _ => .failed "timeout", secret := none, ai := none, remote := none }⟩
  context := ⟨tracker, [], .nowhere⟩
  args := []

theorem execute_finds_references_firstWards :
    (trackerWith ["wards"] [firstWards]).validate = .ok ⟨[], []⟩ ∧
      (∃ plan, firstWards.compileGraph [] = .ok plan) ∧
      ∀ result, (firstWards.execute (executionIn (trackerWith ["wards"] [firstWards]))).result =
        .ok result → ∀ w ∈ result.warnings, ¬ NotFound w := by
  have valid : (trackerWith ["wards"] [firstWards]).validate = .ok ⟨[], []⟩ :=
    validate_trackerWith (by decide +kernel) (by decide +kernel)
  have tellsApart : Sha256.TellsApart fun text => ∃ call,
      (call = (firstWards, []) ∨ call ∈ []) ∧ text = graphText call.1 call.2 := by
    rintro _ _ ⟨call, rfl | hm, rfl⟩ ⟨other, rfl | hm', rfl⟩ -
    · rfl
    · cases hm'
    · cases hm
    · cases hm
  obtain ⟨compiles, finds⟩ := execute_finds_references ⟨1, Nat.one_pos⟩ [] firstWards
    (executionIn (trackerWith ["wards"] [firstWards])) (.inl ⟨rfl, rfl⟩) tellsApart valid rfl
    (List.mem_singleton_self ("wards", firstWards)) rfl
  refine ⟨valid, compiles rfl, fun result hresult w hw found => ?_⟩
  obtain ⟨spec, node, hbody, hnode, overlooked⟩ := finds result hresult w hw found
  obtain rfl : firstWardsGraph = spec := FunctionBody.graph.inj hbody
  cases overlooked with
  | connector kind =>
    have others : ∀ node ∈ firstWardsGraph.nodes, node.kind ≠ NodeKind.httpGet.name := by decide
    exact others node hnode kind
  | @grid gridId kind refers absent =>
    have only : ∀ node ∈ firstWardsGraph.nodes, node.kind = NodeKind.gridRows.name →
        node = ⟨"rows", "source.grid_rows", none, some [("gridId", .str "wards")]⟩ := by decide
    rw [only node hnode kind] at refers
    obtain rfl : "wards" = gridId := Decoded.ok.inj refers
    cases absent

/-- A function that lists what one node gives, by their names. -/
def listing (id : String) (source : GraphNode) : FunctionDefinition :=
  ⟨id, id, none, ⟨1, Nat.one_pos⟩, none, true, .graph {
    nodes := [⟨"begin", "control.start", none, none⟩, source,
      ⟨"out", "output.options", none, some [("mapping",
        .object [("label", .str "name"), ("value", .str "code")])]⟩]
    edges := [⟨"e", "begin", source.id, none, none⟩, ⟨"e", source.id, "out", none, none⟩]
    entryNodeId := "begin"
    returnNodeId := "out" }⟩

def roomRows : GraphNode :=
  ⟨"rows", "source.grid_rows", none, some [("gridId", .str "rooms")]⟩

def askRespelled : GraphNode :=
  ⟨"ask", "source.http_get", none, some [
    ("connector_id", .str "registry"), ("path", .str "/wards")]⟩

/-- The check of a tracker without grids and connectors lets two graphs pass that refer to one of
each. -/
def unseen : Tracker :=
  trackerWith [] [listing "rooms" roomRows, listing "wards" askRespelled]

theorem execute_misses_references :
    unseen.validate = .ok ⟨[], []⟩ ∧
      ((listing "rooms" roomRows).execute (executionIn unseen)).result =
        .ok ⟨[], false, ["Grid \"rooms\" not found"]⟩ ∧
      ((listing "wards" askRespelled).execute (executionIn unseen)).result =
        .ok ⟨[], false, ["Connector \"registry\" not found"]⟩ ∧
      NotFound "Grid \"rooms\" not found" ∧ NotFound "Connector \"registry\" not found" := by
  refine ⟨?_, ?_, ?_, .grid "rooms", .connector "registry"⟩
  · exact validate_trackerWith (by decide +kernel) (by decide +kernel)
  · decide +kernel
  · decide +kernel

end FunctionDefinition

end GridRules
