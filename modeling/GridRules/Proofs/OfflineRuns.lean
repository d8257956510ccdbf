import GridRules.Proofs.CanonicalForms
import GridRules.Proofs.CompiledGraphs
import GridRules.Proofs.LocalRuns
import GridRules.Proofs.PipelineParts
import GridRules.Proofs.PlanCaches

namespace GridRules

open Canonical (form)

theorem GraphNode.ofName?_of_draft? {node : GraphNode} {drafted : DraftNode}
    (h : node.draft? = some drafted) : NodeKind.ofName? node.kind = some drafted.kind := by
  obtain ⟨kind, hkind, h⟩ := Option.bind_eq_some_iff.mp h
  split at h
  next =>
    obtain rfl := Option.some.inj h
    exact hkind
  next => simp at h

theorem GraphNode.idKind_of_form_eq {node other : GraphNode}
    (h : form (node.toValue true) = form (other.toValue true)) :
    (node.id, node.kind) = (other.id, other.kind) :=
  Prod.ext (Canonical.str_alike (Canonical.field_alike "id" h))
    (Canonical.str_alike (Canonical.field_alike "kind" h))

theorem GraphEdge.ends_of_form_eq {edge other : GraphEdge}
    (h : form (edge.toValue true) = form (other.toValue true)) :
    (edge.source, edge.target) = (other.source, other.target) :=
  Prod.ext (Canonical.str_alike (Canonical.field_alike "source" h))
    (Canonical.str_alike (Canonical.field_alike "target" h))

namespace GraphSpec

/-- An edge leads from one node to the other. -/
def Leads (spec : GraphSpec) (a b : String) : Prop :=
  ∃ edge ∈ spec.edges, edge.source = a ∧ edge.target = b

/-- A node that makes a request or asks a model is on the way to the return. -/
def HasRemoteStep (spec : GraphSpec) : Prop :=
  ∃ node ∈ spec.nodes,
    (node.kind = NodeKind.httpGet.name ∨ node.kind = NodeKind.aiExtract.name) ∧
      Relation.ReflTransGen spec.Leads node.id spec.returnNodeId

variable {spec other : GraphSpec} {functionId : String} {connectors : List String}
  {plan : GraphPlan}

theorem linked_ofSpec (configured : spec.Configured) :
    (DraftGraph.ofSpec spec).links.Linked = spec.Leads := by
  funext a b
  simp only [LinkGraph.Linked, Leads, DraftGraph.mem_ofSpec_links configured, eq_iff_iff]
  constructor
  · rintro ⟨_, ⟨edge, hm, rfl⟩, hs, ht⟩
    exact ⟨edge, hm, hs, ht⟩
  · rintro ⟨edge, hm, hs, ht⟩
    exact ⟨edge.link, ⟨edge, hm, rfl⟩, hs, ht⟩

/-- A plan needs the network just if a node that it runs does. -/
theorem requiresRemote_iff (h : spec.compile functionId connectors = .ok plan) :
    plan.requiresRemote = true ↔ ∃ id ∈ plan.executionOrder, ∃ config,
      plan.nodes.get? id = some config ∧ config.kind.isRemote = true := by
  obtain ⟨⟨configured, sound⟩, rfl⟩ := compile_eq_ok_iff.mp h
  have wf := DraftGraph.ofSpec_wellFormed configured
  simp only [DraftGraph.plan_nodes_get? functionId spec wf]
  simp only [DraftGraph.plan, List.any_eq_true, List.mem_filterMap, Option.map_eq_some_iff]
  constructor
  · rintro ⟨_, ⟨id, hm, node, hn, rfl⟩, remote⟩
    obtain ⟨config, hc, hk⟩ := wf.configured node (DraftGraph.mem_of_node? hn).1
    exact ⟨id, hm, config, by rw [hn, Option.bind_some, hc], hk ▸ remote⟩
  · rintro ⟨id, hm, config, hc, remote⟩
    obtain ⟨node, hn, hc⟩ := Option.bind_eq_some_iff.mp hc
    obtain ⟨config', hc', hk⟩ := wf.configured node (DraftGraph.mem_of_node? hn).1
    obtain rfl := Option.some.inj (hc.symm.trans hc')
    exact ⟨_, ⟨id, hm, node, hn, rfl⟩, hk ▸ remote⟩

/-- The way to the return passes the entry, so all that leads to the return is run. -/
theorem mem_executionOrder_of_leads (h : spec.compile functionId connectors = .ok plan)
    {id : String} (leads : Relation.ReflTransGen spec.Leads id spec.returnNodeId) :
    id ∈ plan.executionOrder := by
  obtain ⟨⟨configured, sound⟩, rfl⟩ := compile_eq_ok_iff.mp h
  have wf := DraftGraph.ofSpec_wellFormed configured
  obtain ⟨chain, hfirst, hlast, _⟩ := sound.executionOrder_isChain wf
  exact mem_path_of_reflTransGen chain hfirst hlast sound.not_linked_entry
    (sound.linked_unique wf) (linked_ofSpec configured ▸ leads)

theorem requiresRemote_of_hasRemoteStep (h : spec.compile functionId connectors = .ok plan)
    (remote : spec.HasRemoteStep) : plan.requiresRemote = true := by
  obtain ⟨node, hm, hkind, leads⟩ := remote
  have run := mem_executionOrder_of_leads h leads
  obtain ⟨⟨configured, _⟩, rfl⟩ := compile_eq_ok_iff.mp h
  have wf := DraftGraph.ofSpec_wellFormed configured
  obtain ⟨drafted, hd⟩ := Option.isSome_iff_exists.mp (configured.drafts node hm)
  obtain ⟨hid, config, hc, hk⟩ := GraphNode.of_draft? hd
  have drafts : drafted ∈ (DraftGraph.ofSpec spec).nodes := by
    rw [DraftGraph.ofSpec_nodes configured]
    exact List.mem_filterMap.mpr ⟨node, hm, hd⟩
  have hn := DraftGraph.node?_of_mem wf.distinct drafts
  refine (requiresRemote_iff h).mpr ⟨node.id, run, config, ?_, ?_⟩
  · rw [DraftGraph.plan_nodes_get? functionId spec wf, ← hid, hn, Option.bind_some, hc]
  · rw [hk]
    have hname := GraphNode.ofName?_of_draft? hd
    rcases hkind with hkind | hkind <;>
      (rw [hkind, GraphNode.ofName?_name, Option.some.injEq] at hname; rw [← hname]; rfl)

/-- Two graphs have nodes of the same kinds under the same ids, and edges between the same nodes. -/
structure SameShape (spec other : GraphSpec) : Prop where
  nodes : spec.nodes.map (fun node => (node.id, node.kind)) =
    other.nodes.map fun node => (node.id, node.kind)
  edges : spec.edges.map (fun edge => (edge.source, edge.target)) =
    other.edges.map fun edge => (edge.source, edge.target)
  output : spec.returnNodeId = other.returnNodeId

theorem leads_iff {a b : String} :
    spec.Leads a b ↔ (a, b) ∈ spec.edges.map fun edge => (edge.source, edge.target) := by
  simp [Leads]

theorem SameShape.hasRemoteStep (same : spec.SameShape other) (h : spec.HasRemoteStep) :
    other.HasRemoteStep := by
  obtain ⟨node, hm, hkind, leads⟩ := h
  have hleads : spec.Leads = other.Leads := by
    funext a b
    rw [eq_iff_iff, leads_iff, leads_iff, same.edges]
  have hm : (node.id, node.kind) ∈ other.nodes.map fun node => (node.id, node.kind) :=
    same.nodes ▸ List.mem_map_of_mem hm
  obtain ⟨node', hm', he⟩ := List.mem_map.mp hm
  obtain ⟨hid, hk⟩ := Prod.mk.inj he
  exact ⟨node', hm', hk ▸ hkind, by rwa [hid, ← same.output, ← hleads]⟩

/-- Graphs that are written back alike have the same shape. -/
theorem sameShape_of_form_eq (h : form (spec.toValue true) = form (other.toValue true)) :
    spec.SameShape other where
  nodes := Canonical.map_alike (fun _ _ => GraphNode.idKind_of_form_eq)
    (Canonical.field_alike "nodes" h)
  edges := Canonical.map_alike (fun _ _ => GraphEdge.ends_of_form_eq)
    (Canonical.field_alike "edges" h)
  output := Canonical.str_alike (Canonical.field_alike "returnNodeId" h)

end GraphSpec

/-- The execution with others to call. -/
def Execution.calling (execution : Execution) (collaborators : Collaborators) : Execution :=
  { execution with executor := { execution.executor with collaborators := collaborators } }

theorem GraphSpec.gated_of_compile {spec : GraphSpec} {functionId : String}
    {connectors : List String} {plan : GraphPlan}
    (h : spec.compile functionId connectors = .ok plan) : plan.Gated := by
  intro offline id hm config hc
  by_contra hremote
  have hremote := (requiresRemote_iff h).mpr ⟨id, hm, config, hc, by simpa using hremote⟩
  simp [offline] at hremote

namespace FunctionDefinition

variable {definition : FunctionDefinition} {execution : Execution}

theorem executeWith_calling {compiled : Except (List CompileIssue) GraphPlan}
    (offline : execution.executor.allowHttp = false)
    (gated : ∀ plan, compiled = .ok plan → plan.Gated) (collaborators : Collaborators) :
    definition.executeWith (execution.calling collaborators) compiled =
      definition.executeWith execution compiled := by
  have offline' : (execution.calling collaborators).executor.allowHttp = false := offline
  rw [← executeWith_seen offline gated, ← executeWith_seen offline' gated]
  rfl

/-- What a definition executes needs the network or a model. -/
def NeedsRemote (definition : FunctionDefinition) : Prop :=
  match definition.body with
  | .flat pipeline => ∃ source, pipeline.source = .httpGet source
  | .graph spec => spec.HasRemoteStep

/-- There is a plan for the definition if it is a graph. -/
def Compiles (definition : FunctionDefinition) (connectors : List String) : Prop :=
  definition.isGraph = true → ∃ plan, definition.compileGraph connectors = .ok plan

theorem executeWith_needsServer {compiled : Except (List CompileIssue) GraphPlan}
    (offline : execution.executor.allowHttp = false) (enabled : definition.enabled = true)
    (needs : definition.NeedsRemote)
    (planned : ∀ spec, definition.body = .graph spec →
      ∃ plan, compiled = .ok plan ∧ plan.requiresRemote = true) :
    definition.executeWith execution compiled = pure (.needsServer definition.id) := by
  unfold executeWith
  unfold NeedsRemote at needs
  cases hbody : definition.body with
  | flat pipeline =>
    rw [hbody] at needs
    obtain ⟨source, hsource⟩ := needs
    simp [enabled, Execution.executePipeline, hsource, Source.isRemote, offline]
  | graph spec =>
    obtain ⟨plan, rfl, remote⟩ := planned spec hbody
    simp [enabled, Execution.executePlan, remote, offline]

theorem gated_of_compileGraph {connectors : List String} {plan : GraphPlan}
    (h : definition.compileGraph connectors = .ok plan) : plan.Gated := by
  unfold compileGraph at h
  split at h
  · cases h
  · exact GraphSpec.gated_of_compile h

theorem requiresRemote_of_needsRemote {connectors : List String} {plan : GraphPlan}
    (needs : definition.NeedsRemote) (h : definition.compileGraph connectors = .ok plan) :
    plan.requiresRemote = true := by
  unfold compileGraph at h
  unfold NeedsRemote at needs
  split at h
  next => cases h
  next spec hbody =>
    rw [hbody] at needs
    exact GraphSpec.requiresRemote_of_hasRemoteStep h needs

section Cached

variable (limit : Positive) (calls : List (FunctionDefinition × List String))

theorem gated_of_compileGraphCached {connectors : List String} {plan : GraphPlan}
    (h : (definition.compileGraphCached connectors (PlanCache.after limit calls)).1 = .ok plan) :
    plan.Gated := by
  rcases definition.compileGraphCached_fst connectors (PlanCache.after limit calls) with
    hnew | ⟨found, hfound, hold⟩
  · exact gated_of_compileGraph (hnew.symm.trans h)
  · obtain rfl : found = plan := Except.ok.inj (hold.symm.trans h)
    obtain ⟨call, -, -, hcall⟩ := PlanCache.holds_after limit calls _ _ hfound
    exact gated_of_compileGraph hcall

/-- A plan from the cache is marked as one for the network if the graph needs it. -/
theorem exists_remote_plan {connectors : List String}
    (tellsApart : Sha256.TellsApart fun text =>
      ∃ call, (call = (definition, connectors) ∨ call ∈ calls) ∧ text = graphText call.1 call.2)
    (needs : definition.NeedsRemote) (compiles : definition.Compiles connectors)
    {spec : GraphSpec} (hbody : definition.body = .graph spec) :
    ∃ plan, (definition.compileGraphCached connectors (PlanCache.after limit calls)).1 =
      .ok plan ∧ plan.requiresRemote = true := by
  rcases definition.compileGraphCached_fst connectors (PlanCache.after limit calls) with
    hnew | ⟨plan, hfound, hold⟩
  · obtain ⟨plan, hplan⟩ := compiles (by rw [isGraph, hbody, FunctionBody.isGraph])
    exact ⟨plan, hnew.trans hplan, requiresRemote_of_needsRemote needs hplan⟩
  · obtain ⟨call, hm, hkey, hcall⟩ := PlanCache.holds_after limit calls _ _ hfound
    rw [graphSignature_eq, graphSignature_eq] at hkey
    have htext := tellsApart _ _ ⟨call, .inr hm, rfl⟩ ⟨_, .inl rfl, rfl⟩ hkey
    obtain ⟨spec', hbody'⟩ := exists_spec_of_compileGraph hcall
    have hform := (alike_of_graphText htext.symm).2.1
    rw [hbody, hbody'] at hform
    have same := GraphSpec.sameShape_of_form_eq hform
    refine ⟨plan, hold, requiresRemote_of_needsRemote ?_ hcall⟩
    simp only [NeedsRemote, hbody, hbody'] at needs ⊢
    exact same.hasRemoteStep needs

end Cached

theorem executeCached_fst (definition : FunctionDefinition) (execution : Execution)
    (cache : PlanCache) :
    (definition.executeCached execution cache).1 = definition.executeWith execution
      (definition.compileGraphCached execution.connectors.keys cache).1 := by
  unfold executeCached
  split
  next disabled => simp [execute, executeWith, disabled]
  next => rfl

/-- Where the network is not allowed, no execution calls anybody, whatever plans were compiled
before; and a function that needs the network is not begun. -/
theorem execute_offline (limit : Positive) (calls : List (FunctionDefinition × List String))
    (definition : FunctionDefinition) (execution : Execution)
    (offline : execution.executor.allowHttp = false) (run : Execution → Run ExecutionResult)
    (hrun : run = definition.execute ∨ run = fun execution =>
      (definition.executeCached execution (PlanCache.after limit calls)).1) :
    ((run execution).calls = [] ∧
        ∀ collaborators, run (execution.calling collaborators) = run execution) ∧
      (definition.enabled = true → definition.NeedsRemote →
        definition.Compiles execution.connectors.keys →
        Sha256.TellsApart (fun text =>
          ∃ call, (call = (definition, execution.connectors.keys) ∨ call ∈ calls) ∧
            text = graphText call.1 call.2) →
        run execution = pure (.needsServer definition.id)) := by
  rcases hrun with rfl | rfl
  · have gated (plan : GraphPlan)
        (h : definition.compileGraph execution.connectors.keys = .ok plan) : plan.Gated :=
      gated_of_compileGraph h
    refine ⟨⟨silent_executeWith offline gated, executeWith_calling offline gated⟩, ?_⟩
    intro enabled needs compiles _
    refine executeWith_needsServer offline enabled needs fun spec hbody => ?_
    obtain ⟨plan, hplan⟩ := compiles (by rw [isGraph, hbody, FunctionBody.isGraph])
    exact ⟨plan, hplan, requiresRemote_of_needsRemote needs hplan⟩
  · simp only [executeCached_fst]
    have gated (plan : GraphPlan) (h : (definition.compileGraphCached execution.connectors.keys
        (PlanCache.after limit calls)).1 = .ok plan) : plan.Gated :=
      gated_of_compileGraphCached limit calls h
    refine ⟨⟨silent_executeWith offline gated, executeWith_calling offline gated⟩, ?_⟩
    intro enabled needs compiles tellsApart
    exact executeWith_needsServer offline enabled needs fun spec hbody =>
      exists_remote_plan limit calls tellsApart needs compiles hbody

/-- The node that asks a registry for its wards. -/
def askNode : GraphNode :=
  ⟨"ask", "source.http_get", none, some [
    ("connectorId", .str "registry"), ("path", .str "/wards")]⟩

def registryGraph : GraphSpec :=
  { nodes := [
      ⟨"begin", "control.start", none, none⟩,
      ⟨"aside", "source.layout_fields", none, none⟩,
      askNode,
      ⟨"out", "output.options", none, some [("mapping",
        .object [("label", .str "name"), ("value", .str "code")])]⟩]
    edges := [⟨"e", "begin", "aside", none, none⟩, ⟨"e", "begin", "ask", none, none⟩,
      ⟨"e", "ask", "out", none, none⟩]
    entryNodeId := "begin"
    returnNodeId := "out" }

def registryWards : FunctionDefinition :=
  ⟨"wards", "Wards", none, ⟨1, Nat.one_pos⟩, none, true, .graph registryGraph⟩

def askRegistry : Execution where
  executor := ⟨.default, false,
    [("registry", ⟨"registry", none, "https://registry.example", .secret "token", [], none⟩)],
    { fetch := fun _ => .failed "timeout", secret := none, ai := none, remote := none }⟩
  context := ⟨⟨[], [], [], [], [], [], [], .empty⟩, [], .nowhere⟩
  args := []

theorem execute_offline_registryWards :
    (registryWards.executeCached askRegistry
        (PlanCache.after ⟨1, Nat.one_pos⟩ [(registryWards, ["registry"])])).1 =
      pure (.needsServer "wards") := by
  have needs : registryWards.NeedsRemote :=
    ⟨askNode, by simp [registryGraph], .inl rfl,
      .single ⟨⟨"e", "ask", "out", none, none⟩, by simp [registryGraph], rfl, rfl⟩⟩
  have compiles : registryWards.Compiles ["registry"] := by
    have clean : (DraftGraph.ofSpec registryGraph).allIssues registryGraph ["registry"] = [] := by
      decide +kernel
    exact fun _ => ⟨(DraftGraph.ofSpec registryGraph).plan "wards" registryGraph, by
      simp [compileGraph, registryWards, GraphSpec.compile, clean]⟩
  have same (call : FunctionDefinition × List String)
      (h : call = (registryWards, askRegistry.connectors.keys) ∨
        call ∈ [(registryWards, ["registry"])]) : call = (registryWards, ["registry"]) := by
    rcases h with rfl | h
    · rfl
    · simpa using h
  refine (execute_offline ⟨1, Nat.one_pos⟩ [(registryWards, ["registry"])] registryWards
    askRegistry rfl _ (.inr rfl)).2 rfl needs compiles ?_
  rintro _ _ ⟨call, hcall, rfl⟩ ⟨other, hother, rfl⟩ -
  rw [same call hcall, same other hother]

end FunctionDefinition

end GridRules
