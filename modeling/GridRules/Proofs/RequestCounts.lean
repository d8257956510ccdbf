import GridRules.Proofs.AllowedHosts
import GridRules.Proofs.OfflineRuns
/-!
How many requests an execution makes. A flat function makes one at most. A graph makes one for each
request on the way from its entry to its return, and there is more than one of them only if a
request hands what it fetched to a node that is there for objects: what a request gives is only
known when it is made, so the types of the ports do not keep it from there.
-/

namespace GridRules

namespace Run

variable {α β : Type} {run : Run α} {next : α → Run β} {m n : Nat}

/-- The number of requests that a run makes. -/
def fetches (run : Run α) : Nat :=
  run.calls.countP Call.isFetch

/-- The run makes so many requests, or fewer if it breaks off. -/
structure Makes (run : Run α) (n : Nat) : Prop where
  atMost : run.fetches ≤ n
  all : ∀ a, run.result = .ok a → run.fetches = n

namespace Makes

theorem of_fetches (h : run.fetches = n) : Makes run n :=
  ⟨h.le, fun _ _ => h⟩

theorem of_silent (h : Silent run) : Makes run 0 :=
  of_fetches (by rw [fetches, h, List.countP_nil])

theorem bind (h : Makes run m) (hnext : ∀ a, Makes (next a) n) :
    Makes (run >>= next) (m + n) := by
  have hresult := result_bind run next
  cases hr : run.result with
  | error e =>
    have hfetches : (run >>= next).fetches = run.fetches := by
      rw [fetches, calls_bind, hr, List.append_nil, fetches]
    constructor
    · rw [hfetches]
      exact h.atMost.trans (Nat.le_add_right m n)
    · intro b hb
      rw [hresult, hr] at hb
      cases hb
  | ok a =>
    have hfetches : (run >>= next).fetches = run.fetches + (next a).fetches := by
      rw [fetches, calls_bind, hr, List.countP_append, fetches, fetches]
    constructor
    · rw [hfetches]
      exact Nat.add_le_add h.atMost (hnext a).atMost
    · intro b hb
      rw [hresult, hr] at hb
      rw [hfetches, h.all a hr]
      exact congrArg (m + ·) ((hnext a).all b hb)

theorem bind_silent (h : Makes run n) (hnext : ∀ a, Silent (next a)) : Makes (run >>= next) n :=
  h.bind fun a => of_silent (hnext a)

theorem collect (h : Makes run n) : Makes run.collect n := by
  refine ⟨h.atMost, fun pair hpair => ?_⟩
  obtain ⟨a, ha, -⟩ := map_eq_ok_iff.mp hpair
  exact h.all a ha

end Makes

end Run

/-- The request of a source is admitted, and its headers can be written. -/
def HttpGetSource.Asks (source : HttpGetSource) (connectors : Assoc Connector) (inputs : Inputs) :
    Prop :=
  ∃ connector url host headers, source.Admitted connectors inputs connector url host ∧
    source.requestHeaders connector inputs = .ok headers

/-- The requests of a source. -/
def Source.requests : Source → List HttpGetSource
  | .httpGet source => [source]
  | _ => []

/-- The requests of a node. -/
def NodeConfig.requests : NodeConfig → List HttpGetSource
  | .httpGet source => [source]
  | _ => []

namespace GraphPlan

/-- The requests of nodes, in order. -/
def requestsOf (plan : GraphPlan) (ids : List String) : List HttpGetSource :=
  ids.flatMap fun id => ((plan.nodes.get? id).map NodeConfig.requests).getD []

/-- The requests on the way from the entry to the return. -/
def requests (plan : GraphPlan) : List HttpGetSource :=
  plan.requestsOf plan.executionOrder

end GraphPlan

/-- The requests of a function; `compiled` is what its graph compiles to, if it is one. -/
def FunctionDefinition.requests (definition : FunctionDefinition)
    (compiled : Except (List CompileIssue) GraphPlan) : List HttpGetSource :=
  match definition.body, compiled with
  | .flat pipeline, _ => pipeline.source.requests
  | .graph _, .ok plan => plan.requests
  | .graph _, .error _ => []

namespace Execution

open Run (Silent Makes)

variable (execution : Execution)

open Classical in
/-- How many of the sources the execution makes a request for. -/
noncomputable def asked (sources : List HttpGetSource) : Nat :=
  sources.countP fun source => source.Asks execution.connectors execution.inputs

theorem asked_le (sources : List HttpGetSource) : execution.asked sources ≤ sources.length :=
  List.countP_le_length

theorem asked_append (sources more : List HttpGetSource) :
    execution.asked (sources ++ more) = execution.asked sources + execution.asked more :=
  List.countP_append

theorem makes_fetch (source : HttpGetSource) :
    Makes (execution.fetch source) (execution.asked [source]) := by
  apply Makes.of_fetches
  unfold fetch Run.fetches asked
  by_cases h : source.Asks execution.connectors execution.inputs
  · obtain ⟨connector, url, host, headers, admitted, hheaders⟩ := id h
    obtain ⟨request, -, hcalls⟩ := admitted.calls hheaders execution.executor.settings.http
      execution.executor.collaborators
    have hsecrets := (HttpGetSource.countP_secretCalls connector
      execution.executor.collaborators).1
    rw [hcalls, List.countP_append, hsecrets]
    simp [h, Call.isFetch]
  · rw [HttpGetSource.calls_eq_nil _ _ h]
    simp [h]

theorem makes_sourceRows (source : Source) :
    Makes (execution.sourceRows source) (execution.asked source.requests) := by
  cases source with
  | builtin functionId => exact .of_silent (execution.silent_builtinRows functionId)
  | gridRows gridId => exact .of_silent (execution.silent_gridRows gridId)
  | layoutFields source => exact .of_silent (.pure _)
  | httpGet source =>
    refine (execution.makes_fetch source).bind_silent fun payload => ?_
    cases payload <;> rfl

theorem makes_runFlat (pipeline : Pipeline) :
    Makes (execution.runFlat pipeline) (execution.asked pipeline.source.requests) :=
  (execution.makes_sourceRows pipeline.source).bind_silent fun _ =>
    (Silent.ofExcept _).bind fun _ => .ofExcept _

/-- Asking a model is no request. -/
theorem makes_extractRows (config : AiExtractConfig) (v : Value) :
    Makes (execution.extractRows config v) 0 := by
  unfold extractRows
  cases execution.executor.collaborators.ai with
  | none => exact .of_silent rfl
  | some extract =>
    dsimp only
    refine (Makes.of_silent (.ofExcept _)).bind (n := 0) fun input => ?_
    refine Makes.bind (m := 0) (.of_fetches rfl) (n := 0) fun _ => ?_
    split <;> exact .of_silent rfl

theorem makes_runNode (v : Value) (config : NodeConfig) :
    Makes (execution.runNode v config) (execution.asked config.requests) := by
  cases config with
  | httpGet source => exact (execution.makes_fetch source).bind_silent fun _ => .pure _
  | aiExtract config => exact (execution.makes_extractRows config v).bind_silent fun _ => .pure _
  | transform step => exact .of_silent (execution.silent_runNode v (by cases step <;> rfl))
  | start | gridRows | currentContext | layoutFields | output =>
    exact .of_silent (execution.silent_runNode v rfl)

theorem makes_runNodes (plan : GraphPlan) (ids : List String) (results : Assoc NodeResult) :
    Makes (execution.runNodes plan results ids) (execution.asked (plan.requestsOf ids)) := by
  induction ids generalizing results with
  | nil => exact .of_silent (.pure _)
  | cons id rest ih =>
    rw [GraphPlan.requestsOf, List.flatMap_cons, asked_append]
    simp only [runNodes]
    cases hc : plan.nodes.get? id with
    | none =>
      have hnone : execution.asked (((none : Option NodeConfig).map NodeConfig.requests).getD []) =
          0 := rfl
      rw [hnone, Nat.zero_add]
      exact ih results
    | some config => exact (execution.makes_runNode _ config).bind fun result => ih _

theorem makes_runGraph (plan : GraphPlan) :
    Makes (execution.runGraph plan) (execution.asked plan.requests) := by
  refine (execution.makes_runNodes plan plan.executionOrder []).bind_silent fun results => ?_
  split <;> exact .pure _

theorem makes_finish {n : Nat} (functionId : String) {run : Run (List OptionItem)}
    (h : Makes run n) : Makes (execution.finish functionId run) n := by
  refine h.collect.bind_silent fun ⟨items, warnings⟩ => ?_
  dsimp only
  split
  · exact Silent.bind rfl fun _ => .pure _
  · exact .pure _

end Execution

/-- Of the nodes that take something, requests and current contexts alone give what may pass for
an object, and both take one. -/
theorem NodeKind.takes_of_fits {kind : NodeKind} {taken : PortType}
    (hgives : kind.gives.fits .object = true) (htakes : kind.takes = some taken) :
    (kind = .httpGet ∨ kind = .currentContext) ∧ taken = .object := by
  cases kind with
  | httpGet => exact ⟨.inl rfl, (Option.some.inj htakes).symm⟩
  | currentContext => exact ⟨.inr rfl, (Option.some.inj htakes).symm⟩
  | start => cases htakes
  | gridRows | layoutFields | filter | mapFields | unique | sort | limit | flattenPath | aiExtract
  | output => cases hgives

namespace GraphPlan

variable {plan : GraphPlan}

def kind? (plan : GraphPlan) (id : String) : Option NodeKind :=
  (plan.nodes.get? id).map NodeConfig.kind

/-- On the way, a request hands what it fetched to a node that is there for objects. -/
def HandsRequestOn (plan : GraphPlan) : Prop :=
  ∃ id ∈ plan.executionOrder, ∃ before ∈ plan.incoming.get? id,
    plan.kind? before = some .httpGet ∧
      (plan.kind? id = some .httpGet ∨ plan.kind? id = some .currentContext)

instance (plan : GraphPlan) : Decidable plan.HandsRequestOn :=
  inferInstanceAs (Decidable (∃ id ∈ plan.executionOrder, ∃ before ∈ plan.incoming.get? id,
    plan.kind? before = some .httpGet ∧
      (plan.kind? id = some .httpGet ∨ plan.kind? id = some .currentContext)))

/-- What a node that takes something gives may pass for an object if a request comes behind it. -/
theorem fits_of_request_behind {a b : String} {rest : List String}
    (chain : (a :: rest).IsChain plan.Feeds) (hb : b ∈ rest)
    (hkind : plan.kind? b = some .httpGet) :
    ∃ config, plan.nodes.get? a = some config ∧ config.kind.gives.fits .object = true := by
  induction rest generalizing a with
  | nil => cases hb
  | cons next rest ih =>
    obtain ⟨feeds, chain⟩ := List.isChain_cons_cons.mp chain
    obtain ⟨-, source, target, taken, hsource, htarget, htaken, fits⟩ := feeds
    refine ⟨source, hsource, ?_⟩
    have htakes : taken = .object := by
      rcases List.mem_cons.mp hb with rfl | hb
      · have hhttp : target.kind = .httpGet := by simpa [kind?, htarget] using hkind
        rw [hhttp] at htaken
        exact (Option.some.inj htaken).symm
      · obtain ⟨config, hconfig, hfits⟩ := ih chain hb
        obtain rfl := Option.some.inj (htarget.symm.trans hconfig)
        exact (NodeKind.takes_of_fits hfits htaken).2
    rwa [htakes] at fits

theorem requestsOf_eq_nil {ids : List String} (h : ∀ id ∈ ids, plan.kind? id ≠ some .httpGet) :
    plan.requestsOf ids = [] := by
  refine List.flatMap_eq_nil_iff.mpr fun id hid => ?_
  cases hconfig : plan.nodes.get? id with
  | none => rfl
  | some config =>
    cases config with
    | httpGet source => exact absurd (by simp [kind?, hconfig, NodeConfig.kind]) (h id hid)
    | start | gridRows | currentContext | layoutFields | transform | aiExtract | output => rfl

/-- Along a chain there is one request at most, unless it hands on what it fetched. The induction is
on the chain: behind a request no other comes, as the next node would have to pass an object on. -/
theorem length_requestsOf_le_one {ids : List String} (chain : ids.IsChain plan.Feeds)
    (single : ∀ id ∈ ids, ∀ before, plan.incoming.get? id = some before →
      plan.kind? before = some .httpGet →
      plan.kind? id ≠ some .httpGet ∧ plan.kind? id ≠ some .currentContext) :
    (plan.requestsOf ids).length ≤ 1 := by
  induction ids with
  | nil => exact Nat.zero_le 1
  | cons a rest ih =>
    have hrest := ih chain.tail fun id hid => single id (List.mem_cons_of_mem a hid)
    rw [requestsOf, List.flatMap_cons, List.length_append, ← requestsOf]
    cases hconfig : plan.nodes.get? a with
    | none => simpa using hrest
    | some config =>
      cases config with
      | start | gridRows | currentContext | layoutFields | transform | aiExtract | output =>
        simpa [NodeConfig.requests] using hrest
      | httpGet source =>
        have hnone : plan.requestsOf rest = [] := by
          refine requestsOf_eq_nil fun b hb hkind => ?_
          cases rest with
          | nil => cases hb
          | cons next rest =>
            obtain ⟨feeds, chain⟩ := List.isChain_cons_cons.mp chain
            obtain ⟨hincoming, _, target, taken, -, htarget, htaken, -⟩ := feeds
            have ha : plan.kind? a = some .httpGet := by simp [kind?, hconfig, NodeConfig.kind]
            have hkinds := single next (by simp) a hincoming ha
            rcases List.mem_cons.mp hb with rfl | hb
            · exact hkinds.1 hkind
            · obtain ⟨found, hfound, hfits⟩ := fits_of_request_behind chain hb hkind
              obtain rfl := Option.some.inj (htarget.symm.trans hfound)
              have hnext : plan.kind? next = some target.kind := by simp [kind?, htarget]
              rcases (NodeKind.takes_of_fits hfits htaken).1 with h | h
              · exact hkinds.1 (hnext.trans (congrArg some h))
              · exact hkinds.2 (hnext.trans (congrArg some h))
        simp [hnone, NodeConfig.requests]

end GraphPlan

namespace FunctionDefinition

open Run (Silent Makes)

variable {definition : FunctionDefinition} {execution : Execution}
  {compiled : Except (List CompileIssue) GraphPlan}

/-- A function that is begun makes its requests. -/
theorem makes_executeWith (enabled : definition.enabled = true)
    (online : execution.executor.allowHttp = true) :
    Makes (definition.executeWith execution compiled)
      (execution.asked (definition.requests compiled)) := by
  unfold executeWith requests
  cases definition.body with
  | flat pipeline =>
    simpa [enabled, Execution.executePipeline, online] using
      execution.makes_finish definition.id (execution.makes_runFlat pipeline)
  | graph spec =>
    cases compiled with
    | ok plan =>
      simpa [enabled, Execution.executePlan, online] using
        execution.makes_finish definition.id (execution.makes_runGraph plan)
    | error issues =>
      simp only [enabled, Bool.not_true, Bool.false_eq_true, if_false]
      exact .of_silent (Silent.bind rfl fun _ => .bind rfl fun _ => .pure _)

theorem fetches_executeWith_le (gated : ∀ plan, compiled = .ok plan → plan.Gated) :
    (definition.executeWith execution compiled).fetches ≤
      execution.asked (definition.requests compiled) := by
  by_cases begun : definition.enabled = true ∧ execution.executor.allowHttp = true
  · exact (makes_executeWith begun.1 begun.2).atMost
  · have silent : Silent (definition.executeWith execution compiled) := by
      rcases Classical.not_and_iff_not_or_not.mp begun with disabled | offline
      · simp only [executeWith, Bool.not_eq_true] at disabled ⊢
        simp only [disabled, Bool.not_false, if_true]
        exact .pure _
      · exact silent_executeWith (by simpa using offline) gated
    rw [Run.fetches, silent, List.countP_nil]
    exact Nat.zero_le _

/-- A plan was compiled from a graph, now or before. -/
def Planned (compiled : Except (List CompileIssue) GraphPlan) : Prop :=
  ∀ plan, compiled = .ok plan → ∃ (other : FunctionDefinition) (connectors : List String),
    other.compileGraph connectors = .ok plan

theorem planned_compileGraph (definition : FunctionDefinition) (connectors : List String) :
    Planned (definition.compileGraph connectors) :=
  fun _ h => ⟨definition, connectors, h⟩

theorem planned_compileGraphCached (limit : Positive)
    (calls : List (FunctionDefinition × List String)) (definition : FunctionDefinition)
    (connectors : List String) :
    Planned (definition.compileGraphCached connectors (PlanCache.after limit calls)).1 := by
  intro plan h
  rcases definition.compileGraphCached_fst connectors (PlanCache.after limit calls) with
    hnew | ⟨found, hfound, hold⟩
  · exact ⟨definition, connectors, hnew.symm.trans h⟩
  · obtain rfl : found = plan := Except.ok.inj (hold.symm.trans h)
    obtain ⟨call, -, -, hcall⟩ := PlanCache.holds_after limit calls _ _ hfound
    exact ⟨call.1, call.2, hcall⟩

theorem exists_singleChain {connectors : List String} {plan : GraphPlan}
    (h : definition.compileGraph connectors = .ok plan) :
    ∃ entryId, plan.SingleChain entryId := by
  obtain ⟨spec, hbody⟩ := exists_spec_of_compileGraph h
  have compiled : spec.compile definition.id connectors = .ok plan := by
    simpa [compileGraph, hbody] using h
  obtain ⟨⟨configured, sound⟩, rfl⟩ := GraphSpec.compile_eq_ok_iff.mp compiled
  exact ⟨spec.entryNodeId,
    sound.plan_singleChain definition.id (DraftGraph.ofSpec_wellFormed configured)⟩

theorem length_requests_le_one (planned : Planned compiled)
    (single : ∀ plan, compiled = .ok plan → ¬ plan.HandsRequestOn) :
    (definition.requests compiled).length ≤ 1 := by
  unfold requests
  split
  next pipeline _ => cases pipeline.source <;> simp [Source.requests]
  next plan _ =>
    obtain ⟨other, connectors, h⟩ := planned plan rfl
    obtain ⟨entryId, chain⟩ := exists_singleChain h
    refine GraphPlan.length_requestsOf_le_one chain.feeds fun id hid before hbefore hkind => ?_
    constructor
    · exact fun h => single plan rfl ⟨id, hid, before, hbefore, hkind, .inl h⟩
    · exact fun h => single plan rfl ⟨id, hid, before, hbefore, hkind, .inr h⟩
  next => exact Nat.zero_le 1

/-- An execution makes a request for each admitted source on the way, or fewer if it breaks off;
and it makes one at most, unless a request on the way hands what it fetched to a node that is there
for objects. -/
theorem execute_fetches (limit : Positive) (calls : List (FunctionDefinition × List String))
    (definition : FunctionDefinition) (execution : Execution) {run : Run ExecutionResult}
    {compiled : Except (List CompileIssue) GraphPlan}
    (hrun : run = definition.execute execution ∧
        compiled = definition.compileGraph execution.connectors.keys ∨
      run = (definition.executeCached execution (PlanCache.after limit calls)).1 ∧
        compiled = (definition.compileGraphCached execution.connectors.keys
          (PlanCache.after limit calls)).1) :
    run.fetches ≤ execution.asked (definition.requests compiled) ∧
      (definition.enabled = true → execution.executor.allowHttp = true →
        ∀ result, run.result = .ok result →
          run.fetches = execution.asked (definition.requests compiled)) ∧
      ((∀ plan, compiled = .ok plan → ¬ plan.HandsRequestOn) → run.fetches ≤ 1) := by
  have hwith : run = definition.executeWith execution compiled := by
    rcases hrun with ⟨rfl, rfl⟩ | ⟨rfl, rfl⟩
    · rfl
    · exact definition.executeCached_fst execution _
  have planned : Planned compiled := by
    rcases hrun with ⟨-, rfl⟩ | ⟨-, rfl⟩
    · exact planned_compileGraph definition _
    · exact planned_compileGraphCached limit calls definition _
  have gated : ∀ plan, compiled = .ok plan → plan.Gated := fun plan h => by
    obtain ⟨other, connectors, hplan⟩ := planned plan h
    exact gated_of_compileGraph hplan
  rw [hwith]
  refine ⟨fetches_executeWith_le gated, fun enabled online result hresult => ?_, fun single => ?_⟩
  · exact (makes_executeWith enabled online).all result hresult
  · calc (definition.executeWith execution compiled).fetches
        ≤ execution.asked (definition.requests compiled) := fetches_executeWith_le gated
      _ ≤ (definition.requests compiled).length := execution.asked_le _
      _ ≤ 1 := length_requests_le_one planned single

/-- The registry that lists its wards, asked where the network is allowed. -/
def askRegistryOnline : Execution :=
  { askRegistry with executor := { askRegistry.executor with allowHttp := true } }

theorem execute_fetches_registryWards :
    (registryWards.execute askRegistryOnline).fetches ≤ 1 ∧
      (registryWards.execute askRegistryOnline).fetches = 1 := by
  refine ⟨(execute_fetches ⟨1, Nat.one_pos⟩ [] registryWards askRegistryOnline
    (.inl ⟨rfl, rfl⟩)).2.2 fun plan hplan => ?_, by decide +kernel⟩
  have clean : (DraftGraph.ofSpec registryGraph).allIssues registryGraph ["registry"] = [] := by
    decide +kernel
  have hcompiled : registryWards.compileGraph askRegistryOnline.connectors.keys =
      .ok ((DraftGraph.ofSpec registryGraph).plan "wards" registryGraph) := by
    change registryWards.compileGraph ["registry"] = _
    simp [compileGraph, registryWards, GraphSpec.compile, clean]
  obtain rfl := Except.ok.inj (hcompiled.symm.trans hplan)
  decide +kernel

/-- A graph that asks for the wards and then, with their answer in hand, for the rooms. -/
def wardRoomsGraph : GraphSpec :=
  { nodes := [
      ⟨"begin", "control.start", none, none⟩,
      ⟨"wards", "source.http_get", none, some [
        ("connectorId", .str "registry"), ("path", .str "/wards")]⟩,
      ⟨"rooms", "source.http_get", none, some [
        ("connectorId", .str "registry"), ("path", .str "/rooms")]⟩,
      ⟨"out", "output.options", none, some [("mapping",
        .object [("label", .str "name"), ("value", .str "code")])]⟩]
    edges := [⟨"e", "begin", "wards", none, none⟩, ⟨"e", "wards", "rooms", none, none⟩,
      ⟨"e", "rooms", "out", none, none⟩]
    entryNodeId := "begin"
    returnNodeId := "out" }

def wardRooms : FunctionDefinition :=
  ⟨"rooms", "Rooms", none, ⟨1, Nat.one_pos⟩, none, true, .graph wardRoomsGraph⟩

/-- What a request gives passes for the object that the next request takes, so the graph compiles
and makes two requests. -/
theorem execute_fetches_twice :
    (∃ plan, wardRooms.compileGraph askRegistryOnline.connectors.keys = .ok plan) ∧
      (wardRooms.execute askRegistryOnline).fetches = 2 ∧
      ¬ (wardRooms.execute askRegistryOnline).fetches ≤ 1 := by
  have clean : (DraftGraph.ofSpec wardRoomsGraph).allIssues wardRoomsGraph ["registry"] = [] := by
    decide +kernel
  have hcompiled : wardRooms.compileGraph askRegistryOnline.connectors.keys =
      .ok ((DraftGraph.ofSpec wardRoomsGraph).plan "rooms" wardRoomsGraph) := by
    change wardRooms.compileGraph ["registry"] = _
    simp [compileGraph, wardRooms, GraphSpec.compile, clean]
  have htwo : (wardRooms.execute askRegistryOnline).fetches = 2 := by
    decide +kernel
  exact ⟨⟨_, hcompiled⟩, htwo, by rw [htwo]; decide⟩

end FunctionDefinition

end GridRules
