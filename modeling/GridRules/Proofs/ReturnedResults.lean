import GridRules.Proofs.RequestCounts
import GridRules.Proofs.SoundTransforms
/-!
When an execution returns a result. It does if the paths in its function can be read, what the
collaborators answer can be read, a model that is asked finds something, no integer is too long to
be written, and no number that is measured is beyond the range of doubles. Of all that may happen to
a request, cancellation alone is passed on.
-/

namespace GridRules

/-- The body of a reply is a text that there is room to read, with no integer that is too long, and
what it holds is fit for use. -/
def HttpReply.Sound (measuring : Prop) (collaborators : Collaborators) (reply : HttpReply) : Prop :=
  ∃ text, collaborators.textOf? reply = some text ∧ collaborators.roomFor text = true ∧
    Json.readFinite text ≠ .error .integerTooLong ∧
    ∀ payload, Json.readFinite text = .ok payload → payload.Suits measuring

namespace Collaborators

variable (measuring : Prop) (collaborators : Collaborators)

/-- The call is answered soundly: with a reply that can be read, if there is a reply, and with rows
that a model has found. -/
def AnswersSoundly : Call → Prop
  | .fetch request => ∀ reply, collaborators.fetch request = .reply reply →
      reply.Sound measuring collaborators
  | .ai request => ∀ extract, collaborators.ai = some extract →
      ∃ v, extract request = .value v ∧ v.Suits measuring
  | .secret _ | .remote _ => True

/-- The call is a request that is cancelled. -/
def Cancels : Call → Prop
  | .fetch request => collaborators.fetch request = .cancelled
  | .secret _ | .ai _ | .remote _ => False

end Collaborators

namespace Run

variable {α β : Type} {measuring : Prop} {collaborators : Collaborators} {Q : α → Prop}
  {R : β → Prop} {run : Run α}

/-- If its calls are answered soundly, the run comes to a result with the property, or breaks off
with a request that is cancelled. -/
def Returns (measuring : Prop) (collaborators : Collaborators) (Q : α → Prop) (run : Run α) :
    Prop :=
  (∀ call ∈ run.calls, collaborators.AnswersSoundly measuring call) →
    (∃ a, run.result = .ok a ∧ Q a) ∨
      (run.result = .error .cancelled ∧ ∃ call ∈ run.calls, collaborators.Cancels call)

namespace Returns

theorem of_ok {a : α} (hresult : run.result = .ok a) (h : Q a) :
    Returns measuring collaborators Q run :=
  fun _ => .inl ⟨a, hresult, h⟩

theorem pure {a : α} (h : Q a) : Returns measuring collaborators Q (Pure.pure a) :=
  of_ok rfl h

theorem ofExcept {x : Except Fault α} (h : Gives Q x) :
    Returns measuring collaborators Q (Run.ofExcept x) := by
  obtain ⟨a, rfl, ha⟩ := h
  exact of_ok rfl ha

theorem bind {next : α → Run β} (h : Returns measuring collaborators Q run)
    (hnext : ∀ a, Q a → Returns measuring collaborators R (next a)) :
    Returns measuring collaborators R (run >>= next) := by
  intro sound
  rw [calls_bind] at sound ⊢
  rw [result_bind]
  rcases h fun call hm => sound call (List.mem_append_left _ hm) with
    ⟨a, hresult, ha⟩ | ⟨hresult, call, hm, hcancels⟩
  · simp only [hresult] at sound ⊢
    refine (hnext a ha fun call hm => sound call (List.mem_append_right _ hm)).imp_right ?_
    rintro ⟨hrest, call, hm, hcancels⟩
    exact ⟨hrest, call, List.mem_append_right _ hm, hcancels⟩
  · rw [hresult]
    exact .inr ⟨rfl, call, List.mem_append_left _ hm, hcancels⟩

theorem bind_ok {next : α → Run β} {a : α} (hresult : run.result = .ok a)
    (hnext : Returns measuring collaborators R (next a)) :
    Returns measuring collaborators R (run >>= next) :=
  (of_ok (Q := (· = a)) hresult rfl).bind fun _ h => h ▸ hnext

/-- What follows a call knows how it is answered. -/
theorem call_bind {call : Call} {next : Unit → Run β}
    (h : collaborators.AnswersSoundly measuring call →
      Returns measuring collaborators R (next ()) ∨
        (next ()).result = .error .cancelled ∧ collaborators.Cancels call) :
    Returns measuring collaborators R (Run.call call >>= next) := by
  intro sound
  have hcalls : (Run.call call >>= next).calls = call :: (next ()).calls := calls_bind _ _
  have hresult : (Run.call call >>= next).result = (next ()).result := result_bind _ _
  rw [hcalls] at sound ⊢
  rw [hresult]
  obtain ⟨hcall, hrest⟩ := List.forall_mem_cons.mp sound
  rcases h hcall with hnext | ⟨hcancelled, hcancels⟩
  · refine (hnext hrest).imp_right ?_
    rintro ⟨herror, other, hm, hcancels⟩
    exact ⟨herror, other, List.mem_cons_of_mem call hm, hcancels⟩
  · exact .inr ⟨hcancelled, call, List.mem_cons_self, hcancels⟩

theorem collect (h : Returns measuring collaborators Q run) :
    Returns measuring collaborators (fun pair => Q pair.1) run.collect := by
  intro sound
  refine (h sound).imp ?_ ?_
  · rintro ⟨a, hresult, ha⟩
    exact ⟨(a, run.warnings), by rw [Run.collect, hresult]; rfl, ha⟩
  · rintro ⟨hresult, hcancelled⟩
    exact ⟨by rw [Run.collect, hresult]; rfl, hcancelled⟩

end Returns

end Run

namespace HttpGetSource

open Run (Returns)

/-- The paths in the templates of headers can be read, and that into the response. -/
structure Sound (source : HttpGetSource) : Prop where
  headers : ∀ header ∈ source.headers, ∀ path,
    .placeholder (.context path) ∈ Template.split header.2 → Readable path
  response : ∀ path ∈ source.responsePath, Readable path

variable {source : HttpGetSource} {measuring : Prop} {collaborators : Collaborators}
  {inputs : Inputs}

theorem gives_requestHeaders (sound : source.Sound) (hinputs : inputs.Suits measuring)
    (connector : Connector) : Gives (fun _ => True) (source.requestHeaders connector inputs) := by
  have htext {template : String} (hm : ∀ path,
      .placeholder (.context path) ∈ Template.split template → Readable path) :
      Gives (fun _ => True) (interpolate template inputs) := by
    refine (Gives.mapM (R := fun _ => True) fun piece hpiece => ?_).map fun _ _ => trivial
    cases piece with
    | char c => exact .ok trivial
    | placeholder p =>
      cases p with
      | arg name => exact .ok trivial
      | context path =>
        exact (Value.gives_lookupD hinputs.context (hm path hpiece)).map fun _ _ => trivial
  refine (Gives.mapM (R := fun _ => True) fun header hh => ?_).bind fun _ _ => .ok trivial
  exact (htext (sound.headers header hh)).map fun _ _ => trivial

theorem returns_send (connector : Connector) (host : String) (request : HttpRequest) :
    Returns measuring collaborators
      (fun reply => ∀ r ∈ reply, r.Sound measuring collaborators)
      (send connector host request collaborators) := by
  refine .bind_ok rfl (.call_bind fun sound => ?_)
  cases hfetch : collaborators.fetch request with
  | cancelled => exact .inr ⟨rfl, hfetch⟩
  | failed kind => exact .inl (.of_ok rfl nofun)
  | reply reply =>
    exact .inl (.pure fun r hr => Option.some.inj hr ▸ sound reply hfetch)

theorem returns_readReply {reply : HttpReply} (sound : reply.Sound measuring collaborators)
    (connector : Connector) (settings : HttpSettings) :
    Returns measuring collaborators (fun payload => ∀ v ∈ payload, v.Suits measuring)
      (readReply connector settings collaborators reply) := by
  obtain ⟨text, htext, hroom, hlong, hpayload⟩ := sound
  unfold readReply
  split
  · exact .of_ok rfl nofun
  split
  · exact .of_ok rfl nofun
  simp only [htext, hroom, Bool.not_true, Bool.false_eq_true, if_false]
  split
  next payload hread => exact .pure fun v hv => Option.some.inj hv ▸ hpayload payload hread
  next hread => exact absurd hread hlong
  next => exact .of_ok rfl nofun

theorem returns_selectPayload (sound : source.Sound) {payload : Value}
    (hpayload : payload.Suits measuring) :
    Returns measuring collaborators (·.Suits measuring) (source.selectPayload payload) := by
  unfold selectPayload
  split
  · exact .pure hpayload
  · exact .pure hpayload
  next path _ hpath =>
    refine (Returns.ofExcept (Value.gives_lookupD hpayload (sound.response path hpath))).bind
      fun found hfound => ?_
    cases found with
    | list items => exact .pure hfound
    | null | bool | int | float | str | object => exact .of_ok rfl Value.suits_null

theorem returns_fetchJson (sound : source.Sound) (hinputs : inputs.Suits measuring)
    (connectors : Assoc Connector) (settings : HttpSettings) :
    Returns measuring collaborators (·.Suits measuring)
      (source.fetchJson connectors inputs settings collaborators) := by
  have hfetchAt (connector : Connector) (url : Url) (host : String) :
      Returns measuring collaborators (·.Suits measuring)
        (source.fetchAt connector url host inputs settings collaborators) := by
    refine (Returns.ofExcept (gives_requestHeaders sound hinputs connector)).bind fun own _ => ?_
    obtain ⟨headers, hheaders⟩ := authorize_result connector collaborators own
    refine .bind_ok hheaders ((returns_send connector host _).bind fun reply hreply => ?_)
    cases reply with
    | none => exact .pure Value.suits_null
    | some reply =>
      refine (returns_readReply (hreply reply rfl) connector settings).bind fun payload hp => ?_
      cases payload with
      | none => exact .pure Value.suits_null
      | some payload => exact returns_selectPayload sound (hp payload rfl)
  unfold fetchJson
  split
  · exact .of_ok rfl Value.suits_null
  · dsimp only
    split
    · exact .of_ok rfl Value.suits_null
    · split
      · exact hfetchAt _ _ _
      · exact .of_ok rfl Value.suits_null

end HttpGetSource

/-- A node that does what it is there for on what is fit for use. -/
def NodeConfig.Sound (measuring : Prop) : NodeConfig → Prop
  | .httpGet source => source.Sound
  | .transform step => step.Sound measuring
  | .aiExtract config => ∀ path ∈ config.inputPath, Readable path
  | .output mapping => mapping.Sound measuring
  | .start | .gridRows _ | .currentContext _ | .layoutFields _ => True

/-- The parts of a pipeline are sound. -/
structure Pipeline.Sound (measuring : Prop) (pipeline : Pipeline) : Prop where
  source : ∀ source, pipeline.source = .httpGet source → source.Sound
  transforms : ∀ step ∈ pipeline.transforms, step.Sound measuring
  output : pipeline.output.Sound measuring

/-- The nodes of a plan that are run are sound. -/
def GraphPlan.Sound (measuring : Prop) (plan : GraphPlan) : Prop :=
  ∀ id ∈ plan.executionOrder, ∀ config ∈ plan.nodes.get? id, config.Sound measuring

/-- What a function is made of is sound; `compiled` is what its graph compiles to, if it is
one. -/
def FunctionDefinition.Sound (measuring : Prop) (definition : FunctionDefinition)
    (compiled : Except (List CompileIssue) GraphPlan) : Prop :=
  match definition.body, compiled with
  | .flat pipeline, _ => pipeline.Sound measuring
  | .graph _, .ok plan => plan.Sound measuring
  | .graph _, .error _ => True

/-- The values that an execution is given: its arguments, its context, and what it shows of its
tracker in rows of its own. -/
inductive Execution.Given (execution : Execution) : Value → Prop where
  | args : Given execution (.object execution.args)
  | context : Given execution execution.context.lookup
  | current (config : CurrentContextConfig) : Given execution (execution.currentContext config)
  | layout (source : LayoutFieldsSource) {row : Entries} (h : row ∈ execution.layoutRows source) :
    Given execution (.object row)
  | builtin (functionId : String) {item : OptionItem}
    (h : item ∈ builtinOptions functionId execution.context.tracker) :
    Given execution item.toValue

namespace DraftGraph

variable {draft : DraftGraph} {entryId returnId : String} {connectors : List String}

/-- The return is the only output. -/
theorem Sound.id_of_output (sound : draft.Sound entryId returnId connectors) {node : DraftNode}
    (hm : node ∈ draft.nodes) (hkind : node.kind = .output) : node.id = returnId := by
  obtain ⟨ret, hr, hrkind⟩ := sound.output
  obtain ⟨hrm, hrid⟩ := mem_of_node? hr
  have hone : (draft.nodes.filter fun node => node.kind == .output).length = 1 := by
    rw [← List.countP_eq_length_filter]
    exact sound.outputs
  obtain ⟨only, honly⟩ := List.length_eq_one_iff.mp hone
  have heq {other : DraftNode} (hother : other ∈ draft.nodes) (hk : other.kind = .output) :
      other = only := by
    have : other ∈ draft.nodes.filter fun node => node.kind == .output :=
      List.mem_filter.mpr ⟨hother, by simp [hk]⟩
    rw [honly] at this
    exact List.mem_singleton.mp this
  rw [heq hm hkind, ← heq hrm hrkind, hrid]

end DraftGraph

/-- No node that is run takes its value from an output: the return is the only one, and all that is
run leads to it. -/
theorem GraphSpec.not_output_of_incoming {spec : GraphSpec} {functionId : String}
    {connectors : List String} {plan : GraphPlan}
    (h : spec.compile functionId connectors = .ok plan) {id before : String}
    (hid : id ∈ plan.executionOrder) (hbefore : plan.incoming.get? id = some before) :
    plan.kind? before ≠ some .output := by
  obtain ⟨⟨configured, sound⟩, rfl⟩ := compile_eq_ok_iff.mp h
  have wf := DraftGraph.ofSpec_wellFormed configured
  obtain ⟨_, leads⟩ := (DraftGraph.mem_executionOrder wf sound).mp hid
  rw [DraftGraph.plan_incoming_get? functionId spec wf] at hbefore
  obtain ⟨node, hn, hinput⟩ := Option.bind_eq_some_iff.mp hbefore
  obtain ⟨hm, rfl⟩ := DraftGraph.mem_of_node? hn
  have linked := (sound.inputNode?_eq_some_iff wf hm).mp hinput
  intro hkind
  obtain ⟨config, hconfig, houtput⟩ := Option.map_eq_some_iff.mp hkind
  rw [DraftGraph.plan_nodes_get? functionId spec wf] at hconfig
  obtain ⟨source, hs, hc⟩ := Option.bind_eq_some_iff.mp hconfig
  obtain ⟨hsm, rfl⟩ := DraftGraph.mem_of_node? hs
  obtain ⟨found, hfound, hfoundKind⟩ := wf.configured source hsm
  obtain rfl := Option.some.inj (hc.symm.trans hfound)
  have hreturn := sound.id_of_output hsm (hfoundKind.symm.trans houtput)
  have cycle : Relation.TransGen (DraftGraph.ofSpec spec).links.Linked source.id source.id :=
    .head' linked (hreturn ▸ leads)
  exact not_transGen_self (sound.acyclic source.id (List.mem_map_of_mem hsm)) cycle

namespace Execution

open Run (Returns)

variable {execution : Execution} {measuring : Prop}
  (given : ∀ v, execution.Given v → v.Suits measuring)

include given

theorem suits_inputs : execution.inputs.Suits measuring :=
  ⟨given _ .args, given _ .context⟩

theorem suits_contextEntry {v : Value} (key : String)
    (h : (key, v) ∈ [("gridData", Value.object execution.context.gridData),
      ("runtime", execution.context.runtime.toValue)]) : v.Suits measuring :=
  Value.suits_object.mp (given _ .context) (key, v) (List.mem_append_right _ h)

theorem returns_gridRows (gridId : String) :
    Returns measuring execution.executor.collaborators
      (fun rows => ∀ row ∈ rows, (Value.object row).Suits measuring)
      (execution.gridRows gridId) := by
  have hdata := suits_contextEntry given "gridData" List.mem_cons_self
  have hrows : (Value.list (execution.context.gridRows gridId)).Suits measuring := by
    unfold OptionsContext.gridRows
    have hgrid := hdata.getD gridId
    cases hgridRows : execution.context.gridData.getD gridId with
    | list items => exact hgridRows ▸ hgrid
    | null | bool | int | float | str | object => exact Value.suits_list.mpr nofun
  unfold gridRows
  dsimp only
  split
  · exact .of_ok rfl nofun
  · exact .pure (Value.suits_normalizeRows hrows)

theorem suits_layoutRows (source : LayoutFieldsSource) :
    ∀ row ∈ execution.layoutRows source, (Value.object row).Suits measuring :=
  fun _ h => given _ (.layout source h)

theorem returns_fetch {source : HttpGetSource} (sound : source.Sound) :
    Returns measuring execution.executor.collaborators (·.Suits measuring)
      (execution.fetch source) :=
  HttpGetSource.returns_fetchJson sound (suits_inputs given) _ _

theorem returns_sourceRows {source : Source}
    (sound : ∀ request, source = .httpGet request → request.Sound) :
    Returns measuring execution.executor.collaborators
      (fun rows => ∀ row ∈ rows, (Value.object row).Suits measuring)
      (execution.sourceRows source) := by
  cases source with
  | builtin functionId =>
    have hrows : ∀ row ∈ (builtinOptions functionId execution.context.tracker).map
        OptionItem.entries, (Value.object row).Suits measuring := by
      intro row hm
      obtain ⟨item, hitem, rfl⟩ := List.mem_map.mp hm
      exact given _ (.builtin functionId hitem)
    have hresult : (execution.builtinRows functionId).result = .ok
        ((builtinOptions functionId execution.context.tracker).map OptionItem.entries) := by
      unfold builtinRows
      split <;> rfl
    exact .of_ok hresult hrows
  | gridRows gridId => exact returns_gridRows given gridId
  | layoutFields source => exact .pure (suits_layoutRows given source)
  | httpGet source =>
    refine (returns_fetch given (sound source rfl)).bind fun payload hpayload => ?_
    have hrows := Value.suits_normalizeRows hpayload
    cases payload <;> exact .of_ok rfl hrows

theorem returns_runFlat {pipeline : Pipeline} (sound : pipeline.Sound measuring) :
    Returns measuring execution.executor.collaborators (fun _ => True)
      (execution.runFlat pipeline) := by
  have hinputs := suits_inputs given
  refine (returns_sourceRows given sound.source).bind fun rows hrows => ?_
  refine (Returns.ofExcept (Transform.gives_applyAll sound.transforms hrows hinputs)).bind
    fun rows hrows => ?_
  exact .ofExcept (OutputMapping.gives_options sound.output hrows hinputs)

omit given in
theorem returns_extractRows {config : AiExtractConfig} {v : Value}
    (readable : ∀ path ∈ config.inputPath, Readable path) (hv : v.Suits measuring) :
    Returns measuring execution.executor.collaborators
      (fun rows => ∀ row ∈ rows, (Value.object row).Suits measuring)
      (execution.extractRows config v) := by
  have hinput : Gives (fun _ => True) (aiInput config v) := by
    unfold aiInput
    split
    · exact .ok trivial
    · exact .ok trivial
    next path _ hpath =>
      exact (Value.gives_lookupD hv (readable path hpath)).mono fun _ _ => trivial
  unfold extractRows
  split
  next => exact .of_ok rfl nofun
  next extract hextract =>
    refine (Returns.ofExcept hinput).bind fun input _ => ?_
    refine .call_bind fun sound => .inl ?_
    obtain ⟨found, hfound, hsuits⟩ := sound extract hextract
    rw [hfound]
    exact .pure (Value.suits_normalizeRows hsuits)

/-- A sound node returns what is fit for use, if it is no output. -/
theorem returns_runNode {config : NodeConfig} {v : Value} (sound : config.Sound measuring)
    (hv : v.Suits measuring) :
    Returns measuring execution.executor.collaborators
      (fun result => config.kind ≠ .output → result.toValue.Suits measuring)
      (execution.runNode v config) := by
  have hinputs := suits_inputs given
  cases config with
  | start =>
    refine .pure fun _ => Value.suits_object.mpr ?_
    have hruntime : execution.context.runtime.toValue.Suits measuring :=
      suits_contextEntry given "runtime" (by simp)
    simpa using And.intro (given _ .args) hruntime
  | gridRows gridId =>
    exact (returns_gridRows given gridId).bind fun _ hrows =>
      .pure fun _ => Value.suits_ofRows hrows
  | currentContext config => exact .pure fun _ => given _ (.current config)
  | layoutFields source =>
    exact .pure fun _ => Value.suits_ofRows (suits_layoutRows given source)
  | httpGet source =>
    exact (returns_fetch given sound).bind fun _ hpayload => .pure fun _ => hpayload
  | transform step =>
    exact (Returns.ofExcept (Transform.gives_apply sound hv hinputs)).bind fun _ hrows =>
      .pure fun _ => Value.suits_ofRows hrows
  | aiExtract config =>
    exact (returns_extractRows sound hv).bind fun _ hrows =>
      .pure fun _ => Value.suits_ofRows hrows
  | output mapping =>
    have hrows := Value.suits_normalizeRows hv
    exact (Returns.ofExcept (OutputMapping.gives_options sound hrows hinputs)).bind fun _ _ =>
      .pure fun h => absurd rfl h

/-- Nodes are run to the end. The induction goes along the nodes that are left; what is handed on so
far is fit for use, but for that of an output, which no node takes. -/
theorem returns_runNodes {plan : GraphPlan} {ids : List String} {results : Assoc NodeResult}
    (sound : ∀ id ∈ ids, ∀ config ∈ plan.nodes.get? id, config.Sound measuring)
    (noOutput : ∀ id ∈ ids, ∀ before, plan.incoming.get? id = some before →
      plan.kind? before ≠ some .output)
    (hresults : ∀ id result, results.get? id = some result → plan.kind? id ≠ some .output →
      result.toValue.Suits measuring) :
    Returns measuring execution.executor.collaborators (fun _ => True)
      (execution.runNodes plan results ids) := by
  induction ids generalizing results with
  | nil => exact .pure trivial
  | cons id rest ih =>
    obtain ⟨hsound, hsounds⟩ := List.forall_mem_cons.mp sound
    obtain ⟨hinput, hinputs⟩ := List.forall_mem_cons.mp noOutput
    have htaken : (takenValue plan results id).Suits measuring := by
      unfold takenValue
      split
      next result hresult =>
        obtain ⟨before, hbefore, hresult⟩ := Option.bind_eq_some_iff.mp hresult
        exact hresults before result hresult (hinput before hbefore)
      next => exact Value.suits_null
    simp only [runNodes]
    cases hconfig : plan.nodes.get? id with
    | none => exact ih hsounds hinputs hresults
    | some config =>
      refine (returns_runNode given (hsound config hconfig) htaken).bind fun result hresult => ?_
      refine ih hsounds hinputs fun other found hfound hkind => ?_
      rw [Assoc.get?_put] at hfound
      split at hfound
      next hid =>
        obtain rfl := Option.some.inj hfound
        refine hresult fun houtput => hkind ?_
        rw [hid, GraphPlan.kind?, hconfig, Option.map_some, houtput]
      next => exact hresults other found hfound hkind

theorem returns_runGraph {plan : GraphPlan} (sound : plan.Sound measuring)
    (noOutput : ∀ id ∈ plan.executionOrder, ∀ before, plan.incoming.get? id = some before →
      plan.kind? before ≠ some .output) :
    Returns measuring execution.executor.collaborators (fun _ => True)
      (execution.runGraph plan) := by
  refine (returns_runNodes given sound noOutput (by simp)).bind fun results _ => ?_
  split <;> exact .pure trivial

omit given in
theorem returns_finish (functionId : String) {run : Run (List OptionItem)}
    (h : Returns measuring execution.executor.collaborators (fun _ => True) run) :
    Returns measuring execution.executor.collaborators (fun _ => True)
      (execution.finish functionId run) := by
  refine h.collect.bind fun ⟨items, warnings⟩ _ => ?_
  dsimp only
  split <;> exact .of_ok rfl trivial

end Execution

namespace FunctionDefinition

open Run (Returns)

variable {definition : FunctionDefinition} {execution : Execution} {measuring : Prop}
  {compiled : Except (List CompileIssue) GraphPlan}

theorem returns_executeWith (given : ∀ v, execution.Given v → v.Suits measuring)
    (planned : Planned compiled) (sound : definition.Sound measuring compiled) :
    Returns measuring execution.executor.collaborators (fun _ => True)
      (definition.executeWith execution compiled) := by
  unfold executeWith
  unfold Sound at sound
  split
  · exact .pure trivial
  · cases hbody : definition.body with
    | flat pipeline =>
      simp only [hbody] at sound
      dsimp only
      unfold Execution.executePipeline
      split
      · exact .pure trivial
      · exact Execution.returns_finish _ (Execution.returns_runFlat given sound)
    | graph spec =>
      simp only [hbody] at sound
      cases compiled with
      | error issues => exact .of_ok rfl trivial
      | ok plan =>
        obtain ⟨other, connectors, hplan⟩ := planned plan rfl
        obtain ⟨otherSpec, hother⟩ := exists_spec_of_compileGraph hplan
        have hcompile : otherSpec.compile other.id connectors = .ok plan := by
          simpa [compileGraph, hother] using hplan
        dsimp only
        unfold Execution.executePlan
        split
        · exact .pure trivial
        · exact Execution.returns_finish _ (Execution.returns_runGraph given sound
            fun _ hid _ hbefore => GraphSpec.not_output_of_incoming hcompile hid hbefore)

/-- An execution without collaborators over a grid of rooms. -/
def askRooms (rooms : List Entries) : Execution where
  executor := ⟨.default, false, [],
    { fetch := fun _ => .failed "timeout", secret := none, ai := none, remote := none }⟩
  context := ⟨⟨[], [], [], [], [], [], [], .empty⟩,
    [("rooms", .list (rooms.map .object))], .nowhere⟩
  args := []

/-- The rooms from a price on, the dearest first. -/
def dearRooms : FunctionDefinition :=
  ⟨"rooms", "Rooms", none, ⟨1, Nat.one_pos⟩, none, true, .flat ⟨false, .gridRows "rooms",
    [.filter ⟨false, [⟨"price", .gte, .int 10, none, none⟩], none⟩, .sort ⟨"price", true, true⟩],
    ⟨.path "name", .path "price", none, none⟩⟩⟩

/-- A path with a piece that looks like an index and is none, where the row has a list. -/
def roomTags : FunctionDefinition :=
  ⟨"tags", "Tags", none, ⟨1, Nat.one_pos⟩, none, true, .flat ⟨false, .gridRows "rooms", [],
    ⟨.path "name", .path "tags.²", none, none⟩⟩⟩

/-- A graph that has a model find the rooms. -/
def foundRoomsGraph : GraphSpec :=
  { nodes := [
      ⟨"begin", "control.start", none, none⟩,
      ⟨"find", "ai.extract_options", none, some [("prompt", .str "Which rooms?")]⟩,
      ⟨"out", "output.options", none, some [("mapping",
        .object [("label", .str "name"), ("value", .str "code")])]⟩]
    edges := [⟨"e", "begin", "find", none, none⟩, ⟨"e", "find", "out", none, none⟩]
    entryNodeId := "begin"
    returnNodeId := "out" }

def foundRooms : FunctionDefinition :=
  ⟨"rooms", "Rooms", none, ⟨1, Nat.one_pos⟩, none, true, .graph foundRoomsGraph⟩

/-- An execution with a model that fails. -/
def askFailingModel : Execution where
  executor := ⟨.default, true, [],
    { fetch := fun _ => .failed "timeout", secret := none, ai := some fun _ => .failed "down"
      remote := none }⟩
  context := (askRooms []).context
  args := []

end FunctionDefinition

end GridRules
