import GridRules.Options.Definition
import GridRules.Proofs.GraphDrafts

namespace GridRules

namespace NodeConfig

variable {kind : NodeKind} {config : Option Entries}

/-- A configuration whose kind is put in is decoded as that kind. -/
theorem exists_decode_of_tagged {α : Type} {kinds : List (String × (Value → Decoded α))} {a : α}
    (hasTag : kind.configTag.isSome)
    (h : Decode.tagged "kind" kinds (tagged kind config) = .ok a) :
    ∃ tag decode, kind.configTag = some tag ∧ kinds.lookup tag = some decode ∧
      decode (tagged kind config) = .ok a := by
  obtain ⟨tag, ht⟩ := Option.isSome_iff_exists.mp hasTag
  have he : tagged kind config = .object ((config.getD []).put "kind" (.str tag)) := by
    rw [tagged, ht]
  have hk : Assoc.get? ((config.getD []).put "kind" (.str tag)) "kind" = some (.str tag) := by
    simp [Assoc.get?_put]
  rw [he] at h ⊢
  obtain ⟨decode, hl, hd⟩ := (Decode.tagged_eq_ok_iff hk).mp h
  exact ⟨tag, decode, ht, hl, hd⟩

/-- The configuration of the node for a source that reads the tracker. -/
inductive OfSource : Source → NodeConfig → Prop where
  | gridRows (gridId : String) : OfSource (.gridRows gridId) (.gridRows gridId)
  | layoutFields (source : LayoutFieldsSource) :
    OfSource (.layoutFields source) (.layoutFields source)

/-- What a pipeline reads as its source, a node reads as its configuration. -/
theorem decode_of_source {source : Source} {target : NodeConfig} (hasTag : kind.configTag.isSome)
    (h : Source.decode (tagged kind config) = .ok source) (ofSource : OfSource source target) :
    decode kind (tagged kind config) = .ok target := by
  obtain ⟨tag, decodeSource, ht, hl, hd⟩ := exists_decode_of_tagged hasTag h
  -- the kinds of transforms are not among those of sources
  cases kind <;> cases ht <;> cases hl
  all_goals
    obtain ⟨_, hv, rfl⟩ := Decoded.map_eq_ok_iff.mp hd
    cases ofSource <;> exact Decoded.map_eq_ok_iff.mpr ⟨_, hv, rfl⟩

/-- What a pipeline reads as a transform, a node reads as its configuration. -/
theorem decode_of_transform {step : Transform} (hasTag : kind.configTag.isSome)
    (h : Transform.decode (tagged kind config) = .ok step) :
    decode kind (tagged kind config) = .ok (.transform step) := by
  obtain ⟨tag, decodeStep, ht, hl, hd⟩ := exists_decode_of_tagged hasTag h
  cases kind <;> cases ht <;> cases hl
  all_goals
    obtain ⟨_, hv, rfl⟩ := Decoded.map_eq_ok_iff.mp hd
    exact Decoded.map_eq_ok_iff.mpr ⟨_, hv, rfl⟩

end NodeConfig

/-- What nodes of one kind give fits what nodes of the other take. -/
def NodeKind.Supplies (source target : NodeKind) : Prop :=
  ∃ taken, target.takes = some taken ∧ source.gives.fits taken

/-- The draft of a node with a configuration. -/
def DraftNode.ofConfig (id : String) (config : NodeConfig) : DraftNode :=
  ⟨id, config.kind, some config⟩

namespace GraphNode

variable {node : GraphNode}

/-- A node that starts a graph; it is not configured. -/
def Starts (node : GraphNode) : Prop :=
  node.kind = NodeKind.start.name ∧ node.config.getD [] = []

/-- A node of a source, with the configuration that the source has in a pipeline. -/
def Reads (node : GraphNode) (source : Source) : Prop :=
  ∃ kind : NodeKind, node.kind = kind.name ∧ kind.configTag.isSome ∧
    Source.decode (NodeConfig.tagged kind node.config) = .ok source

/-- A node of a transform, with the configuration that the transform has in a pipeline. -/
def Applies (node : GraphNode) (step : Transform) : Prop :=
  ∃ kind : NodeKind, node.kind = kind.name ∧ kind.configTag.isSome ∧
    Transform.decode (NodeConfig.tagged kind node.config) = .ok step

/-- A node that makes options by the mapping that a pipeline has as its output. -/
def Maps (node : GraphNode) (mapping : OutputMapping) : Prop :=
  node.kind = NodeKind.output.name ∧
    ∃ v, node.config = some [("mapping", v)] ∧ OutputMapping.decode v = .ok mapping

theorem ofName?_name (kind : NodeKind) : NodeKind.ofName? kind.name = some kind := by
  cases kind <;> decide

theorem draft?_of_decode {kind : NodeKind} {config : NodeConfig} (hk : node.kind = kind.name)
    (h : NodeConfig.decode kind (NodeConfig.tagged kind node.config) = .ok config) :
    node.draft? = some (.ofConfig node.id config) := by
  simp [DraftNode.ofConfig, draft?, hk, ofName?_name, h, NodeConfig.kind_of_decode h]

theorem Starts.draft?_eq (h : node.Starts) : node.draft? = some (.ofConfig node.id .start) := by
  apply draft?_of_decode h.1
  simp [NodeConfig.tagged, NodeKind.configTag, h.2, NodeConfig.decode, NodeConfig.decodeStart,
    Decode.closed, Decode.unknownKeys, Assoc.keys, Decoded.also, Decoded.map]

theorem Reads.draft?_eq {source : Source} {config : NodeConfig} (h : node.Reads source)
    (ofSource : NodeConfig.OfSource source config) :
    node.draft? = some (.ofConfig node.id config) := by
  obtain ⟨kind, hk, hasTag, hd⟩ := h
  exact draft?_of_decode hk (NodeConfig.decode_of_source hasTag hd ofSource)

theorem Applies.draft?_eq {step : Transform} (h : node.Applies step) :
    node.draft? = some (.ofConfig node.id (.transform step)) := by
  obtain ⟨kind, hk, hasTag, hd⟩ := h
  exact draft?_of_decode hk (NodeConfig.decode_of_transform hasTag hd)

theorem Maps.draft?_eq {mapping : OutputMapping} (h : node.Maps mapping) :
    node.draft? = some (.ofConfig node.id (.output mapping)) := by
  obtain ⟨hk, v, hc, hm⟩ := h
  have spelled : Decode.spelling? [("mapping", v)] "mapping" = some "mapping" := by
    simp [Decode.spelling?, Assoc.has, Assoc.get?_cons]
  apply draft?_of_decode hk
  simp [hc, NodeConfig.tagged, NodeKind.configTag, NodeConfig.decode, NodeConfig.decodeOutput,
    Decode.closed, Decode.required, Decode.find?, Decode.unknownKeys, spelled, Assoc.get?_cons, hm,
    Decoded.under, Decoded.also, Decoded.map, Assoc.keys]

end GraphNode

/-- Nodes become these drafts. -/
abbrev Drafted (chain : List GraphNode) (stops : List DraftNode) : Prop :=
  List.Forall₂ (fun node drafted => node.draft? = some drafted) chain stops

section Drafted

variable {chain : List GraphNode} {stops : List DraftNode}

theorem Drafted.filterMap_eq (drafts : Drafted chain stops) :
    chain.filterMap GraphNode.draft? = stops := by
  induction drafts with
  | nil => rfl
  | cons h _ ih => rw [List.filterMap_cons_some h, ih]

theorem Drafted.isSome (drafts : Drafted chain stops) : ∀ node ∈ chain, node.draft?.isSome := by
  induction drafts with
  | nil => simp
  | cons h _ ih => exact List.forall_mem_cons.mpr ⟨Option.isSome_of_eq_some h, ih⟩

theorem Drafted.ids_eq (drafts : Drafted chain stops) :
    stops.map DraftNode.id = chain.map GraphNode.id := by
  rw [← drafts.filterMap_eq, DraftGraph.ids_filterMap_draft? drafts.isSome]

end Drafted

def draftsOf (nodes : List (String × NodeConfig)) : List DraftNode :=
  nodes.map fun node => .ofConfig node.1 node.2

/-- The nodes of a pipeline, one behind the other: the start, the source, the transforms and the
output. -/
def chainNodes (startId : String) (source : String × NodeConfig)
    (steps : List (String × Transform)) (output : String × OutputMapping) :
    List (String × NodeConfig) :=
  (startId, .start) :: source ::
    (steps.map (fun step => (step.1, .transform step.2)) ++ [(output.1, .output output.2)])

section ChainNodes

theorem Transform.supplies {source : NodeKind} (h : source.gives = .rows) (step : Transform) :
    source.Supplies (NodeConfig.transform step).kind := by
  cases step <;> exact ⟨_, rfl, by rw [h]; decide⟩

theorem Transform.gives (step : Transform) : (NodeConfig.transform step).kind.gives = .rows := by
  cases step <;> rfl

variable {startId : String} {source : Source} {config : NodeConfig}
  {steps : List (String × Transform)} {output : String × OutputMapping}

theorem isChain_steps {first : String × NodeConfig} (h : first.2.kind.gives = .rows) :
    (first :: (steps.map (fun step => (step.1, NodeConfig.transform step.2)) ++
      [(output.1, .output output.2)])).IsChain fun a b => a.2.kind.Supplies b.2.kind := by
  induction steps generalizing first with
  | nil => exact .cons_cons ⟨.rows, rfl, by rw [h]; decide⟩ (.singleton _)
  | cons step steps ih => exact .cons_cons (step.2.supplies h) (ih step.2.gives)

variable (ofSource : NodeConfig.OfSource source config) {sourceId : String}

include ofSource

theorem isChain_chainNodes :
    (chainNodes startId (sourceId, config) steps output).IsChain fun a b =>
      a.2.kind.Supplies b.2.kind := by
  refine .cons_cons ?_ (isChain_steps ?_)
  · cases ofSource <;> exact ⟨.object, rfl, rfl⟩
  · cases ofSource <;> rfl

theorem countP_chainNodes :
    (chainNodes startId (sourceId, config) steps output).countP (fun node =>
      node.2.kind == .output) = 1 := by
  have hstart : (NodeConfig.start.kind == .output) = false := rfl
  have hsource : (config.kind == .output) = false := by cases ofSource <;> rfl
  have hsteps (step : Transform) : ((NodeConfig.transform step).kind == .output) = false := by
    cases step <;> rfl
  have houtput : ((NodeConfig.output output.2).kind == .output) = true := rfl
  simp [chainNodes, List.countP_map, Function.comp_def, hstart, hsource, hsteps, houtput]

theorem offline_chainNodes :
    ∀ node ∈ chainNodes startId (sourceId, config) steps output,
      node.2.kind.isRemote = false := by
  intro node hn
  simp only [chainNodes, List.mem_cons, List.mem_append, List.mem_map, List.not_mem_nil,
    or_false] at hn
  rcases hn with rfl | rfl | ⟨step, _, rfl⟩ | rfl
  · rfl
  · cases ofSource <;> rfl
  · cases step.2 <;> rfl
  · rfl

end ChainNodes

end GridRules
