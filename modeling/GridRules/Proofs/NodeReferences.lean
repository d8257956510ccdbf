import GridRules.Proofs.OfflineRuns
import GridRules.Proofs.RunWarnings
import GridRules.Schema.OptionFunctions
/-!
What the nodes of a graph refer to, read from their own configurations. The sources of a plan are
named by nodes of the graph that it was compiled from, and graphs that are written back alike name
the same.
-/

namespace GridRules

open Canonical (form)

/-- Only texts are read, and these have no other form. -/
theorem Decode.nonEmpty_alike {v w : Value} (h : form v = form w) : nonEmpty v = nonEmpty w := by
  have htext := Canonical.string?_alike h
  cases v <;> cases w <;> simp_all [Value.string?, nonEmpty]

namespace GraphNode

variable {node other : GraphNode}

/-- What a node refers to under the name of a field, in either spelling. -/
def reference (node : GraphNode) (name : String) : Decoded String :=
  Decode.required (node.config.getD []) name Decode.nonEmpty

/-- The node has a source that refers to this. -/
def Names (node : GraphNode) : Source → Prop
  | .gridRows gridId => node.kind = NodeKind.gridRows.name ∧ node.reference "gridId" = .ok gridId
  | .httpGet source => node.kind = NodeKind.httpGet.name ∧
      node.reference "connectorId" = .ok source.connectorId
  | .layoutFields _ => node.kind = NodeKind.layoutFields.name
  | .builtin _ => False

/-- The kind that is put into a configuration is not what its node refers to. -/
theorem required_put_kind (node : GraphNode) (tag : Value) {name : String} (hname : name ≠ "kind")
    (hsnake : Decode.snakeCase name ≠ "kind") :
    Decode.required ((node.config.getD []).put "kind" tag) name Decode.nonEmpty =
      node.reference name := by
  simp only [reference, Decode.required, Decode.find?_eq_or, Assoc.get?_put, if_neg hname,
    if_neg hsnake]

/-- Nodes that are written back alike are of one kind and refer to the same. -/
theorem references_of_form_eq (h : form (node.toValue true) = form (other.toValue true)) :
    (node.kind, node.reference) = (other.kind, other.reference) := by
  have hconfig : form (optionalValue .object node.config) =
      form (optionalValue .object other.config) := Canonical.field_alike "config" h
  have hentries (key : String) : ((node.config.getD []).get? key).map form =
      ((other.config.getD []).get? key).map form := by
    cases hnode : node.config <;> cases hother : other.config <;>
      simp only [hnode, hother, optionalValue] at hconfig
    · rfl
    · simp [form] at hconfig
    · simp [form] at hconfig
    · exact Canonical.get?_alike hconfig key
  refine Prod.ext (Canonical.str_alike (Canonical.field_alike "kind" h)) (funext fun name => ?_)
  change node.reference name = other.reference name
  have hfind : (Decode.find? (node.config.getD []) name).map form =
      (Decode.find? (other.config.getD []) name).map form := by
    rw [Decode.find?_eq_or, Decode.find?_eq_or, Option.map_or, Option.map_or, hentries, hentries]
  unfold reference Decode.required
  cases hnode : Decode.find? (node.config.getD []) name with
  | none =>
    rw [hnode, Option.map_none, eq_comm, Option.map_eq_none_iff] at hfind
    simp only [hfind]
  | some v =>
    rw [hnode, Option.map_some, eq_comm, Option.map_eq_some_iff] at hfind
    obtain ⟨w, hother, halike⟩ := hfind
    simp only [hother, Decode.nonEmpty_alike halike]

end GraphNode

namespace Source

theorem connectorId_of_decodeHttpGetWith {path : Entries → Decoded String} {es : Entries}
    {source : HttpGetSource} (h : decodeHttpGetWith path (.object es) = .ok source) :
    Decode.required es "connectorId" Decode.nonEmpty = .ok source.connectorId := by
  have hread := Decoded.gives_eq_iff.mpr (Decoded.eq_ok_of_also h)
  simp only [Decoded.gives_seq, Decoded.gives_fmap] at hread
  obtain ⟨_, -, connectorId, hconnector, _, -, _, -, _, -, _, -, rfl⟩ := hread
  exact hconnector

theorem gridId_of_decodeGridRows {es : Entries} {gridId : String}
    (h : decodeGridRows (.object es) = .ok gridId) :
    Decode.required es "gridId" Decode.nonEmpty = .ok gridId := by
  have hread := Decoded.gives_eq_iff.mpr (Decoded.eq_ok_of_also h)
  simp only [Decoded.gives_seq, Decoded.gives_fmap] at hread
  obtain ⟨_, -, _, hgrid, rfl⟩ := hread
  exact hgrid

end Source

namespace GraphNode

variable {node other : GraphNode}

theorem decode_of_draft? {drafted : DraftNode} {config : NodeConfig}
    (h : node.draft? = some drafted) (hconfig : drafted.config = some config) :
    node.kind = config.kind.name ∧
      NodeConfig.decode config.kind (NodeConfig.tagged config.kind node.config) = .ok config := by
  obtain ⟨kind, hkind, h⟩ := Option.bind_eq_some_iff.mp h
  rw [NodeKind.ofName?] at hkind
  have hname := List.find?_some hkind
  split at h
  next decoded hdecode =>
    obtain rfl := Option.some.inj h
    obtain rfl : decoded = config := Option.some.inj hconfig
    obtain rfl := NodeConfig.kind_of_decode hdecode
    exact ⟨(beq_iff_eq.mp hname).symm, hdecode⟩
  next => simp at h

/-- A node names the source of its configuration. -/
theorem names_of_decode {config : NodeConfig} {source : Source}
    (hkind : node.kind = config.kind.name)
    (hdecode : NodeConfig.decode config.kind (NodeConfig.tagged config.kind node.config) =
      .ok config)
    (hsource : config.source? = some source) : node.Names source := by
  cases config with
  | start | currentContext | transform | aiExtract | output => cases hsource
  | layoutFields read =>
    obtain rfl := Option.some.inj hsource
    exact hkind
  | gridRows gridId =>
    obtain rfl := Option.some.inj hsource
    obtain ⟨read, hread, hsame⟩ := Decoded.map_eq_ok_iff.mp hdecode
    obtain rfl := NodeConfig.gridRows.inj hsame
    refine ⟨hkind, ?_⟩
    rw [← node.required_put_kind (.str _) (by decide) (by decide)]
    exact Source.gridId_of_decodeGridRows hread
  | httpGet asked =>
    obtain rfl := Option.some.inj hsource
    obtain ⟨read, hread, hsame⟩ := Decoded.map_eq_ok_iff.mp hdecode
    obtain rfl := NodeConfig.httpGet.inj hsame
    refine ⟨hkind, ?_⟩
    rw [← node.required_put_kind (.str _) (by decide) (by decide)]
    exact Source.connectorId_of_decodeHttpGetWith hread

/-- A request whose connector stands under `connectorId` names it for the check. -/
theorem namedConnector?_ne_none {connectorId : String} (kind : node.kind = NodeKind.httpGet.name)
    (refers : node.reference "connectorId" = .ok connectorId)
    (spelled : (node.config.getD []).has "connectorId" = true) :
    Tracker.namedConnector? node ≠ none := by
  obtain ⟨v, hv⟩ := Option.isSome_iff_exists.mp spelled
  have hd : (node.config.getD []).getD "connectorId" = v := by simp [Entries.getD, hv]
  have hread : Decode.nonEmpty v = .ok connectorId := by
    simpa [reference, Decode.required, Decode.find?_eq_or, hv, Decoded.under_eq_ok_iff]
      using refers
  have hsays : v.saysSomething = true := by
    cases v with
    | str s =>
      refine bne_iff_ne.mpr fun hempty => ?_
      rw [hempty] at hread
      cases hread
    | null | bool | int | float | list | object => cases hread
  simp [Tracker.namedConnector?, kind, hd, hsays]

end GraphNode

namespace GraphSpec

variable {spec other : GraphSpec} {functionId : String} {connectors : List String}
  {plan : GraphPlan}

/-- A source of a plan is named by a node of the graph; if it is a request, the connector is among
those that there are. -/
theorem exists_names_of_compile (h : spec.compile functionId connectors = .ok plan)
    {source : Source} (reads : plan.Reads source) :
    (∃ node ∈ spec.nodes, node.Names source) ∧
      (connectors = [] ∨ ∀ asked, source = .httpGet asked → asked.connectorId ∈ connectors) := by
  obtain ⟨id, -, config, hconfig, hsource⟩ := reads
  obtain ⟨⟨configured, sound⟩, rfl⟩ := compile_eq_ok_iff.mp h
  rw [DraftGraph.plan_nodes_get? functionId spec (DraftGraph.ofSpec_wellFormed configured)]
    at hconfig
  obtain ⟨drafted, hdrafted, hconfig⟩ := Option.bind_eq_some_iff.mp hconfig
  have hmem := (DraftGraph.mem_of_node? hdrafted).1
  constructor
  · rw [DraftGraph.ofSpec_nodes configured] at hmem
    obtain ⟨node, hnode, hdraft⟩ := List.mem_filterMap.mp hmem
    obtain ⟨hkind, hdecode⟩ := GraphNode.decode_of_draft? hdraft hconfig
    exact ⟨node, hnode, GraphNode.names_of_decode hkind hdecode hsource⟩
  · refine sound.connected.imp_right fun connected asked hasked => ?_
    have hhttp : config = .httpGet asked := by
      cases config <;> simp_all [NodeConfig.source?]
    exact connected drafted hmem asked (hhttp ▸ hconfig)

/-- What a node of a graph names is named by one of a graph that is written back alike. -/
theorem exists_names_of_form_eq (h : form (spec.toValue true) = form (other.toValue true))
    {node : GraphNode} (hnode : node ∈ other.nodes) {source : Source} (names : node.Names source) :
    ∃ node ∈ spec.nodes, node.Names source := by
  have hreferences : spec.nodes.map (fun node => (node.kind, node.reference)) =
      other.nodes.map fun node => (node.kind, node.reference) :=
    Canonical.map_alike (fun _ _ => GraphNode.references_of_form_eq)
      (Canonical.field_alike "nodes" h)
  have hm : (node.kind, node.reference) ∈ spec.nodes.map fun node => (node.kind, node.reference) :=
    hreferences ▸ List.mem_map_of_mem hnode
  obtain ⟨own, hown, hsame⟩ := List.mem_map.mp hm
  obtain ⟨hkind, hreference⟩ := Prod.mk.inj hsame
  refine ⟨own, hown, ?_⟩
  cases source with
  | builtin functionId => exact names.elim
  | gridRows gridId => exact ⟨hkind.trans names.1, hreference ▸ names.2⟩
  | httpGet asked => exact ⟨hkind.trans names.1, hreference ▸ names.2⟩
  | layoutFields asked => exact hkind.trans names

end GraphSpec

end GridRules
