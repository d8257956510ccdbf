import GridRules.Options.GraphPlan
import GridRules.Proofs.DecodeProblems
import GridRules.Proofs.TopologicalOrder
import Mathlib.Data.List.Induction

namespace GridRules

/-- A node with its kind and its configuration, if there is nothing wrong with them. -/
def GraphNode.draft? (node : GraphNode) : Option DraftNode :=
  (NodeKind.ofName? node.kind).bind fun kind =>
    match NodeConfig.decode kind (NodeConfig.tagged kind node.config) with
    | .ok config => some ⟨node.id, kind, some config⟩
    | .failed _ => none

theorem GraphNode.of_draft? {node : GraphNode} {drafted : DraftNode}
    (h : node.draft? = some drafted) :
    drafted.id = node.id ∧ ∃ config, drafted.config = some config ∧ config.kind = drafted.kind := by
  obtain ⟨kind, _, h⟩ := Option.bind_eq_some_iff.mp h
  split at h
  next config hd =>
    obtain rfl := Option.some.inj h
    exact ⟨rfl, config, rfl, NodeConfig.kind_of_decode hd⟩
  next => simp at h

def GraphEdge.link (edge : GraphEdge) : Link :=
  ⟨edge.source, edge.target, edge.id⟩

namespace GraphSpec

/-- Every node is told apart by its id and has a kind and a configuration that belongs to it, and
every edge leads from node to node. -/
structure Configured (spec : GraphSpec) : Prop where
  distinct : (spec.nodes.map GraphNode.id).Nodup
  drafts : ∀ node ∈ spec.nodes, node.draft?.isSome
  ends : ∀ edge ∈ spec.edges,
    edge.source ∈ spec.nodes.map GraphNode.id ∧ edge.target ∈ spec.nodes.map GraphNode.id

end GraphSpec

namespace DraftGraph

def ids (draft : DraftGraph) : List String :=
  draft.nodes.map DraftNode.id

section Nodes

variable {draft : DraftGraph} {id : String} {node : DraftNode}

theorem node?_eq_none_iff : draft.node? id = none ↔ id ∉ draft.ids := by
  simp [node?, ids, List.find?_eq_none]

theorem node?_isSome_iff : (draft.node? id).isSome ↔ id ∈ draft.ids := by
  rw [Option.isSome_iff_ne_none, ne_eq, node?_eq_none_iff, not_not]

theorem mem_of_node? (h : draft.node? id = some node) : node ∈ draft.nodes ∧ node.id = id :=
  ⟨List.mem_of_find?_eq_some h, by simpa using List.find?_some h⟩

theorem node?_of_mem (distinct : draft.ids.Nodup) (h : node ∈ draft.nodes) :
    draft.node? node.id = some node := by
  cases hf : draft.node? node.id with
  | none => exact absurd (List.mem_map_of_mem h) (node?_eq_none_iff.mp hf)
  | some other =>
    obtain ⟨ho, he⟩ := mem_of_node? hf
    rw [List.inj_on_of_nodup_map distinct ho h he]

end Nodes

section AddNode

variable {draft : DraftGraph} {node : GraphNode}

theorem addNode_of_draft {drafted : DraftNode} (fresh : draft.node? node.id = none)
    (h : node.draft? = some drafted) :
    draft.addNode node =
      ⟨draft.nodes ++ [drafted], ⟨draft.links.nodes ++ [node.id], draft.links.links⟩,
        draft.issues⟩ := by
  obtain ⟨kind, hk, h⟩ := Option.bind_eq_some_iff.mp h
  split at h
  next config hd =>
    obtain rfl := Option.some.inj h
    simp [addNode, fresh, hk, hd]
  next => simp at h

/-- A node is added without an issue just if its id is new and there is nothing wrong with it. -/
theorem addNode_issues_eq_nil_iff :
    (draft.addNode node).issues = [] ↔
      draft.issues = [] ∧ draft.node? node.id = none ∧ node.draft?.isSome := by
  by_cases fresh : draft.node? node.id = none
  · cases hd : node.draft? with
    | some drafted => simp [addNode_of_draft fresh hd, fresh]
    | none =>
      cases hk : NodeKind.ofName? node.kind with
      | none => simp [addNode, fresh, hk]
      | some kind =>
        cases hc : NodeConfig.decode kind (NodeConfig.tagged kind node.config) with
        | ok config => simp [GraphNode.draft?, hk, hc] at hd
        | failed problems =>
          have hne : problems ≠ [] := (NodeConfig.explained_decode kind _).ne_nil hc
          simp [addNode, fresh, hk, hc, hne]
  · have taken : (draft.node? node.id).isSome := Option.isSome_iff_ne_none.mpr fresh
    simp [addNode, taken, fresh]

end AddNode

def empty : DraftGraph := ⟨[], ⟨[], []⟩, []⟩

section FoldNodes

variable {nodes : List GraphNode}

theorem ids_filterMap_draft? (drafts : ∀ node ∈ nodes, node.draft?.isSome) :
    (nodes.filterMap GraphNode.draft?).map DraftNode.id = nodes.map GraphNode.id := by
  induction nodes with
  | nil => rfl
  | cons node nodes ih =>
    obtain ⟨drafted, hd⟩ := Option.isSome_iff_exists.mp (drafts node (by simp))
    have hid := (GraphNode.of_draft? hd).1
    have hids := ih fun other ho => drafts other (List.mem_cons_of_mem _ ho)
    rw [List.filterMap_cons_some hd, List.map_cons, List.map_cons, hid, hids]

/-- The induction is from the end, as the last node is added to the drafts of the others. -/
theorem foldl_addNode_eq (distinct : (nodes.map GraphNode.id).Nodup)
    (drafts : ∀ node ∈ nodes, node.draft?.isSome) :
    nodes.foldl addNode empty =
      ⟨nodes.filterMap GraphNode.draft?, ⟨nodes.map GraphNode.id, []⟩, []⟩ := by
  induction nodes using List.reverseRecOn with
  | nil => rfl
  | append_singleton nodes node ih =>
    rw [List.map_append, List.map_singleton] at distinct
    have front : ∀ other ∈ nodes, other.draft?.isSome := fun other ho => drafts other (by simp [ho])
    obtain ⟨drafted, hd⟩ := Option.isSome_iff_exists.mp (drafts node (by simp))
    have before := ih distinct.of_append_left front
    have fresh : (nodes.foldl addNode empty).node? node.id = none := by
      rw [before, node?_eq_none_iff, ids, ids_filterMap_draft? front]
      exact not_mem_front distinct
    rw [List.foldl_append, List.foldl_cons, List.foldl_nil, addNode_of_draft fresh hd, before]
    simp [hd]

theorem foldl_addNode_issues_eq_nil_iff :
    (nodes.foldl addNode empty).issues = [] ↔
      (nodes.map GraphNode.id).Nodup ∧ ∀ node ∈ nodes, node.draft?.isSome := by
  constructor
  · intro clean
    induction nodes using List.reverseRecOn with
    | nil => simp
    | append_singleton nodes node ih =>
      rw [List.foldl_append, List.foldl_cons, List.foldl_nil, addNode_issues_eq_nil_iff] at clean
      obtain ⟨clean, fresh, hd⟩ := clean
      obtain ⟨distinct, drafts⟩ := ih clean
      rw [foldl_addNode_eq distinct drafts, node?_eq_none_iff, ids,
        ids_filterMap_draft? drafts] at fresh
      rw [List.map_append, List.map_singleton]
      refine ⟨nodup_concat distinct fresh, fun other ho => ?_⟩
      rcases mem_concat.mp ho with ho | rfl
      · exact drafts other ho
      · exact hd
  · rintro ⟨distinct, drafts⟩
    rw [foldl_addNode_eq distinct drafts]

end FoldNodes

section AddEdge

variable {draft : DraftGraph} {edge : GraphEdge} {edges : List GraphEdge} {link : Link}

/-- The ends of an edge are among the nodes. -/
def HasEnds (draft : DraftGraph) (edge : GraphEdge) : Prop :=
  edge.source ∈ draft.ids ∧ edge.target ∈ draft.ids

theorem hasEnds_iff :
    ((draft.node? edge.source).isSome && (draft.node? edge.target).isSome) = true ↔
      draft.HasEnds edge := by
  rw [Bool.and_eq_true, node?_isSome_iff, node?_isSome_iff, HasEnds]

theorem foldl_addEdge_nodes (edges : List GraphEdge) (draft : DraftGraph) :
    (edges.foldl addEdge draft).nodes = draft.nodes ∧
      (edges.foldl addEdge draft).links.nodes = draft.links.nodes := by
  induction edges generalizing draft with
  | nil => exact ⟨rfl, rfl⟩
  | cons edge edges ih =>
    have step : (draft.addEdge edge).nodes = draft.nodes ∧
        (draft.addEdge edge).links.nodes = draft.links.nodes := by
      unfold addEdge LinkGraph.addLink
      repeat' split
      all_goals exact ⟨rfl, rfl⟩
    rw [List.foldl_cons, (ih _).1, (ih _).2]
    exact step

theorem addEdge_hasEnds_iff {other : GraphEdge} :
    (draft.addEdge edge).HasEnds other ↔ draft.HasEnds other := by
  have h := (foldl_addEdge_nodes [edge] draft).1
  rw [List.foldl_cons, List.foldl_nil] at h
  rw [HasEnds, HasEnds, ids, ids, h]

theorem foldl_addEdge_issues_eq_nil_iff :
    (edges.foldl addEdge draft).issues = [] ↔
      draft.issues = [] ∧ ∀ edge ∈ edges, draft.HasEnds edge := by
  induction edges generalizing draft with
  | nil => simp
  | cons edge edges ih =>
    have step : (draft.addEdge edge).issues = [] ↔ draft.issues = [] ∧ draft.HasEnds edge := by
      unfold addEdge
      split
      next h => simp [hasEnds_iff.mp h]
      next h => simp [mt hasEnds_iff.mpr h]
    simp only [List.foldl_cons, ih, step, addEdge_hasEnds_iff, List.forall_mem_cons, and_assoc]

theorem mem_addLink {graph : LinkGraph} {new : Link} :
    link ∈ (graph.addLink new).links ↔ link ∈ graph.links ∨ link = new := by
  unfold LinkGraph.addLink
  split
  next h =>
    have hm : new ∈ graph.links := by simpa using h
    exact ⟨.inl, fun h => h.elim id fun he => he ▸ hm⟩
  next => exact mem_concat

theorem addLink_nodup {graph : LinkGraph} (h : graph.links.Nodup) (new : Link) :
    (graph.addLink new).links.Nodup := by
  unfold LinkGraph.addLink
  split
  next => exact h
  next hn =>
    have hm : new ∉ graph.links := by simpa using hn
    exact nodup_concat h hm

theorem mem_foldl_addEdge_links :
    link ∈ (edges.foldl addEdge draft).links.links ↔
      link ∈ draft.links.links ∨ ∃ edge ∈ edges, draft.HasEnds edge ∧ edge.link = link := by
  induction edges generalizing draft with
  | nil => simp
  | cons edge edges ih =>
    have step : link ∈ (draft.addEdge edge).links.links ↔
        link ∈ draft.links.links ∨ draft.HasEnds edge ∧ edge.link = link := by
      unfold addEdge
      split
      next h => simp [mem_addLink, hasEnds_iff.mp h, GraphEdge.link, eq_comm]
      next h => simp [mt hasEnds_iff.mpr h]
    simp only [List.foldl_cons, ih, step, addEdge_hasEnds_iff, List.exists_mem_cons_iff, or_assoc]

theorem foldl_addEdge_links_nodup (h : draft.links.links.Nodup) (edges : List GraphEdge) :
    (edges.foldl addEdge draft).links.links.Nodup := by
  induction edges generalizing draft with
  | nil => exact h
  | cons edge edges ih =>
    apply ih
    unfold addEdge
    split
    next => exact addLink_nodup h _
    next => exact h

end AddEdge

/-- The nodes of a draft are told apart by their ids and have the configurations of their kinds, and
its links lead from node to node. -/
structure WellFormed (draft : DraftGraph) : Prop where
  distinct : draft.ids.Nodup
  links : draft.links.WellFormed
  nodes : draft.links.nodes = draft.ids
  configured : ∀ node ∈ draft.nodes, ∃ config, node.config = some config ∧ config.kind = node.kind

section OfSpec

variable {spec : GraphSpec}

theorem ofSpec_eq (spec : GraphSpec) :
    ofSpec spec = spec.edges.foldl addEdge (spec.nodes.foldl addNode empty) :=
  rfl

/-- A graph is drafted without issues just if its nodes are configured and its edges have ends. -/
theorem ofSpec_issues_eq_nil_iff : (ofSpec spec).issues = [] ↔ spec.Configured := by
  rw [ofSpec_eq, foldl_addEdge_issues_eq_nil_iff, foldl_addNode_issues_eq_nil_iff]
  constructor
  · rintro ⟨⟨distinct, drafts⟩, ends⟩
    simp only [HasEnds, ids, foldl_addNode_eq distinct drafts, ids_filterMap_draft? drafts] at ends
    exact ⟨distinct, drafts, ends⟩
  · rintro ⟨distinct, drafts, ends⟩
    simp only [HasEnds, ids, foldl_addNode_eq distinct drafts, ids_filterMap_draft? drafts]
    exact ⟨⟨distinct, drafts⟩, ends⟩

variable (configured : spec.Configured)

include configured

theorem ofSpec_nodes : (ofSpec spec).nodes = spec.nodes.filterMap GraphNode.draft? := by
  rw [ofSpec_eq, (foldl_addEdge_nodes _ _).1,
    foldl_addNode_eq configured.distinct configured.drafts]

theorem ofSpec_ids : (ofSpec spec).ids = spec.nodes.map GraphNode.id := by
  rw [ids, ofSpec_nodes configured, ids_filterMap_draft? configured.drafts]

theorem mem_ofSpec_links {link : Link} :
    link ∈ (ofSpec spec).links.links ↔ ∃ edge ∈ spec.edges, edge.link = link := by
  have nodes := foldl_addNode_eq configured.distinct configured.drafts
  rw [ofSpec_eq, mem_foldl_addEdge_links, nodes]
  simp only [List.not_mem_nil, false_or]
  refine exists_congr fun edge => and_congr_right fun he => and_iff_right ?_
  rw [HasEnds, ids, ids_filterMap_draft? configured.drafts]
  exact configured.ends edge he

theorem ofSpec_wellFormed : (ofSpec spec).WellFormed := by
  have nodes := foldl_addNode_eq configured.distinct configured.drafts
  have hids := ofSpec_ids configured
  have hnodes : (ofSpec spec).links.nodes = spec.nodes.map GraphNode.id := by
    rw [ofSpec_eq, (foldl_addEdge_nodes _ _).2, nodes]
  constructor
  case distinct => exact hids ▸ configured.distinct
  case links =>
    refine ⟨hnodes ▸ configured.distinct, ?_, fun link hl => ?_⟩
    · rw [ofSpec_eq, nodes]
      exact foldl_addEdge_links_nodup List.nodup_nil spec.edges
    · obtain ⟨edge, he, rfl⟩ := (mem_ofSpec_links configured).mp hl
      exact hnodes ▸ configured.ends edge he
  case nodes => rw [hnodes, hids]
  case configured =>
    intro node hn
    rw [ofSpec_nodes configured] at hn
    obtain ⟨_, _, hd⟩ := List.mem_filterMap.mp hn
    exact (GraphNode.of_draft? hd).2

end OfSpec

end DraftGraph

end GridRules
