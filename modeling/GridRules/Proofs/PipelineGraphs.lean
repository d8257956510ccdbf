import GridRules.Proofs.CompiledGraphs
import GridRules.Proofs.PipelineParts

namespace GridRules

section Consecutive

variable {α : Type} {items : List α} {a b : α}

theorem mem_zip_tail_iff :
    (a, b) ∈ items.zip items.tail ↔ ∃ i, items[i]? = some a ∧ items[i + 1]? = some b := by
  simp only [List.mem_iff_getElem?, List.getElem?_zip_eq_some, List.getElem?_tail]

theorem zip_tail_nodup (distinct : items.Nodup) : (items.zip items.tail).Nodup := by
  apply List.Nodup.of_map Prod.snd
  rw [List.map_snd_zip (by simp)]
  exact distinct.tail

end Consecutive

namespace DraftGraph

/-- The nodes of a draft are one line from its entry to its return: each link leads from a node to
the next, and each node gives what the next one takes, without the network. -/
structure Line (draft : DraftGraph) (entryId returnId : String) (stops : List DraftNode) : Prop where
  nodes : draft.nodes.Perm stops
  linked : ∀ a b, draft.links.Linked a b ↔ ∃ i source target,
    stops[i]? = some source ∧ stops[i + 1]? = some target ∧ source.id = a ∧ target.id = b
  single : ∀ link ∈ draft.links.links, ∀ other ∈ draft.links.links,
    link.source = other.source → link.target = other.target → link = other
  supplies : stops.IsChain fun source target => source.kind.Supplies target.kind
  first : ∃ node, stops.head? = some node ∧ node.id = entryId ∧ node.kind = .start
  last : ∃ node, stops.getLast? = some node ∧ node.id = returnId ∧ node.kind = .output
  outputs : stops.countP (fun node => node.kind == .output) = 1
  offline : ∀ node ∈ stops, node.kind.isRemote = false

section Line

variable {draft : DraftGraph} {entryId returnId : String} {stops : List DraftNode}
  (wf : draft.WellFormed) (along : draft.Line entryId returnId stops)

include along

theorem Line.ids_perm : draft.ids.Perm (stops.map DraftNode.id) :=
  along.nodes.map _

theorem Line.head?_eq : (stops.map DraftNode.id).head? = some entryId := by
  obtain ⟨node, hn, rfl, _⟩ := along.first
  rw [List.head?_map, hn, Option.map_some]

theorem Line.getLast?_eq : (stops.map DraftNode.id).getLast? = some returnId := by
  obtain ⟨node, hn, rfl, _⟩ := along.last
  rw [List.getLast?_map, hn, Option.map_some]

theorem Line.requiresRemote_eq (functionId : String) (spec : GraphSpec) :
    (draft.plan functionId spec).requiresRemote = false := by
  simp only [plan, List.any_eq_false, List.mem_filterMap, Option.map_eq_some_iff]
  rintro _ ⟨id, _, node, hn, rfl⟩
  simp [along.offline node (along.nodes.subset (mem_of_node? hn).1)]

include wf

theorem Line.node?_eq {node : DraftNode} (h : node ∈ stops) : draft.node? node.id = some node :=
  node?_of_mem wf.distinct (along.nodes.symm.subset h)

theorem Line.index_unique {i j : Nat} {a b : DraftNode} (ha : stops[i]? = some a)
    (hb : stops[j]? = some b) (he : a.id = b.id) : i = j := by
  have distinct : (stops.map DraftNode.id).Nodup := along.ids_perm.nodup wf.distinct
  have hi : i < (stops.map DraftNode.id).length := by
    rw [List.length_map]
    exact (List.getElem?_eq_some_iff.mp ha).1
  apply (List.getElem?_inj hi distinct).mp
  rw [List.getElem?_map, List.getElem?_map, ha, hb, Option.map_some, Option.map_some, he]

/-- A link to a node leads from the node before it. -/
theorem Line.linked_at {i : Nat} {node : DraftNode} (h : stops[i]? = some node) {a : String} :
    draft.links.Linked a node.id ↔
      ∃ j before, i = j + 1 ∧ stops[j]? = some before ∧ before.id = a := by
  rw [along.linked]
  constructor
  · rintro ⟨j, source, target, hs, ht, rfl, hid⟩
    exact ⟨j, source, along.index_unique wf h ht hid.symm, hs, rfl⟩
  · rintro ⟨j, before, rfl, hb, rfl⟩
    exact ⟨j, before, node, hb, h, rfl, rfl⟩

theorem Line.accessible {i : Nat} {node : DraftNode} (h : stops[i]? = some node) :
    Acc draft.links.Linked node.id := by
  induction i generalizing node with
  | zero =>
    refine Acc.intro _ fun a hl => ?_
    obtain ⟨j, _, hj, _⟩ := (along.linked_at wf h).mp hl
    omega
  | succ i ih =>
    refine Acc.intro _ fun a hl => ?_
    obtain ⟨j, before, hj, hb, rfl⟩ := (along.linked_at wf h).mp hl
    obtain rfl : i = j := by omega
    exact ih hb

theorem Line.fed {i : Nat} {node : DraftNode} (h : stops[i]? = some node) : draft.Fed node := by
  unfold Fed
  -- the first node is the start, which takes nothing; every other one has a node before it
  cases i with
  | zero =>
    obtain ⟨first, hfirst, _, hk⟩ := along.first
    rw [List.head?_eq_getElem?, h] at hfirst
    obtain rfl := Option.some.inj hfirst
    rw [hk]
    intro link hl ht
    obtain ⟨j, _, hj, _⟩ := (along.linked_at wf h).mp ⟨link, hl, rfl, ht⟩
    omega
  | succ i =>
    obtain ⟨hi, rfl⟩ := List.getElem?_eq_some_iff.mp h
    have hb : stops[i]? = some stops[i] := List.getElem?_eq_getElem (by omega)
    obtain ⟨taken, hk, fits⟩ := List.isChain_iff_getElem.mp along.supplies i hi
    obtain ⟨link, hl, hs, ht⟩ := (along.linked_at wf h).mpr ⟨i, _, rfl, hb, rfl⟩
    rw [hk]
    refine ⟨link, hl, ht, fun other ho hot => ?_, stops[i], ?_, fits⟩
    · obtain ⟨j, before, hj, hbefore, hid⟩ := (along.linked_at wf h).mp ⟨other, ho, rfl, hot⟩
      obtain rfl : i = j := by omega
      obtain rfl := Option.some.inj (hb.symm.trans hbefore)
      exact along.single other ho link hl (hid.symm.trans hs.symm) (hot.trans ht.symm)
    · rw [hs]
      exact along.node?_eq wf (List.mem_of_getElem? hb)

theorem Line.isChain : (stops.map DraftNode.id).IsChain draft.links.Linked := by
  rw [List.isChain_map, List.isChain_iff_getElem]
  intro i hi
  exact (along.linked_at wf (List.getElem?_eq_getElem hi)).mpr
    ⟨i, _, rfl, List.getElem?_eq_getElem (by omega), rfl⟩

/-- Nothing is wrong with a line. -/
theorem Line.sound (connectors : List String) : draft.Sound entryId returnId connectors := by
  have each {node : DraftNode} (h : node ∈ draft.nodes) : ∃ i : Nat, stops[i]? = some node :=
    List.mem_iff_getElem?.mp (along.nodes.subset h)
  have path : Relation.ReflTransGen draft.links.Linked entryId returnId :=
    (reflTransGen_of_mem_path (along.isChain wf) (along.head?_eq) (along.getLast?_eq)
      (List.mem_of_getLast? (along.getLast?_eq))).1
  obtain ⟨first, hf, hfid, hfk⟩ := along.first
  obtain ⟨last, hl, hlid, hlk⟩ := along.last
  constructor
  case entry => exact ⟨first, hfid ▸ along.node?_eq wf (List.mem_of_head? hf), hfk⟩
  case leaves =>
    rcases Relation.ReflTransGen.cases_head path with he | ⟨next, hn, _⟩
    · have same : some first = some last := by
        rw [← along.node?_eq wf (List.mem_of_head? hf), ← along.node?_eq wf
          (List.mem_of_getLast? hl), hfid, hlid, he]
      obtain rfl := Option.some.inj same
      simp [hfk] at hlk
    · exact ⟨next, hn⟩
  case output => exact ⟨last, hlid ▸ along.node?_eq wf (List.mem_of_getLast? hl), hlk⟩
  case outputs => exact along.nodes.countP_eq _ ▸ along.outputs
  case connected =>
    refine .inr fun node hm source hc => ?_
    obtain ⟨config, hconfig, hk⟩ := wf.configured node hm
    obtain rfl : config = .httpGet source := Option.some.inj (hconfig.symm.trans hc)
    simpa [← hk, NodeConfig.kind, NodeKind.isRemote] using
      along.offline node (along.nodes.subset hm)
  case fed =>
    intro node hm
    obtain ⟨i, hi⟩ := each hm
    exact along.fed wf hi
  case acyclic =>
    intro id hm
    obtain ⟨node, hn, rfl⟩ := List.mem_map.mp hm
    obtain ⟨i, hi⟩ := each hn
    exact along.accessible wf hi
  case reachable => exact path

theorem Line.executionOrder_eq : draft.executionOrder entryId returnId = stops.map DraftNode.id :=
  (along.sound wf []).executionOrder_eq wf (along.isChain wf) (along.head?_eq)
    (along.getLast?_eq)

end Line

end DraftGraph

namespace GraphSpec

/-- A graph has these nodes in line, told apart by their ids: edges lead from each to the next, from
the entry to the return. In which order nodes and edges are listed does not matter. -/
structure LinesUp (spec : GraphSpec) (chain : List GraphNode) : Prop where
  nodes : spec.nodes.Perm chain
  distinct : (chain.map GraphNode.id).Nodup
  edges : (spec.edges.map fun edge => (edge.source, edge.target)).Perm
    ((chain.map GraphNode.id).zip (chain.map GraphNode.id).tail)
  entry : (chain.map GraphNode.id).head? = some spec.entryNodeId
  output : (chain.map GraphNode.id).getLast? = some spec.returnNodeId

section LinesUp

variable {spec : GraphSpec} {chain : List GraphNode} {stops : List DraftNode}

variable (lines : spec.LinesUp chain)
  (drafts : Drafted chain stops)

include lines drafts

theorem LinesUp.configured : spec.Configured := by
  have perm : (spec.nodes.map GraphNode.id).Perm (chain.map GraphNode.id) := lines.nodes.map _
  constructor
  case distinct => exact perm.symm.nodup lines.distinct
  case drafts => exact fun node hm => drafts.isSome node (lines.nodes.subset hm)
  case ends =>
    intro edge he
    have pair := lines.edges.subset (List.mem_map_of_mem he)
    obtain ⟨hs, ht⟩ := List.of_mem_zip pair
    exact ⟨perm.symm.subset hs, perm.symm.subset (List.mem_of_mem_tail ht)⟩

/-- What is in line as a graph is a line when it is drafted. -/
theorem LinesUp.line_ofSpec
    (supplies : stops.IsChain fun source target => source.kind.Supplies target.kind)
    (first : ∃ node, stops.head? = some node ∧ node.kind = .start)
    (last : ∃ node, stops.getLast? = some node ∧ node.kind = .output)
    (outputs : stops.countP (fun node => node.kind == .output) = 1)
    (offline : ∀ node ∈ stops, node.kind.isRemote = false) :
    (DraftGraph.ofSpec spec).Line spec.entryNodeId spec.returnNodeId stops := by
  have configured := lines.configured drafts
  have ids := drafts.ids_eq
  have mem_links (link : Link) : link ∈ (DraftGraph.ofSpec spec).links.links ↔
      ∃ edge ∈ spec.edges, edge.link = link := DraftGraph.mem_ofSpec_links configured
  constructor
  case nodes =>
    rw [DraftGraph.ofSpec_nodes configured, ← drafts.filterMap_eq]
    exact lines.nodes.filterMap _
  case linked =>
    intro a b
    have pair : (DraftGraph.ofSpec spec).links.Linked a b ↔
        (a, b) ∈ spec.edges.map fun edge => (edge.source, edge.target) := by
      simp only [LinkGraph.Linked, mem_links, List.mem_map, Prod.mk.injEq]
      constructor
      · rintro ⟨_, ⟨edge, he, rfl⟩, hs, ht⟩
        exact ⟨edge, he, hs, ht⟩
      · rintro ⟨edge, he, hs, ht⟩
        exact ⟨_, ⟨edge, he, rfl⟩, hs, ht⟩
    rw [pair, lines.edges.mem_iff, mem_zip_tail_iff, ← ids]
    simp only [List.getElem?_map, Option.map_eq_some_iff]
    constructor
    · rintro ⟨i, ⟨source, hs, hsid⟩, target, ht, htid⟩
      exact ⟨i, source, target, hs, ht, hsid, htid⟩
    · rintro ⟨i, source, target, hs, ht, hsid, htid⟩
      exact ⟨i, ⟨source, hs, hsid⟩, target, ht, htid⟩
  case single =>
    intro link hl other ho hs ht
    obtain ⟨edge, he, rfl⟩ := (mem_links link).mp hl
    obtain ⟨otherEdge, hoe, rfl⟩ := (mem_links other).mp ho
    have distinct := lines.edges.symm.nodup (zip_tail_nodup lines.distinct)
    rw [List.inj_on_of_nodup_map distinct he hoe (Prod.ext hs ht)]
  case supplies => exact supplies
  case first =>
    obtain ⟨node, hn, hk⟩ := first
    refine ⟨node, hn, ?_, hk⟩
    have entry := lines.entry
    rwa [← ids, List.head?_map, hn, Option.map_some, Option.some.injEq] at entry
  case last =>
    obtain ⟨node, hn, hk⟩ := last
    refine ⟨node, hn, ?_, hk⟩
    have output := lines.output
    rwa [← ids, List.getLast?_map, hn, Option.map_some, Option.some.injEq] at output
  case outputs => exact outputs
  case offline => exact offline

end LinesUp

end GraphSpec

end GridRules
