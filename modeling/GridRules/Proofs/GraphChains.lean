import GridRules.Proofs.GraphChecks
import GridRules.Proofs.Paths

namespace GridRules

namespace DraftGraph

section Links

variable {draft : DraftGraph} {entryId returnId : String} {connectors : List String}

theorem WellFormed.mem_ids (wf : draft.WellFormed) {a b : String} (ha : a ∈ draft.ids)
    (h : Relation.ReflTransGen draft.links.Linked a b) : b ∈ draft.ids := by
  induction h with
  | refl => exact ha
  | tail _ hl _ => exact wf.nodes ▸ wf.links.target_mem hl

theorem Sound.entry_mem (sound : draft.Sound entryId returnId connectors) :
    entryId ∈ draft.ids := by
  obtain ⟨node, hn, _⟩ := sound.entry
  exact node?_isSome_iff.mp (by simp [hn])

theorem Sound.return_mem (sound : draft.Sound entryId returnId connectors) :
    returnId ∈ draft.ids := by
  obtain ⟨node, hn, _⟩ := sound.output
  exact node?_isSome_iff.mp (by simp [hn])

theorem Sound.not_linked_entry (sound : draft.Sound entryId returnId connectors) (id : String) :
    ¬ draft.links.Linked id entryId := by
  rintro ⟨link, hl, _, ht⟩
  obtain ⟨node, hn, hk⟩ := sound.entry
  obtain ⟨hm, rfl⟩ := mem_of_node? hn
  have fed := sound.fed node hm
  rw [Fed, hk] at fed
  exact fed link hl ht

/-- Where a link leads to a node, it is the one that the node takes its value along. -/
theorem Sound.fed_of_link (wf : draft.WellFormed) (sound : draft.Sound entryId returnId connectors)
    {link : Link} (hl : link ∈ draft.links.links) :
    ∃ source target taken, draft.node? link.source = some source ∧
      draft.node? link.target = some target ∧ target.kind.takes = some taken ∧
      source.kind.gives.fits taken ∧
      ∀ other ∈ draft.links.links, other.target = link.target → other = link := by
  have ht : link.target ∈ draft.ids := wf.nodes ▸ (wf.links.ends link hl).2
  obtain ⟨target, hm, he⟩ := List.mem_map.mp ht
  have fed := sound.fed target hm
  unfold Fed at fed
  split at fed
  next => exact absurd he.symm (fed link hl)
  next taken hk =>
    obtain ⟨only, _, _, unique, source, hs, fits⟩ := fed
    obtain rfl := unique link hl he.symm
    refine ⟨source, target, taken, hs, he ▸ node?_of_mem wf.distinct hm, hk, fits, ?_⟩
    exact fun other ho hot => unique other ho (hot.trans he.symm)

theorem Sound.linked_unique (wf : draft.WellFormed)
    (sound : draft.Sound entryId returnId connectors) {a b c : String}
    (ha : draft.links.Linked a c) (hb : draft.links.Linked b c) : a = b := by
  obtain ⟨link, hl, rfl, rfl⟩ := ha
  obtain ⟨other, ho, rfl, ht⟩ := hb
  obtain ⟨_, _, _, _, _, _, _, unique⟩ := sound.fed_of_link wf hl
  rw [unique other ho ht]

/-- A node takes its value from the node that a link leads to it from. -/
theorem Sound.inputNode?_eq_some_iff (wf : draft.WellFormed)
    (sound : draft.Sound entryId returnId connectors) {node : DraftNode} (hn : node ∈ draft.nodes)
    {a : String} : draft.inputNode? node = some a ↔ draft.links.Linked a node.id := by
  have fed := sound.fed node hn
  unfold Fed at fed
  unfold inputNode?
  split at fed
  next hk =>
    simp only [hk, Option.isNone_none, if_true, reduceCtorEq, false_iff]
    rintro ⟨link, hl, _, ht⟩
    exact fed link hl ht
  next taken hk =>
    obtain ⟨link, hl, ht, unique, _⟩ := fed
    have hi := (LinkGraph.incoming_eq_singleton_iff wf.links).mpr ⟨⟨hl, ht⟩, unique⟩
    simp only [hk, hi, Option.isNone_some, Bool.false_eq_true, if_false, List.head?_cons,
      Option.map_some, Option.some.injEq]
    constructor
    · exact fun hs => ⟨link, hl, hs, ht⟩
    · rintro ⟨other, ho, hs, hot⟩
      exact unique other ho hot ▸ hs

end Links

section Order

variable {draft : DraftGraph} {entryId returnId : String} {connectors : List String}

theorem mem_executionOrder (wf : draft.WellFormed)
    (sound : draft.Sound entryId returnId connectors) {id : String} :
    id ∈ draft.executionOrder entryId returnId ↔
      Relation.ReflTransGen draft.links.Linked entryId id ∧
        Relation.ReflTransGen draft.links.Linked id returnId := by
  obtain ⟨entry, he, _⟩ := sound.entry
  have hr : returnId ∈ draft.links.nodes := wf.nodes ▸ sound.return_mem
  simp only [executionOrder, List.mem_filter, Bool.and_eq_true, List.contains_iff_mem,
    mem_reached wf he, LinkGraph.mem_leadingTo wf.links hr, LinkGraph.mem_topologicalOrder wf.links]
  refine and_iff_right_of_imp fun h => ?_
  have hm := wf.mem_ids sound.entry_mem h.1
  exact ⟨wf.nodes ▸ hm, sound.acyclic id hm⟩

/-- A path from the entry to the return is the order of execution: nothing leads aside to the
return, as each node has one link to it and the entry none. -/
theorem Sound.executionOrder_eq (wf : draft.WellFormed)
    (sound : draft.Sound entryId returnId connectors) {path : List String}
    (chain : path.IsChain draft.links.Linked) (hfirst : path.head? = some entryId)
    (hlast : path.getLast? = some returnId) : draft.executionOrder entryId returnId = path := by
  have acyclic : ∀ id ∈ path, Acc draft.links.Linked id := fun id hm =>
    sound.acyclic id (wf.mem_ids sound.entry_mem (reflTransGen_of_mem_path chain hfirst hlast hm).1)
  have distinct : (draft.executionOrder entryId returnId).Nodup :=
    (LinkGraph.topologicalOrder_nodup wf.links).filter _
  have ordered : (draft.executionOrder entryId returnId).Pairwise fun a b =>
      ¬ Relation.TransGen draft.links.Linked b a :=
    (LinkGraph.topologicalOrder_taking wf.links).ordered.filter _
  apply eq_path_of_perm chain acyclic ordered
  apply (List.perm_ext_iff_of_nodup distinct (nodup_of_isChain chain acyclic)).mpr
  intro id
  rw [mem_executionOrder wf sound]
  constructor
  · rintro ⟨_, h⟩
    exact mem_path_of_reflTransGen chain hfirst hlast sound.not_linked_entry
      (sound.linked_unique wf) h
  · exact reflTransGen_of_mem_path chain hfirst hlast

theorem Sound.executionOrder_isChain (wf : draft.WellFormed)
    (sound : draft.Sound entryId returnId connectors) :
    (draft.executionOrder entryId returnId).IsChain draft.links.Linked ∧
      (draft.executionOrder entryId returnId).head? = some entryId ∧
      (draft.executionOrder entryId returnId).getLast? = some returnId ∧
      (draft.executionOrder entryId returnId).Nodup := by
  obtain ⟨path, hfirst, hlast, chain, distinct⟩ := exists_nodup_path sound.reachable
  rw [sound.executionOrder_eq wf chain hfirst hlast]
  exact ⟨chain, hfirst, hlast, distinct⟩

end Order

section Listing

variable {draft other : DraftGraph} {entryId returnId : String} {connectors : List String}

/-- Two drafts list the same nodes and the same links. -/
structure SameParts (draft other : DraftGraph) : Prop where
  nodes : draft.nodes.Perm other.nodes
  links : ∀ link, link ∈ draft.links.links ↔ link ∈ other.links.links

theorem SameParts.node?_eq (same : draft.SameParts other) (wf : draft.WellFormed)
    (wf' : other.WellFormed) : draft.node? = other.node? := by
  have either (id : String) (node : DraftNode) :
      draft.node? id = some node ↔ other.node? id = some node := by
    constructor
    · intro h
      obtain ⟨hm, rfl⟩ := mem_of_node? h
      exact node?_of_mem wf'.distinct (same.nodes.subset hm)
    · intro h
      obtain ⟨hm, rfl⟩ := mem_of_node? h
      exact node?_of_mem wf.distinct (same.nodes.symm.subset hm)
  funext id
  exact Option.ext (either id)

theorem SameParts.linked_eq (same : draft.SameParts other) :
    draft.links.Linked = other.links.Linked := by
  funext a b
  simp only [LinkGraph.Linked, same.links]

theorem SameParts.fed_iff (same : draft.SameParts other) (wf : draft.WellFormed)
    (wf' : other.WellFormed) {node : DraftNode} : draft.Fed node ↔ other.Fed node := by
  unfold Fed
  cases node.kind.takes <;> simp only [same.links, same.node?_eq wf wf']

/-- Whether anything is wrong with a graph does not depend on how its parts are listed. -/
theorem Sound.of_sameParts (sound : draft.Sound entryId returnId connectors)
    (same : draft.SameParts other) (wf : draft.WellFormed) (wf' : other.WellFormed) :
    other.Sound entryId returnId connectors where
  entry := same.node?_eq wf wf' ▸ sound.entry
  leaves := same.linked_eq ▸ sound.leaves
  output := same.node?_eq wf wf' ▸ sound.output
  outputs := same.nodes.countP_eq _ ▸ sound.outputs
  connected := sound.connected.imp_right fun h node hm => h node (same.nodes.symm.subset hm)
  fed node hm := (same.fed_iff wf wf').mp (sound.fed node (same.nodes.symm.subset hm))
  acyclic id hm := same.linked_eq ▸ sound.acyclic id ((same.nodes.map _).symm.subset hm)
  reachable := same.linked_eq ▸ sound.reachable

theorem Sound.executionOrder_sameParts (sound : draft.Sound entryId returnId connectors)
    (same : draft.SameParts other) (wf : draft.WellFormed) (wf' : other.WellFormed) :
    other.executionOrder entryId returnId = draft.executionOrder entryId returnId := by
  obtain ⟨chain, hfirst, hlast, _⟩ := sound.executionOrder_isChain wf
  exact (sound.of_sameParts same wf wf').executionOrder_eq wf' (same.linked_eq ▸ chain) hfirst hlast

end Listing

end DraftGraph

end GridRules
