import GridRules.Proofs.GraphDrafts

namespace GridRules

namespace DraftGraph

/-- What a node takes comes along one link, from a node that gives what fits; to a node that takes
nothing there is no link. -/
def Fed (draft : DraftGraph) (node : DraftNode) : Prop :=
  match node.kind.takes with
  | none => ∀ link ∈ draft.links.links, link.target ≠ node.id
  | some taken => ∃ link ∈ draft.links.links, link.target = node.id ∧
      (∀ other ∈ draft.links.links, other.target = node.id → other = link) ∧
      ∃ source, draft.node? link.source = some source ∧ source.kind.gives.fits taken

/-- Nothing is wrong with a graph as a whole. Only membership of nodes and links counts here, not
the order in which they are listed. -/
structure Sound (draft : DraftGraph) (entryId returnId : String) (connectors : List String) :
    Prop where
  entry : ∃ node, draft.node? entryId = some node ∧ node.kind = .start
  leaves : ∃ next, draft.links.Linked entryId next
  output : ∃ node, draft.node? returnId = some node ∧ node.kind = .output
  outputs : draft.nodes.countP (fun node => node.kind == .output) = 1
  connected : connectors = [] ∨ ∀ node ∈ draft.nodes, ∀ source,
    node.config = some (.httpGet source) → source.connectorId ∈ connectors
  fed : ∀ node ∈ draft.nodes, draft.Fed node
  acyclic : ∀ id ∈ draft.ids, Acc draft.links.Linked id
  reachable : Relation.ReflTransGen draft.links.Linked entryId returnId

section Checks

variable {draft : DraftGraph} {entryId returnId : String} {connectors : List String}

theorem outgoing_eq_nil_iff {graph : LinkGraph} {id : String} :
    graph.outgoing id = [] ↔ ¬ ∃ next, graph.Linked id next := by
  simp only [LinkGraph.outgoing, List.filter_eq_nil_iff, beq_iff_eq]
  constructor
  · rintro none ⟨_, link, hl, hs, _⟩
    exact none link hl hs
  · exact fun none link hl hs => none ⟨link.target, link, hl, hs, rfl⟩

theorem entryIssues_eq_nil_iff :
    draft.entryIssues entryId = [] ↔
      (∃ node, draft.node? entryId = some node ∧ node.kind = .start) ∧
        ∃ next, draft.links.Linked entryId next := by
  unfold entryIssues
  split
  next hn => simp [hn]
  next entry hn =>
    obtain ⟨_, rfl⟩ := mem_of_node? hn
    by_cases hk : entry.kind = .start
    · by_cases hl : ∃ next, draft.links.Linked entry.id next
      · simp [hn, hk, hl, mt outgoing_eq_nil_iff.mp (not_not_intro hl)]
      · simp [hn, hk, hl, outgoing_eq_nil_iff.mpr hl]
    · simp [hn, hk]

theorem returnIssues_eq_nil_iff :
    draft.returnIssues returnId = [] ↔
      ∃ node, draft.node? returnId = some node ∧ node.kind = .output := by
  unfold returnIssues
  split
  next hn => simp [hn]
  next ret hn => by_cases hk : ret.kind = .output <;> simp [hn, hk]

theorem outputIssues_eq_nil_iff :
    draft.outputIssues = [] ↔ draft.nodes.countP (fun node => node.kind == .output) = 1 := by
  unfold outputIssues
  split <;> simp_all

theorem connectorIssues_eq_nil_iff :
    draft.connectorIssues connectors = [] ↔
      connectors = [] ∨ ∀ node ∈ draft.nodes, ∀ source,
        node.config = some (.httpGet source) → source.connectorId ∈ connectors := by
  unfold connectorIssues
  split
  next he => simp [List.isEmpty_iff.mp he]
  next hne =>
    rw [or_iff_right (mt List.isEmpty_iff.mpr hne), List.filterMap_eq_nil_iff]
    refine forall₂_congr fun node _ => ?_
    split
    next source hc => simp [hc]
    next hc => simpa using fun source h => (hc source h).elim

theorem linkIssue?_eq_none_iff {node source : DraftNode} {taken : PortType} {link : Link}
    (h : draft.node? link.source = some source) :
    draft.linkIssue? node taken link = none ↔ source.kind.gives.fits taken := by
  simp [linkIssue?, h]

theorem inputIssues_of_takes_nothing {node : DraftNode} (hk : node.kind.takes = none) :
    draft.inputIssues node = [] ↔ draft.links.incoming node.id = [] := by
  simp only [inputIssues, hk]
  cases draft.links.incoming node.id <;> simp

/-- Without links something is missing, and of two links one is too many. -/
theorem inputIssues_of_takes {node : DraftNode} {taken : PortType}
    (hk : node.kind.takes = some taken) :
    draft.inputIssues node = [] ↔ ∃ link, draft.links.incoming node.id = [link] ∧
      draft.linkIssue? node taken link = none := by
  simp only [inputIssues, hk]
  rcases draft.links.incoming node.id with _ | ⟨link, _ | ⟨other, others⟩⟩
  · simp
  · cases draft.linkIssue? node taken link <;> simp_all
  · simp

theorem inputIssues_eq_nil_iff (wf : draft.WellFormed) {node : DraftNode} :
    draft.inputIssues node = [] ↔ draft.Fed node := by
  unfold Fed
  cases hk : node.kind.takes with
  | none =>
    -- no incoming link is the same as no link with this target
    rw [inputIssues_of_takes_nothing hk]
    simp [List.eq_nil_iff_forall_not_mem, LinkGraph.mem_incoming]
  | some taken =>
    rw [inputIssues_of_takes hk]
    constructor
    · rintro ⟨link, hi, fits⟩
      obtain ⟨⟨hl, ht⟩, unique⟩ := (LinkGraph.incoming_eq_singleton_iff wf.links).mp hi
      have hs : link.source ∈ draft.ids := wf.nodes ▸ (wf.links.ends link hl).1
      obtain ⟨source, hsource⟩ := Option.isSome_iff_exists.mp (node?_isSome_iff.mpr hs)
      exact ⟨link, hl, ht, unique, source, hsource, (linkIssue?_eq_none_iff hsource).mp fits⟩
    · rintro ⟨link, hl, ht, unique, source, hsource, fits⟩
      exact ⟨link, (LinkGraph.incoming_eq_singleton_iff wf.links).mpr ⟨⟨hl, ht⟩, unique⟩,
        (linkIssue?_eq_none_iff hsource).mpr fits⟩

theorem cycleIssues_eq_nil_iff (wf : draft.WellFormed) :
    draft.cycleIssues = [] ↔ ∀ id ∈ draft.ids, Acc draft.links.Linked id := by
  rw [← wf.nodes, ← LinkGraph.isAcyclic_iff wf.links]
  cases h : draft.links.isAcyclic <;> simp [cycleIssues, h]

theorem mem_reached (wf : draft.WellFormed) {entry : DraftNode} {id : String}
    (h : draft.node? entryId = some entry) :
    id ∈ draft.reached entryId ↔ Relation.ReflTransGen draft.links.Linked entryId id := by
  obtain ⟨hm, rfl⟩ := mem_of_node? h
  have hn : entry.id ∈ draft.links.nodes := wf.nodes ▸ List.mem_map_of_mem hm
  rw [← LinkGraph.mem_reachableFrom wf.links hn, reached, h]

theorem reachIssues_eq_nil_iff (wf : draft.WellFormed) {entry ret : DraftNode}
    (he : draft.node? entryId = some entry) (hr : draft.node? returnId = some ret) :
    draft.reachIssues entryId returnId = [] ↔
      Relation.ReflTransGen draft.links.Linked entryId returnId := by
  obtain ⟨_, rfl⟩ := mem_of_node? hr
  rw [← mem_reached wf he]
  by_cases h : ret.id ∈ draft.reached entryId <;> simp [reachIssues, hr, h]

/-- The checks find no issue just if nothing is wrong with the graph. -/
theorem allIssues_eq_nil_iff (wf : draft.WellFormed) {spec : GraphSpec} :
    draft.allIssues spec connectors = [] ↔
      draft.issues = [] ∧ draft.Sound spec.entryNodeId spec.returnNodeId connectors := by
  simp only [allIssues, List.append_eq_nil_iff, entryIssues_eq_nil_iff, returnIssues_eq_nil_iff,
    outputIssues_eq_nil_iff, connectorIssues_eq_nil_iff, List.flatMap_eq_nil_iff,
    inputIssues_eq_nil_iff wf, cycleIssues_eq_nil_iff wf]
  constructor
  · rintro ⟨⟨⟨⟨⟨⟨⟨clean, entry, leaves⟩, output⟩, outputs⟩, connected⟩, fed⟩, acyclic⟩, reach⟩
    obtain ⟨entryNode, he, hek⟩ := entry
    obtain ⟨ret, hr, hrk⟩ := output
    exact ⟨clean, ⟨entryNode, he, hek⟩, leaves, ⟨ret, hr, hrk⟩, outputs, connected, fed, acyclic,
      (reachIssues_eq_nil_iff wf he hr).mp reach⟩
  · rintro ⟨clean, sound⟩
    obtain ⟨entryNode, he, _⟩ := sound.entry
    obtain ⟨ret, hr, _⟩ := sound.output
    exact ⟨⟨⟨⟨⟨⟨⟨clean, sound.entry, sound.leaves⟩, sound.output⟩, sound.outputs⟩,
      sound.connected⟩, sound.fed⟩, sound.acyclic⟩,
      (reachIssues_eq_nil_iff wf he hr).mpr sound.reachable⟩

theorem issues_of_allIssues {spec : GraphSpec} (h : draft.allIssues spec connectors = []) :
    draft.issues = [] := by
  simp only [allIssues, List.append_eq_nil_iff, and_assoc] at h
  exact h.1

theorem allIssues_ofSpec_eq_nil_iff {spec : GraphSpec} :
    (ofSpec spec).allIssues spec connectors = [] ↔
      spec.Configured ∧ (ofSpec spec).Sound spec.entryNodeId spec.returnNodeId connectors := by
  rw [← ofSpec_issues_eq_nil_iff]
  constructor
  · intro h
    have configured := ofSpec_issues_eq_nil_iff.mp (issues_of_allIssues h)
    exact (allIssues_eq_nil_iff (ofSpec_wellFormed configured)).mp h
  · intro h
    have configured := ofSpec_issues_eq_nil_iff.mp h.1
    exact (allIssues_eq_nil_iff (ofSpec_wellFormed configured)).mpr h

end Checks

end DraftGraph

end GridRules
