import GridRules.Proofs.Paths

namespace GridRules

namespace LinkGraph

/-- Some link leads from one node to the other. -/
def Linked (graph : LinkGraph) (a b : String) : Prop :=
  ∃ link ∈ graph.links, link.source = a ∧ link.target = b

/-- Nodes and links are listed once each, and links lead from node to node. -/
structure WellFormed (graph : LinkGraph) : Prop where
  nodes : graph.nodes.Nodup
  links : graph.links.Nodup
  ends : ∀ link ∈ graph.links, link.source ∈ graph.nodes ∧ link.target ∈ graph.nodes

section Neighbours

variable {graph : LinkGraph} {a b : String}

theorem mem_successors : b ∈ graph.successors a ↔ graph.Linked a b := by
  simp only [successors, outgoing, List.mem_eraseDups, List.mem_map, List.mem_filter, beq_iff_eq,
    Linked, and_assoc]

theorem mem_predecessors : a ∈ graph.predecessors b ↔ graph.Linked a b := by
  simp only [predecessors, List.mem_eraseDups, List.mem_map, List.mem_filter, beq_iff_eq, Linked]
  constructor
  · rintro ⟨link, ⟨hm, ht⟩, hs⟩
    exact ⟨link, hm, hs, ht⟩
  · rintro ⟨link, hm, hs, ht⟩
    exact ⟨link, ⟨hm, ht⟩, hs⟩

theorem mem_freed {done : List String} :
    b ∈ graph.freed done a ↔
      graph.Linked a b ∧ ∀ source, graph.Linked source b → source ∈ done := by
  simp [freed, mem_successors, mem_predecessors]

theorem freed_nodup (done : List String) (a : String) : (graph.freed done a).Nodup :=
  (nodup_eraseDups _).filter _

theorem WellFormed.source_mem (wf : graph.WellFormed) (h : graph.Linked a b) : a ∈ graph.nodes := by
  obtain ⟨link, hm, rfl, _⟩ := h
  exact (wf.ends link hm).1

theorem WellFormed.target_mem (wf : graph.WellFormed) (h : graph.Linked a b) : b ∈ graph.nodes := by
  obtain ⟨link, hm, _, rfl⟩ := h
  exact (wf.ends link hm).2

end Neighbours

/-- The state while nodes are taken: what is done has nothing behind it that comes before, and the
queue has just the other nodes that wait for nothing. -/
structure Taking (graph : LinkGraph) (done queue : List String) : Prop where
  distinct : (done ++ queue).Nodup
  within : done ++ queue ⊆ graph.nodes
  free : ∀ b ∈ done ++ queue, ∀ a, graph.Linked a b → a ∈ done
  complete : ∀ b ∈ graph.nodes, (∀ a, graph.Linked a b → a ∈ done) → b ∈ done ++ queue
  accessible : ∀ a ∈ done, Acc graph.Linked a
  ordered : done.Pairwise fun a b => ¬ Relation.TransGen graph.Linked b a

section Taking

variable {graph : LinkGraph} {done queue : List String} {node : String}

theorem taking_start (wf : graph.WellFormed) :
    graph.Taking [] (graph.nodes.filter fun node => (graph.predecessors node).isEmpty) where
  distinct := wf.nodes.filter _
  within := List.filter_subset_self _
  free b hb a hl := by
    obtain ⟨_, he⟩ := List.mem_filter.mp hb
    rw [List.isEmpty_iff] at he
    exact he ▸ mem_predecessors.mpr hl
  complete b hb none := by
    refine List.mem_filter.mpr ⟨hb, List.isEmpty_iff.mpr ?_⟩
    exact List.eq_nil_iff_forall_not_mem.mpr fun a ha => by
      simpa using none a (mem_predecessors.mp ha)
  accessible := by simp
  ordered := .nil

theorem Taking.ancestor_done (h : graph.Taking done queue) {a b : String} (hb : b ∈ done)
    (hp : Relation.TransGen graph.Linked a b) : a ∈ done := by
  induction hp using Relation.TransGen.head_induction_on with
  | single hl => exact h.free _ (List.mem_append_left _ hb) _ hl
  | head hl _ ih => exact h.free _ (List.mem_append_left _ ih) _ hl

theorem Taking.step (wf : graph.WellFormed) (h : graph.Taking done (node :: queue)) :
    graph.Taking (done ++ [node]) (queue ++ graph.freed (done ++ [node]) node) := by
  have split : done ++ node :: queue = (done ++ [node]) ++ queue := by simp
  have newNode : node ∉ done := not_mem_front h.distinct
  -- what is done or waits in the queue does not come after `node`, and what is freed does
  have fresh : ∀ b ∈ graph.freed (done ++ [node]) node, b ∉ done ++ node :: queue :=
    fun b hb hm => newNode (h.free b hm node (mem_freed.mp hb).1)
  constructor
  case distinct =>
    rw [← List.append_assoc, ← split]
    refine List.nodup_append.mpr ⟨h.distinct, freed_nodup _ _, ?_⟩
    rintro x hx y hy rfl
    exact fresh x hy hx
  case within =>
    rw [← List.append_assoc, ← split]
    exact List.append_subset.mpr ⟨h.within, fun b hb => wf.target_mem (mem_freed.mp hb).1⟩
  case free =>
    intro b hb a hl
    rw [← List.append_assoc, ← split] at hb
    rcases List.mem_append.mp hb with hb | hb
    · exact List.mem_append_left _ (h.free b hb a hl)
    · exact (mem_freed.mp hb).2 a hl
  case complete =>
    intro b hb hdone
    rw [← List.append_assoc, ← split]
    by_cases hl : graph.Linked node b
    · exact List.mem_append_right _ (mem_freed.mpr ⟨hl, hdone⟩)
    · refine List.mem_append_left _ (h.complete b hb fun a ha => ?_)
      exact (mem_concat.mp (hdone a ha)).resolve_right fun he => hl (he ▸ ha)
  case accessible =>
    intro a ha
    rcases mem_concat.mp ha with ha | rfl
    · exact h.accessible a ha
    · exact Acc.intro a fun b hb => h.accessible b (h.free a (by simp) b hb)
  case ordered =>
    refine List.pairwise_append.mpr ⟨h.ordered, List.pairwise_singleton _ _, ?_⟩
    intro a ha b hb hp
    obtain rfl := List.mem_singleton.mp hb
    exact newNode (h.ancestor_done ha hp)

/-- The fuel is a proved bound: every node is taken at most once. -/
theorem Taking.run (wf : graph.WellFormed) (fuel : Nat) (h : graph.Taking done queue)
    (hf : graph.nodes.length ≤ fuel + done.length) :
    graph.Taking (graph.takeFree fuel done queue) [] := by
  induction fuel generalizing done queue with
  | zero =>
    have hle := h.distinct.length_le_of_subset h.within
    rw [List.length_append] at hle
    have hq : queue = [] := List.eq_nil_of_length_eq_zero (by omega)
    rw [takeFree]
    exact hq ▸ h
  | succ fuel ih =>
    cases queue with
    | nil => exact h
    | cons node queue =>
      rw [takeFree]
      apply ih (h.step wf)
      rw [List.length_append, List.length_singleton]
      omega

theorem topologicalOrder_taking (wf : graph.WellFormed) :
    graph.Taking graph.topologicalOrder [] :=
  (taking_start wf).run wf _ (Nat.le_add_right _ _)

/-- The order has the nodes that no path leads to from a cycle. -/
theorem mem_topologicalOrder (wf : graph.WellFormed) :
    node ∈ graph.topologicalOrder ↔ node ∈ graph.nodes ∧ Acc graph.Linked node := by
  have h := topologicalOrder_taking wf
  constructor
  · intro hm
    exact ⟨h.within (by simpa using hm), h.accessible node hm⟩
  · rintro ⟨hm, hacc⟩
    induction hacc with
    | intro node _ ih =>
      simpa using h.complete node hm fun a ha => ih a ha (wf.source_mem ha)

theorem topologicalOrder_nodup (wf : graph.WellFormed) : graph.topologicalOrder.Nodup := by
  simpa using (topologicalOrder_taking wf).distinct

/-- A graph counts as acyclic just if its links lead to no node for ever backwards. -/
theorem isAcyclic_iff (wf : graph.WellFormed) :
    graph.isAcyclic = true ↔ ∀ node ∈ graph.nodes, Acc graph.Linked node := by
  have hsub : graph.topologicalOrder ⊆ graph.nodes := fun _ hm =>
    ((mem_topologicalOrder wf).mp hm).1
  rw [isAcyclic, beq_iff_eq]
  constructor
  · intro hl node hm
    have perm := (List.subperm_of_subset (topologicalOrder_nodup wf) hsub).perm_of_length_le
      (Nat.le_of_eq hl.symm)
    exact ((mem_topologicalOrder wf).mp (perm.symm.subset hm)).2
  · intro acc
    have hsup : graph.nodes ⊆ graph.topologicalOrder := fun node hm =>
      (mem_topologicalOrder wf).mpr ⟨hm, acc node hm⟩
    exact Nat.le_antisymm ((topologicalOrder_nodup wf).length_le_of_subset hsub)
      (wf.nodes.length_le_of_subset hsup)

end Taking

section Reaching

variable {graph : LinkGraph} {a b : String}

theorem mem_reachableFrom (wf : graph.WellFormed) (ha : a ∈ graph.nodes) :
    b ∈ graph.reachableFrom a ↔ Relation.ReflTransGen graph.Linked a b := by
  have within : ∀ x ∈ graph.nodes, graph.successors x ⊆ graph.nodes := fun _ _ _ hy =>
    wf.target_mem (mem_successors.mp hy)
  have same : StepAlong graph.successors = graph.Linked := by
    funext x y
    exact propext mem_successors
  rw [reachableFrom, mem_closure_iff within (Nat.le_refl _) ha, same]

theorem mem_leadingTo (wf : graph.WellFormed) (hb : b ∈ graph.nodes) :
    a ∈ graph.leadingTo b ↔ Relation.ReflTransGen graph.Linked a b := by
  have within : ∀ x ∈ graph.nodes, graph.predecessors x ⊆ graph.nodes := fun _ _ _ hy =>
    wf.source_mem (mem_predecessors.mp hy)
  have same : StepAlong graph.predecessors = Function.swap graph.Linked := by
    funext x y
    exact propext mem_predecessors
  rw [leadingTo, mem_closure_iff within (Nat.le_refl _) hb, same, Relation.reflTransGen_swap]

theorem mem_incoming {link : Link} :
    link ∈ graph.incoming b ↔ link ∈ graph.links ∧ link.target = b := by
  simp only [incoming, List.mem_flatMap, List.mem_filter, Bool.and_eq_true, beq_iff_eq,
    mem_predecessors]
  constructor
  · rintro ⟨_, _, hm, ht, _⟩
    exact ⟨hm, ht⟩
  · rintro ⟨hm, ht⟩
    exact ⟨link.source, ⟨link, hm, rfl, ht⟩, hm, ht, rfl⟩

theorem incoming_nodup (wf : graph.WellFormed) (b : String) : (graph.incoming b).Nodup := by
  refine List.nodup_flatMap.mpr ⟨fun _ _ => wf.links.filter _, ?_⟩
  refine (nodup_eraseDups _).imp fun {x y} hne => ?_
  intro link hx hy
  simp only [List.mem_filter, Bool.and_eq_true, beq_iff_eq] at hx hy
  exact hne (hx.2.2.symm.trans hy.2.2)

/-- A node with one link to it has no other one. -/
theorem incoming_eq_singleton_iff (wf : graph.WellFormed) {link : Link} :
    graph.incoming b = [link] ↔ (link ∈ graph.links ∧ link.target = b) ∧
      ∀ other ∈ graph.links, other.target = b → other = link := by
  constructor
  · intro h
    refine ⟨mem_incoming.mp (by simp [h]), fun other ho ht => ?_⟩
    simpa [h] using mem_incoming.mpr ⟨ho, ht⟩
  · rintro ⟨hm, unique⟩
    apply List.perm_singleton.mp
    apply (List.perm_ext_iff_of_nodup (incoming_nodup wf b) (List.nodup_singleton link)).mpr
    intro other
    rw [mem_incoming, List.mem_singleton]
    exact ⟨fun h => unique other h.1 h.2, fun h => h ▸ hm⟩

end Reaching

end LinkGraph

end GridRules
