import GridRules.Proofs.SearchConsistency

namespace GridRules

namespace CalculationPlan

theorem fresh_nil (s : Visit) : ∀ t ∈ ([] : List String), t ∉ s.visited := by
  simp

/-- At the end of the whole search the impacted targets are divided into ordered and reported
ones. -/
theorem Search.mem_divided {plan : CalculationPlan} {impacted : List String} {s : Visit}
    {record : List (String × List String)}
    (h : plan.Search impacted [] impacted .start record s) {t : String} :
    t ∈ s.order ∨ t ∈ s.cyclic ↔ t ∈ impacted := by
  have hc := h.consistent (fresh_nil _) (consistent_start plan impacted)
  constructor
  · rintro (ho | hr)
    · exact hc.visited_within (hc.order_visited ho)
    · rcases hc.cyclic_reached t hr with hv | hp
      · exact hc.visited_within hv
      · simp at hp
  · intro hi
    rcases h.met hi hi with hv | ⟨hp, _⟩
    · exact hc.settled t hv
    · simp at hp

theorem Search.onCycle_of_reported {plan : CalculationPlan} {impacted : List String} {s : Visit}
    {record : List (String × List String)}
    (h : plan.Search impacted [] impacted .start record s) {t : String} (ht : t ∈ s.cyclic) :
    plan.OnCycle impacted t := by
  rcases h.new_cyclic (Trail.nil plan impacted impacted) (fresh_nil _) ht with hs | ⟨_, hcycle⟩
  · simp [Visit.start] at hs
  · exact hcycle.mono fun u hu => (mem_unfinished.mp hu).1

theorem Before.idxOf_lt {order : List String} {a b : String} (h : Before order a b)
    (hn : order.Nodup) : order.idxOf a < order.idxOf b := by
  obtain ⟨front, back, he, hf⟩ := h
  have hb : b ∉ front := not_mem_front (he ▸ hn)
  have hl := List.idxOf_lt_length_of_mem hf
  rw [he, List.idxOf_append_of_mem hf, List.idxOf_append_of_notMem hb]
  omega

/-- What stands behind a target, or is that target, is not in front of it. -/
theorem not_before_of_split {order done rest : List String} {t u : String} (hn : order.Nodup)
    (hsplit : order = done ++ t :: rest) (hu : u ∈ done ++ [t]) : ¬ Before order t u := by
  intro h
  have hlt := h.idxOf_lt hn
  have ht : order.idxOf t = done.length := by
    rw [hsplit, List.idxOf_append_of_notMem (not_mem_front (hsplit ▸ hn))]
    simp
  rcases mem_concat.mp hu with hu | rfl
  · have hl := List.idxOf_lt_length_of_mem hu
    rw [ht, hsplit, List.idxOf_append_of_mem hu] at hlt
    omega
  · omega

/-- Every directed cycle has a target that is reported. -/
theorem Search.reported_of_onCycle {plan : CalculationPlan} {impacted among : List String}
    {s : Visit} {record : List (String × List String)}
    (h : plan.Search impacted [] impacted .start record s) (hs : among ⊆ impacted) {t : String}
    (hcycle : plan.OnCycle among t) : ∃ u ∈ among, u ∈ s.cyclic := by
  by_contra none
  have hc := h.consistent (fresh_nil _) (consistent_start plan impacted)
  have notReported : ∀ u ∈ among, u ∉ s.cyclic := fun u hu hr => none ⟨u, hu, hr⟩
  have descends : ∀ u, Relation.TransGen (plan.Link among) t u →
      s.order.idxOf u < s.order.idxOf t := by
    intro u hu
    have step : ∀ a b, plan.Link among a b → s.order.idxOf b < s.order.idxOf a := by
      intro a b ⟨ha, hb, hd⟩
      have hao := (h.mem_divided.mpr (hs ha)).resolve_right (notReported a ha)
      have hbefore := (hc.behind a hao b hd (hs hb)).resolve_right (notReported b hb)
      exact hbefore.idxOf_lt hc.order_distinct
    induction hu with
    | single hl => exact step _ _ hl
    | tail _ hl ih => exact (step _ _ hl).trans ih
  exact lt_irrefl _ (descends t hcycle)

/-- Without a cycle all impacted targets are ordered. -/
theorem evaluationOrder_of_acyclic {plan : CalculationPlan} {impacted : List String}
    (acyclic : ∀ t, ¬ plan.OnCycle impacted t) :
    ∃ order, plan.evaluationOrder impacted = (order, []) ∧ ∀ t, t ∈ order ↔ t ∈ impacted := by
  obtain ⟨record, s, h, he⟩ := plan.evaluationOrder_search impacted
  have hr : s.cyclic = [] :=
    List.eq_nil_iff_forall_not_mem.mpr fun t ht => acyclic t (h.onCycle_of_reported ht)
  refine ⟨s.order, by rw [he, hr], fun t => ?_⟩
  simpa [hr] using h.mem_divided (t := t)

theorem mem_evaluationOrder {plan : CalculationPlan} {impacted : List String} {t : String} :
    t ∈ (plan.evaluationOrder impacted).1 ↔
      t ∈ impacted ∧ t ∉ (plan.evaluationOrder impacted).2 := by
  obtain ⟨record, s, h, he⟩ := plan.evaluationOrder_search impacted
  have hc := h.consistent (fresh_nil _) (consistent_start plan impacted)
  rw [he]
  constructor
  · intro ht
    exact ⟨h.mem_divided.mp (Or.inl ht), hc.order_not_cyclic t ht⟩
  · rintro ⟨hi, hr⟩
    exact (h.mem_divided.mpr hi).resolve_right hr

/-- If nothing is reported, there is no cycle. -/
theorem acyclic_of_none_reported {plan : CalculationPlan} {impacted : List String}
    (h : (plan.evaluationOrder impacted).2 = []) (t : String) : ¬ plan.OnCycle impacted t := by
  intro hcycle
  obtain ⟨record, s, hsearch, he⟩ := plan.evaluationOrder_search impacted
  obtain ⟨u, _, hu⟩ := hsearch.reported_of_onCycle (List.Subset.refl impacted) hcycle
  simp [he] at h
  simp [h] at hu

/-- The search comes to its end and divides the impacted targets, each once, into an order and the
reported ones. The order has every impacted dependency in front unless it is reported, and all that
is reported lies on a directed cycle of impacted targets. -/
theorem evaluationOrder_divides (plan : CalculationPlan) (impacted : List String) :
    ∃ record s, plan.Search impacted [] impacted .start record s ∧
      plan.evaluationOrder impacted = (s.order, s.cyclic) ∧
      s.order.Nodup ∧ s.cyclic.Nodup ∧ (∀ t ∈ s.order, t ∉ s.cyclic) ∧
      (∀ t, t ∈ s.order ∨ t ∈ s.cyclic ↔ t ∈ impacted) ∧
      (∀ t ∈ s.order, ∀ dep ∈ plan.dependencies t, dep ∈ impacted →
        Before s.order dep t ∨ dep ∈ s.cyclic) ∧
      ∀ t ∈ s.cyclic, plan.OnCycle impacted t := by
  obtain ⟨record, s, h, he⟩ := plan.evaluationOrder_search impacted
  have hc := h.consistent (fresh_nil _) (consistent_start plan impacted)
  exact ⟨record, s, h, he, hc.order_distinct, hc.cyclic_distinct, hc.order_not_cyclic,
    fun _ => h.mem_divided, hc.behind, fun _ ht => h.onCycle_of_reported ht⟩

end CalculationPlan

end GridRules
