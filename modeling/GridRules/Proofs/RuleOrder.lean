import GridRules.Proofs.EvaluatedRows

namespace GridRules

namespace CalculationPlan

section Changes

variable {plan plan' : CalculationPlan}

/-- What a change reaches is decided by the rules and by which fields changed. -/
theorem Touched.of_sameRules (same : ∀ among, SameRules plan plan' among)
    {fields fields' : List String} (hf : fields ⊆ fields') {t : String}
    (h : plan.Touched fields t) : plan'.Touched fields' t := by
  have hreads : ∀ u, plan.reads u = plan'.reads u := fun u =>
    (same [u]).reads_eq List.mem_cons_self
  induction h with
  | @changed t hm ht =>
    exact .changed (hf hm) (((same [t]).mem_targets List.mem_cons_self).mp ht)
  | reader hm hr => exact .reader (hf hm) (hreads _ ▸ hr)
  | spread _ hr ih => exact .spread ih (hreads _ ▸ hr)

theorem changedFields_subset {changed changed' : List String} (hc : changed ⊆ changed')
    (gridId : String) : changedFields gridId changed ⊆ changedFields gridId changed' := by
  intro field hf
  rw [changedFields, mem_foldl_addNew] at hf ⊢
  exact hf.imp_right fun hm => List.map_subset _ hc hm

theorem impacted_subset_of_sameRules (compiled : plan.Compiled) (compiled' : plan'.Compiled)
    (same : ∀ among, SameRules plan plan' among) {changed changed' : List String}
    (hc : ∀ id, id ∈ changed ↔ id ∈ changed') :
    plan.impacted changed ⊆ plan'.impacted changed' := by
  intro t ht
  by_cases hne : changed = []
  · have hne' : changed' = [] := List.eq_nil_iff_forall_not_mem.mpr fun id hid => by
      simpa [hne] using (hc id).mpr hid
    subst hne hne'
    exact ((same [t]).mem_targets List.mem_cons_self).mp ht
  · have hne' : changed' ≠ [] := by
      rintro rfl
      exact hne (List.eq_nil_iff_forall_not_mem.mpr fun id hid => by simpa using (hc id).mp hid)
    rw [mem_impacted_iff compiled hne] at ht
    rw [mem_impacted_iff compiled' hne', ← (same []).gridId]
    exact ht.of_sameRules same (changedFields_subset (fun id hid => (hc id).mp hid) plan.gridId)

end Changes

section Permutations

variable {gridId : String} {calculations calculations' : Entries}

/-- No two calculations of the grid stand for one target. -/
def DistinctTargets (gridId : String) (calculations : Entries) : Prop :=
  (Assoc.keys (rulesIn gridId calculations)).Nodup

/-- Among calculations that stand for distinct targets the rule of a target is the only one that is
written for it. -/
theorem get?_targetRules_iff (distinct : DistinctTargets gridId calculations) {t : String}
    {rule : Expr} : (targetRules gridId calculations).get? t = some rule ↔
      (t, rule) ∈ rulesIn gridId calculations ∧ rule.wellFormed = true := by
  constructor
  · exact mem_rulesIn_of_get?
  · rintro ⟨hm, hw⟩
    apply Assoc.get?_putAll_of_agree
    · exact List.mem_filter.mpr ⟨hm, hw⟩
    · intro other ho
      have ho := Assoc.get?_of_mem distinct (List.mem_of_mem_filter ho)
      rw [Assoc.get?_of_mem distinct hm] at ho
      exact (Option.some.inj ho).symm

theorem sameRules_of_perm (distinct : DistinctTargets gridId calculations)
    (reordered : calculations.Perm calculations') (ruleSet : Nat) (among : List String) :
    SameRules (build gridId calculations ruleSet) (build gridId calculations' ruleSet) among where
  gridId := rfl
  ruleSet := rfl
  rules t _ := by
    have hp : (rulesIn gridId calculations).Perm (rulesIn gridId calculations') :=
      reordered.filterMap _
    have distinct' : DistinctTargets gridId calculations' := (hp.map _).nodup_iff.mp distinct
    apply Option.ext
    intro rule
    rw [build, build, get?_targetRules_iff distinct, get?_targetRules_iff distinct', hp.mem_iff]

/-- Without cycles neither the order of the calculations nor that of the changed fields has an
influence on the row, on what is updated or on whether the application breaks off. -/
theorem apply_perm (ruleSet : Nat) (distinctTargets : DistinctTargets gridId calculations)
    (acyclic : ∀ t, ¬ (build gridId calculations ruleSet).OnCycle
      (build gridId calculations ruleSet).targets t)
    (reordered : calculations.Perm calculations') {row : HeldRow} (distinct : row.keys.Nodup)
    {changed changed' : List String} (hc : ∀ id, id ∈ changed ↔ id ∈ changed') :
    SameOutcome ((build gridId calculations ruleSet).apply row changed)
      ((build gridId calculations' ruleSet).apply row changed') := by
  have compiled := build_compiled gridId calculations ruleSet
  have compiled' := build_compiled gridId calculations' ruleSet
  have same := sameRules_of_perm distinctTargets reordered ruleSet
  have within := impacted_within compiled changed
  have acyclic' : ∀ t, ¬ (build gridId calculations' ruleSet).OnCycle
      ((build gridId calculations' ruleSet).impacted changed') t := by
    intro t hcycle
    exact acyclic t (((same _).symm.onCycle compiled' compiled hcycle).mono fun u hu =>
      ((same [u]).mem_targets List.mem_cons_self).mpr (impacted_within compiled' changed' hu))
  -- Nothing is reported on either side, so both orders have all that is impacted.
  obtain ⟨order, ho, hm⟩ := evaluationOrder_of_acyclic fun t hcycle =>
    acyclic t (hcycle.mono within)
  obtain ⟨order', ho', hm'⟩ := evaluationOrder_of_acyclic acyclic'
  apply (same _).apply_same compiled compiled' distinct
  intro t
  rw [ho, ho', hm t, hm' t]
  constructor
  · exact fun ht => impacted_subset_of_sameRules compiled compiled' same hc ht
  · exact fun ht => impacted_subset_of_sameRules compiled' compiled
      (fun among => (same among).symm) (fun id => (hc id).symm) ht

/-- The rules `weight = count * unit`, `total = cost + tax`, `tax = cost * rate` and
`cost = price * count`. -/
def invoice : Entries :=
  let field (ref : String) : Value := .object [("op", .str "field"), ("fieldId", .str ref)]
  let combined (op left right : String) : Value :=
    .object [("expr", .object [("op", .str op), ("args", .list [field left, field right])])]
  [("g.weight", combined "mul" "count" "unit"), ("g.total", combined "add" "g.cost" "tax"),
    ("g.tax", combined "mul" "cost" "rate"), ("tab.g.cost", combined "mul" "price" "g.count")]

/-- The two orders of the rules compute the targets in different orders. -/
theorem apply_perm_invoice :
    let plan := build "g" invoice
    let plan' := build "g" invoice.reverse
    let row : HeldRow :=
      .given [("price", .int 4), ("count", .int 30), ("rate", .int 2), ("unit", .int 3)]
    let changed := ["count", "g.price"]
    let changed' := ["g.price", "count", "g.price"]
    DistinctTargets "g" invoice ∧ (∀ t, ¬ plan.OnCycle plan.targets t) ∧
      invoice.Perm invoice.reverse ∧ row.keys.Nodup ∧ (∀ id, id ∈ changed ↔ id ∈ changed') ∧
      (plan.apply row changed).map (·.updated) = .ok ["weight", "cost", "tax", "total"] ∧
      (plan'.apply row changed').map (·.updated) = .ok ["cost", "weight", "tax", "total"] ∧
      SameOutcome (plan.apply row changed) (plan'.apply row changed') := by
  intro plan plan' row changed changed'
  have distinctTargets : DistinctTargets "g" invoice := by
    unfold DistinctTargets
    decide +kernel
  have acyclic : ∀ t, ¬ plan.OnCycle plan.targets t :=
    acyclic_of_none_reported (by decide +kernel)
  have reordered : invoice.Perm invoice.reverse := (List.reverse_perm invoice).symm
  have distinct : row.keys.Nodup := by decide
  have hc : ∀ id, id ∈ changed ↔ id ∈ changed' := by
    intro id
    simp only [changed, changed', List.mem_cons, List.not_mem_nil, or_false]
    tauto
  exact ⟨distinctTargets, acyclic, reordered, distinct, hc, by decide +kernel, by decide +kernel,
    apply_perm 0 distinctTargets acyclic reordered distinct hc⟩

end Permutations

end CalculationPlan

end GridRules
