import GridRules.Proofs.EvaluatedRows

namespace GridRules

namespace CalculationPlan

/-- The calculations without the rules of some targets of a grid. -/
def withoutRules (gridId : String) (dropped : List String) (calculations : Entries) : Entries :=
  calculations.filter fun entry => (targetIn? gridId entry.1).all fun t => !dropped.contains t

section Dropped

variable {gridId : String} {dropped : List String} {calculations : Entries}

theorem rulesIn_withoutRules :
    rulesIn gridId (withoutRules gridId dropped calculations) =
      (rulesIn gridId calculations).filter fun rule => !dropped.contains rule.1 := by
  rw [rulesIn, withoutRules, List.filterMap_filter, rulesIn, List.filter_filterMap]
  apply List.filterMap_congr
  intro entry _
  rw [ruleIn?_eq]
  cases (Expr.ofValue (entry.2.field "expr")).isNode with
  | false => simp
  | true =>
    cases targetIn? gridId entry.1 with
    | none => rfl
    | some t => by_cases ht : t ∈ dropped <;> simp [Option.filter, ht]

theorem get?_targetRules_withoutRules (t : String) :
    (targetRules gridId (withoutRules gridId dropped calculations)).get? t =
      if t ∈ dropped then none else (targetRules gridId calculations).get? t := by
  have hstart : ∀ key, Assoc.get? ([] : Assoc Expr) key =
      if !dropped.contains key then Assoc.get? ([] : Assoc Expr) key else none := by simp
  rw [targetRules, rulesIn_withoutRules, List.filter_comm,
    Assoc.get?_putAll_filter (p := fun t => !dropped.contains t) _ hstart, targetRules]
  by_cases h : t ∈ dropped <;> simp [h]

end Dropped

section Contained

variable (gridId : String) (calculations : Entries) (ruleSet : Nat)

theorem sameRules_withoutRules (dropped : List String) {among : List String}
    (kept : ∀ t ∈ among, t ∉ dropped) :
    SameRules (build gridId calculations ruleSet)
      (build gridId (withoutRules gridId dropped calculations) ruleSet) among where
  gridId := rfl
  ruleSet := rfl
  rules t ht := by
    rw [build, build, get?_targetRules_withoutRules, if_neg (kept t ht)]

theorem mem_targets_withoutRules {dropped : List String} {t : String} :
    t ∈ (build gridId (withoutRules gridId dropped calculations) ruleSet).targets ↔
      t ∈ (build gridId calculations ruleSet).targets ∧ t ∉ dropped := by
  simp only [targets, ← Assoc.has_iff, Assoc.has, build, get?_targetRules_withoutRules]
  by_cases h : t ∈ dropped <;> simp [h]

/-- The rules that are left when the reported targets are dropped form no cycle: every cycle has a
target that is reported. -/
theorem acyclic_withoutRules (t : String) :
    let plan := build gridId calculations ruleSet
    let rest := build gridId
      (withoutRules gridId (plan.evaluationOrder plan.targets).2 calculations) ruleSet
    ¬ rest.OnCycle rest.targets t := by
  intro plan rest hcycle
  have kept : ∀ u ∈ rest.targets, u ∈ plan.targets ∧ u ∉ (plan.evaluationOrder plan.targets).2 :=
    fun u hu => (mem_targets_withoutRules gridId calculations ruleSet).mp hu
  -- The cycle is one of the whole plan too, so a target on it is reported, and then it is dropped.
  have same : SameRules plan rest rest.targets :=
    sameRules_withoutRules gridId calculations ruleSet _ fun u hu => (kept u hu).2
  have hplan : plan.OnCycle rest.targets t :=
    same.symm.onCycle (build_compiled _ _ _) (build_compiled _ _ _) hcycle
  obtain ⟨record, s, h, he⟩ := plan.evaluationOrder_search plan.targets
  obtain ⟨u, hu, hreported⟩ := h.reported_of_onCycle (fun u hu => (kept u hu).1) hplan
  exact (kept u hu).2 (he ▸ hreported)

/-- A full application comes to what the rules come to without those of the targets on cycles that
are reported, which form no cycle, and breaks off where that does. It skips the reported targets and
leaves them as they were. -/
theorem apply_contains_cycles {row : HeldRow} (distinct : row.keys.Nodup) :
    let plan := build gridId calculations ruleSet
    let cyclic := (plan.evaluationOrder plan.targets).2
    let rest := build gridId (withoutRules gridId cyclic calculations) ruleSet
    SameOutcome (plan.apply row []) (rest.apply row []) ∧
      (∀ result, plan.apply row [] = .ok result →
        result.skippedCyclic = cyclic ∧ ∀ t ∈ cyclic, result.row.get? t = row.get? t) ∧
      ∀ result, rest.apply row [] = .ok result → result.skippedCyclic = [] := by
  intro plan cyclic rest
  have compiled : plan.Compiled := build_compiled _ _ _
  have compiledRest : rest.Compiled := build_compiled _ _ _
  obtain ⟨order, ho, hm⟩ : ∃ order, rest.evaluationOrder rest.targets = (order, []) ∧
      ∀ t, t ∈ order ↔ t ∈ rest.targets :=
    evaluationOrder_of_acyclic (acyclic_withoutRules gridId calculations ruleSet)
  have ho : rest.evaluationOrder (rest.impacted []) = (order, []) := ho
  have same : SameRules plan rest (plan.evaluationOrder (plan.impacted [])).1 :=
    sameRules_withoutRules gridId calculations ruleSet _ fun t ht => (mem_evaluationOrder.mp ht).2
  have horders : ∀ t, t ∈ (plan.evaluationOrder (plan.impacted [])).1 ↔
      t ∈ (rest.evaluationOrder (rest.impacted [])).1 := by
    intro t
    rw [ho, hm t, mem_evaluationOrder]
    exact (mem_targets_withoutRules gridId calculations ruleSet).symm
  refine ⟨same.apply_same compiled compiledRest distinct horders, ?_, ?_⟩
  · intro result returned
    refine ⟨skippedCyclic_of_apply returned, fun t ht => ?_⟩
    exact (apply_evaluated compiled distinct returned).other t
      fun hto => (mem_evaluationOrder.mp hto).2 ht
  · intro result returned
    rw [skippedCyclic_of_apply returned, ho]

/-- The rules `a = b + c`, `b = a + 1`, `c = b + 1` and `d = c + a`. -/
def cycleWithReader : Entries :=
  let field (id : String) : Value := .object [("op", .str "field"), ("fieldId", .str id)]
  let sum (first second : Value) : Value :=
    .object [("expr", .object [("op", .str "add"), ("args", .list [first, second])])]
  let one : Value := .object [("op", .str "const"), ("value", .int 1)]
  [("g.d", sum (field "c") (field "g.a")), ("g.a", sum (field "b") (field "c")),
    ("g.b", sum (field "a") one), ("g.c", sum (field "b") one)]

/-- The search enters `c` first and reports all of `a`, `b` and `c`; `d` reads what they hold. -/
theorem apply_contains_cycles_cycleWithReader :
    let plan := build "g" cycleWithReader
    let cyclic := (plan.evaluationOrder plan.targets).2
    let rest := build "g" (withoutRules "g" cyclic cycleWithReader)
    let row : HeldRow := .given [("a", .int 1), ("c", .int 5), ("d", .str "old")]
    row.keys.Nodup ∧ cyclic = ["b", "a", "c"] ∧
      (plan.apply row []).map (·.updated) = .ok ["d"] ∧
      SameOutcome (plan.apply row []) (rest.apply row []) ∧
      (∀ result, plan.apply row [] = .ok result →
        result.skippedCyclic = cyclic ∧ ∀ t ∈ cyclic, result.row.get? t = row.get? t) ∧
      ∀ result, rest.apply row [] = .ok result → result.skippedCyclic = [] := by
  intro plan cyclic rest row
  have distinct : row.keys.Nodup := by decide
  exact ⟨distinct, by decide +kernel, by decide +kernel,
    apply_contains_cycles "g" cycleWithReader 0 distinct⟩

end Contained

end CalculationPlan

end GridRules
