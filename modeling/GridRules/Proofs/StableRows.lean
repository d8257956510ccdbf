import GridRules.Proofs.EvaluatedRows

namespace GridRules

/-- The values are the same, numbers by value and NaN as itself. -/
def Value.Agrees (a b : Value) : Prop :=
  a = b ∨ ∃ m n, a.number? = some m ∧ b.number? = some n ∧ m.same n = true

theorem Value.agrees_of_sameScalar {previous current : Value}
    (h : previous.sameScalar current = true) : previous.Agrees current := by
  unfold sameScalar at h
  split at h
  next => exact Or.inl rfl
  next => exact Or.inl (by simpa using h)
  next => exact Or.inl (by simpa using h)
  next =>
    split at h
    next m n hm hn => exact Or.inr ⟨m, n, hm, hn, h⟩
    next => simp at h

theorem Held.agrees_of_unchanged {previous current : Held}
    (h : previous.unchanged current = true) : previous.value.Agrees current.value := by
  rcases (Bool.or_eq_true _ _).mp h with h | h
  · exact Or.inl (congrArg Held.value (beq_iff_eq.mp h))
  · exact Value.agrees_of_sameScalar h

namespace CalculationPlan

section Fixpoint

variable {plan : CalculationPlan} {row : HeldRow} {order : List String}

/-- Computing targets that their rules would not change does nothing. -/
theorem computed_of_settled (compiled : plan.Compiled) (within : order ⊆ plan.targets)
    (settled : ∀ t ∈ order, ∃ held, plan.ruleOutcome row t = .ok held ∧
      (row.getD t).unchanged held = true) :
    plan.computed row order = .ok (.start plan.gridId row) := by
  induction order using List.reverseRecOn with
  | nil => rfl
  | append_singleton done t ih =>
    obtain ⟨hdone, ht⟩ := List.append_subset.mp within
    have hstart := ih hdone fun u hu => settled u (List.mem_append_left _ hu)
    have inStep : (Progress.start plan.gridId row).InStep plan := fun _ => rfl
    obtain ⟨held, ho, hu⟩ := settled t (by simp)
    have ho : plan.ruleOutcome (Progress.start plan.gridId row).row t = .ok held := ho
    have htake :
        (Progress.start plan.gridId row).take plan.gridId t held = .start plan.gridId row :=
      if_pos hu
    rw [computed_concat_of_ok compiled inStep hstart (ht (by simp)), ho, Except.map, htake]

/-- Where the application of a plan, with or without cycles, comes to a row, it leaves every ordered
target with the value that its rule comes to on this row. Applying the plan once more comes to the
same row and changes nothing, lists and objects included. -/
theorem apply_reaches_fixpoint (gridId : String) (calculations : Entries) (ruleSet : Nat)
    {row : HeldRow} (distinct : row.keys.Nodup) {changed : List String}
    {result : CalculationResult}
    (returned : (build gridId calculations ruleSet).apply row changed = .ok result) :
    let plan := build gridId calculations ruleSet
    let order := (plan.evaluationOrder (plan.impacted changed)).1
    (∀ t ∈ order, ∃ held, plan.ruleOutcome result.row t = .ok held ∧
        (result.row.getD t).value.Agrees held.value) ∧
      plan.apply result.row changed = .ok ⟨result.row, [], result.skippedCyclic⟩ := by
  intro plan order
  have compiled : plan.Compiled := build_compiled gridId calculations ruleSet
  have ordered : plan.ComputeOrder order := computeOrder_impacted compiled changed
  have h : plan.Evaluated order row result.row result.updated :=
    apply_evaluated compiled distinct returned
  constructor
  · intro t ht
    obtain ⟨held, ho, hu⟩ := h.settled ht
    exact ⟨held, ho, Held.agrees_of_unchanged hu⟩
  · have hagain : plan.computed result.row order = .ok (.start plan.gridId result.row) :=
      computed_of_settled compiled ordered.within fun t ht => h.settled ht
    rw [apply_eq, hagain, Except.map, skippedCyclic_of_apply returned]
    rfl

/-- The rules `a = b`, `b = a`, `half = a / 2`, `ratio = half / 0` and `other = h.x`. -/
def halvesAndCycle : Entries :=
  let const (v : Value) : Value := .object [("op", .str "const"), ("value", v)]
  let field (ref : String) : Value := .object [("op", .str "field"), ("fieldId", .str ref)]
  let quotient (left right : Value) : Value :=
    .object [("op", .str "div"), ("args", .list [left, right])]
  [("g.ratio", .object [("expr", quotient (field "g.half") (const (.int 0)))]),
    ("g.a", .object [("expr", field "b")]), ("g.b", .object [("expr", field "g.a")]),
    ("g.other", .object [("expr", field "h.x")]),
    ("g.half", .object [("expr", quotient (field "a") (const (.int 2)))])]

/-- The half keeps its spelling as an integer, the ratio becomes NaN, and both stay so. -/
theorem apply_reaches_fixpoint_halvesAndCycle :
    let plan := build "g" halvesAndCycle
    let row : HeldRow :=
      .given [("a", .int 6), ("h.x", .list [.int 1]), ("half", .int 3), ("g.ratio", .str "old")]
    let order := (plan.evaluationOrder (plan.impacted [])).1
    row.keys.Nodup ∧ order = ["half", "ratio", "other"] ∧
      ∃ result, plan.apply row [] = .ok result ∧ result.updated = ["ratio", "other"] ∧
        (∀ t ∈ order, ∃ held, plan.ruleOutcome result.row t = .ok held ∧
          (result.row.getD t).value.Agrees held.value) ∧
        plan.apply result.row [] = .ok ⟨result.row, [], result.skippedCyclic⟩ := by
  intro plan row order
  have distinct : row.keys.Nodup := by decide
  have hupdated : (plan.apply row []).map (·.updated) = .ok ["ratio", "other"] := by
    decide +kernel
  obtain ⟨result, returned, hupdated⟩ := map_eq_ok_iff.mp hupdated
  exact ⟨distinct, by decide +kernel, result, returned, hupdated,
    apply_reaches_fixpoint "g" halvesAndCycle 0 distinct returned⟩

end Fixpoint

end CalculationPlan

end GridRules
