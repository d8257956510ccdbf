import GridRules.Proofs.EvaluatedRows

namespace GridRules

namespace CalculationPlan

/-- The updated targets are those among the computed ones that hold another value than before, and
are all that is different in the row: every other entry stands where it stood, and new keys stand
behind the old ones. -/
structure Progress.Reports (before : HeldRow) (done : List String) (state : Progress) : Prop where
  updated_eq : state.updated =
    done.filter fun t => !(before.getD t).unchanged (state.row.getD t)
  other : ∀ key, key ∉ state.updated → state.row.get? key = before.get? key
  frame : ∀ p : String → Bool, (∀ t ∈ state.updated, p t = false) →
    (state.row.filter fun entry => p entry.1) = before.filter fun entry => p entry.1
  keys_eq : state.row.keys = before.keys ++ state.updated.filter fun t => !before.has t

section Steps

variable {plan : CalculationPlan} {before : HeldRow} {done : List String} {state : Progress}
  {target : String} {held : Held}

theorem Progress.Reports.not_updated (h : state.Reports before done) (hd : target ∉ done) :
    target ∉ state.updated := by
  rw [h.updated_eq]
  exact fun hm => hd (List.mem_filter.mp hm).1

theorem Progress.Reports.getD_eq (h : state.Reports before done) (hd : target ∉ done) :
    state.row.getD target = before.getD target :=
  HeldRow.getD_congr (h.other target (h.not_updated hd))

theorem Progress.Reports.row_eq (h : state.Reports before done) (none : state.updated = []) :
    state.row = before := by
  simpa using h.frame (fun _ => true) (by simp [none])

/-- What is left as it was is the same as itself. -/
theorem Progress.Reports.keep (h : state.Reports before done) (hd : target ∉ done) :
    state.Reports before (done ++ [target]) where
  updated_eq := by
    rw [List.filter_append, ← h.updated_eq, List.filter_singleton, h.getD_eq hd,
      Held.unchanged_self]
    simp
  other := h.other
  frame := h.frame
  keys_eq := h.keys_eq

/-- A target is written once, so what was reported of the others stays true. -/
theorem Progress.Reports.write (h : state.Reports before done) (hd : target ∉ done)
    (hu : (state.row.getD target).unchanged held = false) (gridId : String) :
    (state.write gridId target held).Reports before (done ++ [target]) where
  updated_eq := by
    have hnew : HeldRow.getD (state.row.put target held) target = held := by
      rw [HeldRow.getD, Assoc.get?_put, if_pos rfl, Option.getD_some]
    have hold : ∀ t ∈ done, HeldRow.getD (state.row.put target held) t = state.row.getD t := by
      intro t ht
      have hne : t ≠ target := fun he => hd (he ▸ ht)
      rw [HeldRow.getD, Assoc.get?_put, if_neg hne, HeldRow.getD]
    rw [h.getD_eq hd] at hu
    have hdone : state.updated =
        done.filter fun t =>
          !(before.getD t).unchanged (HeldRow.getD (state.row.put target held) t) := by
      rw [h.updated_eq]
      exact List.filter_congr fun t ht => by rw [hold t ht]
    rw [Progress.write, List.filter_append, ← hdone, List.filter_singleton, hnew, hu]
    simp
  other key hk := by
    obtain ⟨hk, hne⟩ := not_or.mp (mt mem_concat.mpr hk)
    rw [Progress.write, Assoc.get?_put, if_neg hne, h.other key hk]
  frame p hp := by
    have ht : p target = false := hp target (by simp [Progress.write])
    rw [Progress.write, Assoc.filter_put ht]
    exact h.frame p fun t ht => hp t (by simp [Progress.write, ht])
  keys_eq := by
    have hhas : state.row.has target = before.has target := by
      rw [Assoc.has, Assoc.has, h.other target (h.not_updated hd)]
    rw [Progress.write, Assoc.keys_put, hhas, h.keys_eq, List.filter_append, List.filter_singleton]
    cases before.has target <;> simp

theorem Progress.Reports.take (h : state.Reports before done) (hd : target ∉ done)
    (gridId : String) (held : Held) :
    (state.take gridId target held).Reports before (done ++ [target]) := by
  unfold Progress.take
  split
  next => exact h.keep hd
  next hu => exact h.write hd (by simpa using hu) gridId

theorem computeTarget_reports (h : state.Reports before done) (hd : target ∉ done) {next : Progress}
    (hnext : plan.computeTarget state target = .ok next) :
    next.Reports before (done ++ [target]) := by
  unfold computeTarget at hnext
  split at hnext
  next =>
    obtain rfl := Except.ok.inj hnext
    exact h.keep hd
  next =>
    obtain ⟨held, _, hnext⟩ := bind_eq_ok_iff.mp hnext
    obtain rfl := pure_eq_ok_iff.mp hnext
    exact h.take hd plan.gridId held

theorem computed_reports {order : List String} (distinct : order.Nodup)
    (hcomputed : plan.computed before order = .ok state) : state.Reports before order := by
  induction order using List.reverseRecOn generalizing state with
  | nil =>
    obtain rfl := Except.ok.inj hcomputed
    constructor <;> simp [Progress.start]
  | append_singleton done target ih =>
    rw [computed_concat] at hcomputed
    obtain ⟨front, hfront, hnext⟩ := bind_eq_ok_iff.mp hcomputed
    exact computeTarget_reports (ih distinct.of_append_left hfront) (not_mem_front distinct) hnext

end Steps

section Handed

theorem impacted_of_no_rules {plan : CalculationPlan} (compiled : plan.Compiled)
    (h : plan.rules.isEmpty = true) (changed : List String) : plan.impacted changed = [] := by
  have none : plan.targets = [] := by rw [targets, List.isEmpty_iff.mp h]; rfl
  exact List.subset_nil.mp (none ▸ impacted_within compiled changed)

theorem apply_of_none_impacted {plan : CalculationPlan} {changed : List String}
    (h : plan.impacted changed = []) (row : HeldRow) :
    plan.apply row changed = .ok ⟨row, [], []⟩ := by
  rw [apply, h]
  rfl

/-- What is handed back is what the application of the plan comes to, as a copy exactly if a target
was updated. -/
theorem handBack_eq {plan : CalculationPlan} (compiled : plan.Compiled) (row : HeldRow)
    (changed : List String) :
    plan.handBack row changed = (plan.apply row changed).map fun result =>
      (if result.updated = [] then .given else .copy result.row, result.updated,
        result.skippedCyclic) := by
  unfold handBack
  split
  next he => rw [apply_of_none_impacted (impacted_of_no_rules compiled he changed)]; rfl
  next =>
    dsimp only
    split
    next he => rw [apply_of_none_impacted (List.isEmpty_iff.mp he)]; rfl
    next =>
      unfold apply
      obtain ⟨order, cyclic⟩ := plan.evaluationOrder (plan.impacted changed)
      dsimp only
      cases order.foldlM plan.computeTarget (.start plan.gridId row) with
      | error fault => rfl
      | ok state => simp only [bind, Except.bind, pure, Except.pure, Except.map, List.isEmpty_iff]

end Handed

/-- Where a plan is applied without breaking off, it changes exactly what it reports. All entries of
keys that are not reported as updated are kept with their values and in their order, and new keys
stand behind the old ones, as they were updated. The updated targets are, each once, the computed
ones whose value is not the same as before; all of them are impacted and none is skipped. The row
that is handed back has the entries of the result, and it is the given row itself exactly if nothing
was updated. -/
theorem apply_changes_what_it_reports (gridId : String) (calculations : Entries) (ruleSet : Nat)
    (row : HeldRow) (changed : List String) {result : CalculationResult}
    (returned : (build gridId calculations ruleSet).apply row changed = .ok result) :
    let plan := build gridId calculations ruleSet
    (∀ key, key ∉ result.updated → result.row.get? key = row.get? key) ∧
      (result.row.filter fun entry => !result.updated.contains entry.1) =
        (row.filter fun entry => !result.updated.contains entry.1) ∧
      result.row.keys = row.keys ++ result.updated.filter (fun t => !row.has t) ∧
      result.updated.Nodup ∧
      (∀ t ∈ result.updated, t ∈ plan.impacted changed ∧ t ∉ result.skippedCyclic) ∧
      result.updated = (plan.evaluationOrder (plan.impacted changed)).1.filter
        (fun t => !(row.getD t).unchanged (result.row.getD t)) ∧
      ∃ handed, plan.handBack row changed = .ok (handed, result.updated, result.skippedCyclic) ∧
        handed.entries row = result.row ∧ (handed = .given ↔ result.updated = []) := by
  intro plan
  have compiled : plan.Compiled := build_compiled gridId calculations ruleSet
  have ordered := computeOrder_impacted compiled changed
  have hskipped : result.skippedCyclic = (plan.evaluationOrder (plan.impacted changed)).2 :=
    skippedCyclic_of_apply returned
  have hhanded := handBack_eq compiled row changed
  rw [returned, Except.map] at hhanded
  rw [apply_eq] at returned
  obtain ⟨state, hcomputed, hresult⟩ := map_eq_ok_iff.mp returned
  have h : state.Reports row _ := computed_reports ordered.distinct hcomputed
  have hrow : state.row = result.row := congrArg CalculationResult.row hresult
  have hupdated : state.updated = result.updated := congrArg CalculationResult.updated hresult
  have hsame : result.updated = [] → row = result.row := fun hnone =>
    (h.row_eq (hupdated.trans hnone)).symm.trans hrow
  obtain ⟨updated_eq, other, frame, keys_eq⟩ := h
  rw [hrow, hupdated] at updated_eq other frame keys_eq
  have hframe := frame (fun key => !result.updated.contains key) (by simp)
  refine ⟨other, hframe, keys_eq, ?_, ?_, updated_eq, _, hhanded, ?_, ?_⟩
  · rw [updated_eq]
    exact ordered.distinct.filter _
  · intro t ht
    rw [updated_eq] at ht
    rw [hskipped]
    exact mem_evaluationOrder.mp (List.mem_filter.mp ht).1
  · split
    next hnone => exact hsame hnone
    next => rfl
  · split
    next hnone => exact iff_of_true rfl hnone
    next hsome => exact iff_of_false nofun hsome

/-- The rules `tags = labels`, `total = price + 1` and `twice = 2 * total`. -/
def copiedTags : Entries :=
  let const (n : Int) : Value := .object [("op", .str "const"), ("value", .int n)]
  let field (ref : String) : Value := .object [("op", .str "field"), ("fieldId", .str ref)]
  let combined (op : String) (left right : Value) : Value :=
    .object [("op", .str op), ("args", .list [left, right])]
  [("g.tags", .object [("expr", field "labels")]),
    ("g.total", .object [("expr", combined "add" (field "price") (const 1))]),
    ("g.twice", .object [("expr", combined "mul" (field "g.total") (const 2))])]

/-- The tags are the very list of labels, so a second application reports the total and what reads
it, but not the tags. -/
theorem apply_changes_what_it_reports_copiedTags :
    let plan := build "g" copiedTags
    let row : HeldRow :=
      [("labels", ⟨.list [.str "new"], .given "labels"⟩), ("twice", ⟨.int 8, .none⟩),
        ("price", ⟨.int 4, .none⟩), ("tags", ⟨.list [.str "new"], .given "labels"⟩)]
    ∃ result, plan.apply row [] = .ok result ∧ result.updated = ["total", "twice"] ∧
      (∀ key, key ∉ result.updated → result.row.get? key = row.get? key) ∧
      (result.row.filter fun entry => !result.updated.contains entry.1) =
        (row.filter fun entry => !result.updated.contains entry.1) ∧
      result.row.keys = row.keys ++ result.updated.filter (fun t => !row.has t) ∧
      result.updated.Nodup ∧
      (∀ t ∈ result.updated, t ∈ plan.impacted [] ∧ t ∉ result.skippedCyclic) ∧
      result.updated = (plan.evaluationOrder (plan.impacted [])).1.filter
        (fun t => !(row.getD t).unchanged (result.row.getD t)) ∧
      ∃ handed, plan.handBack row [] = .ok (handed, result.updated, result.skippedCyclic) ∧
        handed.entries row = result.row ∧ (handed = .given ↔ result.updated = []) := by
  intro plan row
  have hupdated : (plan.apply row []).map (·.updated) = .ok ["total", "twice"] := by
    decide +kernel
  obtain ⟨result, returned, hupdated⟩ := map_eq_ok_iff.mp hupdated
  exact ⟨result, returned, hupdated,
    apply_changes_what_it_reports "g" copiedTags 0 row [] returned⟩

end CalculationPlan

end GridRules
