import GridRules.Proofs.AcceptedCalculations
import GridRules.Proofs.EvaluatedRows

namespace GridRules

namespace Tracker

section Plans

variable {tracker : Tracker} {gridId : String}

/-- What is in the rules of a grid comes from an accepted calculation under the path of its
target. -/
theorem calculation_of_mem_rulesIn
    (accepted : tracker.AllAccepted)
    {fieldId : String} {e : Expr}
    (h : (fieldId, e) ∈ CalculationPlan.rulesIn gridId tracker.calculations) :
    ∃ rule, (FieldPath.inGrid gridId fieldId, rule) ∈ tracker.calculations ∧
      tracker.Accepted (FieldPath.inGrid gridId fieldId) rule gridId fieldId ∧
      e = calculationExpr rule := by
  obtain ⟨⟨key, rule⟩, hm, he⟩ := List.mem_filterMap.mp h
  obtain ⟨grid, field, ha⟩ := accepted _ hm
  have hkey : key = FieldPath.inGrid grid field := ha.placed.path
  subst hkey
  simp only [CalculationPlan.ruleIn?, ha.placed.parse?_eq] at he
  split at he
  next =>
    split at he
    next hg =>
      obtain ⟨rfl, rfl⟩ := Prod.mk.inj (Option.some.inj he)
      obtain rfl := Option.some.inj hg
      exact ⟨rule, hm, ha, rfl⟩
    next => simp at he
  next => simp at he

theorem isNode_of_wellFormed {e : Expr} (h : e.wellFormed = true) : e.isNode = true := by
  cases e with
  | invalid => simp [Expr.wellFormed] at h
  | _ => rfl

/-- The rule of an accepted calculation is the one that the plan of its grid has for its target. -/
theorem rule_of_accepted (distinct : tracker.calculations.keys.Nodup)
    (accepted : tracker.AllAccepted)
    {key fieldId : String} {rule : Value} (hm : (key, rule) ∈ tracker.calculations)
    (ha : tracker.Accepted key rule gridId fieldId) :
    (CalculationPlan.build gridId tracker.calculations).rules.get? fieldId =
      some (calculationExpr rule) := by
  apply Assoc.get?_putAll_of_agree
  · refine List.mem_filter.mpr ⟨List.mem_filterMap.mpr ⟨(key, rule), hm, ?_⟩, ha.complete⟩
    exact CalculationPlan.ruleIn?_of_parse? ha.placed.parse?_eq (isNode_of_wellFormed ha.complete)
  · intro e he
    obtain ⟨other, ho, _, rfl⟩ := calculation_of_mem_rulesIn accepted (List.mem_filter.mp he).1
    have hsame := Assoc.get?_of_mem distinct ho
    rw [← ha.placed.path, Assoc.get?_of_mem distinct hm] at hsame
    rw [Option.some.inj hsame]

/-- A dependency among targets of a grid is one among the calculations under their paths. -/
theorem dependsOn_of_dependency (distinct : tracker.calculations.keys.Nodup)
    (accepted : tracker.AllAccepted)
    {target dep : String}
    (h : dep ∈ (CalculationPlan.build gridId tracker.calculations).dependencies target) :
    DependsOn tracker.calculationLinks (FieldPath.inGrid gridId target)
      (FieldPath.inGrid gridId dep) := by
  have compiled := CalculationPlan.build_compiled gridId tracker.calculations
  obtain ⟨hreads, htarget⟩ := (compiled.mem_dependencies target dep).mp h
  have hrule : ∃ e, (CalculationPlan.build gridId tracker.calculations).rules.get? target =
      some e := by
    cases hr : (CalculationPlan.build gridId tracker.calculations).rules.get? target with
    | none => simp [CalculationPlan.reads, hr] at hreads
    | some e => exact ⟨e, rfl⟩
  obtain ⟨e, he⟩ := hrule
  rw [CalculationPlan.reads_of_rule he] at hreads
  obtain ⟨ref, href, hlocal⟩ := CalculationPlan.mem_localRefs.mp hreads
  obtain ⟨rule, hm, ha, rfl⟩ :=
    calculation_of_mem_rulesIn accepted (CalculationPlan.mem_rulesIn_of_get? he).1
  obtain ⟨refId, placed⟩ := ha.refs ref href
  obtain rfl : refId = dep := by
    rw [placed.path] at hlocal
    exact Option.some.inj
      ((localFieldId?_inGrid placed.grid_id placed.field_id).symm.trans hlocal)
  obtain ⟨depExpr, hdep⟩ := Assoc.exists_get?_of_mem_keys htarget
  obtain ⟨depRule, hdm, _, _⟩ :=
    calculation_of_mem_rulesIn accepted (CalculationPlan.mem_rulesIn_of_get? hdep).1
  have hhas : tracker.calculations.has ref = true :=
    Assoc.has_iff.mpr (placed.path ▸ Assoc.mem_keys.mpr ⟨depRule, hdm⟩)
  rw [DependsOn, dependenciesOf, calculationLinks, Assoc.get?_map_values,
    Assoc.get?_of_mem distinct hm]
  exact placed.path ▸ List.mem_filter.mpr ⟨href, hhas⟩

theorem acyclic_of_accepted (gridId : String) (distinct : tracker.calculations.keys.Nodup)
    (accepted : tracker.AllAccepted)
    (cycles : elementaryCycles tracker.calculationLinks = []) (among : List String)
    (target : String) :
    ¬ (CalculationPlan.build gridId tracker.calculations).OnCycle among target := by
  intro hcycle
  have lifted : Relation.TransGen (DependsOn tracker.calculationLinks)
      (FieldPath.inGrid gridId target) (FieldPath.inGrid gridId target) :=
    hcycle.lift (FieldPath.inGrid gridId) fun _ _ link =>
      dependsOn_of_dependency distinct accepted link.2.2
  exact elementaryCycles_ne_nil lifted cycles

end Plans

/-- A report without errors has none on the layout, and none on calculations. -/
theorem errors_of_validate {tracker : Tracker} {report : ValidationReport}
    (h : tracker.validate = .ok report) (clean : report.errors = []) :
    tracker.checkLayout.errors = [] ∧
      ∃ calculations, tracker.checkCalculations = .ok calculations ∧ calculations.errors = [] := by
  obtain ⟨calculations, hc, h⟩ := bind_eq_ok_iff.mp h
  obtain ⟨rules, _, h⟩ := bind_eq_ok_iff.mp h
  obtain rfl := pure_eq_ok_iff.mp h
  simp only [ValidationReport.merge, List.append_eq_nil_iff] at clean
  exact ⟨clean.1.1.1, calculations, hc, clean.1.1.2⟩

/-- What passes the check of a tracker is used as it is written: every calculation is the rule of
its target in its grid, reads placed fields of that grid only, and no grid has a target that is
skipped for a cycle, whatever the row and the changes. -/
theorem plan_of_validate {tracker : Tracker} (dotFree : tracker.DotFree)
    (distinct : tracker.calculations.keys.Nodup) {report : ValidationReport}
    (h : tracker.validate = .ok report) (clean : report.errors = []) :
    (∀ key rule, (key, rule) ∈ tracker.calculations → ∃ gridId fieldId,
      key = FieldPath.inGrid gridId fieldId ∧
      FieldPath.parse? key = some ⟨some gridId, fieldId⟩ ∧
      (CalculationPlan.build gridId tracker.calculations).rules.get? fieldId =
        some (calculationExpr rule) ∧
      ∀ ref ∈ (calculationExpr rule).refs, ref ∈ tracker.fieldPaths ∧
        ∃ refId, ref = FieldPath.inGrid gridId refId ∧ localFieldId? ref gridId = some refId) ∧
    ∀ gridId changed,
      let plan := CalculationPlan.build gridId tracker.calculations
      (plan.evaluationOrder (plan.impacted changed)).2 = [] ∧
        ∀ row result, plan.apply row changed = .ok result → result.skippedCyclic = [] := by
  obtain ⟨layout, calculations, hc, herrors⟩ := errors_of_validate h clean
  obtain ⟨accepted, cycles⟩ := accepted_of_checkCalculations dotFree layout hc herrors
  constructor
  · intro key rule hm
    obtain ⟨gridId, fieldId, ha⟩ := accepted _ hm
    refine ⟨gridId, fieldId, ha.placed.path, ha.placed.parse?_eq,
      rule_of_accepted distinct accepted hm ha, ?_⟩
    intro ref hr
    obtain ⟨refId, placed⟩ := ha.refs ref hr
    exact ⟨placed.mem, refId, placed.path,
      placed.path ▸ localFieldId?_inGrid placed.grid_id placed.field_id⟩
  · intro gridId changed plan
    have acyclic := acyclic_of_accepted gridId distinct accepted cycles (plan.impacted changed)
    obtain ⟨order, ho, _⟩ := CalculationPlan.evaluationOrder_of_acyclic acyclic
    have hnone : (plan.evaluationOrder (plan.impacted changed)).2 = [] := congrArg Prod.snd ho
    refine ⟨hnone, fun row result returned => ?_⟩
    rw [CalculationPlan.skippedCyclic_of_apply returned, hnone]

/-- Orders whose total is the price times the count with the fee from its own calculation, beside a
stock grid with the same field ids. -/
def orders : Tracker :=
  let const (v : Value) : Value := .object [("op", .str "const"), ("value", v)]
  let field (ref : String) : Value := .object [("op", .str "field"), ("fieldId", .str ref)]
  let rule (e : Value) : Value := .object [("expr", e)]
  let fee : Value := .object [("op", .str "if"),
    ("cond", .object [("op", .str "regex"), ("value", field "order.code"),
      ("pattern", .str "^x+$"), ("flags", .str "i")]),
    ("then", const (.int 5)), ("else", const (.int 0))]
  let cost : Value :=
    .object [("op", .str "mul"), ("args", .list [field "order.price", field "order.count"])]
  let total : Value := .object [("op", .str "add"), ("left", cost), ("right", field "order.fee")]
  let left : Value :=
    .object [("op", .str "sub"), ("args", .list [field "stock.count", const (.int 1)])]
  let placed (grid field : String) : LayoutNode := ⟨grid, field, none⟩
  { tabs := []
    sections := []
    grids := [⟨"order", "Orders", none, none⟩, ⟨"stock", "", none, none⟩]
    fields := ["price", "count", "fee", "total", "code", "left"].map
      fun id => ⟨id, "string", none, []⟩
    layoutNodes := [placed "order" "price", placed "order" "count", placed "order" "fee",
      placed "order" "total", placed "order" "code", placed "stock" "count", placed "stock" "left"]
    validations := []
    calculations := [("order.total", rule total), ("order.fee", rule fee),
      ("stock.left", rule left)]
    options := .empty }

theorem plan_of_validate_orders :
    orders.DotFree ∧ orders.calculations.keys.Nodup ∧ orders.validate = .ok ⟨[], []⟩ ∧
      (∀ key rule, (key, rule) ∈ orders.calculations → ∃ gridId fieldId,
        key = FieldPath.inGrid gridId fieldId ∧
        FieldPath.parse? key = some ⟨some gridId, fieldId⟩ ∧
        (CalculationPlan.build gridId orders.calculations).rules.get? fieldId =
          some (calculationExpr rule) ∧
        ∀ ref ∈ (calculationExpr rule).refs, ref ∈ orders.fieldPaths ∧
          ∃ refId, ref = FieldPath.inGrid gridId refId ∧ localFieldId? ref gridId = some refId) ∧
      ∀ gridId changed,
        let plan := CalculationPlan.build gridId orders.calculations
        (plan.evaluationOrder (plan.impacted changed)).2 = [] ∧
          ∀ row result, plan.apply row changed = .ok result → result.skippedCyclic = [] := by
  have dotFree : orders.DotFree := ⟨by decide, by decide⟩
  have distinct : orders.calculations.keys.Nodup := by decide
  have checked : orders.checkedCalculations = .ok [("order.total", ⟨[], some ["order.fee"]⟩),
      ("order.fee", ⟨[], some []⟩), ("stock.left", ⟨[], some []⟩)] := by rfl
  have cycles : elementaryCycles
      [("order.total", ["order.fee"]), ("order.fee", []), ("stock.left", [])] = [] := by
    decide +kernel
  have calculations : orders.checkCalculations = .ok ⟨[], []⟩ := by
    simp [checkCalculations, checked, cycles, bind, Except.bind, pure, Except.pure]
  have rules : orders.checkRules = .ok ⟨[], []⟩ := by rfl
  have layout : orders.checkLayout = ⟨[], []⟩ := by decide
  have functions : orders.checkOptionFunctions = ⟨[], []⟩ := by decide
  have valid : orders.validate = .ok ⟨[], []⟩ := by
    rw [validate, calculations, rules, layout, functions]
    rfl
  exact ⟨dotFree, distinct, valid, plan_of_validate dotFree distinct valid rfl⟩

end Tracker

end GridRules
