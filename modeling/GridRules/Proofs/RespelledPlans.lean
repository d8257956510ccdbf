import GridRules.Proofs.EvaluatedRows
import GridRules.Proofs.ReferenceSpellings

namespace GridRules

namespace Expr

/-- Where both spellings of every reference lead to one thing, so does the whole expression. -/
theorem hold_mapRefs {row : HeldRow} {spell : String → String}
    (same : ∀ ref, row.getD (spell ref) = row.getD ref) (e : Expr)
    (constant : List Bool → Place) : (e.mapRefs spell).hold row constant = e.hold row constant := by
  have hvalue (e : Expr) : (e.mapRefs spell).attempt row.entries = e.attempt row.entries := by
    apply attempt_mapRefs
    intro ref
    rw [HeldRow.getD_entries, HeldRow.getD_entries, same ref]
  have hplace : ∀ constant : List Bool → Place,
      (e.mapRefs spell).place row constant = e.place row constant := by
    induction e using operand_induction with
    | step e ih =>
      intro constant
      cases e with
      | field ref =>
        cases ref with
        | none => rfl
        | some ref => exact congrArg Held.place (same ref)
      | cond test yes no =>
        have htest : (test.mapRefs spell).branch? row.entries = test.branch? row.entries := by
          rw [branch?, branch?, evaluate?, evaluate?, hvalue test]
        have hyes := ih yes (by simp [operands])
        have hno := ih no (by simp [operands])
        rw [mapRefs, place, place, htest]
        simp only [hyes, hno]
      | _ => rfl
  rw [hold, hold, evaluate?, evaluate?, hvalue e, hplace constant]

end Expr

namespace CalculationPlan

/-- The plan with the references in its rules spelled in another way. -/
def mapRefs (plan : CalculationPlan) (spell : String → String) : CalculationPlan :=
  { plan with rules := plan.rules.map fun rule => (rule.1, rule.2.mapRefs spell) }

section Order

variable (plan : CalculationPlan) (spell : String → String)

theorem targets_mapRefs : (plan.mapRefs spell).targets = plan.targets := by
  simp [targets, Assoc.keys, mapRefs, Function.comp_def]

theorem spread_mapRefs (fuel : Nat) (reached queue : List String) :
    (plan.mapRefs spell).spread fuel reached queue = plan.spread fuel reached queue := by
  induction fuel generalizing reached queue with
  | zero => rfl
  | succ fuel ih =>
    cases queue with
    | nil => rfl
    | cons source queue =>
      rw [spread, spread, ih]
      rfl

theorem reachedAtOnce_mapRefs (field : String) :
    (plan.mapRefs spell).reachedAtOnce field = plan.reachedAtOnce field := by
  have hhas : (plan.mapRefs spell).rules.has field = plan.rules.has field := by
    exact Assoc.has_map_values plan.rules _ field
  rw [reachedAtOnce, reachedAtOnce, hhas]
  rfl

theorem impacted_mapRefs (changed : List String) :
    (plan.mapRefs spell).impacted changed = plan.impacted changed := by
  have hlength : (plan.mapRefs spell).rules.length = plan.rules.length := List.length_map _
  have hreached : (plan.mapRefs spell).reachedAtOnce = plan.reachedAtOnce :=
    funext (plan.reachedAtOnce_mapRefs spell)
  simp only [impacted, targets_mapRefs, spread_mapRefs, hlength, hreached]
  rfl

theorem visit_mapRefs (impacted : List String) (fuel : Nat) :
    (plan.mapRefs spell).visit impacted fuel = plan.visit impacted fuel := by
  induction fuel with
  | zero => rfl
  | succ fuel ih =>
    funext path target state
    rw [visit, visit, ih]
    rfl

theorem evaluationOrder_mapRefs (impacted : List String) :
    (plan.mapRefs spell).evaluationOrder impacted = plan.evaluationOrder impacted := by
  rw [evaluationOrder, evaluationOrder, visit_mapRefs]

end Order

section Values

variable {gridId : String} {row values : HeldRow}

/-- Every field is found under its id and under its path alike. -/
def FoundTwice (gridId : String) (values : HeldRow) : Prop :=
  ∀ id, IsFieldId id → values.get? (FieldPath.inGrid gridId id) = values.get? id

theorem foundTwice_rowValues (keyed : KeyedRow row) : FoundTwice gridId (rowValues gridId row) := by
  intro id hid
  rw [get?_rowValues_inGrid keyed, get?_rowValues_of_no_dot hid.2]

theorem FoundTwice.put (h : FoundTwice gridId values) {target : String} (ht : IsFieldId target)
    (held : Held) :
    FoundTwice gridId ((values.put target held).put (FieldPath.inGrid gridId target) held) := by
  intro id hid
  have hpath : FieldPath.inGrid gridId id ≠ target := fun he => not_isFieldId_inGrid id (he ▸ ht)
  have hid' : id ≠ FieldPath.inGrid gridId target := fun he =>
    not_isFieldId_inGrid target (he ▸ hid)
  rw [Assoc.get?_put, Assoc.get?_put, Assoc.get?_put, Assoc.get?_put, if_neg hpath, if_neg hid',
    h id hid]
  by_cases he : id = target
  · simp [he]
  · simp [he, (inGrid_injective gridId).eq_iff]

theorem FoundTwice.getD_bareSpelling (h : FoundTwice gridId values) (ref : String) :
    values.getD (bareSpelling gridId ref) = values.getD ref := by
  rcases bareSpelling_cases gridId ref with he | ⟨id, he, hr, hid, _, _⟩
  · rw [he]
  · rw [he, hr, HeldRow.getD, HeldRow.getD, h id hid]

variable {plan : CalculationPlan} {state next : Progress} {target : String}

theorem computeTarget_mapRefs (h : FoundTwice plan.gridId state.values) :
    (plan.mapRefs (bareSpelling plan.gridId)).computeTarget state target =
      plan.computeTarget state target := by
  have hrule : (plan.mapRefs (bareSpelling plan.gridId)).rules.get? target =
      (plan.rules.get? target).map fun rule => rule.mapRefs (bareSpelling plan.gridId) :=
    Assoc.get?_map_values _ _ _
  rw [computeTarget, computeTarget, hrule]
  cases plan.rules.get? target with
  | none => rfl
  | some rule =>
    simp only [Option.map_some, Expr.hold_mapRefs h.getD_bareSpelling]
    rfl

theorem FoundTwice.computeTarget (h : FoundTwice plan.gridId state.values)
    (ht : IsFieldId target) (hnext : plan.computeTarget state target = .ok next) :
    FoundTwice plan.gridId next.values := by
  unfold CalculationPlan.computeTarget at hnext
  split at hnext
  next =>
    obtain rfl := Except.ok.inj hnext
    exact h
  next =>
    obtain ⟨held, _, hnext⟩ := bind_eq_ok_iff.mp hnext
    obtain rfl := pure_eq_ok_iff.mp hnext
    unfold Progress.take
    split
    next => exact h
    next => exact h.put ht held

theorem computed_mapRefs (keyed : KeyedRow row) {order : List String}
    (ids : ∀ t ∈ order, IsFieldId t) :
    (plan.mapRefs (bareSpelling plan.gridId)).computed row order = plan.computed row order ∧
      ∀ state, plan.computed row order = .ok state → FoundTwice plan.gridId state.values := by
  -- The runs stay the same because every field stays in step with its path.
  induction order using List.reverseRecOn with
  | nil =>
    refine ⟨rfl, fun state hstart => ?_⟩
    obtain rfl := Except.ok.inj hstart
    exact foundTwice_rowValues keyed
  | append_singleton order target ih =>
    obtain ⟨he, h⟩ := ih fun t ht => ids t (List.mem_append_left _ ht)
    rw [computed_concat, computed_concat, he]
    cases hfront : plan.computed row order with
    | error fault => exact ⟨rfl, nofun⟩
    | ok front =>
      refine ⟨computeTarget_mapRefs (h front hfront), fun state hstate => ?_⟩
      exact (h front hfront).computeTarget (ids target (by simp)) hstate

/-- On a row that is keyed by ids it makes no difference if paths of the grid's fields are written
as ids. -/
theorem apply_mapRefs (compiled : plan.Compiled) (keyed : KeyedRow row) (changed : List String) :
    (plan.mapRefs (bareSpelling plan.gridId)).apply row changed = plan.apply row changed := by
  have ids : ∀ t ∈ (plan.evaluationOrder (plan.impacted changed)).1, IsFieldId t := fun t ht =>
    (compiled.target_ids t ((computeOrder_impacted compiled changed).within ht)).2
  rw [apply_eq, apply_eq, impacted_mapRefs, evaluationOrder_mapRefs,
    (computed_mapRefs keyed ids).1]

end Values

section Rules

variable {gridId : String} {spell : String → String}

/-- The plan of some rules of a grid. -/
def ofRules (gridId : String) (rules : List (String × Expr)) : CalculationPlan :=
  let kept := Assoc.putAll [] (rules.filter fun rule => rule.2.wellFormed)
  { gridId := gridId
    ruleSet := 0
    rules := kept
    dependsOn := kept.map fun rule =>
      (rule.1, (localRefs gridId rule.2).filter fun field => kept.has field)
    readers := readersOf gridId kept
    skipped := (rules.filter fun rule => !rule.2.wellFormed).map (·.1) }

theorem build_eq_ofRules (gridId : String) (calculations : Entries) :
    build gridId calculations = ofRules gridId (rulesIn gridId calculations) :=
  rfl

theorem localRefs_mapRefs (empty : ∀ ref, spell ref = "" ↔ ref = "")
    (meaning : ∀ ref, localFieldId? (spell ref) gridId = localFieldId? ref gridId) (e : Expr) :
    localRefs gridId (e.mapRefs spell) = localRefs gridId e := by
  rw [localRefs_eq, localRefs_eq, Expr.allRefs_mapRefs empty, List.filterMap_map]
  exact congrArg _ (List.filterMap_congr fun ref _ => meaning ref)

/-- Expressions may be replaced by others that are complete alike and read the same fields: nothing
of a plan changes but its rules. -/
theorem ofRules_map {f : Expr → Expr} (hwell : ∀ e, (f e).wellFormed = e.wellFormed)
    (hrefs : ∀ e, localRefs gridId (f e) = localRefs gridId e) (rules : List (String × Expr)) :
    ofRules gridId (rules.map fun rule => (rule.1, f rule.2)) =
      { ofRules gridId rules with
        rules := (ofRules gridId rules).rules.map fun rule => (rule.1, f rule.2) } := by
  have hkept : Assoc.putAll [] ((rules.map fun rule => (rule.1, f rule.2)).filter
        fun rule => rule.2.wellFormed) =
      (Assoc.putAll [] (rules.filter fun rule => rule.2.wellFormed)).map
        fun rule => (rule.1, f rule.2) := by
    rw [Assoc.map_putAll, List.filter_map]
    simp only [Function.comp_def, hwell]
    rfl
  have hhas : ∀ (kept : Assoc Expr) (field : String),
      Assoc.has (kept.map fun rule => (rule.1, f rule.2)) field = kept.has field :=
    fun kept field => Assoc.has_map_values kept _ field
  simp only [ofRules, hkept, CalculationPlan.mk.injEq, true_and]
  refine ⟨?_, ?_, ?_⟩
  · simp only [List.map_map, Function.comp_def, hrefs, hhas]
  · simp only [readersOf, List.foldl_map, hrefs]
  · simp only [List.filter_map, List.map_map, Function.comp_def, hwell]

/-- Neither what depends on what nor which rules are complete is a matter of spelling. -/
theorem ofRules_mapRefs (blank : ∀ ref, isBlankText (spell ref) = isBlankText ref)
    (empty : ∀ ref, spell ref = "" ↔ ref = "")
    (meaning : ∀ ref, localFieldId? (spell ref) gridId = localFieldId? ref gridId)
    (rules : List (String × Expr)) :
    (ofRules gridId rules).mapRefs spell =
      ofRules gridId (rules.map fun rule => (rule.1, rule.2.mapRefs spell)) :=
  (ofRules_map (Expr.wellFormed_mapRefs blank) (localRefs_mapRefs empty meaning) rules).symm

end Rules

end CalculationPlan

end GridRules
