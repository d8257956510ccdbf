import GridRules.Proofs.NormalizedEvaluation
import GridRules.Proofs.RespelledPlans

namespace GridRules

namespace Expr

/-- An operand that is spliced leaves its references where it was. -/
theorem flatMap_allRefs_splice (op : Variadic) (e : Expr) :
    (splice op e).flatMap allRefs = e.allRefs := by
  rcases splice_cases op e with hs | ⟨args, rfl, hs⟩
  · rw [hs, List.flatMap_singleton]
  · rw [hs, allRefs, allRefsOf_eq_flatMap]

theorem allRefs_canonical (e : Expr) : e.canonical.allRefs = e.allRefs := by
  induction e using operand_induction with
  | step e ih =>
    cases e with
    | variadic op args =>
      have hargs : args.flatMap (fun arg => arg.canonical.allRefs) = args.flatMap allRefs :=
        List.flatMap_congr ih
      simp only [canonical_variadic, allRefs, allRefsOf_eq_flatMap, List.flatMap_assoc,
        List.flatMap_map, flatMap_allRefs_splice]
      exact hargs
    | connective op args =>
      have hargs : args.flatMap (fun arg => arg.canonical.allRefs) = args.flatMap allRefs :=
        List.flatMap_congr ih
      simp only [canonical, canonicalAll_eq_map, allRefs, allRefsOf_eq_flatMap, List.flatMap_map]
      exact hargs
    | binary op left right =>
      rw [canonical, allRefs, allRefs, ih left (by simp [operands]), ih right (by simp [operands])]
    | not arg => rw [canonical, allRefs, allRefs, ih arg (by simp [operands])]
    | cond test yes no =>
      rw [canonical, allRefs, allRefs, ih test (by simp [operands]), ih yes (by simp [operands]),
        ih no (by simp [operands])]
    | regex subject pattern flags =>
      rw [canonical, allRefs, allRefs, ih subject (by simp [operands])]
    | _ => rfl

/-- Only a sum or product that has operands is spliced, and it is complete just if they are. -/
theorem all_wellFormed_splice (op : Variadic) (e : Expr) :
    (splice op e).all wellFormed = e.wellFormed := by
  have hne := splice_ne_nil op e
  rcases splice_cases op e with hs | ⟨args, rfl, hs⟩
  · simp [hs]
  · have hargs : args.isEmpty = false := List.isEmpty_eq_false_iff.mpr (hs ▸ hne)
    rw [hs, wellFormed, allWellFormed_eq_all, hargs]
    rfl

theorem all_wellFormed_canonical {args : List Expr}
    (h : ∀ arg ∈ args, arg.canonical.wellFormed = arg.wellFormed) :
    (args.map canonical).all wellFormed = args.all wellFormed := by
  rw [List.all_map, Bool.eq_iff_iff, List.all_eq_true, List.all_eq_true]
  exact forall₂_congr fun arg ha => by rw [Function.comp_apply, h arg ha]

theorem wellFormed_canonical (e : Expr) : e.canonical.wellFormed = e.wellFormed := by
  induction e using operand_induction with
  | step e ih =>
    cases e with
    | variadic op args =>
      have hall : ((args.map canonical).flatMap (splice op)).all wellFormed =
          args.all wellFormed := by
        rw [List.all_flatMap]
        simp only [all_wellFormed_splice]
        exact all_wellFormed_canonical ih
      have hempty : ((args.map canonical).flatMap (splice op)).isEmpty = args.isEmpty := by
        rw [Bool.eq_iff_iff, List.isEmpty_iff, List.isEmpty_iff, flatMap_splice_eq_nil_iff,
          List.map_eq_nil_iff]
      rw [canonical_variadic, wellFormed, wellFormed, allWellFormed_eq_all, allWellFormed_eq_all,
        hall, hempty]
    | connective op args =>
      have hall : (args.map canonical).all wellFormed = args.all wellFormed :=
        all_wellFormed_canonical ih
      rw [canonical, wellFormed, wellFormed, canonicalAll_eq_map, allWellFormed_eq_all,
        allWellFormed_eq_all, hall, List.isEmpty_map]
    | binary op left right =>
      rw [canonical, wellFormed, wellFormed, ih left (by simp [operands]),
        ih right (by simp [operands])]
    | not arg => rw [canonical, wellFormed, wellFormed, ih arg (by simp [operands])]
    | cond test yes no =>
      rw [canonical, wellFormed, wellFormed, ih test (by simp [operands]),
        ih yes (by simp [operands]), ih no (by simp [operands])]
    | regex subject pattern flags =>
      rw [canonical, wellFormed, wellFormed, ih subject (by simp [operands])]
    | _ => rfl

end Expr

theorem fieldRefs_normalize (v : Value) : fieldRefs (normalize v) = fieldRefs v := by
  rw [fieldRefs, fieldRefs, Expr.ofValue_normalize, Expr.refs, Expr.refs, Expr.allRefs_canonical]

theorem isWellFormed_normalize (v : Value) : isWellFormed (normalize v) = isWellFormed v := by
  rw [isWellFormed, isWellFormed, Expr.ofValue_normalize, Expr.wellFormed_canonical]

/-- A calculation with its expression in canonical form. -/
def normalizeRule : Value → Value
  | .object rule => .object (normalizeAt ["expr"] rule)
  | v => v

/-- Calculations with all their expressions in canonical form. -/
def normalizeRules (calculations : Entries) : Entries :=
  calculations.map fun entry => (entry.1, normalizeRule entry.2)

theorem field_expr_normalizeRule (rule : Value) :
    (normalizeRule rule).field "expr" = normalize (rule.field "expr") := by
  cases rule with
  | object rule =>
    rw [normalizeRule, Value.field, Value.field, getD_normalizeAt, if_pos (List.mem_singleton_self _)]
  | _ => exact normalize_null.symm

namespace CalculationPlan

theorem ruleIn?_normalizeRule (gridId path : String) (rule : Value) :
    ruleIn? gridId path (normalizeRule rule) =
      (ruleIn? gridId path rule).map fun r => (r.1, r.2.canonical) := by
  rw [ruleIn?_eq, ruleIn?_eq, field_expr_normalizeRule, Expr.ofValue_normalize,
    Expr.isNode_canonical]
  split
  next => rw [Option.map_map]; rfl
  next => rfl

theorem rulesIn_normalizeRules (gridId : String) (calculations : Entries) :
    rulesIn gridId (normalizeRules calculations) =
      (rulesIn gridId calculations).map fun r => (r.1, r.2.canonical) := by
  rw [rulesIn, rulesIn, normalizeRules, List.filterMap_map, List.map_filterMap]
  exact List.filterMap_congr fun entry _ => ruleIn?_normalizeRule gridId entry.1 entry.2

theorem localRefs_canonical (gridId : String) (e : Expr) :
    localRefs gridId e.canonical = localRefs gridId e := by
  rw [localRefs, localRefs, Expr.refs, Expr.refs, Expr.allRefs_canonical]

/-- The plan of rules in canonical form is the plan with its rules in canonical form. -/
theorem build_normalizeRules (gridId : String) (calculations : Entries) :
    build gridId (normalizeRules calculations) =
      { build gridId calculations with
        rules := (build gridId calculations).rules.map fun rule => (rule.1, rule.2.canonical) } := by
  rw [build_eq_ofRules, build_eq_ofRules, rulesIn_normalizeRules]
  exact ofRules_map Expr.wellFormed_canonical (localRefs_canonical gridId) _

/-- Bringing expressions into canonical form keeps what they refer to, in its order, and whether
they are complete. So it keeps the targets of a plan, what they depend on and who reads them. -/
theorem normalize_keeps_dependencies :
    (∀ v, fieldRefs (normalize v) = fieldRefs v ∧ isWellFormed (normalize v) = isWellFormed v) ∧
      ∀ gridId calculations,
        (build gridId (normalizeRules calculations)).targets =
            (build gridId calculations).targets ∧
          (build gridId (normalizeRules calculations)).dependsOn =
            (build gridId calculations).dependsOn ∧
          (build gridId (normalizeRules calculations)).readers =
            (build gridId calculations).readers := by
  refine ⟨fun v => ⟨fieldRefs_normalize v, isWellFormed_normalize v⟩, ?_⟩
  intro gridId calculations
  have hplan := build_normalizeRules gridId calculations
  refine ⟨?_, ?_, ?_⟩
  · rw [hplan, targets, targets, Assoc.keys, Assoc.keys, List.map_map]
    rfl
  · rw [hplan]
  · rw [hplan]

end CalculationPlan

end GridRules
