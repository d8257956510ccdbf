import GridRules.Calculation.Plan
import GridRules.Proofs.Lists
import GridRules.Proofs.DistinctKeys
import GridRules.Proofs.FieldReferences

namespace GridRules

namespace CalculationPlan

/-- The fields of the grid that the rule of a target reads. -/
def reads (plan : CalculationPlan) (target : String) : List String :=
  match plan.rules.get? target with
  | some rule => localRefs plan.gridId rule
  | none => []

theorem reads_of_rule {plan : CalculationPlan} {target : String} {rule : Expr}
    (h : plan.rules.get? target = some rule) : plan.reads target = localRefs plan.gridId rule := by
  rw [reads, h]

/-- What holds of a plan that was compiled from calculations, whatever they are. -/
structure Compiled (plan : CalculationPlan) : Prop where
  target_ids : ∀ t ∈ plan.targets, IsFieldId plan.gridId ∧ IsFieldId t
  complete : ∀ t rule, plan.rules.get? t = some rule → rule.wellFormed = true
  mem_dependencies : ∀ t dep, dep ∈ plan.dependencies t ↔ dep ∈ plan.reads t ∧ dep ∈ plan.targets
  mem_readers : ∀ field t, t ∈ plan.readersOfField field ↔ field ∈ plan.reads t

theorem mem_localRefs {gridId field : String} {e : Expr} :
    field ∈ localRefs gridId e ↔ ∃ ref ∈ e.refs, localFieldId? ref gridId = some field := by
  rw [localRefs, mem_foldl_addNew, List.mem_filterMap]
  simp

section Readers

variable {readers : Assoc (List String)} {target field t : String}

theorem mem_addReader {other : String} :
    t ∈ ((addReader readers target other).get? field).getD [] ↔
      t ∈ (readers.get? field).getD [] ∨ t = target ∧ field = other := by
  rw [addReader, Assoc.get?_put]
  split
  next h => simp [mem_addNew, h]
  next h => simp [h]

theorem mem_foldl_addReader {fields : List String} :
    t ∈ ((fields.foldl (fun all other => addReader all target other) readers).get? field).getD [] ↔
      t ∈ (readers.get? field).getD [] ∨ t = target ∧ field ∈ fields := by
  induction fields generalizing readers with
  | nil => simp
  | cons other fields ih =>
    rw [List.foldl_cons, ih, mem_addReader, or_assoc, ← and_or_left, List.mem_cons]

theorem mem_foldl_rule_readers {gridId : String} {rules : Assoc Expr} :
    t ∈ ((rules.foldl (fun all rule => (localRefs gridId rule.2).foldl
      (fun all other => addReader all rule.1 other) all) readers).get? field).getD [] ↔
      t ∈ (readers.get? field).getD [] ∨
        ∃ rule, (t, rule) ∈ rules ∧ field ∈ localRefs gridId rule := by
  induction rules generalizing readers with
  | nil => simp
  | cons entry rules ih =>
    obtain ⟨target, rule⟩ := entry
    rw [List.foldl_cons, ih, mem_foldl_addReader]
    grind

theorem mem_readersOf {gridId : String} {rules : Assoc Expr} :
    t ∈ ((readersOf gridId rules).get? field).getD [] ↔
      ∃ rule, (t, rule) ∈ rules ∧ field ∈ localRefs gridId rule := by
  rw [readersOf, mem_foldl_rule_readers]
  simp

end Readers

/-- The target that a calculation stands for in a grid. -/
def targetIn? (gridId key : String) : Option String :=
  match FieldPath.parse? key with
  | some path => if path.gridId = some gridId then some path.fieldId else none
  | none => none

theorem isFieldId_of_targetIn? {gridId key target : String}
    (h : targetIn? gridId key = some target) : IsFieldId gridId ∧ IsFieldId target := by
  unfold targetIn? at h
  split at h
  next path hp =>
    split at h
    next hg =>
      obtain ⟨grid, field⟩ := path
      obtain rfl : field = target := Option.some.inj h
      obtain rfl : grid = some gridId := hg
      exact FieldPath.isFieldId_of_parse? hp
    next => simp at h
  next => simp at h

/-- A reference with dots means a field of the grid where a calculation would have it for its
target. -/
theorem localFieldId?_of_dot {ref : String} (hb : isBlankText ref = false)
    (hd : hasDot ref = true) (gridId : String) : localFieldId? ref gridId = targetIn? gridId ref := by
  rw [localFieldId?, if_neg (by simp [hb]), if_neg (by simp [hd])]
  rfl

theorem ruleIn?_eq (gridId key : String) (rule : Value) :
    ruleIn? gridId key rule =
      if (Expr.ofValue (rule.field "expr")).isNode then
        (targetIn? gridId key).map fun t => (t, Expr.ofValue (rule.field "expr"))
      else none := by
  unfold ruleIn? targetIn?
  dsimp only
  split
  next =>
    cases FieldPath.parse? key with
    | none => rfl
    | some path =>
      dsimp only
      split <;> rfl
  next => rfl

section Rules

variable {gridId : String} {calculations : Entries}

theorem ids_of_mem_rulesIn {target : String} {rule : Expr}
    (h : (target, rule) ∈ rulesIn gridId calculations) : IsFieldId gridId ∧ IsFieldId target := by
  obtain ⟨entry, _, he⟩ := List.mem_filterMap.mp h
  rw [ruleIn?_eq] at he
  split at he
  next =>
    obtain ⟨t, ht, hrule⟩ := Option.map_eq_some_iff.mp he
    exact (Prod.mk.inj hrule).1 ▸ isFieldId_of_targetIn? ht
  next => simp at he

theorem mem_rulesIn_of_get? {target : String} {rule : Expr}
    (h : (targetRules gridId calculations).get? target = some rule) :
    (target, rule) ∈ rulesIn gridId calculations ∧ rule.wellFormed = true := by
  rcases Assoc.mem_of_get?_putAll h with h | h
  · simp at h
  · simpa using List.mem_filter.mp h

theorem targetRules_distinct (gridId : String) (calculations : Entries) :
    (targetRules gridId calculations).keys.Nodup :=
  Assoc.keys_putAll_nodup (by simp [Assoc.keys]) _

end Rules

theorem build_compiled (gridId : String) (calculations : Entries) (ruleSet : Nat := 0) :
    (build gridId calculations ruleSet).Compiled where
  target_ids t ht := by
    obtain ⟨rule, hr⟩ := Assoc.exists_get?_of_mem_keys ht
    exact ids_of_mem_rulesIn (mem_rulesIn_of_get? hr).1
  complete t rule h := (mem_rulesIn_of_get? h).2
  mem_dependencies t dep := by
    rw [dependencies, reads, build, Assoc.get?_map_values, targets]
    cases (targetRules gridId calculations).get? t with
    | none => simp
    | some rule => simp [Assoc.has_iff]
  mem_readers field t := by
    rw [readersOfField, reads, build, mem_readersOf]
    have distinct := targetRules_distinct gridId calculations
    constructor
    · rintro ⟨rule, hm, hf⟩
      rw [Assoc.get?_of_mem distinct hm]
      exact hf
    · intro hf
      cases hr : (targetRules gridId calculations).get? t with
      | none => simp [hr] at hf
      | some rule =>
        rw [hr] at hf
        exact ⟨rule, Assoc.mem_of_get? hr, hf⟩

end CalculationPlan

end GridRules
