import GridRules.Proofs.CheckedExpressions
import GridRules.Proofs.ElementaryCycles
import GridRules.Proofs.EvaluationOrder
import GridRules.Proofs.PlanDependencies
import GridRules.Schema.Validate

namespace GridRules

/-- The expression of a calculation. -/
def calculationExpr (rule : Value) : Expr :=
  Expr.ofValue (rule.field "expr")

theorem CalculationPlan.ruleIn?_of_parse? {gridId fieldId key : String} {rule : Value}
    (hp : FieldPath.parse? key = some ⟨some gridId, fieldId⟩)
    (hn : (calculationExpr rule).isNode = true) :
    ruleIn? gridId key rule = some (fieldId, calculationExpr rule) := by
  rw [calculationExpr] at hn ⊢
  simp [ruleIn?, hp, hn]

namespace Tracker

/-- No id of a grid or a field has a dot. -/
structure DotFree (tracker : Tracker) : Prop where
  grids : ∀ grid ∈ tracker.grids, hasDot grid.id = false
  fields : ∀ field ∈ tracker.fields, hasDot field.id = false

theorem mem_and_id_of_byId {α : Type} {id : α → String} {items : List α} {key : String} {item : α}
    (h : (byId id items).get? key = some item) : item ∈ items ∧ id item = key := by
  rcases Assoc.mem_of_get?_putAll h with hn | hm
  · simp at hn
  · obtain ⟨other, ho, he⟩ := List.mem_map.mp hm
    obtain ⟨hkey, rfl⟩ := Prod.mk.inj he
    exact ⟨ho, hkey⟩

theorem id_of_byId {α : Type} {id : α → String} {items : List α} {key : String}
    (h : ((byId id items).get? key).isSome = true) : ∃ item ∈ items, id item = key := by
  obtain ⟨item, hi⟩ := Option.isSome_iff_exists.mp h
  exact ⟨item, mem_and_id_of_byId hi⟩

/-- The reference is the path of a field that is placed in a grid. -/
structure Placed (tracker : Tracker) (ref gridId fieldId : String) : Prop where
  path : ref = FieldPath.inGrid gridId fieldId
  grid_id : IsFieldId gridId
  field_id : IsFieldId fieldId
  mem : ref ∈ tracker.fieldPaths

theorem Placed.parse?_eq {tracker : Tracker} {ref gridId fieldId : String}
    (h : tracker.Placed ref gridId fieldId) :
    FieldPath.parse? ref = some ⟨some gridId, fieldId⟩ :=
  h.path ▸ FieldPath.parse?_inGrid h.grid_id h.field_id

theorem ids_of_nodeProblems {tracker : Tracker} (dotFree : tracker.DotFree) {node : LayoutNode}
    (h : tracker.nodeProblems node = []) :
    hasDot node.gridId = false ∧ hasDot node.fieldId = false := by
  obtain ⟨hgrid, hfield⟩ := List.append_eq_nil_iff.mp h
  constructor
  · split at hgrid
    next hs =>
      obtain ⟨grid, hm, he⟩ := id_of_byId hs
      exact he ▸ dotFree.grids grid hm
    next => simp at hgrid
  · split at hfield
    next hs =>
      obtain ⟨field, hm, he⟩ := id_of_byId hs
      exact he ▸ dotFree.fields field hm
    next => simp at hfield

theorem placed_of_parse? {tracker : Tracker} (dotFree : tracker.DotFree)
    (layout : tracker.checkLayout.errors = []) {ref gridId fieldId : String}
    (hm : ref ∈ tracker.fieldPaths) (hp : FieldPath.parse? ref = some ⟨some gridId, fieldId⟩) :
    tracker.Placed ref gridId fieldId := by
  obtain ⟨node, hn, rfl⟩ := List.mem_map.mp hm
  have clean : tracker.nodeProblems node = [] :=
    List.flatMap_eq_nil_iff.mp
      (List.append_eq_nil_iff.mp (List.append_eq_nil_iff.mp layout).1).1 node hn
  obtain ⟨hg, hf⟩ := ids_of_nodeProblems dotFree clean
  obtain ⟨rfl, rfl⟩ := FieldPath.eq_of_parse?_inGrid hg hf hp
  obtain ⟨grid_id, field_id⟩ := FieldPath.isFieldId_of_parse? hp
  exact ⟨rfl, grid_id, field_id, hm⟩

theorem parse?_of_qualifiedPath? {key gridId fieldId : String}
    (h : qualifiedPath? key = some (gridId, fieldId)) :
    FieldPath.parse? key = some ⟨some gridId, fieldId⟩ := by
  unfold qualifiedPath? at h
  split at h
  next => simp at h
  next =>
    split at h
    next grid field hp =>
      obtain ⟨rfl, rfl⟩ := Prod.mk.inj (Option.some.inj h)
      exact hp
    next => simp at h

/-- The check of a calculation has nothing to say about it: it stands under the path of a placed
field, its expression is complete and reads placed fields of the same grid. -/
structure Accepted (tracker : Tracker) (key : String) (rule : Value) (gridId fieldId : String) :
    Prop where
  placed : tracker.Placed key gridId fieldId
  complete : (calculationExpr rule).wellFormed = true
  refs : ∀ ref ∈ (calculationExpr rule).refs, ∃ refId, tracker.Placed ref gridId refId

def AllAccepted (tracker : Tracker) : Prop :=
  ∀ entry ∈ tracker.calculations,
    ∃ gridId fieldId, tracker.Accepted entry.1 entry.2 gridId fieldId

/-- The other calculations that a calculation reads. -/
def calculationsRead (tracker : Tracker) (rule : Value) : List String :=
  (calculationExpr rule).refs.filter fun ref => tracker.calculations.has ref

/-- The error is one on a single calculation: it begins with its key or with its path. -/
def OnCalculation (message : String) : Prop :=
  BeginsWith "calculations key \"" message ∨ BeginsWith "calculations." message

/-- The check goes through the expression of the calculation: the key is the path of a field that is
placed in a known grid, and the expression is a node. -/
structure ChecksRule (tracker : Tracker) (key : String) (rule : Value) : Prop where
  placed : key ∈ tracker.fieldPaths
  grid : ∃ gridId fieldId, qualifiedPath? key = some (gridId, fieldId) ∧
    (tracker.grid? gridId).isSome = true
  node : (calculationExpr rule).isNode = true

section Checks

variable {tracker : Tracker} {key : String} {rule : Value} {checked : CheckedCalculation}

theorem placed_of_refProblems (dotFree : tracker.DotFree)
    (layout : tracker.checkLayout.errors = []) {gridId ref path : String}
    (h : calculationRefProblems tracker.fieldPaths gridId ref path = []) :
    ∃ refId, tracker.Placed ref gridId refId := by
  unfold calculationRefProblems at h
  dsimp only at h
  split at h
  next => simp at h
  next =>
    split at h
    next => simp at h
    next refGrid refId hq =>
      split at h
      next => simp at h
      next hm =>
        split at h
        next => simp at h
        next he =>
          obtain rfl := not_not.mp he
          have hmem : ref ∈ tracker.fieldPaths := by simpa using hm
          exact ⟨refId, placed_of_parse? dotFree layout hmem (parse?_of_qualifiedPath? hq)⟩

theorem not_node_of_no_object (h : ∀ entries, rule ≠ .object entries) :
    (calculationExpr rule).isNode = false := by
  cases rule with
  | object entries => exact absurd rfl (h entries)
  | _ => rfl

/-- A calculation is refused with one error, or the check goes through its expression. -/
theorem checkCalculation_cases (h : tracker.checkCalculation key rule = .ok checked) :
    (¬ tracker.ChecksRule key rule ∧
      ∃ message, OnCalculation message ∧ checked = ⟨[message], none⟩) ∨
    (tracker.ChecksRule key rule ∧ ∃ gridId fieldId problems,
      qualifiedPath? key = some (gridId, fieldId) ∧
      (calculationExpr rule).problems (calculationRefProblems tracker.fieldPaths gridId)
        ("calculations." ++ key ++ ".expr") ("calculations." ++ key ++ ".expr") = .ok problems ∧
      checked = ⟨problems ++ (if (calculationExpr rule).refs.contains key then
        ["calculations." ++ key ++ ".expr" ++ " must not reference itself"] else []),
        some (tracker.calculationsRead rule)⟩) := by
  have refused {message : String} (h : refusedCalculation message = .ok checked)
      (on : OnCalculation message) : ∃ message, OnCalculation message ∧
        checked = ⟨[message], none⟩ := ⟨message, on, (Except.ok.inj h).symm⟩
  have named : BeginsWith "calculations key \"" ("calculations key \"" ++ key ++ "\"") :=
    ⟨key ++ "\"", String.append_assoc⟩
  have inside (part : String) : BeginsWith "calculations." ("calculations." ++ key ++ part) :=
    ⟨key ++ part, String.append_assoc⟩
  unfold checkCalculation at h
  dsimp only at h
  split at h
  next hq =>
    refine .inl ⟨?_, refused h (.inl (named.append _))⟩
    rintro ⟨-, ⟨_, _, hq', -⟩, -⟩
    simp [hq] at hq'
  next gridId fieldId hq =>
    split at h
    next hg =>
      refine .inl ⟨?_, refused h (.inl (((named.append _).append gridId).append _))⟩
      rintro ⟨-, ⟨_, _, hq', hg'⟩, -⟩
      obtain ⟨rfl, rfl⟩ := Prod.mk.inj (Option.some.inj (hq.symm.trans hq'))
      simp [Option.isSome_iff_ne_none.mp hg'] at hg
    next hg =>
      split at h
      next hm =>
        refine .inl ⟨fun checks => ?_, refused h (.inl (((named.append _).append key).append _))⟩
        simp [checks.placed] at hm
      next hm =>
        split at h
        next entries =>
          split at h
          next hn =>
            refine .inl ⟨fun checks => ?_, refused h (.inr ((inside _).append _))⟩
            have node := checks.node
            rw [calculationExpr, Value.field] at node
            simp [node] at hn
          next hn =>
            obtain ⟨problems, hp, h⟩ := bind_eq_ok_iff.mp h
            obtain rfl := pure_eq_ok_iff.mp h
            refine .inr ⟨⟨by simpa using hm, ⟨gridId, fieldId, hq, ?_⟩, ?_⟩,
              gridId, fieldId, problems, hq, hp, rfl⟩
            · simpa [Option.isSome_iff_ne_none] using hg
            · simpa [calculationExpr, Value.field] using hn
        next hr =>
          refine .inl ⟨fun checks => ?_, refused h (.inr (inside _))⟩
          have node := checks.node
          rw [not_node_of_no_object hr] at node
          cases node

theorem accepted_of_checkCalculation (dotFree : tracker.DotFree)
    (layout : tracker.checkLayout.errors = [])
    (h : tracker.checkCalculation key rule = .ok checked) (clean : checked.errors = []) :
    (∃ gridId fieldId, tracker.Accepted key rule gridId fieldId) ∧
      checked.dependencies = some (tracker.calculationsRead rule) := by
  rcases checkCalculation_cases h with
    ⟨-, _, -, rfl⟩ | ⟨checks, gridId, fieldId, problems, hq, hp, rfl⟩
  · simp at clean
  · obtain ⟨rfl, -⟩ := List.append_eq_nil_iff.mp clean
    obtain ⟨complete, refs⟩ := Expr.clean_of_problems _ _ _ hp
    refine ⟨⟨gridId, fieldId,
      placed_of_parse? dotFree layout checks.placed (parse?_of_qualifiedPath? hq), complete, ?_⟩,
      rfl⟩
    intro ref hr
    obtain ⟨_, hrp⟩ := refs ref (Expr.mem_refs.mp hr)
    exact placed_of_refProblems dotFree layout hrp

end Checks

/-- What each calculation reads of the others. -/
def calculationLinks (tracker : Tracker) : Assoc (List String) :=
  tracker.calculations.map fun entry => (entry.1, tracker.calculationsRead entry.2)

theorem accepted_of_checked {tracker : Tracker} (dotFree : tracker.DotFree)
    (layout : tracker.checkLayout.errors = []) {entries : Entries}
    {checked : Assoc CheckedCalculation}
    (each : List.Forall₂ (fun entry result =>
      (tracker.checkCalculation entry.1 entry.2).map (fun c => (entry.1, c)) = .ok result)
      entries checked)
    (clean : checked.flatMap (fun entry => entry.2.errors) = []) :
    (∀ entry ∈ entries, ∃ gridId fieldId, tracker.Accepted entry.1 entry.2 gridId fieldId) ∧
      checked.filterMap (fun entry => entry.2.dependencies.map fun deps => (entry.1, deps)) =
        entries.map fun entry => (entry.1, tracker.calculationsRead entry.2) := by
  induction each with
  | nil => simp
  | @cons entry result entries rest hresult _ ih =>
    obtain ⟨c, hcheck, rfl⟩ := map_eq_ok_iff.mp hresult
    obtain ⟨hown, hrest⟩ := List.append_eq_nil_iff.mp clean
    obtain ⟨accepted, hdeps⟩ := accepted_of_checkCalculation dotFree layout hcheck hown
    obtain ⟨ihaccepted, ihlinks⟩ := ih hrest
    exact ⟨List.forall_mem_cons.mpr ⟨accepted, ihaccepted⟩, by
      simp [hdeps, ihlinks]⟩

/-- A report on calculations without errors: all of them are accepted, and they have no cycles. -/
theorem accepted_of_checkCalculations {tracker : Tracker} (dotFree : tracker.DotFree)
    (layout : tracker.checkLayout.errors = []) {report : ValidationReport}
    (h : tracker.checkCalculations = .ok report) (clean : report.errors = []) :
    tracker.AllAccepted ∧ elementaryCycles tracker.calculationLinks = [] := by
  obtain ⟨checked, hc, h⟩ := bind_eq_ok_iff.mp h
  obtain rfl := pure_eq_ok_iff.mp h
  obtain ⟨errors, cycles⟩ := List.append_eq_nil_iff.mp clean
  obtain ⟨accepted, links⟩ := accepted_of_checked dotFree layout (forall₂_of_mapM_ok hc) errors
  rw [links] at cycles
  exact ⟨accepted, List.map_eq_nil_iff.mp cycles⟩

end Tracker

end GridRules
