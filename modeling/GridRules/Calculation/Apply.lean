import GridRules.Calculation.Held
import GridRules.Calculation.Order
/-!
Applying a plan to a row: the impacted targets are computed in order, and those whose value changed
are written back. If a rule breaks off, there is no row.
-/

namespace GridRules

structure CalculationResult where
  row : HeldRow
  /-- The targets whose value changed, in the order they were computed. -/
  updated : List String
  /-- Impacted targets on a cycle, which keep their value. -/
  skippedCyclic : List String

namespace CalculationResult

/-- A row without updates is the row that was given. -/
def changed (result : CalculationResult) : Bool :=
  !result.updated.isEmpty

end CalculationResult

/-- A row that is handed back to a caller: the very row that was given, which the caller knows as
its own, or another one. -/
inductive HandedRow where
  | given
  | copy (row : HeldRow)

/-- What is in a row that is handed back for a given one. -/
def HandedRow.entries (given : HeldRow) : HandedRow → HeldRow
  | .given => given
  | .copy row => row

namespace CalculationPlan

/-- What rules see: every field under its own id and under its path in the grid. -/
def rowValues (gridId : String) (row : HeldRow) : HeldRow :=
  row.foldl (fun values entry => values.put (FieldPath.inGrid gridId entry.1) entry.2) row

/-- The state while targets are computed. -/
structure Progress where
  row : HeldRow
  values : HeldRow
  updated : List String

/-- The state before the first target is computed. -/
def Progress.start (gridId : String) (row : HeldRow) : Progress :=
  ⟨row, rowValues gridId row, []⟩

/-- Writes a target, where the row and where the rules see it. -/
def Progress.write (gridId : String) (state : Progress) (target : String) (held : Held) :
    Progress where
  row := state.row.put target held
  values := (state.values.put target held).put (FieldPath.inGrid gridId target) held
  updated := state.updated ++ [target]

/-- Takes over what the rule of a target came to, if that is a change. -/
def Progress.take (gridId : String) (state : Progress) (target : String) (held : Held) : Progress :=
  if (state.row.getD target).unchanged held then state else state.write gridId target held

/-- Where the constants in the rule of a target are. -/
def constantPlace (plan : CalculationPlan) (target : String) : List Bool → Place :=
  .constant plan.ruleSet plan.gridId target

/-- Computes one target. -/
def computeTarget (plan : CalculationPlan) (state : Progress) (target : String) :
    Except Fault Progress :=
  match plan.rules.get? target with
  | none => .ok state
  | some rule => do
    let held ← rule.hold state.values (plan.constantPlace target)
    return state.take plan.gridId target held

/-- Computes the targets that the changed fields reach; no change means all targets. -/
def apply (plan : CalculationPlan) (row : HeldRow) (changed : List String) :
    Except Fault CalculationResult := do
  let (order, cyclic) := plan.evaluationOrder (plan.impacted changed)
  let state ← order.foldlM plan.computeTarget (.start plan.gridId row)
  return ⟨state.row, state.updated, cyclic⟩

/-- What a caller gets back for a row: the row, and with it the updated and the skipped targets.
The row is copied once targets are computed, and the copy is dropped again without an update. -/
def handBack (plan : CalculationPlan) (row : HeldRow) (changed : List String) :
    Except Fault (HandedRow × List String × List String) :=
  if plan.rules.isEmpty then .ok (.given, [], [])
  else
    let impacted := plan.impacted changed
    if impacted.isEmpty then .ok (.given, [], [])
    else do
      let (order, cyclic) := plan.evaluationOrder impacted
      let state ← order.foldlM plan.computeTarget (.start plan.gridId row)
      return (if state.updated.isEmpty then .given else .copy state.row, state.updated, cyclic)

end CalculationPlan

end GridRules
