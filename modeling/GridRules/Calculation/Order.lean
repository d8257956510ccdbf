import GridRules.Calculation.Plan
/-!
Which targets a change reaches, and in what order they are computed. The order puts every target
behind those it depends on; targets on a cycle are left out and reported.
-/

namespace GridRules

namespace CalculationPlan

/-- Changed fields under their ids in the grid; what has none stays as it is written. -/
def changedFields (gridId : String) (changed : List String) : List String :=
  (changed.map fun field => (localFieldId? field gridId).getD field).foldl addNew []

/-- What a changed field reaches at once: itself, if it is a target, and its readers. -/
def reachedAtOnce (plan : CalculationPlan) (field : String) : List String :=
  (if plan.rules.has field then [field] else []) ++ plan.readersOfField field

/-- Goes on from the targets in the queue. Every target enters the queue at most once. -/
def spread (plan : CalculationPlan) : Nat → List String → List String → List String
  | 0, reached, _ => reached
  | _, reached, [] => reached
  | fuel + 1, reached, source :: queue =>
    let all := (plan.readersOfField source).foldl addNew reached
    plan.spread fuel all (queue ++ all.drop reached.length)

/-- The targets that depend on the changed fields, directly or not, as they are discovered. No
change means all targets. -/
def impacted (plan : CalculationPlan) (changed : List String) : List String :=
  if changed.isEmpty then plan.targets
  else
    let fields := changedFields plan.gridId changed
    let first := (fields.flatMap plan.reachedAtOnce).foldl addNew []
    plan.spread (plan.rules.length + 1) first first

/-- The state of the search for an order. -/
structure Visit where
  visited : List String
  order : List String
  cyclic : List String

/-- Reports the targets of a path from one of them on. -/
def Visit.report (state : Visit) (path : List String) (target : String) : Visit :=
  { state with cyclic := (path.dropWhile (· != target)).foldl addNew state.cyclic }

/-- Leaves a target all of whose dependencies have been dealt with. -/
def Visit.finish (state : Visit) (target : String) : Visit :=
  { state with
    visited := state.visited ++ [target]
    order := if state.cyclic.contains target then state.order else state.order ++ [target] }

/-- Deals with a dependency of the last target of a path. One that is on the path closes a cycle,
and all targets from there on are cyclic; any other one that is new is entered. -/
def meet (impacted path : List String) (enter : String → Visit → Visit) (state : Visit)
    (dep : String) : Visit :=
  if impacted.contains dep && !state.visited.contains dep then
    if path.contains dep then state.report path dep else enter dep state
  else state

/-- Visits a target at the end of a path. -/
def visit (plan : CalculationPlan) (impacted : List String) :
    Nat → List String → String → Visit → Visit
  | 0, _, _, state => state
  | fuel + 1, path, target, state =>
    ((plan.dependencies target).foldl
      (meet impacted (path ++ [target]) (plan.visit impacted fuel (path ++ [target]))) state).finish
      target

/-- Nothing has been visited yet. -/
def Visit.start : Visit := ⟨[], [], []⟩

/-- The order of the impacted targets, and those on a cycle. A path never has more targets than
are impacted. -/
def evaluationOrder (plan : CalculationPlan) (impacted : List String) :
    List String × List String :=
  let state := impacted.foldl (meet impacted [] (plan.visit impacted impacted.length [])) .start
  (state.order, state.cyclic)

end CalculationPlan

end GridRules
