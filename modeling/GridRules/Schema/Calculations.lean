import GridRules.Expr.References
import GridRules.Graph.Basic
import GridRules.Path.Basic
import GridRules.Schema.Expressions
import GridRules.Schema.Report
import GridRules.Tracker.Basic
/-!
Checks of calculations. A calculation stands under the path of a placed field and reads placed
fields of the same grid, by their paths; no field is calculated from itself, directly or not.
-/

namespace GridRules

/-- What is wrong with a reference in a calculation of a grid. -/
def calculationRefProblems (fieldPaths : List String) (gridId ref path : String) : List String :=
  let named := path ++ ".fieldId \"" ++ ref ++ "\""
  if !hasDot ref then
    [path ++ ".fieldId must be \"gridId.fieldId\" (e.g. main_grid.rate), not bare fieldId"]
  else
    match qualifiedPath? ref with
    | none => [named ++ " is not a valid field path"]
    | some (refGrid, _) =>
      if !fieldPaths.contains ref then
        [path ++ ".fieldId references missing field path \"" ++ ref ++ "\""]
      else if refGrid ≠ gridId then
        [named ++ " must stay within target grid \"" ++ gridId ++ "\""]
      else []

/-- What is found out about one calculation: its problems and, if it has an expression, the
calculations that it reads. -/
structure CheckedCalculation where
  errors : List String
  dependencies : Option (List String)

namespace Tracker

/-- A calculation that is checked no further. -/
def refusedCalculation (message : String) : Except Fault CheckedCalculation :=
  .ok ⟨[message], none⟩

def checkCalculation (tracker : Tracker) (key : String) (rule : Value) :
    Except Fault CheckedCalculation :=
  let named := "calculations key \"" ++ key ++ "\""
  match qualifiedPath? key with
  | none => refusedCalculation
      (named ++ " must be \"gridId.fieldId\" (e.g. main_grid.amount), like bindings")
  | some (gridId, _) =>
    if (tracker.grid? gridId).isNone then
      refusedCalculation (named ++ ": grid \"" ++ gridId ++ "\" not found")
    else if !tracker.fieldPaths.contains key then
      refusedCalculation (named ++ ": field path \"" ++ key ++
        "\" not found (field must be placed in layout for that grid)")
    else
      match rule with
      | .object entries =>
        let e := Expr.ofValue (Entries.getD entries "expr")
        let path := "calculations." ++ key ++ ".expr"
        if !e.isNode then refusedCalculation (path ++ " must be a valid expression node")
        else do
          let problems ← e.problems (calculationRefProblems tracker.fieldPaths gridId) path path
          let own := if e.refs.contains key then [path ++ " must not reference itself"] else []
          return ⟨problems ++ own, some (e.refs.filter fun ref => tracker.calculations.has ref)⟩
      | _ => refusedCalculation ("calculations." ++ key ++ " must be an object")

/-- The calculations with what is found out about them. -/
def checkedCalculations (tracker : Tracker) : Except Fault (Assoc CheckedCalculation) :=
  tracker.calculations.mapM fun entry =>
    (tracker.checkCalculation entry.1 entry.2).map fun checked => (entry.1, checked)

def cycleError (cycle : List String) : String :=
  "calculations contain a dependency cycle: " ++ String.intercalate " -> " cycle

def checkCalculations (tracker : Tracker) : Except Fault ValidationReport := do
  let checked ← tracker.checkedCalculations
  let dependsOn := checked.filterMap fun entry =>
    entry.2.dependencies.map fun dependencies => (entry.1, dependencies)
  return ⟨checked.flatMap (fun entry => entry.2.errors) ++
    (elementaryCycles dependsOn).map cycleError, []⟩

end Tracker

end GridRules
