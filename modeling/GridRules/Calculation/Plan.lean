import GridRules.Expr.References
import GridRules.Path.Basic
/-!
Calculation plans. The rules of one grid, each for a target field, with the targets that a rule
reads and, the other way round, the targets that read a field.
-/

namespace GridRules

structure CalculationPlan where
  gridId : String
  /-- What tells the rule set, whose constants may get into rows, from others. -/
  ruleSet : Nat
  /-- The rule of each target. -/
  rules : Assoc Expr
  /-- The targets that the rule of a target reads. -/
  dependsOn : Assoc (List String)
  /-- The targets whose rules read a field. -/
  readers : Assoc (List String)
  /-- Targets of the grid whose rules are incomplete and therefore left out. -/
  skipped : List String

/-- Adds an item behind a list that does not have it. -/
def addNew (items : List String) (item : String) : List String :=
  if items.contains item then items else items ++ [item]

namespace CalculationPlan

/-- The target and the expression of a calculation that belongs to the grid. -/
def ruleIn? (gridId : String) (path : String) (rule : Value) : Option (String × Expr) :=
  let expr := Expr.ofValue (rule.field "expr")
  if expr.isNode then
    match FieldPath.parse? path with
    | some target => if target.gridId = some gridId then some (target.fieldId, expr) else none
    | none => none
  else none

/-- The calculations that belong to the grid. -/
def rulesIn (gridId : String) (calculations : Entries) : List (String × Expr) :=
  calculations.filterMap fun entry => ruleIn? gridId entry.1 entry.2

/-- The rules of the grid; of two for one target the later one counts. -/
def targetRules (gridId : String) (calculations : Entries) : Assoc Expr :=
  Assoc.putAll [] ((rulesIn gridId calculations).filter fun rule => rule.2.wellFormed)

/-- The fields of the grid that an expression reads, each once. -/
def localRefs (gridId : String) (e : Expr) : List String :=
  (e.refs.filterMap (localFieldId? · gridId)).foldl addNew []

/-- Records that a target reads a field. -/
def addReader (readers : Assoc (List String)) (target field : String) : Assoc (List String) :=
  readers.put field (addNew ((readers.get? field).getD []) target)

def readersOf (gridId : String) (rules : Assoc Expr) : Assoc (List String) :=
  rules.foldl (fun readers rule =>
    (localRefs gridId rule.2).foldl (fun readers field => addReader readers rule.1 field)
      readers) []

/-- Compiles the calculations of a grid. -/
def build (gridId : String) (calculations : Entries) (ruleSet : Nat := 0) : CalculationPlan :=
  let rules := targetRules gridId calculations
  { gridId := gridId
    ruleSet := ruleSet
    rules := rules
    dependsOn := rules.map fun rule =>
      (rule.1, (localRefs gridId rule.2).filter fun field => rules.has field)
    readers := readersOf gridId rules
    skipped := ((rulesIn gridId calculations).filter fun rule => !rule.2.wellFormed).map (·.1) }

def targets (plan : CalculationPlan) : List String :=
  plan.rules.keys

/-- The targets that a target depends on. -/
def dependencies (plan : CalculationPlan) (target : String) : List String :=
  (plan.dependsOn.get? target).getD []

/-- The targets that read a field. -/
def readersOfField (plan : CalculationPlan) (field : String) : List String :=
  (plan.readers.get? field).getD []

end CalculationPlan

end GridRules
