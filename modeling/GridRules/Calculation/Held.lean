import GridRules.Expr.Evaluate
/-!
What the rows of a calculation hold. Scalars are the same if they have the same value, but a list or
an object is the same only as itself. So a value is held with its place: a field that is copied
gives what stands in the row, and a constant gives what stands in the rule.
-/

namespace GridRules

/-- What a list or an object is known by. -/
inductive Place where
  /-- There is no list or object, but a scalar that was computed. -/
  | none
  /-- It came with a row, which knows it under a name. -/
  | given (name : String)
  /-- It is a constant of a rule set, in the rule of a target of a grid, behind some choices. -/
  | constant (ruleSet : Nat) (gridId target : String) (choices : List Bool)
  deriving DecidableEq

/-- A value that a row holds. A list or an object is itself by its place and its value. -/
structure Held where
  value : Value
  place : Place
  deriving DecidableEq

/-- Whether what is computed leaves what was held before: it is that itself, or the same scalar. -/
def Held.unchanged (previous current : Held) : Bool :=
  previous == current || previous.value.sameScalar current.value

/-- A row whose values are held in their places. -/
abbrev HeldRow := Assoc Held

namespace HeldRow

/-- What a row holds under a key, null if there is nothing. -/
def getD (row : HeldRow) (key : String) : Held :=
  (row.get? key).getD ⟨.null, .none⟩

def entries (row : HeldRow) : Entries :=
  row.map fun entry => (entry.1, entry.2.value)

/-- A row that was just read: what stands under a key is nowhere else. -/
def given (row : Entries) : HeldRow :=
  row.map fun entry => (entry.1, ⟨entry.2, .given entry.1⟩)

end HeldRow

namespace Expr

/-- The branch that a choice takes over a row, if it takes one. -/
def branch? (row : Entries) (test : Expr) : Option Bool :=
  match test.evaluate? row with
  | .ok condition => condition.truthy?
  | .error _ => none

/-- The place of what an expression comes to. Fields and constants have places, and a choice has
that of its branch; all other operators give scalars. -/
def place (row : HeldRow) (constant : List Bool → Place) : Expr → Place
  | .const _ => constant []
  | .field (some ref) => (row.getD ref).place
  | .cond test yes no =>
    match test.branch? row.entries with
    | some true => yes.place row fun choices => constant (true :: choices)
    | some false => no.place row fun choices => constant (false :: choices)
    | none => .none
  | _ => .none

/-- What an expression comes to over a row, with its place. -/
def hold (row : HeldRow) (constant : List Bool → Place) (e : Expr) : Except Fault Held := do
  let value ← e.evaluate? row.entries
  return ⟨value, e.place row constant⟩

end Expr

end GridRules
