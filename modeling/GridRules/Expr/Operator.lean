import GridRules.Value.Basic
/-!
The operators of expressions. Each has a name, and comparisons can also be written as symbols.
-/

namespace GridRules

/-- Operators on any number of numbers. -/
inductive Variadic where
  | add
  | mul
  deriving DecidableEq

/-- Operators on two values. -/
inductive Binary where
  | sub
  | div
  | eq
  | neq
  | gt
  | gte
  | lt
  | lte
  deriving DecidableEq

/-- Operators on any number of truth values. -/
inductive Connective where
  | and
  | or
  deriving DecidableEq

inductive Operator where
  | const
  | field
  | variadic (op : Variadic)
  | binary (op : Binary)
  | connective (op : Connective)
  | not
  | cond
  | regex
  deriving DecidableEq

namespace Operator

def name : Operator → String
  | .const => "const"
  | .field => "field"
  | .variadic .add => "add"
  | .variadic .mul => "mul"
  | .binary .sub => "sub"
  | .binary .div => "div"
  | .binary .eq => "eq"
  | .binary .neq => "neq"
  | .binary .gt => "gt"
  | .binary .gte => "gte"
  | .binary .lt => "lt"
  | .binary .lte => "lte"
  | .connective .and => "and"
  | .connective .or => "or"
  | .not => "not"
  | .cond => "if"
  | .regex => "regex"

/-- The operator that a name or a symbol stands for. -/
def ofName? (name : String) : Option Operator :=
  match name with
  | "const" => some .const
  | "field" => some .field
  | "add" => some (.variadic .add)
  | "mul" => some (.variadic .mul)
  | "sub" => some (.binary .sub)
  | "div" => some (.binary .div)
  | "eq" | "=" | "==" | "===" => some (.binary .eq)
  | "neq" | "!=" | "!==" => some (.binary .neq)
  | "gt" | ">" => some (.binary .gt)
  | "gte" | ">=" => some (.binary .gte)
  | "lt" | "<" => some (.binary .lt)
  | "lte" | "<=" => some (.binary .lte)
  | "and" => some (.connective .and)
  | "or" => some (.connective .or)
  | "not" => some .not
  | "if" => some .cond
  | "regex" => some .regex
  | _ => none

@[simp] theorem ofName?_name (op : Operator) : ofName? op.name = some op := by
  cases op with
  | variadic op => cases op <;> rfl
  | binary op => cases op <;> rfl
  | connective op => cases op <;> rfl
  | _ => rfl

/-- The name of the operator that a name or symbol stands for; anything else stays as it is. -/
def canonicalName (name : String) : String :=
  match ofName? name with
  | some op => op.name
  | none => name

end Operator

end GridRules
