import GridRules.Expr.Operator
/-!
The shape of an expression as it is written: an object with an operator under `op` and operands
under keys that depend on the operator. Operands of a binary operator stand under `left` and
`right` or as the first two of `args`; null stands for a missing operand.
-/

namespace GridRules

namespace Node

/-- The text under `op`. -/
def opText? (node : Entries) : Option String :=
  (node.getD "op").string?

def operator? (node : Entries) : Option Operator :=
  (opText? node).bind Operator.ofName?

/-- The two operands of a binary operator, if both are there. -/
def operandPair? (node : Entries) : Option (Value × Value) :=
  let left := node.getD "left"
  let right := node.getD "right"
  if !left.isNull && !right.isNull then some (left, right)
  else
    match node.getD "args" with
    | .list (a :: b :: _) => if !a.isNull && !b.isNull then some (a, b) else none
    | _ => none

/-- The operands of a sum or product: the list under `args`, else a pair of operands. -/
def operandList (node : Entries) : List Value :=
  match node.getD "args" with
  | .list args => args
  | _ =>
    match operandPair? node with
    | some (a, b) => [a, b]
    | none => []

/-- The operands that are expressions themselves, in the order they are written. -/
def children (node : Entries) : List Value :=
  match operator? node with
  | some .not => [node.getD "arg"]
  | some .cond => [node.getD "cond", node.getD "then", node.getD "else"]
  | some .regex => [node.getD "value"]
  | some (.variadic _) => operandList node
  | some (.connective _) =>
    match node.getD "args" with
    | .list args => args
    | _ => []
  | some (.binary _) =>
    match operandPair? node with
    | some (a, b) => [a, b]
    | none => []
  | _ => []

end Node

/-- Whether a value has the shape of an expression, with an operator known or unknown. -/
def Value.isNode : Value → Bool
  | .object entries => (Node.opText? entries).isSome
  | _ => false

end GridRules
