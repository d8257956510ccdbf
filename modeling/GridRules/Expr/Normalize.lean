import GridRules.Expr.Node
/-!
The canonical form of a node: operators under their names, sums and products as one flat list
under `args`, binary operators with operands under `left` and `right`. A node whose operator is
unknown, and a value that is no node, stay as they are.
-/

namespace GridRules

namespace Node

def variadicNode (op : Variadic) (args : List Value) : Value :=
  .object [("op", .str (Operator.variadic op).name), ("args", .list args)]

def binaryNode (op : Binary) (left right : Value) : Value :=
  .object [("op", .str (Operator.binary op).name), ("left", left), ("right", right)]

def withOperator (op : Operator) (node : Entries) : Value :=
  .object (node.put "op" (.str op.name))

/-- The operands of a node of the same operator, which may take its place among the operands. A
node without operands stays, for it is no number. -/
def splice (op : Variadic) (child : Value) : List Value :=
  match child with
  | .object node =>
    if opText? node = some (Operator.variadic op).name then
      match Entries.getD node "args" with
      | .list (a :: rest) => a :: rest
      | _ => [child]
    else [child]
  | _ => [child]

def variadicOf (op : Variadic) (children : List Value) : Value :=
  variadicNode op (children.flatMap (splice op))

end Node

open Node in
mutual

/-- The canonical form of a node. -/
def normalize : Value → Value
  | .object node =>
    match operator? node with
    | none => .object node
    | some .const => withOperator .const node
    | some .field => withOperator .field node
    | some (.variadic op) =>
      match normalizeListAt "args" node with
      | some args => variadicOf op args
      | none =>
        if (Entries.getD node "left").isNull || (Entries.getD node "right").isNull then
          variadicOf op []
        else variadicOf op [normalizeKey "left" node, normalizeKey "right" node]
    | some (.binary op) =>
      if (Entries.getD node "left").isNull || (Entries.getD node "right").isNull then
        match operandPair? node, normalizeListAt "args" node with
        | some _, some (a :: b :: _) => binaryNode op a b
        | _, _ => withOperator (.binary op) node
      else binaryNode op (normalizeKey "left" node) (normalizeKey "right" node)
    | some (.connective op) =>
      withOperator (.connective op) (normalizeListsAt "args" node)
    | some .not => withOperator .not (normalizeAt ["arg"] node)
    | some .cond => withOperator .cond (normalizeAt ["cond", "then", "else"] node)
    | some .regex => withOperator .regex (normalizeAt ["value"] node)
  | v => v

/-- The canonical form of the value under a key. -/
def normalizeKey (key : String) : List (String × Value) → Value
  | [] => .null
  | (k, v) :: rest => if key = k then normalize v else normalizeKey key rest

/-- The canonical forms of the items of the list under a key. -/
def normalizeListAt (key : String) : List (String × Value) → Option (List Value)
  | [] => none
  | (k, v) :: rest => if key = k then normalizeItems v else normalizeListAt key rest

def normalizeItems : Value → Option (List Value)
  | .list items => some (normalizeAll items)
  | _ => none

def normalizeAll : List Value → List Value
  | [] => []
  | v :: rest => normalize v :: normalizeAll rest

/-- Brings the values under some keys into canonical form. -/
def normalizeAt (keys : List String) : List (String × Value) → List (String × Value)
  | [] => []
  | (k, v) :: rest => (k, if keys.contains k then normalize v else v) :: normalizeAt keys rest

/-- Brings the items of the list under a key into canonical form. -/
def normalizeListsAt (key : String) : List (String × Value) → List (String × Value)
  | [] => []
  | (k, v) :: rest =>
    (k, if key = k then (match normalizeItems v with
      | some items => .list items
      | none => v) else v) :: normalizeListsAt key rest

end

end GridRules
