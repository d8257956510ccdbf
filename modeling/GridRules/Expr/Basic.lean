import GridRules.Expr.Node
/-!
Expressions. Any value can be read as an expression: what is no node, or has an unknown operator,
or lacks operands, is an expression too, one with little meaning.
-/

namespace GridRules

inductive Expr where
  /-- A value that is no node. -/
  | invalid
  /-- A node with an operator that does not exist. -/
  | unknown
  | const (value : Value)
  /-- A field; the reference is missing if it is no text. -/
  | field (ref : Option String)
  | variadic (op : Variadic) (args : List Expr)
  | binary (op : Binary) (left right : Expr)
  /-- A binary operator without a pair of operands. -/
  | unpaired (op : Binary)
  | connective (op : Connective) (args : List Expr)
  | not (arg : Expr)
  | cond (test yes no : Expr)
  | regex (subject : Expr) (pattern : Option String) (flags : Value)

namespace Expr

def isNode : Expr → Bool
  | .invalid => false
  | _ => true

mutual

/-- Reads a value as an expression. -/
def ofValue : Value → Expr
  | .object node =>
    match Node.opText? node with
    | none => .invalid
    | some text =>
      match Operator.ofName? text with
      | none => .unknown
      | some .const => .const (Entries.getD node "value")
      | some .field => .field (Entries.getD node "fieldId").string?
      | some (.variadic op) =>
        match ofListAt "args" node with
        | some args => .variadic op args
        | none =>
          if (Entries.getD node "left").isNull || (Entries.getD node "right").isNull then
            .variadic op []
          else .variadic op [ofKey "left" node, ofKey "right" node]
      | some (.binary op) =>
        if (Entries.getD node "left").isNull || (Entries.getD node "right").isNull then
          match Node.operandPair? node, ofListAt "args" node with
          | some _, some (a :: b :: _) => .binary op a b
          | _, _ => .unpaired op
        else .binary op (ofKey "left" node) (ofKey "right" node)
      | some (.connective op) => .connective op ((ofListAt "args" node).getD [])
      | some .not => .not (ofKey "arg" node)
      | some .cond => .cond (ofKey "cond" node) (ofKey "then" node) (ofKey "else" node)
      | some .regex =>
        .regex (ofKey "value" node) (Entries.getD node "pattern").string?
          (Entries.getD node "flags")
  | _ => .invalid

/-- Reads the value under a key. -/
def ofKey (key : String) : List (String × Value) → Expr
  | [] => .invalid
  | (k, v) :: rest => if key = k then ofValue v else ofKey key rest

/-- Reads the list under a key. -/
def ofListAt (key : String) : List (String × Value) → Option (List Expr)
  | [] => none
  | (k, v) :: rest => if key = k then ofItems v else ofListAt key rest

/-- Reads the items of a list. -/
def ofItems : Value → Option (List Expr)
  | .list items => some (ofValues items)
  | _ => none

def ofValues : List Value → List Expr
  | [] => []
  | v :: rest => ofValue v :: ofValues rest

end

theorem ofValues_eq_map (values : List Value) : ofValues values = values.map ofValue := by
  induction values with
  | nil => rfl
  | cons v rest ih => simp [ofValues, ih]

theorem ofKey_eq (key : String) (node : Entries) : ofKey key node = ofValue (node.getD key) := by
  induction node with
  | nil => rfl
  | cons entry rest ih =>
    obtain ⟨k, v⟩ := entry
    by_cases h : key = k
    · simp [ofKey, h, Entries.getD, Assoc.get?_cons]
    · simp only [ofKey, if_neg h, ih, Entries.getD, Assoc.get?_cons]

theorem ofItems_eq (v : Value) : ofItems v = v.list?.map (·.map ofValue) := by
  cases v <;> simp [ofItems, Value.list?, ofValues_eq_map]

theorem ofListAt_eq (key : String) (node : Entries) :
    ofListAt key node = ofItems (node.getD key) := by
  induction node with
  | nil => rfl
  | cons entry rest ih =>
    obtain ⟨k, v⟩ := entry
    by_cases h : key = k
    · simp [ofListAt, h, Entries.getD, Assoc.get?_cons]
    · rw [ofListAt, if_neg h, ih]
      simp [Entries.getD, Assoc.get?_cons, h]

end Expr

end GridRules
