import GridRules.Expr.Basic
import GridRules.Expr.Normalize
import Mathlib.Data.List.Basic

namespace GridRules

theorem getD_put (node : Entries) (key other : String) (v : Value) :
    Entries.getD (node.put key v) other = if other = key then v else node.getD other := by
  unfold Entries.getD
  rw [Assoc.get?_put]
  split
  next => rfl
  next => rfl

theorem getD_cons (k : String) (v : Value) (rest : Entries) (key : String) :
    Entries.getD ((k, v) :: rest) key = if key = k then v else rest.getD key := by
  unfold Entries.getD
  rw [Assoc.get?_cons]
  split
  next => rfl
  next => rfl

theorem sizeOf_getD_lt (node : Entries) (key : String) :
    sizeOf (node.getD key) < sizeOf (Value.object node) := by
  induction node with
  | nil => simp [Entries.getD]
  | cons entry rest ih =>
    obtain ⟨k, v⟩ := entry
    rw [getD_cons]
    simp only [Value.object.sizeOf_spec, List.cons.sizeOf_spec, Prod.mk.sizeOf_spec] at ih ⊢
    split
    next => omega
    next => omega

theorem Value.eq_list_of_list? {v : Value} {items : List Value} (h : v.list? = some items) :
    v = .list items := by
  cases v <;> simp_all [Value.list?]

theorem Value.eq_str_of_string? {v : Value} {text : String} (h : v.string? = some text) :
    v = .str text := by
  cases v <;> simp_all [Value.string?]

namespace Operator

theorem name_of_ofName?_variadic {text : String} {op : Variadic}
    (h : ofName? text = some (.variadic op)) : text = (Operator.variadic op).name := by
  unfold ofName? at h
  split at h <;> simp at h <;> subst h <;> rfl

end Operator

namespace Node

theorem not_null_of_operandPair {node : Entries} {a b : Value}
    (h : operandPair? node = some (a, b)) : a.isNull = false ∧ b.isNull = false := by
  unfold operandPair? at h
  grind

theorem operandPair?_put_op (node : Entries) (v : Value) :
    operandPair? (node.put "op" v) = operandPair? node := by
  simp [operandPair?, getD_put]

theorem operator?_eq_some_iff {node : Entries} {op : Operator} :
    operator? node = some op ↔
      ∃ text, opText? node = some text ∧ Operator.ofName? text = some op :=
  Option.bind_eq_some_iff

end Node

namespace Expr

/-- The expression of a node with a known operator, in terms of its operands. -/
def ofNode (op : Operator) (node : Entries) : Expr :=
  match op with
  | .const => .const (node.getD "value")
  | .field => .field (node.getD "fieldId").string?
  | .variadic op => .variadic op ((Node.operandList node).map ofValue)
  | .binary op =>
    match Node.operandPair? node with
    | some (left, right) => .binary op (ofValue left) (ofValue right)
    | none => .unpaired op
  | .connective op => .connective op (((node.getD "args").list?.getD []).map ofValue)
  | .not => .not (ofValue (node.getD "arg"))
  | .cond =>
    .cond (ofValue (node.getD "cond")) (ofValue (node.getD "then")) (ofValue (node.getD "else"))
  | .regex =>
    .regex (ofValue (node.getD "value")) (node.getD "pattern").string? (node.getD "flags")

theorem ofValue_of_no_text {node : Entries} (h : Node.opText? node = none) :
    ofValue (.object node) = .invalid := by
  rw [ofValue, h]

theorem ofValue_of_unknown {node : Entries} {text : String} (h : Node.opText? node = some text)
    (hu : Operator.ofName? text = none) : ofValue (.object node) = .unknown := by
  simp only [ofValue, h, hu]

theorem ofValue_of_operator {node : Entries} {op : Operator} (h : Node.operator? node = some op) :
    ofValue (.object node) = ofNode op node := by
  obtain ⟨text, ht, ho⟩ := Node.operator?_eq_some_iff.mp h
  simp only [ofValue, ht, ho]
  cases op with
  | const => rfl
  | field => rfl
  | variadic op =>
    simp only [ofNode, ofListAt_eq, ofItems_eq, ofKey_eq, Node.operandList, Node.operandPair?]
    cases node.getD "args" <;> simp [Value.list?] <;> grind
  | binary op =>
    simp only [ofNode, ofListAt_eq, ofItems_eq, ofKey_eq, Node.operandPair?]
    grind [Value.list?]
  | connective op =>
    simp only [ofNode, ofListAt_eq, ofItems_eq]
    cases node.getD "args" <;> simp [Value.list?]
  | not => simp only [ofNode, ofKey_eq]
  | cond => simp only [ofNode, ofKey_eq]
  | regex => simp only [ofNode, ofKey_eq]

end Expr

end GridRules
