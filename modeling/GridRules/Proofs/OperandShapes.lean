import GridRules.Proofs.NodeShape
import GridRules.Proofs.Operands

namespace GridRules

/-- The keys under which a node has its operands, on their own or in a list. -/
def Operator.operandKeys : Operator → List String
  | .const | .field => []
  | .variadic _ | .binary _ => ["args", "left", "right"]
  | .connective _ => ["args"]
  | .not => ["arg"]
  | .cond => ["cond", "then", "else"]
  | .regex => ["value"]

theorem Operator.op_ne_of_mem_operandKeys {op : Operator} {key : String}
    (hk : key ∈ op.operandKeys) : "op" ≠ key := by
  rintro rfl
  cases op <;> simp [Operator.operandKeys] at hk

/-- What `f` tells of an expression only depends on its operator and on what `f` tells of its
operands. -/
structure Expr.Compositional {α : Type} (f : Expr → α) : Prop where
  variadic : ∀ op {args args' : List Expr}, args.map f = args'.map f →
    f (.variadic op args) = f (.variadic op args')
  binary : ∀ op {left left' right right' : Expr}, f left = f left' → f right = f right' →
    f (.binary op left right) = f (.binary op left' right')
  connective : ∀ op {args args' : List Expr}, args.map f = args'.map f →
    f (.connective op args) = f (.connective op args')
  not : ∀ {arg arg' : Expr}, f arg = f arg' → f (.not arg) = f (.not arg')
  cond : ∀ {test test' yes yes' no no' : Expr}, f test = f test' → f yes = f yes' →
    f no = f no' → f (.cond test yes no) = f (.cond test' yes' no')
  regex : ∀ {subject subject' : Expr} pattern flags, f subject = f subject' →
    f (.regex subject pattern flags) = f (.regex subject' pattern flags)

section Shapes

variable {α : Type} (f : Expr → α)

/-- What a value is as an operand: whether it counts as missing, and what `f` tells of it. -/
def operandShape (v : Value) : Bool × α :=
  (v.isNull, f (Expr.ofValue v))

/-- The operands that a value has for its items, if it is a list. -/
def itemShapes (v : Value) : Option (List (Bool × α)) :=
  v.list?.map (·.map (operandShape f))

/-- Two values are the same operands in the eyes of `f`, and so are their items. -/
structure SameShape (v w : Value) : Prop where
  shape : operandShape f v = operandShape f w
  items : itemShapes f v = itemShapes f w

/-- The operands of a binary node, from what stands under its keys. -/
def Node.pairOfShapes (left right : Bool × α) (items : Option (List (Bool × α))) :
    Option (α × α) :=
  if !left.1 && !right.1 then some (left.2, right.2)
  else
    match items with
    | some (a :: b :: _) => if !a.1 && !b.1 then some (a.2, b.2) else none
    | _ => none

end Shapes

namespace SameShape

variable {α : Type} {f : Expr → α} {v w : Value}

theorem refl (v : Value) : SameShape f v v :=
  ⟨rfl, rfl⟩

theorem expr_eq (h : SameShape f v w) : f (Expr.ofValue v) = f (Expr.ofValue w) :=
  (Prod.mk.inj h.shape).2

theorem item {front back : List Value} (h : SameShape f v w) :
    SameShape f (.list (front ++ v :: back)) (.list (front ++ w :: back)) := by
  refine ⟨?_, ?_⟩
  · simp [operandShape, Expr.ofValue, Value.isNull]
  · simp [itemShapes, Value.list?, h.shape]

end SameShape

namespace Node

section Shapes

variable {α : Type} (f : Expr → α) (node : Entries)

theorem operandPair?_shapes :
    (operandPair? node).map (Prod.map (f ∘ Expr.ofValue) (f ∘ Expr.ofValue)) =
      pairOfShapes (operandShape f (node.getD "left")) (operandShape f (node.getD "right"))
        (itemShapes f (node.getD "args")) := by
  by_cases h : (!(node.getD "left").isNull && !(node.getD "right").isNull) = true
  · simp only [operandPair?, if_pos h]
    exact (if_pos h).symm
  · simp only [operandPair?, if_neg h]
    refine Eq.trans ?_ (if_neg h).symm
    unfold itemShapes
    cases node.getD "args" with
    | list items =>
      rcases items with _ | ⟨a, _ | ⟨b, rest⟩⟩
      · rfl
      · rfl
      · by_cases hab : (!a.isNull && !b.isNull) = true
        · simp only [if_pos hab]
          exact (if_pos hab).symm
        · simp only [if_neg hab]
          exact (if_neg hab).symm
    | _ => rfl

/-- The operands of a sum or product come from the list under `args`, else from the pair. -/
theorem operandList_shapes :
    (operandList node).map (f ∘ Expr.ofValue) =
      match itemShapes f (node.getD "args") with
      | some shapes => shapes.map (·.2)
      | none =>
        ((operandPair? node).map (Prod.map (f ∘ Expr.ofValue) (f ∘ Expr.ofValue))).elim []
          fun pair => [pair.1, pair.2] := by
  unfold operandList itemShapes
  cases node.getD "args" with
  | list args => simp [Value.list?, operandShape, Function.comp_def]
  | _ => cases operandPair? node <;> simp [Value.list?]

end Shapes

/-- Two nodes have the same operands in the eyes of `f`, and the same other entries. -/
structure SameOperands {α : Type} (f : Expr → α) (op : Operator) (node other : Entries) :
    Prop where
  operands : ∀ key ∈ op.operandKeys, SameShape f (node.getD key) (other.getD key)
  others : ∀ key ∉ op.operandKeys, node.getD key = other.getD key

namespace SameOperands

variable {α : Type} {f : Expr → α} {op : Operator} {node other : Entries}

theorem operandPair?_eq (h : SameOperands f op node other)
    (hk : op.operandKeys = ["args", "left", "right"]) :
    (operandPair? node).map (Prod.map (f ∘ Expr.ofValue) (f ∘ Expr.ofValue)) =
      (operandPair? other).map (Prod.map (f ∘ Expr.ofValue) (f ∘ Expr.ofValue)) := by
  rw [operandPair?_shapes, operandPair?_shapes, (h.operands "left" (by simp [hk])).shape,
    (h.operands "right" (by simp [hk])).shape, (h.operands "args" (by simp [hk])).items]

theorem operandList_eq (h : SameOperands f op node other)
    (hk : op.operandKeys = ["args", "left", "right"]) :
    (operandList node).map (f ∘ Expr.ofValue) = (operandList other).map (f ∘ Expr.ofValue) := by
  rw [operandList_shapes, operandList_shapes, (h.operands "args" (by simp [hk])).items,
    h.operandPair?_eq hk]

theorem list?_eq (h : SameOperands f op node other) (hk : "args" ∈ op.operandKeys) :
    ((node.getD "args").list?.getD []).map (f ∘ Expr.ofValue) =
      ((other.getD "args").list?.getD []).map (f ∘ Expr.ofValue) := by
  have hlist : ∀ v : Value, (v.list?.getD []).map (f ∘ Expr.ofValue) =
      ((itemShapes f v).getD []).map (·.2) := by
    intro v
    cases hv : v.list? <;> simp [itemShapes, hv, operandShape, Function.comp_def]
  rw [hlist, hlist, (h.operands "args" hk).items]

theorem ofNode_eq (hf : Expr.Compositional f) (h : SameOperands f op node other) :
    f (Expr.ofNode op node) = f (Expr.ofNode op other) := by
  have hkey : ∀ key ∈ op.operandKeys, f (Expr.ofValue (node.getD key)) =
      f (Expr.ofValue (other.getD key)) :=
    fun key hk => (h.operands key hk).expr_eq
  cases op with
  | const => rw [Expr.ofNode, Expr.ofNode, h.others "value" (by simp [Operator.operandKeys])]
  | field => rw [Expr.ofNode, Expr.ofNode, h.others "fieldId" (by simp [Operator.operandKeys])]
  | variadic op =>
    refine hf.variadic op ?_
    rw [List.map_map, List.map_map, h.operandList_eq rfl]
  | binary op =>
    have hp := h.operandPair?_eq rfl
    simp only [Expr.ofNode]
    generalize operandPair? node = pair at hp ⊢
    generalize operandPair? other = pair' at hp ⊢
    rcases pair with _ | ⟨a, b⟩ <;> rcases pair' with _ | ⟨c, d⟩
    · rfl
    · simp at hp
    · simp at hp
    · obtain ⟨hleft, hright⟩ : f (Expr.ofValue a) = f (Expr.ofValue c) ∧
          f (Expr.ofValue b) = f (Expr.ofValue d) := by simpa using hp
      exact hf.binary op hleft hright
  | connective op =>
    refine hf.connective op ?_
    rw [List.map_map, List.map_map, h.list?_eq (by simp [Operator.operandKeys])]
  | not => exact hf.not (hkey "arg" (by simp [Operator.operandKeys]))
  | cond =>
    exact hf.cond (hkey "cond" (by simp [Operator.operandKeys]))
      (hkey "then" (by simp [Operator.operandKeys])) (hkey "else" (by simp [Operator.operandKeys]))
  | regex =>
    rw [Expr.ofNode, Expr.ofNode, h.others "pattern" (by simp [Operator.operandKeys]),
      h.others "flags" (by simp [Operator.operandKeys])]
    exact hf.regex _ _ (hkey "value" (by simp [Operator.operandKeys]))

end SameOperands

end Node

/-- An operand may be replaced by one that is the same in the eyes of `f`. -/
theorem SameShape.put_operand {α : Type} {f : Expr → α} (hf : Expr.Compositional f)
    {node : Entries} {op : Operator} {key : String} {child : Value}
    (ho : Node.operator? node = some op) (hk : key ∈ op.operandKeys)
    (h : SameShape f (node.getD key) child) :
    SameShape f (.object node) (.object (node.put key child)) := by
  have ho' : Node.operator? (node.put key child) = some op := by
    rw [← ho, Node.operator?, Node.operator?, Node.opText?, Node.opText?, getD_put,
      if_neg (Operator.op_ne_of_mem_operandKeys hk)]
  have same : Node.SameOperands f op node (node.put key child) := by
    constructor
    · intro other _
      rw [getD_put]
      split
      next he => exact he ▸ h
      next => exact .refl _
    · intro other hother
      have hne : other ≠ key := fun he => hother (he ▸ hk)
      rw [getD_put, if_neg hne]
  have hexpr : f (Expr.ofValue (.object node)) =
      f (Expr.ofValue (.object (node.put key child))) := by
    rw [Expr.ofValue_of_operator ho, Expr.ofValue_of_operator ho']
    exact same.ofNode_eq hf
  exact ⟨congrArg (Prod.mk false) hexpr, rfl⟩

end GridRules
