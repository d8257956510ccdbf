import GridRules.Proofs.CanonicalForm
import GridRules.Proofs.ExpressionReads

namespace GridRules

namespace Expr

/-- The operands of an expression are read from the operands of the value it is read from. -/
theorem operands_ofValue (v : Value) : (ofValue v).operands = v.operands.map ofValue := by
  cases v with
  | object node =>
    cases ho : Node.operator? node with
    | some op =>
      rw [ofValue_of_operator ho]
      simp only [Value.operands, Node.children, ho]
      cases op with
      | binary op => cases hp : Node.operandPair? node <;> simp [ofNode, operands, hp]
      | connective op => cases ha : Entries.getD node "args" <;> simp [ofNode, operands, ha, Value.list?]
      | _ => simp [ofNode, operands]
    | none =>
      have hchildren : Node.children node = [] := by simp [Node.children, ho]
      rw [Value.operands, hchildren]
      cases ht : Node.opText? node with
      | none => simp [ofValue_of_no_text ht, operands]
      | some text =>
        have hu : Operator.ofName? text = none := by simpa [Node.operator?, ht] using ho
        simp [ofValue_of_unknown ht hu, operands]
  | _ => simp [ofValue, operands, Value.operands]

theorem exists_reaches_of_within {inner : Expr} {v : Value} (h : Within inner (ofValue v)) :
    ∃ w, v.Reaches w ∧ ofValue w = inner := by
  generalize he : ofValue v = e at h
  induction h generalizing v with
  | self => exact ⟨v, .refl, he⟩
  | operand ha _ ih =>
    rw [← he, operands_ofValue] at ha
    obtain ⟨c, hc, rfl⟩ := List.mem_map.mp ha
    obtain ⟨w, hw, hi⟩ := ih rfl
    exact ⟨w, .head hc hw, hi⟩

theorem within_of_reaches {v w : Value} (h : v.Reaches w) : Within (ofValue w) (ofValue v) := by
  induction h using Relation.ReflTransGen.head_induction_on with
  | refl => exact .self _
  | head hc _ ih =>
    refine .operand ?_ ih
    rw [operands_ofValue]
    exact List.mem_map_of_mem hc

/-- Only a field node is read as a field. -/
theorem node_of_field {v : Value} {ref : String} (h : ofValue v = .field (some ref)) :
    ∃ node : Entries, v = .object node ∧ Node.operator? node = some .field ∧
      node.getD "fieldId" = .str ref := by
  cases v with
  | object node =>
    refine ⟨node, rfl, ?_⟩
    cases ho : Node.operator? node with
    | some op =>
      rw [ofValue_of_operator ho] at h
      cases op with
      | field => exact ⟨rfl, Value.eq_str_of_string? (by simpa [ofNode] using h)⟩
      | binary op => cases hp : Node.operandPair? node <;> simp [ofNode, hp] at h
      | _ => simp [ofNode] at h
    | none =>
      cases ht : Node.opText? node with
      | none => simp [ofValue_of_no_text ht] at h
      | some text =>
        have hu : Operator.ofName? text = none := by simpa [Node.operator?, ht] using ho
        simp [ofValue_of_unknown ht hu] at h
  | _ => simp [ofValue] at h

end Expr

/-- The value, or one of its operands, or one of theirs and so on, is a field node with this
reference. -/
def Value.RefersTo (v : Value) (ref : String) : Prop :=
  ∃ node : Entries, v.Reaches (.object node) ∧ Node.operator? node = some .field ∧
    node.getD "fieldId" = .str ref

theorem Value.refersTo_iff {v : Value} {ref : String} :
    v.RefersTo ref ↔ Expr.Within (.field (some ref)) (Expr.ofValue v) := by
  constructor
  · rintro ⟨node, hr, ho, hid⟩
    have hf : Expr.ofValue (.object node) = .field (some ref) := by
      rw [Expr.ofValue_of_operator ho, Expr.ofNode, hid]
      rfl
    exact hf ▸ Expr.within_of_reaches hr
  · intro hw
    obtain ⟨w, hr, hf⟩ := Expr.exists_reaches_of_within hw
    obtain ⟨node, rfl, ho, hid⟩ := Expr.node_of_field hf
    exact ⟨node, hr, ho, hid⟩

/-- The references of a value are those of the field nodes in it, unless they are empty. -/
theorem mem_fieldRefs_iff {v : Value} {ref : String} :
    ref ∈ fieldRefs v ↔ ref ≠ "" ∧ v.RefersTo ref := by
  rw [fieldRefs, Expr.mem_refs_iff, Value.refersTo_iff]

/-- The value of a node, or the fault that it breaks off with, depends on no field of a row but
those that the node refers to. -/
theorem evaluate_eq_of_fieldRefs {node : Value} {row other : Entries}
    (named : ¬ node.RefersTo "") (same : ∀ ref ∈ fieldRefs node, row.get? ref = other.get? ref) :
    evaluate? node row = evaluate? node other := by
  have found : ∀ ref, Expr.Within (.field (some ref)) (Expr.ofValue node) →
      row.getD ref = other.getD ref := by
    intro ref hw
    have hr := Value.refersTo_iff.mpr hw
    have hne : ref ≠ "" := fun he => named (he ▸ hr)
    rw [Entries.getD, Entries.getD, same ref (mem_fieldRefs_iff.mpr ⟨hne, hr⟩)]
  have h := Expr.field_induction (fun _ below own => Expr.attempt_eq_of_operands below own)
    (Expr.ofValue node) found
  exact congrArg Expr.contain h

/-- The condition `a + b == 3 && if c then 1`, where the sum has its operands under `left` and
`right` and the choice lacks its last branch. -/
def halfWritten : Value :=
  let const (n : Int) : Value := .object [("op", .str "const"), ("value", .int n)]
  let field (id : String) : Value := .object [("op", .str "field"), ("fieldId", .str id)]
  let sum : Value := .object [("op", .str "add"), ("left", field "a"), ("right", field "b")]
  let equal : Value := .object [("op", .str "=="), ("args", .list [sum, const 3])]
  let choice : Value := .object [("op", .str "if"), ("cond", field "c"), ("then", const 1)]
  .object [("op", .str "and"), ("args", .list [equal, choice])]

theorem evaluate_eq_of_fieldRefs_halfWritten :
    let row : Entries := [("a", .int 1), ("b", .int 2), ("d", .int 4)]
    let other : Entries := [("b", .int 2), ("", .str "x"), ("a", .int 1)]
    ¬ halfWritten.RefersTo "" ∧ (∀ ref ∈ fieldRefs halfWritten, row.get? ref = other.get? ref) ∧
      evaluate? halfWritten row = evaluate? halfWritten other := by
  intro row other
  have hread : Expr.ofValue halfWritten = .connective .and
      [.binary .eq (.variadic .add [.field (some "a"), .field (some "b")]) (.const (.int 3)),
        .cond (.field (some "c")) (.const (.int 1)) .invalid] := by
    rfl
  have named : ¬ halfWritten.RefersTo "" := by
    rw [Value.refersTo_iff, hread]
    grind [Expr.Within, Expr.operands]
  have same : ∀ ref ∈ fieldRefs halfWritten, row.get? ref = other.get? ref := by
    rw [fieldRefs, hread]
    decide
  exact ⟨named, same, evaluate_eq_of_fieldRefs named same⟩

end GridRules
