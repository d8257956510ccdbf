import GridRules.Proofs.NodeNormalization
import GridRules.Proofs.Operands

namespace GridRules

namespace Expr

/-- The operands of a sum in a sum, or of a product in a product, take its place. -/
def splice (op : Variadic) : Expr → List Expr
  | .variadic other (arg :: rest) =>
    if other = op then arg :: rest else [.variadic other (arg :: rest)]
  | e => [e]

mutual

/-- The canonical form of an expression: no sum has a sum with operands among its operands, and no
product a product. -/
def canonical : Expr → Expr
  | .variadic op args => .variadic op ((canonicalAll args).flatMap (splice op))
  | .binary op left right => .binary op left.canonical right.canonical
  | .connective op args => .connective op (canonicalAll args)
  | .not arg => .not arg.canonical
  | .cond test yes no => .cond test.canonical yes.canonical no.canonical
  | .regex subject pattern flags => .regex subject.canonical pattern flags
  | e => e

def canonicalAll : List Expr → List Expr
  | [] => []
  | e :: rest => e.canonical :: canonicalAll rest

end

theorem canonicalAll_eq_map (es : List Expr) : canonicalAll es = es.map canonical := by
  induction es with
  | nil => rfl
  | cons e rest ih => rw [canonicalAll, ih, List.map_cons]

theorem canonical_variadic (op : Variadic) (args : List Expr) :
    (variadic op args).canonical = .variadic op ((args.map canonical).flatMap (splice op)) := by
  rw [canonical, canonicalAll_eq_map]

theorem splice_ne_nil (op : Variadic) (e : Expr) : splice op e ≠ [] := by
  unfold splice
  split
  next => split <;> simp
  next => simp

theorem splice_cases (op : Variadic) (e : Expr) :
    splice op e = [e] ∨ ∃ args, e = .variadic op args ∧ splice op e = args := by
  unfold splice
  split
  next other arg rest =>
    split
    next h => exact Or.inr ⟨arg :: rest, by rw [h], rfl⟩
    next => exact Or.inl rfl
  next => exact Or.inl rfl

theorem splice_of_not_variadic {op : Variadic} {e : Expr} (h : ∀ args, e ≠ .variadic op args) :
    splice op e = [e] := by
  rcases splice_cases op e with hs | ⟨args, he, _⟩
  · exact hs
  · exact absurd he (h args)

theorem operator?_of_ofValue_variadic {v : Value} {op : Variadic} {args : List Expr}
    (h : ofValue v = .variadic op args) :
    ∃ node, v = .object node ∧ Node.operator? node = some (.variadic op) := by
  cases v with
  | object node =>
    refine ⟨node, rfl, ?_⟩
    cases ht : Node.opText? node with
    | none => simp [ofValue_of_no_text ht] at h
    | some text =>
      cases ho : Operator.ofName? text with
      | none => simp [ofValue_of_unknown ht ho] at h
      | some other =>
        have hop := Node.operator?_eq_some_iff.mpr ⟨text, ht, ho⟩
        rw [ofValue_of_operator hop] at h
        cases other with
        | variadic other =>
          rw [hop, (Expr.variadic.inj h).1]
        | binary other =>
          cases hp : Node.operandPair? node <;> simp [ofNode, hp] at h
        | _ => simp [ofNode] at h
  | _ => simp [ofValue] at h

end Expr

namespace Node

theorem opText?_eq_name_iff {node : Entries} {op : Variadic} :
    opText? node = some (Operator.variadic op).name ↔ operator? node = some (.variadic op) := by
  constructor
  · intro h
    rw [operator?, h]
    exact Operator.ofName?_name _
  · intro h
    obtain ⟨text, ht, ho⟩ := operator?_eq_some_iff.mp h
    rw [ht, Operator.name_of_ofName?_variadic ho]

theorem splice_of_not_variadic {op : Variadic} {v : Value}
    (h : ∀ node, v = .object node → operator? node ≠ some (.variadic op)) : splice op v = [v] := by
  unfold splice
  split
  next node =>
    rw [if_neg]
    exact fun ht => h node rfl (opText?_eq_name_iff.mp ht)
  next => rfl

theorem getD_args_canonicalEntries (op : Variadic) (node : Entries) :
    Entries.getD (canonicalEntries (.variadic op) node) "args" =
      .list (((operandList node).map normalize).flatMap (splice op)) := by
  simp [canonicalEntries, getD_cons]

theorem ofValue_canonicalEntries (op : Variadic) (node : Entries) :
    Expr.ofValue (.object (canonicalEntries (.variadic op) node)) =
      .variadic op ((((operandList node).map normalize).flatMap (splice op)).map
        Expr.ofValue) := by
  rw [Expr.ofValue_of_operator (operator?_canonicalEntries (.variadic op) _), Expr.ofNode,
    operandList, getD_args_canonicalEntries]

theorem operator?_of_normalize {v : Value} {node : Entries} {op : Operator}
    (h : normalize v = .object node) (ho : operator? node = some op) :
    ∃ given, v = .object given ∧ operator? given = some op := by
  cases v with
  | object given =>
    refine ⟨given, rfl, ?_⟩
    cases hg : operator? given with
    | none =>
      rw [normalize_of_no_operator hg] at h
      have he : given = node := by simpa using h
      rw [he, ho] at hg
      simp at hg
    | some other =>
      rw [normalize_of_operator hg] at h
      have he : canonicalEntries other given = node := by simpa using h
      rw [← he, operator?_canonicalEntries] at ho
      exact ho
  | _ => simp [normalize] at h

/-- On canonical forms, splicing nodes is splicing the expressions they stand for. -/
theorem ofValue_splice_normalize (op : Variadic) (v : Value) :
    (splice op (normalize v)).map Expr.ofValue = Expr.splice op (Expr.ofValue (normalize v)) := by
  by_cases hv : ∃ node, v = .object node ∧ operator? node = some (.variadic op)
  · obtain ⟨node, rfl, ho⟩ := hv
    have ht := opText?_eq_name_iff.mpr (operator?_canonicalEntries (.variadic op) node)
    rw [normalize_of_operator ho, ofValue_canonicalEntries]
    simp only [splice, if_pos ht, getD_args_canonicalEntries]
    cases ha : ((operandList node).map normalize).flatMap (splice op) with
    | nil =>
      simp [Expr.splice, ofValue_canonicalEntries, ha]
    | cons a rest => simp [Expr.splice]
  · have hn : splice op (normalize v) = [normalize v] := by
      apply splice_of_not_variadic
      intro node he ho
      exact hv (operator?_of_normalize he ho)
    have hne : ∀ args, Expr.ofValue (normalize v) ≠ .variadic op args := by
      intro args he
      obtain ⟨node, hnode, ho⟩ := Expr.operator?_of_ofValue_variadic he
      exact hv (operator?_of_normalize hnode ho)
    rw [hn, Expr.splice_of_not_variadic hne, List.map_singleton]

end Node

namespace Expr

theorem sizeOf_lt_of_mem_list {node : Entries} {key : String} {items : List Value} {v : Value}
    (h : node.getD key = .list items) (hv : v ∈ items) : sizeOf v < sizeOf (Value.object node) := by
  have hk := sizeOf_getD_lt node key
  have hm := List.sizeOf_lt_of_mem hv
  rw [h, Value.list.sizeOf_spec] at hk
  omega

theorem sizeOf_lt_of_operandPair {node : Entries} {a b : Value}
    (h : Node.operandPair? node = some (a, b)) :
    sizeOf a < sizeOf (Value.object node) ∧ sizeOf b < sizeOf (Value.object node) := by
  unfold Node.operandPair? at h
  dsimp only at h
  split at h
  next =>
    obtain ⟨rfl, rfl⟩ := Prod.mk.inj (Option.some.inj h)
    exact ⟨sizeOf_getD_lt node "left", sizeOf_getD_lt node "right"⟩
  next =>
    split at h
    next x y rest hargs =>
      split at h
      next =>
        obtain ⟨rfl, rfl⟩ := Prod.mk.inj (Option.some.inj h)
        exact ⟨sizeOf_lt_of_mem_list hargs (by simp), sizeOf_lt_of_mem_list hargs (by simp)⟩
      next => simp at h
    next => simp at h

theorem sizeOf_lt_of_mem_operandList {node : Entries} {v : Value}
    (h : v ∈ Node.operandList node) : sizeOf v < sizeOf (Value.object node) := by
  unfold Node.operandList at h
  split at h
  next args hargs => exact sizeOf_lt_of_mem_list hargs h
  next =>
    split at h
    next a b hpair =>
      have hs := sizeOf_lt_of_operandPair hpair
      rcases List.mem_cons.mp h with rfl | h
      · exact hs.1
      · have he : v = b := by simpa using h
        exact he ▸ hs.2
    next => simp at h

theorem isNull_normalize (v : Value) : (normalize v).isNull = v.isNull := by
  cases v with
  | object node =>
    cases ho : Node.operator? node with
    | none => rw [Node.normalize_of_no_operator ho]
    | some op => rw [Node.normalize_of_operator ho]; rfl
  | _ => simp [normalize]

/-- The canonical form of a node is read as the canonical form of its expression if this holds of
everything in the node. -/
theorem ofNode_canonicalEntries {node : Entries} (op : Operator)
    (ih : ∀ v, sizeOf v < sizeOf (Value.object node) →
      ofValue (normalize v) = (ofValue v).canonical) :
    ofNode op (Node.canonicalEntries op node) = (ofNode op node).canonical := by
  have ihKey : ∀ key, ofValue (normalize (node.getD key)) = (ofValue (node.getD key)).canonical :=
    fun key => ih _ (sizeOf_getD_lt node key)
  cases op with
  | const => simp [ofNode, Node.canonicalEntries, getD_put, canonical]
  | field => simp [ofNode, Node.canonicalEntries, getD_put, canonical]
  | variadic op =>
    rw [← ofValue_of_operator (Node.operator?_canonicalEntries (.variadic op) _),
      Node.ofValue_canonicalEntries, ofNode, canonical_variadic]
    have hargs : ((Node.operandList node).map normalize).map ofValue =
        ((Node.operandList node).map ofValue).map canonical := by
      simp only [List.map_map]
      exact List.map_congr_left fun v hv => ih v (sizeOf_lt_of_mem_operandList hv)
    rw [← hargs, List.map_flatMap, List.flatMap_map, List.flatMap_map, List.flatMap_map]
    simp only [Node.ofValue_splice_normalize]
  | binary op =>
    cases hp : Node.operandPair? node with
    | none =>
      have hp' : Node.operandPair? (node.put "op" (.str (Operator.binary op).name)) = none := by
        rw [Node.operandPair?_put_op, hp]
      simp only [ofNode, Node.canonicalEntries, hp, hp', canonical]
    | some pair =>
      obtain ⟨a, b⟩ := pair
      have hs := sizeOf_lt_of_operandPair hp
      have hn := Node.not_null_of_operandPair hp
      have hp' : Node.operandPair? [("op", .str (Operator.binary op).name), ("left", normalize a),
          ("right", normalize b)] = some (normalize a, normalize b) := by
        simp [Node.operandPair?, getD_cons, isNull_normalize, hn.1, hn.2]
      simp only [ofNode, Node.canonicalEntries, hp, hp', canonical, ih a hs.1, ih b hs.2]
  | connective op =>
    have ho : "args" ≠ "op" := by decide
    simp only [ofNode, Node.canonicalEntries, getD_put, if_neg ho, list?_normalizeListsAt,
      canonical, canonicalAll_eq_map]
    cases hl : (node.getD "args").list? with
    | none => rfl
    | some items =>
      have hargs : ∀ v ∈ items, ofValue (normalize v) = (ofValue v).canonical := fun v hv =>
        ih v (sizeOf_lt_of_mem_list (Value.eq_list_of_list? hl) hv)
      simpa using hargs
  | not =>
    simp [ofNode, Node.canonicalEntries, getD_put, getD_normalizeAt, canonical, ihKey]
  | cond =>
    simp [ofNode, Node.canonicalEntries, getD_put, getD_normalizeAt, canonical, ihKey]
  | regex =>
    simp [ofNode, Node.canonicalEntries, getD_put, getD_normalizeAt, canonical, ihKey]

/-- Reading the canonical form of a value gives the canonical form of the expression. -/
theorem ofValue_normalize (v : Value) : ofValue (normalize v) = (ofValue v).canonical := by
  cases v with
  | object node =>
    cases ho : Node.operator? node with
    | none =>
      rw [Node.normalize_of_no_operator ho]
      cases ht : Node.opText? node with
      | none => simp [ofValue_of_no_text ht, canonical]
      | some text =>
        have hu : Operator.ofName? text = none := by simpa [Node.operator?, ht] using ho
        simp [ofValue_of_unknown ht hu, canonical]
    | some op =>
      rw [Node.normalize_of_operator ho, ofValue_of_operator ho,
        ofValue_of_operator (Node.operator?_canonicalEntries op _)]
      exact ofNode_canonicalEntries op fun w hw => ofValue_normalize w
  | _ => simp [normalize, ofValue, canonical]
termination_by sizeOf v
decreasing_by simpa only [Value.object.sizeOf_spec] using hw

end Expr

end GridRules
