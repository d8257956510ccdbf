import GridRules.Proofs.NodeShape

namespace GridRules

theorem normalizeAll_eq_map (values : List Value) : normalizeAll values = values.map normalize := by
  induction values with
  | nil => rfl
  | cons v rest ih => rw [normalizeAll, ih, List.map_cons]

theorem normalizeItems_eq (v : Value) : normalizeItems v = v.list?.map (·.map normalize) := by
  cases v <;> simp [normalizeItems, Value.list?, normalizeAll_eq_map]

theorem normalize_null : normalize .null = .null := by
  rw [normalize]
  simp

theorem normalizeKey_eq (key : String) (node : Entries) :
    normalizeKey key node = normalize (node.getD key) := by
  induction node with
  | nil => simp [normalizeKey, Entries.getD, normalize_null]
  | cons entry rest ih =>
    obtain ⟨k, v⟩ := entry
    rw [normalizeKey, getD_cons, ih]
    split
    next => rfl
    next => rfl

theorem normalizeListAt_eq (key : String) (node : Entries) :
    normalizeListAt key node = (node.getD key).list?.map (·.map normalize) := by
  induction node with
  | nil => simp [normalizeListAt, Entries.getD, Value.list?]
  | cons entry rest ih =>
    obtain ⟨k, v⟩ := entry
    rw [normalizeListAt, getD_cons, ih]
    split
    next => exact normalizeItems_eq v
    next => rfl

theorem getD_normalizeAt (keys : List String) (node : Entries) (key : String) :
    Entries.getD (normalizeAt keys node) key =
      if key ∈ keys then normalize (node.getD key) else node.getD key := by
  induction node with
  | nil => simp [normalizeAt, Entries.getD, normalize_null]
  | cons entry rest ih =>
    obtain ⟨k, v⟩ := entry
    rw [normalizeAt, getD_cons, getD_cons, ih]
    by_cases hk : key = k
    · subst hk
      simp
    · simp [hk]

/-- The list under the key has its items in canonical form. -/
theorem list?_normalizeListsAt (key : String) (node : Entries) :
    (Entries.getD (normalizeListsAt key node) key).list? =
      (node.getD key).list?.map (·.map normalize) := by
  induction node with
  | nil => simp [normalizeListsAt, Entries.getD, Value.list?]
  | cons entry rest ih =>
    obtain ⟨k, v⟩ := entry
    rw [normalizeListsAt, getD_cons, getD_cons]
    by_cases hk : k = key
    · subst hk
      rw [if_pos rfl, if_pos rfl, if_pos rfl, normalizeItems_eq]
      cases v <;> simp [Value.list?]
    · rw [if_neg (Ne.symm hk), if_neg (Ne.symm hk)]
      exact ih

namespace Node

theorem operator?_withOperator (op : Operator) (node : Entries) :
    operator? (node.put "op" (.str op.name)) = some op := by
  simp [operator?, opText?, getD_put, Value.string?]

/-- The canonical form of a node with a known operator, in terms of its operands. -/
def canonicalEntries (op : Operator) (node : Entries) : Entries :=
  match op with
  | .variadic op =>
    [("op", .str (Operator.variadic op).name),
      ("args", .list (((operandList node).map normalize).flatMap (splice op)))]
  | .binary op =>
    match operandPair? node with
    | some (left, right) =>
      [("op", .str (Operator.binary op).name), ("left", normalize left),
        ("right", normalize right)]
    | none => node.put "op" (.str (Operator.binary op).name)
  | .connective op =>
    Assoc.put (normalizeListsAt "args" node) "op" (.str (Operator.connective op).name)
  | .not => Assoc.put (normalizeAt ["arg"] node) "op" (.str Operator.not.name)
  | .cond => Assoc.put (normalizeAt ["cond", "then", "else"] node) "op" (.str Operator.cond.name)
  | .regex => Assoc.put (normalizeAt ["value"] node) "op" (.str Operator.regex.name)
  | op => node.put "op" (.str op.name)

theorem normalize_of_operator {node : Entries} {op : Operator} (h : operator? node = some op) :
    normalize (.object node) = .object (canonicalEntries op node) := by
  rw [normalize, h]
  cases op with
  | const => rfl
  | field => rfl
  | variadic op =>
    simp only [canonicalEntries, normalizeListAt_eq, normalizeKey_eq, operandList, operandPair?,
      variadicOf, variadicNode]
    cases node.getD "args" <;> simp [Value.list?] <;> grind
  | binary op =>
    simp only [canonicalEntries, normalizeListAt_eq, normalizeKey_eq, operandPair?, binaryNode,
      withOperator]
    grind [Value.list?]
  | connective op => rfl
  | not => rfl
  | cond => rfl
  | regex => rfl

theorem normalize_of_no_operator {node : Entries} (h : operator? node = none) :
    normalize (.object node) = .object node := by
  rw [normalize, h]

theorem operator?_canonicalEntries (op : Operator) (node : Entries) :
    operator? (canonicalEntries op node) = some op := by
  cases op with
  | variadic op =>
    simp [canonicalEntries, operator?, opText?, Entries.getD, Assoc.get?_cons, Value.string?]
  | binary op =>
    unfold canonicalEntries
    cases operandPair? node with
    | none => exact operator?_withOperator (.binary op) node
    | some pair =>
      simp [operator?, opText?, Entries.getD, Assoc.get?_cons, Value.string?]
  | const => exact operator?_withOperator .const node
  | field => exact operator?_withOperator .field node
  | connective op => exact operator?_withOperator (.connective op) _
  | not => exact operator?_withOperator .not _
  | cond => exact operator?_withOperator .cond _
  | regex => exact operator?_withOperator .regex _

end Node

end GridRules
