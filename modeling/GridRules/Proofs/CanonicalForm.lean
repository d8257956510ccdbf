import GridRules.Proofs.CanonicalExpr
import Mathlib.Logic.Relation

namespace GridRules

/-- The operands of a value that is a node. -/
def Value.operands : Value → List Value
  | .object node => Node.children node
  | _ => []

/-- A value and all that is among its operands, their operands, and so on. -/
def Value.Reaches : Value → Value → Prop :=
  Relation.ReflTransGen fun v c => c ∈ v.operands

namespace Node

/-- A sum or product that would be spliced as an operand of the same operator. -/
def Spliceable (op : Variadic) (v : Value) : Prop :=
  ∃ (node : Entries) (arg : Value) (rest : List Value), v = .object node ∧
    operator? node = some (.variadic op) ∧ node.getD "args" = .list (arg :: rest)

/-- What a node of a known operator looks like in canonical form. -/
structure InForm (op : Operator) (node : Entries) : Prop where
  named : opText? node = some op.name
  flat : ∀ v, op = .variadic v → ∃ args, .object node = variadicNode v args ∧
    ∀ arg ∈ args, ¬ Spliceable v arg
  paired : ∀ b, op = .binary b → ∀ left right, operandPair? node = some (left, right) →
    .object node = binaryNode b left right

end Node

/-- All nodes in it are in canonical form. -/
def Value.IsCanonical (v : Value) : Prop :=
  ∀ node op, v.Reaches (.object node) → Node.operator? node = some op → Node.InForm op node

namespace Node

theorem put_put (node : Entries) (key : String) (v : Value) :
    Assoc.put (Assoc.put node key v) key v = Assoc.put node key v := by
  induction node with
  | nil => simp [Assoc.put]
  | cons entry rest ih =>
    obtain ⟨k, w⟩ := entry
    by_cases h : k = key
    · simp [Assoc.put, h]
    · simp [Assoc.put, h, ih]

theorem normalizeAt_put {keys : List String} {key : String} (h : key ∉ keys) (node : Entries)
    (v : Value) :
    normalizeAt keys (Assoc.put node key v) = Assoc.put (normalizeAt keys node) key v := by
  induction node with
  | nil => simp [Assoc.put, normalizeAt, h]
  | cons entry rest ih =>
    obtain ⟨k, w⟩ := entry
    by_cases hk : k = key
    · simp [Assoc.put, normalizeAt, hk, h]
    · simp [Assoc.put, normalizeAt, hk, ih]

theorem normalizeListsAt_put {key other : String} (h : key ≠ other) (node : Entries) (v : Value) :
    normalizeListsAt key (Assoc.put node other v) =
      Assoc.put (normalizeListsAt key node) other v := by
  induction node with
  | nil => simp [Assoc.put, normalizeListsAt, h]
  | cons entry rest ih =>
    obtain ⟨k, w⟩ := entry
    by_cases hk : k = other
    · simp [Assoc.put, normalizeListsAt, hk, h]
    · simp [Assoc.put, normalizeListsAt, hk, ih]

/-- The values in a node keep their canonical form when it is taken once more. -/
def KeepsForms (node : Entries) : Prop :=
  ∀ w, sizeOf w < sizeOf (Value.object node) → normalize (normalize w) = normalize w

theorem KeepsForms.tail {entry : String × Value} {rest : Entries} (h : KeepsForms (entry :: rest)) :
    KeepsForms rest := by
  intro w hw
  apply h
  simp only [Value.object.sizeOf_spec, List.cons.sizeOf_spec] at hw ⊢
  omega

theorem KeepsForms.head {k : String} {v : Value} {rest : Entries}
    (h : KeepsForms ((k, v) :: rest)) {w : Value} (hw : sizeOf w ≤ sizeOf v) :
    normalize (normalize w) = normalize w := by
  apply h
  simp only [Value.object.sizeOf_spec, List.cons.sizeOf_spec, Prod.mk.sizeOf_spec]
  omega

theorem normalizeAt_normalizeAt {node : Entries} (keeps : KeepsForms node) (keys : List String) :
    normalizeAt keys (normalizeAt keys node) = normalizeAt keys node := by
  induction node with
  | nil => rfl
  | cons entry rest ih =>
    obtain ⟨k, v⟩ := entry
    simp only [normalizeAt, ih keeps.tail]
    by_cases hk : keys.contains k = true
    · simp only [hk, if_true, keeps.head (Nat.le_refl _)]
    · simp only [hk, if_false, Bool.false_eq_true]

theorem normalizeListsAt_normalizeListsAt {node : Entries} (keeps : KeepsForms node)
    (key : String) :
    normalizeListsAt key (normalizeListsAt key node) = normalizeListsAt key node := by
  induction node with
  | nil => rfl
  | cons entry rest ih =>
    obtain ⟨k, v⟩ := entry
    simp only [normalizeListsAt, ih keeps.tail]
    by_cases hk : key = k
    · cases v with
      | list items =>
        have hitems : ∀ w ∈ items, normalize (normalize w) = normalize w := by
          intro w hw
          have hs := List.sizeOf_lt_of_mem hw
          apply keeps.head
          simp only [Value.list.sizeOf_spec]
          omega
        simpa [hk, normalizeItems, normalizeAll_eq_map] using hitems
      | _ => simp [hk, normalizeItems]
    · simp [hk]

theorem splice_of_not_spliceable {op : Variadic} {v : Value} (h : ¬ Spliceable op v) :
    splice op v = [v] := by
  unfold splice
  split
  next node =>
    split
    next ht =>
      split
      next a rest ha => exact absurd ⟨node, a, rest, rfl, opText?_eq_name_iff.mp ht, ha⟩ h
      next => rfl
    next => rfl
  next => rfl

theorem flatMap_splice_of_not_spliceable {op : Variadic} {values : List Value}
    (h : ∀ v ∈ values, ¬ Spliceable op v) : values.flatMap (splice op) = values := by
  induction values with
  | nil => rfl
  | cons v rest ih =>
    rw [List.flatMap_cons, splice_of_not_spliceable (h v (by simp)),
      ih fun w hw => h w (List.mem_cons_of_mem v hw)]
    rfl

/-- The operands of a sum or product in canonical form come from the operands it was written with,
each in canonical form, or as the operands of that. -/
theorem exists_mem_splice {op : Variadic} {node : Entries} {c : Value}
    (h : c ∈ ((operandList node).map normalize).flatMap (splice op)) :
    ∃ w ∈ operandList node, c ∈ splice op (normalize w) := by
  obtain ⟨n, hn, hc⟩ := List.mem_flatMap.mp h
  obtain ⟨w, hw, rfl⟩ := List.mem_map.mp hn
  exact ⟨w, hw, hc⟩

/-- Nothing is left to splice once an operand in canonical form has been spliced. -/
theorem not_spliceable_of_mem_splice (op : Variadic) (v c : Value)
    (hc : c ∈ splice op (normalize v)) : ¬ Spliceable op c := by
  by_cases hs : Spliceable op (normalize v)
  · obtain ⟨node, arg, rest, hv, ho, ha⟩ := hs
    obtain ⟨given, hgiven, hg⟩ := operator?_of_normalize hv ho
    have hlist : c ∈ ((operandList given).map normalize).flatMap (splice op) := by
      rw [hgiven, normalize_of_operator hg] at hv hc
      obtain rfl : canonicalEntries (.variadic op) given = node := by simpa using hv
      rw [getD_args_canonicalEntries] at ha
      have ht := opText?_eq_name_iff.mpr ho
      simp only [splice, ht, if_true, getD_args_canonicalEntries, Value.list.inj ha] at hc
      rwa [Value.list.inj ha]
    obtain ⟨w, hw, hcw⟩ := exists_mem_splice hlist
    exact not_spliceable_of_mem_splice op w c hcw
  · rw [splice_of_not_spliceable hs, List.mem_singleton] at hc
    exact hc ▸ hs
termination_by sizeOf v
decreasing_by exact hgiven ▸ Expr.sizeOf_lt_of_mem_operandList hw

theorem mem_operands_of_mem_splice {op : Variadic} {v c : Value} (h : c ∈ splice op v) :
    c = v ∨ c ∈ v.operands := by
  by_cases hs : Spliceable op v
  · obtain ⟨node, arg, rest, rfl, ho, ha⟩ := hs
    have ht := opText?_eq_name_iff.mpr ho
    right
    simpa [splice, ht, ha, Value.operands, children, ho, operandList] using h
  · rw [splice_of_not_spliceable hs, List.mem_singleton] at h
    exact Or.inl h

theorem operandPair?_normalized {op : Binary} {left right a b : Value} {node : Entries}
    (hp : operandPair? node = some (a, b)) (hl : left = normalize a) (hr : right = normalize b) :
    operandPair? [("op", .str (Operator.binary op).name), ("left", left), ("right", right)] =
      some (left, right) := by
  have hn := not_null_of_operandPair hp
  subst hl hr
  simp [operandPair?, getD_cons, Expr.isNull_normalize, hn.1, hn.2]

/-- The operands of a canonical form are canonical forms of values in the node, or operands of
these. -/
theorem exists_of_mem_children {op : Operator} {node : Entries} {c : Value}
    (h : c ∈ children (canonicalEntries op node)) :
    ∃ w, sizeOf w < sizeOf (Value.object node) ∧
      (c = normalize w ∨ c ∈ (normalize w).operands) := by
  have under : ∀ key, c = normalize (node.getD key) → ∃ w, sizeOf w < sizeOf (Value.object node) ∧
      (c = normalize w ∨ c ∈ (normalize w).operands) :=
    fun key hk => ⟨node.getD key, sizeOf_getD_lt node key, Or.inl hk⟩
  simp only [children, operator?_canonicalEntries] at h
  cases op with
  | const => simp at h
  | field => simp at h
  | variadic op =>
    simp only [operandList, getD_args_canonicalEntries] at h
    obtain ⟨w, hw, hc⟩ := exists_mem_splice h
    exact ⟨w, Expr.sizeOf_lt_of_mem_operandList hw, mem_operands_of_mem_splice hc⟩
  | binary op =>
    cases hp : operandPair? node with
    | none => simp [canonicalEntries, hp, operandPair?_put_op] at h
    | some pair =>
      obtain ⟨a, b⟩ := pair
      have hs := Expr.sizeOf_lt_of_operandPair hp
      simp only [canonicalEntries, hp, operandPair?_normalized hp rfl rfl] at h
      rcases List.mem_pair.mp h with rfl | rfl
      · exact ⟨a, hs.1, Or.inl rfl⟩
      · exact ⟨b, hs.2, Or.inl rfl⟩
  | connective op =>
    have hargs := list?_normalizeListsAt "args" node
    simp only [canonicalEntries, getD_put, show "args" ≠ "op" by decide, if_false] at h
    split at h
    next items hi =>
      rw [hi] at hargs
      obtain ⟨given, hg, hm⟩ := Option.map_eq_some_iff.mp hargs.symm
      obtain ⟨w, hw, rfl⟩ := List.mem_map.mp (hm ▸ h)
      exact ⟨w, Expr.sizeOf_lt_of_mem_list (Value.eq_list_of_list? hg) hw, Or.inl rfl⟩
    next => simp at h
  | not =>
    simp only [canonicalEntries, getD_put, getD_normalizeAt] at h
    exact under "arg" (by simpa using h)
  | cond =>
    simp only [canonicalEntries, getD_put, getD_normalizeAt] at h
    have h : c = normalize (node.getD "cond") ∨ c = normalize (node.getD "then") ∨
      c = normalize (node.getD "else") := by simpa using h
    rcases h with h | h | h
    · exact under "cond" h
    · exact under "then" h
    · exact under "else" h
  | regex =>
    simp only [canonicalEntries, getD_put, getD_normalizeAt] at h
    exact under "value" (by simpa using h)

theorem inForm_canonicalEntries (op : Operator) (node : Entries) :
    InForm op (canonicalEntries op node) where
  named := by
    obtain ⟨text, ht, ho⟩ := operator?_eq_some_iff.mp (operator?_canonicalEntries op node)
    cases op with
    | variadic op => rw [ht, Operator.name_of_ofName?_variadic ho]
    | binary op =>
      unfold canonicalEntries
      cases operandPair? node with
      | none => simp [opText?, getD_put, Value.string?]
      | some pair => simp [opText?, getD_cons, Value.string?]
    | _ => simp [canonicalEntries, opText?, getD_put, Value.string?]
  flat v hop := by
    subst hop
    refine ⟨_, rfl, ?_⟩
    intro arg ha
    obtain ⟨w, _, hm⟩ := exists_mem_splice ha
    exact not_spliceable_of_mem_splice v w arg hm
  paired b hop left right hp := by
    subst hop
    cases hg : operandPair? node with
    | none => simp [canonicalEntries, hg, operandPair?_put_op] at hp
    | some pair =>
      obtain ⟨l, r⟩ := pair
      simp only [canonicalEntries, hg, operandPair?_normalized hg rfl rfl] at hp ⊢
      obtain ⟨rfl, rfl⟩ := Prod.mk.inj (Option.some.inj hp)
      rfl

/-- A canonical form whose operands are their own canonical forms is its own canonical form. -/
theorem canonicalEntries_canonicalEntries {op : Operator} {node : Entries}
    (keeps : KeepsForms node)
    (fixed : ∀ c ∈ children (canonicalEntries op node), normalize c = c) :
    canonicalEntries op (canonicalEntries op node) = canonicalEntries op node := by
  simp only [children, operator?_canonicalEntries] at fixed
  cases op with
  | const => exact put_put node _ _
  | field => exact put_put node _ _
  | variadic op =>
    obtain ⟨args, hargs, flat⟩ := (inForm_canonicalEntries (.variadic op) node).flat op rfl
    rw [Value.object.inj hargs] at fixed ⊢
    have hlist : operandList [("op", .str (Operator.variadic op).name), ("args", .list args)] =
        args := by simp [operandList, getD_cons]
    simp only [hlist] at fixed
    rw [canonicalEntries, hlist, List.map_congr_left fixed, List.map_id',
      flatMap_splice_of_not_spliceable flat]
  | binary op =>
    cases hp : operandPair? node with
    | none => simp [canonicalEntries, hp, operandPair?_put_op, put_put]
    | some pair =>
      obtain ⟨a, b⟩ := pair
      have hs := Expr.sizeOf_lt_of_operandPair hp
      simp [canonicalEntries, hp, operandPair?_normalized hp rfl rfl, keeps a hs.1, keeps b hs.2]
  | connective op =>
    simp only [canonicalEntries]
    rw [normalizeListsAt_put (by decide), normalizeListsAt_normalizeListsAt keeps, put_put]
  | not =>
    simp only [canonicalEntries]
    rw [normalizeAt_put (by decide), normalizeAt_normalizeAt keeps, put_put]
  | cond =>
    simp only [canonicalEntries]
    rw [normalizeAt_put (by decide), normalizeAt_normalizeAt keeps, put_put]
  | regex =>
    simp only [canonicalEntries]
    rw [normalizeAt_put (by decide), normalizeAt_normalizeAt keeps, put_put]

/-- In a canonical form there is nothing but canonical forms, and each is its own. -/
theorem form_of_reaches (v : Value) {w : Value} (h : (normalize v).Reaches w) :
    normalize w = w ∧
      ∀ node op, w = .object node → operator? node = some op → InForm op node := by
  cases v with
  | object node =>
    cases ho : operator? node with
    | none =>
      rw [normalize_of_no_operator ho] at h
      have hw : w = .object node := by
        rcases Relation.ReflTransGen.cases_head h with he | ⟨c, hc, _⟩
        · exact he.symm
        · simp [Value.operands, children, ho] at hc
      subst hw
      refine ⟨normalize_of_no_operator ho, ?_⟩
      rintro node' op ⟨rfl⟩ hop
      simp [ho] at hop
    | some op =>
      rw [normalize_of_operator ho] at h
      have below : ∀ c ∈ children (canonicalEntries op node), ∃ x,
          sizeOf x < sizeOf (Value.object node) ∧ (normalize x).Reaches c := by
        intro c hc
        obtain ⟨x, hx, rfl | hm⟩ := exists_of_mem_children hc
        · exact ⟨x, hx, .refl⟩
        · exact ⟨x, hx, .single hm⟩
      rcases Relation.ReflTransGen.cases_head h with rfl | ⟨c, hc, hr⟩
      · have keeps : KeepsForms node := fun x hx => (form_of_reaches x .refl).1
        have fixed : ∀ c ∈ children (canonicalEntries op node), normalize c = c := by
          intro c hc
          obtain ⟨x, hx, hr⟩ := below c hc
          exact (form_of_reaches x hr).1
        constructor
        · rw [normalize_of_operator (operator?_canonicalEntries op node),
            canonicalEntries_canonicalEntries keeps fixed]
        · rintro node' op' ⟨rfl⟩ hop
          obtain rfl : op = op' := by simpa [operator?_canonicalEntries] using hop
          exact inForm_canonicalEntries op node
      · obtain ⟨x, hx, hrx⟩ := below c hc
        exact form_of_reaches x (hrx.trans hr)
  | _ =>
    simp only [normalize] at h
    rcases Relation.ReflTransGen.cases_head h with rfl | ⟨c, hc, _⟩
    · exact ⟨by simp [normalize], by simp⟩
    · simp [Value.operands] at hc
termination_by sizeOf v

end Node

/-- Bringing a value to canonical form brings all of it there, and doing so again changes
nothing. -/
theorem normalize_isCanonical (v : Value) :
    (normalize v).IsCanonical ∧ normalize (normalize v) = normalize v :=
  ⟨fun _ _ hr ho => (Node.form_of_reaches v hr).2 _ _ rfl ho, (Node.form_of_reaches v .refl).1⟩

end GridRules
