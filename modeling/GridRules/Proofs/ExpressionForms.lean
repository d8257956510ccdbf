import GridRules.Proofs.CanonicalForms
import GridRules.Proofs.Operands
import GridRules.Proofs.CanonicalExpr

namespace GridRules

namespace Expr

mutual

/-- An expression with all values that stand in it replaced. -/
def mapValues (f : Value → Value) : Expr → Expr
  | .invalid => .invalid
  | .unknown => .unknown
  | .const v => .const (f v)
  | .field ref => .field ref
  | .variadic op args => .variadic op (mapAllValues f args)
  | .binary op left right => .binary op (left.mapValues f) (right.mapValues f)
  | .unpaired op => .unpaired op
  | .connective op args => .connective op (mapAllValues f args)
  | .not arg => .not (arg.mapValues f)
  | .cond test yes no => .cond (test.mapValues f) (yes.mapValues f) (no.mapValues f)
  | .regex subject pattern flags => .regex (subject.mapValues f) pattern (f flags)

def mapAllValues (f : Value → Value) : List Expr → List Expr
  | [] => []
  | e :: rest => e.mapValues f :: mapAllValues f rest

end

mutual

/-- The constants of an expression in the order they are written. -/
def constants : Expr → List Value
  | .const v => [v]
  | .variadic _ args => allConstants args
  | .binary _ left right => left.constants ++ right.constants
  | .connective _ args => allConstants args
  | .not arg => arg.constants
  | .cond test yes no => test.constants ++ yes.constants ++ no.constants
  | .regex subject _ _ => subject.constants
  | _ => []

def allConstants : List Expr → List Value
  | [] => []
  | e :: rest => e.constants ++ allConstants rest

end

theorem mapAllValues_eq_map (f : Value → Value) (es : List Expr) :
    mapAllValues f es = es.map (mapValues f) := by
  induction es with
  | nil => rfl
  | cons e rest ih => rw [mapAllValues, ih, List.map_cons]

theorem allConstants_eq_flatMap (es : List Expr) : allConstants es = es.flatMap constants := by
  induction es with
  | nil => rfl
  | cons e rest ih => rw [allConstants, ih, List.flatMap_cons]

theorem constants_mapValues (f : Value → Value) (e : Expr) :
    (e.mapValues f).constants = e.constants.map f := by
  induction e using operand_induction with
  | step e ih =>
    have hlist (args : List Expr)
        (ih : ∀ arg ∈ args, (arg.mapValues f).constants = arg.constants.map f) :
        (args.map (mapValues f)).flatMap constants = (args.flatMap constants).map f := by
      rw [List.flatMap_map, List.map_flatMap]
      exact List.flatMap_congr ih
    cases e with
    | variadic op args =>
      simpa [mapValues, constants, mapAllValues_eq_map, allConstants_eq_flatMap] using hlist args ih
    | connective op args =>
      simpa [mapValues, constants, mapAllValues_eq_map, allConstants_eq_flatMap] using hlist args ih
    | binary op left right =>
      simp [mapValues, constants, ih left (by simp [operands]), ih right (by simp [operands])]
    | not arg => simp [mapValues, constants, ih arg (by simp [operands])]
    | cond test yes no =>
      simp [mapValues, constants, ih test (by simp [operands]), ih yes (by simp [operands]),
        ih no (by simp [operands])]
    | regex subject pattern flags => simp [mapValues, constants, ih subject (by simp [operands])]
    | invalid | unknown | const | field | unpaired => simp [mapValues, constants]

end Expr

namespace Canonical

open GridRules.Expr (mapValues constants)

theorem map_eq_of_alike {β : Type} {g : Value → β} {xs ys : List Value}
    (h : xs.map form = ys.map form) (hg : ∀ x ∈ xs, ∀ y, form x = form y → g x = g y) :
    xs.map g = ys.map g := by
  induction xs generalizing ys with
  | nil =>
    cases ys with
    | nil => rfl
    | cons => cases h
  | cons x xs ih =>
    cases ys with
    | nil => cases h
    | cons y ys =>
      obtain ⟨hxy, hrest⟩ := List.cons.inj h
      rw [List.map_cons, List.map_cons, hg x List.mem_cons_self y hxy,
        ih hrest fun z hz => hg z (List.mem_cons_of_mem x hz)]

theorem operandPair?_of_no_list {node : Entries} (h : (node.getD "args").list? = none) :
    Node.operandPair? node =
      if !(node.getD "left").isNull && !(node.getD "right").isNull then
        some (node.getD "left", node.getD "right")
      else none := by
  unfold Node.operandPair?
  simp only
  congr 1
  split
  · rename_i hargs
    rw [hargs] at h
    cases h
  · rfl

theorem operandList_of_no_list {node : Entries} (h : (node.getD "args").list? = none) :
    Node.operandList node = ((Node.operandPair? node).map fun p => [p.1, p.2]).getD [] := by
  unfold Node.operandList
  split
  · rename_i hargs
    rw [hargs] at h
    cases h
  · cases Node.operandPair? node <;> rfl

section Nodes

variable {a b : Entries} (h : form (.object a) = form (.object b))
include h

theorem operandPair?_alike :
    (Node.operandPair? a).map (Prod.map form form) =
      (Node.operandPair? b).map (Prod.map form form) := by
  have hleft := getD_alike h "left"
  have hright := getD_alike h "right"
  rcases list?_cases_alike (getD_alike h "args") with ⟨ha, hb⟩ | ⟨xs, ys, ha, hb, hmap⟩
  · rw [operandPair?_of_no_list ha, operandPair?_of_no_list hb, isNull_alike hleft,
      isNull_alike hright]
    split <;> simp [hleft, hright]
  · unfold Node.operandPair?
    simp only [isNull_alike hleft, isNull_alike hright, ha, hb]
    split
    · simp [hleft, hright]
    · match xs, ys, hmap with
      | [], [], _ => rfl
      | [_], [_], _ => rfl
      | [_], _ :: _ :: _, hmap | _ :: _ :: _, [_], hmap => simp at hmap
      | x :: y :: _, x' :: y' :: _, hmap =>
        obtain ⟨hx, hmap⟩ := List.cons.inj hmap
        obtain ⟨hy, -⟩ := List.cons.inj hmap
        simp only [isNull_alike hx, isNull_alike hy]
        split <;> simp [hx, hy]

theorem operandPair?_cases_alike :
    (Node.operandPair? a = none ∧ Node.operandPair? b = none) ∨
      ∃ x y x' y', Node.operandPair? a = some (x, y) ∧ Node.operandPair? b = some (x', y') ∧
        form x = form x' ∧ form y = form y' := by
  have hpair := operandPair?_alike h
  cases ha : Node.operandPair? a with
  | none =>
    cases hb : Node.operandPair? b with
    | none => exact .inl ⟨rfl, rfl⟩
    | some pair => simp [ha, hb] at hpair
  | some pair =>
    cases hb : Node.operandPair? b with
    | none => simp [ha, hb] at hpair
    | some pair' =>
      rw [ha, hb, Option.map_some, Option.map_some, Option.some.injEq, Prod.ext_iff] at hpair
      exact .inr ⟨_, _, _, _, rfl, rfl, hpair⟩

theorem operandList_alike :
    (Node.operandList a).map form = (Node.operandList b).map form := by
  rcases list?_cases_alike (getD_alike h "args") with ⟨ha, hb⟩ | ⟨xs, ys, ha, hb, hmap⟩
  · rw [operandList_of_no_list ha, operandList_of_no_list hb]
    rcases operandPair?_cases_alike h with ⟨ha, hb⟩ | ⟨x, y, x', y', ha, hb, hx, hy⟩
    · rw [ha, hb]
    · rw [ha, hb]
      simp [hx, hy]
  · unfold Node.operandList
    rw [ha, hb]
    exact hmap

/-- Nodes of one form are read alike if this holds of all that is smaller. -/
theorem mapValues_ofNode (op : Operator)
    (ih : ∀ v, sizeOf v < sizeOf (Value.object a) → ∀ w, form v = form w →
      (Expr.ofValue v).mapValues form = (Expr.ofValue w).mapValues form) :
    (Expr.ofNode op a).mapValues form = (Expr.ofNode op b).mapValues form := by
  have hunder (key : String) : (Expr.ofValue (a.getD key)).mapValues form =
      (Expr.ofValue (b.getD key)).mapValues form :=
    ih _ (sizeOf_getD_lt a key) _ (getD_alike h key)
  cases op with
  | const => simpa [Expr.ofNode, mapValues] using getD_alike h "value"
  | field => simp [Expr.ofNode, mapValues, string?_alike (getD_alike h "fieldId")]
  | variadic op =>
    have hlist := map_eq_of_alike (operandList_alike h) fun x hx y hxy =>
      ih x (Expr.sizeOf_lt_of_mem_operandList hx) y hxy
    simpa [Expr.ofNode, mapValues, Expr.mapAllValues_eq_map, Function.comp_def] using hlist
  | binary op =>
    rcases operandPair?_cases_alike h with ⟨ha, hb⟩ | ⟨x, y, x', y', ha, hb, hx, hy⟩
    · simp [Expr.ofNode, ha, hb, mapValues]
    · obtain ⟨hsx, hsy⟩ := Expr.sizeOf_lt_of_operandPair ha
      simp [Expr.ofNode, ha, hb, mapValues, ih x hsx x' hx, ih y hsy y' hy]
  | connective op =>
    rcases list?_cases_alike (getD_alike h "args") with ⟨ha, hb⟩ | ⟨xs, ys, ha, hb, hmap⟩
    · simp [Expr.ofNode, ha, hb, mapValues]
    · have hlist := map_eq_of_alike hmap fun x hx y hxy =>
        ih x (Expr.sizeOf_lt_of_mem_list ha hx) y hxy
      simpa [Expr.ofNode, ha, hb, Value.list?, mapValues, Expr.mapAllValues_eq_map,
        Function.comp_def] using hlist
  | not => simp [Expr.ofNode, mapValues, hunder]
  | cond => simp [Expr.ofNode, mapValues, hunder]
  | regex =>
    simp [Expr.ofNode, mapValues, hunder, string?_alike (getD_alike h "pattern"),
      getD_alike h "flags"]

end Nodes

theorem ofValue_eq_invalid {v : Value} (h : ∀ node : Entries, v ≠ .object node) :
    Expr.ofValue v = .invalid := by
  cases v with
  | object node => exact absurd rfl (h node)
  | null | bool | int | float | str | list => rfl

/-- Values of one form are read as expressions that differ in the values that stand in them at
most, and there by their spelling only. -/
theorem mapValues_ofValue (v w : Value) (h : form v = form w) :
    (Expr.ofValue v).mapValues form = (Expr.ofValue w).mapValues form := by
  by_cases hv : ∃ a : Entries, v = .object a
  · obtain ⟨a, rfl⟩ := hv
    obtain ⟨b, rfl⟩ := object_alike h
    have htext : Node.opText? a = Node.opText? b := string?_alike (getD_alike h "op")
    cases hta : Node.opText? a with
    | none => rw [Expr.ofValue_of_no_text hta, Expr.ofValue_of_no_text (htext ▸ hta)]
    | some text =>
      cases hop : Operator.ofName? text with
      | none => rw [Expr.ofValue_of_unknown hta hop, Expr.ofValue_of_unknown (htext ▸ hta) hop]
      | some op =>
        rw [Expr.ofValue_of_operator (Node.operator?_eq_some_iff.mpr ⟨text, hta, hop⟩),
          Expr.ofValue_of_operator (Node.operator?_eq_some_iff.mpr ⟨text, htext ▸ hta, hop⟩)]
        exact mapValues_ofNode h op fun x _ y hxy => mapValues_ofValue x y hxy
  · have hw : ∀ b : Entries, w ≠ .object b := by
      rintro b rfl
      exact hv (object_alike h.symm)
    rw [ofValue_eq_invalid fun a ha => hv ⟨a, ha⟩, ofValue_eq_invalid hw]
termination_by sizeOf v
decreasing_by
  subst_vars
  assumption

end Canonical

namespace Regex.Options

theorem ofFlags_alike {v w : Value} (h : Canonical.form v = Canonical.form w) :
    ofFlags v = ofFlags w := by
  have hflags (v : Value) : ofFlags v = (v.string?.map ofLetters).getD .none := by
    cases v <;> rfl
  rw [hflags, hflags, Canonical.string?_alike h]

end Regex.Options

namespace Expr

open Canonical (form)

theorem isNode_mapValues (f : Value → Value) (e : Expr) : (e.mapValues f).isNode = e.isNode := by
  cases e <;> rfl

theorem isNode_alike {e e' : Expr} (h : e.mapValues form = e'.mapValues form) :
    e.isNode = e'.isNode := by
  rw [← isNode_mapValues form e, h, isNode_mapValues]

theorem length_constants {e e' : Expr} (h : e.mapValues form = e'.mapValues form) :
    e.constants.length = e'.constants.length := by
  have := congrArg (fun e : Expr => e.constants.length) h
  simpa [constants_mapValues] using this

/-- What is told of the operands by their forms and by their constants together. -/
theorem map_eq_of_operands {β : Type} {g : Expr → β} {args args' : List Expr}
    (hmap : args.map (mapValues form) = args'.map (mapValues form))
    (hconstants : args.flatMap constants = args'.flatMap constants)
    (hg : ∀ arg ∈ args, ∀ arg', arg.mapValues form = arg'.mapValues form →
      arg.constants = arg'.constants → g arg = g arg') : args.map g = args'.map g := by
  induction args generalizing args' with
  | nil =>
    cases args' with
    | nil => rfl
    | cons => cases hmap
  | cons arg args ih =>
    cases args' with
    | nil => cases hmap
    | cons arg' args' =>
      obtain ⟨harg, hrest⟩ := List.cons.inj hmap
      rw [List.flatMap_cons, List.flatMap_cons] at hconstants
      obtain ⟨hfirst, hothers⟩ := List.append_inj hconstants (length_constants harg)
      rw [List.map_cons, List.map_cons, hg arg List.mem_cons_self arg' harg hfirst,
        ih hrest hothers fun x hx => hg x (List.mem_cons_of_mem arg hx)]

/-- Expressions that differ in the spelling of flags only, not in that of constants, have the same
value over every row. -/
theorem attempt_eq_of_constants (row : Entries) (e : Expr) :
    ∀ e' : Expr, e.mapValues form = e'.mapValues form → e.constants = e'.constants →
      e.attempt row = e'.attempt row := by
  induction e using operand_induction with
  | step e ih =>
    intro e' hmap hconstants
    have below : ∀ arg ∈ e.operands, ∀ arg' : Expr, arg.mapValues form = arg'.mapValues form →
        arg.constants = arg'.constants → arg.evaluate? row = arg'.evaluate? row :=
      fun arg ha arg' hform hsame => congrArg contain (ih arg ha arg' hform hsame)
    cases e with
    | invalid =>
      cases e' with
      | invalid => rfl
      | _ => simp [mapValues] at hmap
    | unknown =>
      cases e' with
      | unknown => rfl
      | _ => simp [mapValues] at hmap
    | const v =>
      cases e' with
      | const w =>
        obtain rfl : v = w := by simpa [constants] using hconstants
        rfl
      | _ => simp [mapValues] at hmap
    | field ref =>
      cases e' with
      | field ref' =>
        obtain rfl : ref = ref' := by simpa [mapValues] using hmap
        rfl
      | _ => simp [mapValues] at hmap
    | variadic op args =>
      cases e' with
      | variadic op' args' =>
        obtain ⟨rfl, hargs⟩ :
            op = op' ∧ args.map (mapValues form) = args'.map (mapValues form) := by
          simpa [mapValues, mapAllValues_eq_map] using hmap
        have hconstants : args.flatMap constants = args'.flatMap constants := by
          simpa [constants, allConstants_eq_flatMap] using hconstants
        rw [attempt_variadic, attempt_variadic, map_eq_of_operands hargs hconstants below]
      | _ => simp [mapValues] at hmap
    | binary op left right =>
      cases e' with
      | binary op' left' right' =>
        obtain ⟨rfl, hleft, hright⟩ : op = op' ∧ left.mapValues form = left'.mapValues form ∧
            right.mapValues form = right'.mapValues form := by simpa [mapValues] using hmap
        obtain ⟨hl, hr⟩ := List.append_inj hconstants (length_constants hleft)
        rw [attempt, attempt, ih left (by simp [operands]) left' hleft hl,
          ih right (by simp [operands]) right' hright hr]
      | _ => simp [mapValues] at hmap
    | unpaired op =>
      cases e' with
      | unpaired op' =>
        obtain rfl : op = op' := by simpa [mapValues] using hmap
        rfl
      | _ => simp [mapValues] at hmap
    | connective op args =>
      cases e' with
      | connective op' args' =>
        obtain ⟨rfl, hargs⟩ :
            op = op' ∧ args.map (mapValues form) = args'.map (mapValues form) := by
          simpa [mapValues, mapAllValues_eq_map] using hmap
        have hconstants : args.flatMap constants = args'.flatMap constants := by
          simpa [constants, allConstants_eq_flatMap] using hconstants
        rw [attempt_connective, attempt_connective, map_eq_of_operands hargs hconstants below]
      | _ => simp [mapValues] at hmap
    | not arg =>
      cases e' with
      | not arg' =>
        have harg : arg.mapValues form = arg'.mapValues form := by simpa [mapValues] using hmap
        rw [attempt, attempt, isNode_alike harg, ih arg (by simp [operands]) arg' harg hconstants]
      | _ => simp [mapValues] at hmap
    | cond test yes no =>
      cases e' with
      | cond test' yes' no' =>
        obtain ⟨htest, hyes, hno⟩ : test.mapValues form = test'.mapValues form ∧
            yes.mapValues form = yes'.mapValues form ∧
            no.mapValues form = no'.mapValues form := by simpa [mapValues] using hmap
        rw [constants, constants, List.append_assoc, List.append_assoc] at hconstants
        obtain ⟨ht, hconstants⟩ := List.append_inj hconstants (length_constants htest)
        obtain ⟨hy, hn⟩ := List.append_inj hconstants (length_constants hyes)
        rw [attempt, attempt, isNode_alike htest, isNode_alike hyes, isNode_alike hno,
          ih test (by simp [operands]) test' htest ht, ih yes (by simp [operands]) yes' hyes hy,
          ih no (by simp [operands]) no' hno hn]
      | _ => simp [mapValues] at hmap
    | regex subject pattern flags =>
      cases e' with
      | regex subject' pattern' flags' =>
        obtain ⟨hsubject, rfl, hflags⟩ : subject.mapValues form = subject'.mapValues form ∧
            pattern = pattern' ∧ form flags = form flags' := by simpa [mapValues] using hmap
        cases pattern with
        | none => rw [attempt, attempt]
        | some p =>
          rw [attempt, attempt, isNode_alike hsubject, Regex.Options.ofFlags_alike hflags,
            ih subject (by simp [operands]) subject' hsubject hconstants]
      | _ => simp [mapValues] at hmap

end Expr

/-- Nodes of one form whose constants are spelled alike have the same value over every row. -/
theorem evaluate?_eq_of_constants {v w : Value} (h : Canonical.form v = Canonical.form w)
    (hconstants : (Expr.ofValue v).constants = (Expr.ofValue w).constants) (row : Entries) :
    evaluate? v row = evaluate? w row :=
  congrArg Expr.contain
    (Expr.attempt_eq_of_constants row _ _ (Canonical.mapValues_ofValue v w h) hconstants)

end GridRules
