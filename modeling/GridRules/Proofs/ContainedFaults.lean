import GridRules.Expr.Evaluate
import GridRules.Proofs.OperandShapes
import Mathlib.Algebra.Group.Int.Defs

namespace GridRules

/-- A computation breaks off, if it does, with a fault of which `P` holds. -/
def OnlyFaults {α : Type} (P : Fault → Prop) (x : Except Fault α) : Prop :=
  ∀ fault, x = .error fault → P fault

namespace OnlyFaults

variable {α β : Type} {P Q : Fault → Prop} {x : Except Fault α}

theorem ok (a : α) : OnlyFaults P (.ok a) :=
  nofun

theorem error {fault : Fault} (h : P fault) : OnlyFaults P (.error fault : Except Fault α) := by
  intro fault' he
  obtain rfl := Except.error.inj he
  exact h

theorem mono (h : OnlyFaults P x) (hpq : ∀ fault, P fault → Q fault) : OnlyFaults Q x :=
  fun fault he => hpq fault (h fault he)

theorem bind {f : α → Except Fault β} (h : OnlyFaults P x) (next : ∀ a, OnlyFaults P (f a)) :
    OnlyFaults P (x >>= f) := by
  cases x with
  | error fault => exact .error (h fault rfl)
  | ok a => exact next a

theorem map (f : α → β) (h : OnlyFaults P x) : OnlyFaults P (f <$> x) := by
  cases x with
  | error fault => exact .error (h fault rfl)
  | ok a => exact .ok (f a)

theorem foldlM {f : β → α → Except Fault β} (step : ∀ b a, OnlyFaults P (f b a)) (items : List α)
    (b : β) : OnlyFaults P (items.foldlM f b) := by
  induction items generalizing b with
  | nil => exact .ok b
  | cons a items ih => exact (step b a).bind ih

theorem orTooLarge (large : P .tooLarge) (r : Option α) : OnlyFaults P (orTooLarge r) := by
  cases r with
  | none => exact .error large
  | some a => exact .ok a

theorem contain {x : Except Fault Value}
    (h : OnlyFaults (fun fault => fault = .tooLarge ∨ P fault) x) :
    OnlyFaults P (Expr.contain x) := by
  cases x with
  | ok v => exact .ok v
  | error fault =>
    rcases h fault rfl with rfl | hp
    · exact .ok Value.null
    · cases fault with
      | tooLarge => exact .ok Value.null
      | _ => exact .error hp

end OnlyFaults

section Operators

variable {P : Fault → Prop} (large : P .tooLarge)
include large

theorem Variadic.combine_onlyFaults (op : Variadic) {operands : List (Except Fault Value)}
    (h : ∀ x ∈ operands, OnlyFaults P x) (total : Number) :
    OnlyFaults P (op.combine total operands) := by
  induction operands generalizing total with
  | nil => exact .ok total
  | cons operand rest ih =>
    obtain ⟨hoperand, hrest⟩ := List.forall_mem_cons.mp h
    refine hoperand.bind fun v => ?_
    refine OnlyFaults.bind (.orTooLarge large _) fun n => ?_
    exact OnlyFaults.bind (.orTooLarge large _) fun next => ih hrest next

theorem Variadic.attempt_onlyFaults (op : Variadic) {operands : List (Except Fault Value)}
    (h : ∀ x ∈ operands, OnlyFaults P x) : OnlyFaults P (op.attempt operands) := by
  cases operands with
  | nil => exact .ok _
  | cons first rest => exact (op.combine_onlyFaults large h _).map Value.ofNumber

theorem Connective.decide_onlyFaults (op : Connective) {operands : List (Except Fault Value)}
    (h : ∀ x ∈ operands, OnlyFaults P x) : OnlyFaults P (op.decide operands) := by
  induction operands with
  | nil => exact .ok _
  | cons operand rest ih =>
    obtain ⟨hoperand, hrest⟩ := List.forall_mem_cons.mp h
    refine hoperand.bind fun v => ?_
    refine OnlyFaults.bind (.orTooLarge large _) fun b => ?_
    split
    next => exact .ok b
    next => exact ih hrest

theorem Connective.attempt_onlyFaults (op : Connective) {operands : List (Except Fault Value)}
    (h : ∀ x ∈ operands, OnlyFaults P x) : OnlyFaults P (op.attempt operands) := by
  cases operands with
  | nil => exact .ok _
  | cons first rest => exact (op.decide_onlyFaults large h).map Value.bool

theorem Binary.attempt_onlyFaults (op : Binary) {left right : Except Fault Value}
    (hl : OnlyFaults P left) (hr : OnlyFaults P right) : OnlyFaults P (op.attempt left right) := by
  refine hl.bind fun a => ?_
  split
  next => exact .error large
  next => exact hr.bind fun b => .orTooLarge large _

theorem Expr.choose_onlyFaults {condition yes no : Except Fault Value}
    (hc : OnlyFaults P condition) (hy : OnlyFaults P yes) (hn : OnlyFaults P no) :
    OnlyFaults P (choose condition yes no) := by
  refine hc.bind fun v => OnlyFaults.bind (.orTooLarge large _) fun b => ?_
  cases b with
  | false => exact hn
  | true => exact hy

end Operators

namespace Expr

/-- Somewhere in the expression a pattern asks for clashing character sets. -/
def Clashes (e : Expr) : Prop :=
  ∃ subject pattern flags, Within (.regex subject (some pattern) flags) e ∧
    Regex.compile pattern (.ofFlags flags) = .error .charsetClash

/-- Somewhere in the expression a pattern is for a value with an integer that is too long to be
written. -/
def Unwritable (row : Entries) (e : Expr) : Prop :=
  ∃ subject pattern flags v, Within (.regex subject (some pattern) flags) e ∧
    subject.evaluate? row = .ok v ∧ v.printable = false

/-- A regular expression in the expression breaks off with a fault. -/
inductive BreaksWith (row : Entries) (e : Expr) : Fault → Prop
  | clash : e.Clashes → BreaksWith row e .charsetClash
  | unwritable : e.Unwritable row → BreaksWith row e .unwritableInteger

theorem BreaksWith.of_operand {row : Entries} {arg e : Expr} {fault : Fault}
    (h : arg ∈ e.operands) : arg.BreaksWith row fault → e.BreaksWith row fault := by
  intro breaks
  cases breaks with
  | clash hc =>
    obtain ⟨subject, pattern, flags, hw, refused⟩ := hc
    exact .clash ⟨subject, pattern, flags, .operand h hw, refused⟩
  | unwritable hu =>
    obtain ⟨subject, pattern, flags, v, hw, hv, long⟩ := hu
    exact .unwritable ⟨subject, pattern, flags, v, .operand h hw, hv, long⟩

theorem search_onlyFaults (row : Entries) (subject : Expr) (pattern : String) (flags : Value)
    (text : String) :
    OnlyFaults
      (fun fault => fault = .tooLarge ∨
        (regex subject (some pattern) flags).BreaksWith row fault)
      (Regex.search pattern (.ofFlags flags) text) := by
  unfold Regex.search
  cases h : Regex.compile pattern (.ofFlags flags) with
  | ok e => exact .ok _
  | error refusal =>
    cases refusal with
    | malformed => exact .ok false
    | countTooLarge => exact .error (Or.inl rfl)
    | charsetClash => exact .error (Or.inr (.clash ⟨subject, pattern, flags, .self _, h⟩))

/-- A regular expression breaks off where its subject does, at a value that cannot be written or at
its own pattern. -/
theorem regex_onlyFaults {row : Entries} {subject : Expr} {pattern : String} {flags : Value}
    (h : OnlyFaults
      (fun fault => fault = .tooLarge ∨ (regex subject (some pattern) flags).BreaksWith row fault)
      (subject.evaluate? row)) :
    OnlyFaults
      (fun fault => fault = .tooLarge ∨ (regex subject (some pattern) flags).BreaksWith row fault)
      ((regex subject (some pattern) flags).attempt row) := by
  rw [attempt]
  split
  next =>
    cases hv : contain (subject.attempt row) with
    | error fault => exact .error (h fault hv)
    | ok v =>
      cases hw : v.printable with
      | false =>
        have long : v.plain? = .error .unwritableInteger := by simp [Value.plain?, hw]
        simp only [bind, Except.bind, long]
        exact .error (Or.inr (.unwritable ⟨subject, pattern, flags, v, .self _, hv, hw⟩))
      | true =>
        have short : v.plain? = .ok v.plain := by simp [Value.plain?, hw]
        simp only [bind, Except.bind, short]
        exact (search_onlyFaults row subject pattern flags _).map Value.bool
  next => exact .ok _

/-- Nothing but a regular expression breaks evaluation off. -/
theorem evaluate?_onlyFaults (row : Entries) (e : Expr) :
    OnlyFaults (e.BreaksWith row) (e.evaluate? row) := by
  induction e using operand_induction with
  | step e ih =>
    refine OnlyFaults.contain ?_
    have large : (Fault.tooLarge = .tooLarge ∨ e.BreaksWith row .tooLarge) := Or.inl rfl
    have below : ∀ arg ∈ e.operands,
        OnlyFaults (fun fault => fault = .tooLarge ∨ e.BreaksWith row fault)
          (arg.evaluate? row) :=
      fun arg ha => (ih arg ha).mono fun fault breaks => Or.inr (breaks.of_operand ha)
    have all : ∀ args : List Expr, (∀ arg ∈ args, arg ∈ e.operands) →
        ∀ x ∈ args.map (evaluate? row),
          OnlyFaults (fun fault => fault = .tooLarge ∨ e.BreaksWith row fault) x := by
      intro args hargs x hx
      obtain ⟨arg, ha, rfl⟩ := List.mem_map.mp hx
      exact below arg (hargs arg ha)
    cases e with
    | invalid => exact .ok _
    | unknown => exact .ok _
    | const v => exact .ok v
    | field ref => cases ref <;> exact .ok _
    | variadic op args =>
      rw [attempt_variadic]
      exact op.attempt_onlyFaults large (all args fun _ => id)
    | connective op args =>
      rw [attempt_connective]
      exact op.attempt_onlyFaults large (all args fun _ => id)
    | binary op left right =>
      exact op.attempt_onlyFaults large (below left (by simp [operands]))
        (below right (by simp [operands]))
    | unpaired op => exact .ok _
    | not arg =>
      rw [attempt]
      split
      next =>
        refine (below arg (by simp [operands])).bind fun v => ?_
        exact (OnlyFaults.orTooLarge large _).map _
      next => exact .ok _
    | cond test yes no =>
      rw [attempt]
      split
      next =>
        exact choose_onlyFaults large (below test (by simp [operands]))
          (below yes (by simp [operands])) (below no (by simp [operands]))
      next => exact .ok _
    | regex subject pattern flags =>
      cases pattern with
      | none => exact .ok _
      | some p => exact regex_onlyFaults (below subject (by simp [operands]))

/-- What the operator around an expression sees of it: whether it is a node, and what it comes
to. -/
def outcome (row : Entries) (e : Expr) : Bool × Except Fault Value :=
  (e.isNode, contain (e.attempt row))

theorem outcome_compositional (row : Entries) : Compositional (outcome row) := by
  have hall : ∀ {args args' : List Expr}, args.map (outcome row) = args'.map (outcome row) →
      attemptAll row args = attemptAll row args' := by
    intro args args' h
    have hsnd := congrArg (List.map Prod.snd) h
    rw [List.map_map, List.map_map] at hsnd
    rw [attemptAll_eq_map, attemptAll_eq_map]
    exact hsnd
  have split {e e' : Expr} (h : outcome row e = outcome row e') :
      e.isNode = e'.isNode ∧ contain (e.attempt row) = contain (e'.attempt row) :=
    Prod.mk.inj h
  constructor
  case variadic =>
    intro op args args' h
    rw [outcome, outcome, attempt, attempt, hall h]
    rfl
  case binary =>
    intro op left left' right right' hl hr
    rw [outcome, outcome, attempt, attempt, (split hl).2, (split hr).2]
    rfl
  case connective =>
    intro op args args' h
    rw [outcome, outcome, attempt, attempt, hall h]
    rfl
  case not =>
    intro arg arg' h
    rw [outcome, outcome, attempt, attempt, (split h).1, (split h).2]
    rfl
  case cond =>
    intro test test' yes yes' no no' ht hy hn
    rw [outcome, outcome, attempt, attempt, (split ht).1, (split ht).2, (split hy).1, (split hy).2,
      (split hn).1, (split hn).2]
    rfl
  case regex =>
    intro subject subject' pattern flags h
    cases pattern with
    | none => rfl
    | some p =>
      rw [outcome, outcome, attempt, attempt, (split h).1, (split h).2]
      rfl

end Expr

/-- One subexpression, whose operator meets a number beyond the range of doubles, is replaced by
the constant null. -/
inductive OverflowNulled (row : Entries) : Value → Value → Prop
  | here {v} : (Expr.ofValue v).attempt row = .error .tooLarge →
      OverflowNulled row v (.object [("op", .str "const"), ("value", .null)])
  | operand {node op key child} : Node.operator? node = some op → key ∈ op.operandKeys →
      OverflowNulled row (node.getD key) child →
      OverflowNulled row (.object node) (.object (node.put key child))
  | item {front back v w} : OverflowNulled row v w →
      OverflowNulled row (.list (front ++ v :: back)) (.list (front ++ w :: back))

theorem OverflowNulled.sameShape {row : Entries} {v w : Value} (h : OverflowNulled row v w) :
    SameShape (Expr.outcome row) v w := by
  induction h with
  | @here v overflow =>
    cases v with
    | object node =>
      have hnode : (Expr.ofValue (.object node)).isNode = true := by
        by_contra hn
        cases he : Expr.ofValue (.object node) <;> simp_all [Expr.isNode, Expr.attempt]
      refine ⟨congrArg (Prod.mk false) ?_, rfl⟩
      rw [Expr.outcome, overflow, hnode]
      rfl
    | _ => simp [Expr.ofValue, Expr.attempt] at overflow
  | operand ho hk _ ih => exact ih.put_operand (Expr.outcome_compositional row) ho hk
  | item _ ih => exact ih.item

/-- One more than an operand. -/
def oneMoreThan (operand : Value) : Value :=
  .object [("op", .str "add"),
    ("args", .list [.object [("op", .str "const"), ("value", .int 1)], operand])]

/-- The comparison of a number beyond the range of doubles. -/
def vastComparison : Value :=
  .object [("op", .str "gt"), ("left", .object [("op", .str "const"), ("value", .int (10 ^ 400))]),
    ("right", .object [("op", .str "const"), ("value", .int 1)])]

end GridRules
