import GridRules.Expr.Evaluate
import Mathlib.Data.List.Basic

namespace GridRules

namespace Expr

/-- The expressions an expression is made of. -/
def operands : Expr → List Expr
  | .variadic _ args => args
  | .binary _ left right => [left, right]
  | .connective _ args => args
  | .not arg => [arg]
  | .cond test yes no => [test, yes, no]
  | .regex subject _ _ => [subject]
  | _ => []

theorem sizeOf_lt_of_mem_operands {arg e : Expr} (h : arg ∈ e.operands) :
    sizeOf arg < sizeOf e := by
  cases e with
  | variadic op args =>
    have := List.sizeOf_lt_of_mem (show arg ∈ args from h)
    simp only [Expr.variadic.sizeOf_spec]
    omega
  | connective op args =>
    have := List.sizeOf_lt_of_mem (show arg ∈ args from h)
    simp only [Expr.connective.sizeOf_spec]
    omega
  | binary op left right =>
    simp only [operands, List.mem_cons, List.not_mem_nil, or_false] at h
    simp only [Expr.binary.sizeOf_spec]
    rcases h with rfl | rfl <;> omega
  | not e =>
    have he : arg = e := by simpa [operands] using h
    simp only [he, Expr.not.sizeOf_spec]
    omega
  | cond test yes no =>
    simp only [operands, List.mem_cons, List.not_mem_nil, or_false] at h
    simp only [Expr.cond.sizeOf_spec]
    rcases h with rfl | rfl | rfl <;> omega
  | regex subject pattern flags =>
    have he : arg = subject := by simpa [operands] using h
    simp only [he, Expr.regex.sizeOf_spec]
    omega
  | invalid => simp [operands] at h
  | unknown => simp [operands] at h
  | const value => simp [operands] at h
  | field ref => simp [operands] at h
  | unpaired op => simp [operands] at h

/-- What holds of an expression whenever it holds of its operands holds of all expressions. -/
theorem operand_induction {motive : Expr → Prop}
    (step : ∀ e : Expr, (∀ arg ∈ e.operands, motive arg) → motive e) (e : Expr) : motive e :=
  step e fun arg _ => operand_induction step arg
termination_by sizeOf e
decreasing_by exact sizeOf_lt_of_mem_operands (by assumption)

/-- The first expression stands somewhere in the second one. -/
inductive Within : Expr → Expr → Prop
  | self (e : Expr) : Within e e
  | operand {inner arg e : Expr} : arg ∈ e.operands → Within inner arg → Within inner e

theorem attempt_variadic (row : Entries) (op : Variadic) (args : List Expr) :
    (variadic op args).attempt row = op.attempt (args.map (evaluate? row)) := by
  rw [attempt, attemptAll_eq_map]

theorem attempt_connective (row : Entries) (op : Connective) (args : List Expr) :
    (connective op args).attempt row = op.attempt (args.map (evaluate? row)) := by
  rw [attempt, attemptAll_eq_map]

end Expr

end GridRules
