import GridRules.Expr.Basic
import GridRules.Json.Write
import GridRules.Regex.Match
import GridRules.Value.Coerce
import GridRules.Value.Equality
/-!
Evaluation of expressions over a row. What is malformed gives null, and so does an operator that
meets a number beyond the range of doubles, without harm to the expression around it. A regular
expression whose character sets clash breaks evaluation off, and so does one that is to search an
integer with too many digits to be written; these two are contained nowhere.
-/

namespace GridRules

namespace Variadic

def neutral : Variadic → Int
  | .add => 0
  | .mul => 1

def step? : Variadic → Number → Number → Option Number
  | .add => Number.add?
  | .mul => Number.mul?

/-- Combines the operands from left to right, each as soon as it is evaluated. -/
def combine (op : Variadic) : Number → List (Except Fault Value) → Except Fault Number
  | total, [] => .ok total
  | total, operand :: rest => do
    let n ← orTooLarge (← operand).toNumber?
    let next ← orTooLarge (op.step? total n)
    op.combine next rest

/-- The value of a sum or product; without operands it is NaN. -/
def attempt (op : Variadic) (operands : List (Except Fault Value)) : Except Fault Value :=
  if operands.isEmpty then .ok (.ofNumber .nan)
  else return .ofNumber (← op.combine (.int op.neutral) operands)

end Variadic

namespace Binary

/-- What an operator without operands gives. -/
def missing : Binary → Value
  | .sub | .div => .ofNumber .nan
  | .eq | .neq => .null
  | .gt | .gte | .lt | .lte => .bool false

/-- A comparison of numbers is false if one of them is NaN. -/
def order? (test : Number → Number → Bool) (a b : Value) : Option Value := do
  let m ← a.toNumber?
  let n ← b.toNumber?
  if ← m.nanTest? then return .bool false
  if ← n.nanTest? then return .bool false
  return .bool (test m n)

/-- Division by zero or NaN gives NaN. -/
def divide? (m n : Number) : Option Number := do
  if n.isZero then return .nan
  if ← n.nanTest? then return .nan
  m.div? n

def run? (op : Binary) (a b : Value) : Option Value :=
  match op with
  | .sub => do
    let m ← a.toNumber?
    let n ← b.toNumber?
    return .ofNumber (← m.sub? n)
  | .div => do
    let m ← a.toNumber?
    let n ← b.toNumber?
    return .ofNumber (← divide? m n)
  | .eq => some (.bool (a.strictEq b))
  | .neq => some (.bool (!a.strictEq b))
  | .gt => order? (fun m n => n.lt m) a b
  | .gte => order? (fun m n => n.le m) a b
  | .lt => order? Number.lt a b
  | .lte => order? Number.le a b

/-- Whether an operand is read as a number at once, before the other one is evaluated. -/
def readsNumbers : Binary → Bool
  | .eq | .neq => false
  | .sub | .div | .gt | .gte | .lt | .lte => true

def attempt (op : Binary) (left right : Except Fault Value) : Except Fault Value := do
  let a ← left
  if op.readsNumbers && a.toNumber?.isNone then throw .tooLarge
  let b ← right
  orTooLarge (op.run? a b)

end Binary

namespace Connective

/-- Evaluates operands until one decides. -/
def decide (op : Connective) : List (Except Fault Value) → Except Fault Bool
  | [] => .ok (op == .and)
  | operand :: rest => do
    let b ← orTooLarge (← operand).truthy?
    if b == (op == .or) then return b
    op.decide rest

/-- Without operands the result is false. -/
def attempt (op : Connective) (operands : List (Except Fault Value)) : Except Fault Value :=
  if operands.isEmpty then .ok (.bool false) else return .bool (← op.decide operands)

end Connective

namespace Expr

/-- A number beyond the range of doubles leaves null; other faults go on. -/
def contain : Except Fault Value → Except Fault Value
  | .error .tooLarge => .ok .null
  | outcome => outcome

/-- Only the branch that is chosen is evaluated. -/
def choose (condition yes no : Except Fault Value) : Except Fault Value := do
  if ← orTooLarge (← condition).truthy? then yes else no

mutual

/-- What the operator of an expression comes to over a row; its operands are contained, it is
not. -/
def attempt (row : Entries) : Expr → Except Fault Value
  | .invalid => .ok .null
  | .unknown => .ok .null
  | .const v => .ok v
  | .field (some ref) => .ok (row.getD ref)
  | .field none => .ok .null
  | .variadic op args => op.attempt (attemptAll row args)
  | .binary op left right => op.attempt (contain (left.attempt row)) (contain (right.attempt row))
  | .unpaired op => .ok op.missing
  | .connective op args => op.attempt (attemptAll row args)
  | .not arg =>
    if arg.isNode then
      return .bool !(← orTooLarge (← contain (arg.attempt row)).truthy?)
    else .ok .null
  | .cond test yes no =>
    if test.isNode && yes.isNode && no.isNode then
      choose (contain (test.attempt row)) (contain (yes.attempt row)) (contain (no.attempt row))
    else .ok .null
  | .regex subject pattern flags =>
    match pattern with
    | some p =>
      if subject.isNode then do
        let text ← (← contain (subject.attempt row)).plain?
        return .bool (← Regex.search p (.ofFlags flags) text)
      else .ok .null
    | none => .ok .null

/-- What operands come to. -/
def attemptAll (row : Entries) : List Expr → List (Except Fault Value)
  | [] => []
  | e :: rest => contain (e.attempt row) :: attemptAll row rest

end

/-- The value of an expression over a row, unless a regular expression breaks off. -/
def evaluate? (row : Entries) (e : Expr) : Except Fault Value :=
  contain (e.attempt row)

theorem attemptAll_eq_map (row : Entries) (es : List Expr) :
    attemptAll row es = es.map (evaluate? row) := by
  induction es with
  | nil => rfl
  | cons e rest ih => rw [attemptAll, ih, List.map_cons, evaluate?]

end Expr

/-- The value of a node over a row, unless a regular expression breaks off. -/
def evaluate? (node : Value) (row : Entries) : Except Fault Value :=
  (Expr.ofValue node).evaluate? row

end GridRules
