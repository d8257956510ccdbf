import GridRules.Value.Basic
/-!
Three notions of equality. Equality by value takes a truth value for the number it stands for, at
every depth. Strict equality keeps numbers apart from everything else at the top, and NaN equals
itself there. Sameness, which decides whether a computed value is a change, holds for scalars only.

Values have no identity here. What is in a list or an object is compared even where it is one and
the same thing on both sides, and where a program looks at that first, NaN makes a difference: it is
not equal to itself, but a NaN that is the very same thing is found equal there. Of values that hold
no NaN the three notions say what they are meant to say.
-/

namespace GridRules

namespace Value

/-- The number a scalar stands for, truth values included. -/
def numeric? : Value → Option Number
  | .bool b => some (.int (if b then 1 else 0))
  | .int n => some (.int n)
  | .float x => some (.float x)
  | _ => none

mutual

/-- Equality by value; the order of keys does not matter. NaN is equal to nothing, and what holds
NaN is not either. -/
def eqv : Value → Value → Bool
  | .null, .null => true
  | .str s, .str t => s == t
  | .list xs, .list ys => eqvItems xs ys
  | .object es, .object fs => es.length == fs.length && eqvEntries es fs
  | .bool b, w => match w.numeric? with
    | some n => (Number.int (if b then 1 else 0)).eqv n
    | none => false
  | .int m, w => match w.numeric? with
    | some n => (Number.int m).eqv n
    | none => false
  | .float x, w => match w.numeric? with
    | some n => (Number.float x).eqv n
    | none => false
  | _, _ => false

def eqvItems : List Value → List Value → Bool
  | [], [] => true
  | x :: xs, y :: ys => eqv x y && eqvItems xs ys
  | _, _ => false

/-- Every entry has an equal partner under its key. -/
def eqvEntries : List (String × Value) → Entries → Bool
  | [], _ => true
  | (key, v) :: rest, fs =>
    (match fs.get? key with
      | some w => eqv v w
      | none => false) && eqvEntries rest fs

end

def sameKind : Value → Value → Bool
  | .null, .null | .bool _, .bool _ | .int _, .int _ | .float _, .float _ | .str _, .str _
  | .list _, .list _ | .object _, .object _ => true
  | _, _ => false

/-- Numbers are equal by value, NaN to itself; other values are equal if they are of one kind and
equal by value. -/
def strictEq (a b : Value) : Bool :=
  match a.number?, b.number? with
  | some m, some n => m.same n
  | none, none => a.sameKind b && a.eqv b
  | _, _ => false

/-- Whether two scalars are the same: numbers by value, NaN as itself, other scalars if they are of
one kind and equal. Lists and objects are never the same by what is in them. -/
def sameScalar (previous current : Value) : Bool :=
  match previous, current with
  | .null, .null => true
  | .bool a, .bool b => a == b
  | .str a, .str b => a == b
  | a, b =>
    match a.number?, b.number? with
    | some m, some n => m.same n
    | _, _ => false

/-- Whether an item equal by value is in the list. NaN is equal to nothing, so it is in no list, nor
is what holds NaN. -/
def memOf (v : Value) (items : List Value) : Bool :=
  items.any fun item => item.eqv v

end Value

end GridRules
