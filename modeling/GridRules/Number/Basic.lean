import GridRules.Number.Binary64
/-!
Numbers are exact integers or doubles. Integers stay exact among themselves; a mixed operation is
done on doubles and has no result if the integer is beyond their range. Comparison is exact.
-/

namespace GridRules

/-- A whole number above zero. -/
abbrev Positive := { n : Nat // 0 < n }

inductive Number where
  | int (n : Int)
  | float (x : Binary64)
  deriving DecidableEq

namespace Number

def nan : Number := .float .nan

/-- The double nearest to an integer, if the integer is not beyond the range of doubles. -/
def floatOfInt? (n : Int) : Option Binary64 :=
  let x := Binary64.ofInt n
  if x.isFinite then some x else none

def toFloat? : Number → Option Binary64
  | .int n => floatOfInt? n
  | .float x => some x

def isNaN : Number → Bool
  | .int _ => false
  | .float x => x.isNaN

/-- The test for NaN by way of doubles; it fails on an integer beyond their range. -/
def nanTest? (a : Number) : Option Bool :=
  a.toFloat?.map (·.isNaN)

/-- The test for finiteness by way of doubles; it fails on an integer beyond their range. -/
def finiteTest? (a : Number) : Option Bool :=
  a.toFloat?.map (·.isFinite)

/-- A place on the number line: `(0, u)` is `u` units of `2 ^ -1074`, and the infinities are
outside at `(-1, 0)` and `(1, 0)`. -/
def place : Number → Int × Int
  | .int n => (0, n * (Binary64.one : Int))
  | .float (.infinite negative) => (if negative then -1 else 1, 0)
  | .float x => (0, x.units)

/-- Equality by value; NaN equals nothing. -/
def eqv (a b : Number) : Bool :=
  !a.isNaN && !b.isNaN && a.place == b.place

def lt (a b : Number) : Bool :=
  !a.isNaN && !b.isNaN &&
    (a.place.1 < b.place.1 || (a.place.1 == b.place.1 && a.place.2 < b.place.2))

def le (a b : Number) : Bool :=
  a.lt b || a.eqv b

def isZero (a : Number) : Bool :=
  a.eqv (.int 0)

/-- Equality by value under which NaN equals itself. -/
def same (a b : Number) : Bool :=
  (a.isNaN && b.isNaN) || a.eqv b

/-- An operation that is exact on integers and rounded on doubles. -/
def arith? (onInts : Int → Int → Int) (onFloats : Binary64 → Binary64 → Binary64) :
    Number → Number → Option Number
  | .int m, .int n => some (.int (onInts m n))
  | a, b => do
    let x ← a.toFloat?
    let y ← b.toFloat?
    some (.float (onFloats x y))

def add? : Number → Number → Option Number := arith? (· + ·) Binary64.add

def sub? : Number → Number → Option Number := arith? (· - ·) Binary64.sub

def mul? : Number → Number → Option Number := arith? (· * ·) Binary64.mul

/-- The quotient as a double, for a divisor that is not zero. Integers are divided exactly and
rounded once; the quotient fails if it is beyond the range of doubles. -/
def div? : Number → Number → Option Number
  | .int m, .int n =>
    let x := Binary64.ofRatio (decide (m < 0) != decide (n < 0)) m.natAbs n.natAbs
    if x.isFinite then some (.float x) else none
  | a, b => do
    let x ← a.toFloat?
    let y ← b.toFloat?
    some (.float (x.div y))

end Number

end GridRules
