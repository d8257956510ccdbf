/-!
Double precision numbers as exact data. Every finite value is a whole number of units of
`2 ^ -1074`, so comparison is comparison of integers and each operation is one exact computation
followed by one rounding to the nearest value, a half going to the even neighbour.
-/

namespace GridRules

/-- A significand of at most 53 bits; below that width only at the smallest exponent. -/
def Binary64.Fits (significand exponent : Nat) : Prop :=
  significand < Nat.pow 2 53 ∧ exponent ≤ 2045 ∧ (Nat.pow 2 52 ≤ significand ∨ exponent = 0)

instance (significand exponent : Nat) : Decidable (Binary64.Fits significand exponent) := by
  unfold Binary64.Fits; infer_instance

/-- A double; `finite` stands for `± significand * 2 ^ exponent` units of `2 ^ -1074`. -/
inductive Binary64 where
  | nan
  | infinite (negative : Bool)
  | finite (negative : Bool) (significand exponent : Nat)
      (fits : Binary64.Fits significand exponent)
  deriving DecidableEq

namespace Binary64

/-- The number of units of `2 ^ -1074` in one. -/
def one : Nat := Nat.pow 2 1074

def zero : Binary64 := .finite false 0 0 (by decide)

def isNaN : Binary64 → Bool
  | .nan => true
  | _ => false

def isFinite : Binary64 → Bool
  | .finite .. => true
  | _ => false

def isZero : Binary64 → Bool
  | .finite _ significand _ _ => significand == 0
  | _ => false

def isNegative : Binary64 → Bool
  | .nan => false
  | .infinite negative => negative
  | .finite negative .. => negative

/-- The size of a finite value in units of `2 ^ -1074`. -/
def magnitude : Binary64 → Nat
  | .finite _ significand exponent _ => significand * Nat.pow 2 exponent
  | _ => 0

/-- A finite value in units of `2 ^ -1074`. -/
def units (x : Binary64) : Int :=
  if x.isNegative then -(x.magnitude : Int) else x.magnitude

/-- The integer a finite value without fraction stands for. -/
def toInt? : Binary64 → Option Int
  | x@(.finite ..) => if x.magnitude % one = 0 then some (x.units / (one : Int)) else none
  | _ => none

/-- The integer nearest to `n / d`; of two equally near ones the even one. -/
def nearestQuotient (n d : Nat) : Nat :=
  let q := n / d
  let r := n % d
  if d < 2 * r ∨ (2 * r = d ∧ q % 2 = 1) then q + 1 else q

/-- What does not fit any more is infinite. -/
def pack (negative : Bool) (significand exponent : Nat) : Binary64 :=
  if fits : Fits significand exponent then .finite negative significand exponent fits
  else .infinite negative

/-- The double nearest to `n / d` units of `2 ^ -1074`. -/
def ofUnits (negative : Bool) (n d : Nat) : Binary64 :=
  let exponent := (n / d).log2 - 52
  let significand := nearestQuotient n (d * Nat.pow 2 exponent)
  if significand < Nat.pow 2 53 then pack negative significand exponent
  else pack negative (significand / 2) (exponent + 1)

/-- The double nearest to `n / d`. -/
def ofRatio (negative : Bool) (n d : Nat) : Binary64 :=
  ofUnits negative (n * one) d

def ofInt (n : Int) : Binary64 :=
  ofRatio (n < 0) n.natAbs 1

/-- The double nearest to `digits * 10 ^ scale`. Scales far outside the range are cut short, since
then the result is zero or infinite whatever the digits are. -/
def ofDecimal (negative : Bool) (digits : Nat) (scale : Int) : Binary64 :=
  if digits = 0 then ofUnits negative 0 1
  else
    let top := scale + (digits.log2 / 3 + 1 : Nat)
    if top < -400 then ofUnits negative 0 1
    else if 400 < scale then .infinite negative
    else if 0 ≤ scale then ofRatio negative (digits * Nat.pow 10 scale.toNat) 1
    else ofRatio negative digits (Nat.pow 10 (-scale).toNat)

def neg : Binary64 → Binary64
  | .nan => .nan
  | .infinite negative => .infinite !negative
  | .finite negative significand exponent fits => .finite (!negative) significand exponent fits

/-- A sum that cancels is positive zero unless both terms are negative. -/
def add : Binary64 → Binary64 → Binary64
  | .nan, _ | _, .nan => .nan
  | .infinite a, .infinite b => if a = b then .infinite a else .nan
  | .infinite a, _ => .infinite a
  | _, .infinite b => .infinite b
  | x@(.finite ..), y@(.finite ..) =>
    let total := x.units + y.units
    if total = 0 then ofUnits (x.isNegative && y.isNegative) 0 1
    else ofUnits (total < 0) total.natAbs 1

def sub (x y : Binary64) : Binary64 :=
  x.add y.neg

def mul : Binary64 → Binary64 → Binary64
  | .nan, _ | _, .nan => .nan
  | x@(.finite ..), y@(.finite ..) =>
    ofUnits (x.isNegative != y.isNegative) (x.magnitude * y.magnitude) one
  | x, y => if x.isZero || y.isZero then .nan else .infinite (x.isNegative != y.isNegative)

/-- A quotient; the divisor zero gives an infinity, or NaN for zero by zero. -/
def div : Binary64 → Binary64 → Binary64
  | .nan, _ | _, .nan => .nan
  | .infinite _, .infinite _ => .nan
  | x@(.infinite _), y => .infinite (x.isNegative != y.isNegative)
  | x, y@(.infinite _) => ofUnits (x.isNegative != y.isNegative) 0 1
  | x@(.finite ..), y@(.finite ..) =>
    if y.isZero then if x.isZero then .nan else .infinite (x.isNegative != y.isNegative)
    else ofRatio (x.isNegative != y.isNegative) x.magnitude y.magnitude

end Binary64

end GridRules
