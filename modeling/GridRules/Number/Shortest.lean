import GridRules.Number.Binary64
/-!
The shortest decimal that reads back as a given double, and its layout. Finding the digits is the
same everywhere; a `DecimalLayout` says how one format writes them down.
-/

namespace GridRules

namespace Binary64

/-- Four times the distance, in units, from a finite value down to the end of the interval that
rounds to it. Below a power of two the neighbour is only half as far. -/
def reachBelow : Binary64 → Nat
  | .finite _ significand exponent _ =>
    if significand = Nat.pow 2 52 ∧ exponent ≠ 0 then Nat.pow 2 exponent
    else 2 * Nat.pow 2 exponent
  | _ => 0

def reachAbove : Binary64 → Nat
  | .finite _ _ exponent _ => 2 * Nat.pow 2 exponent
  | _ => 0

/-- The ends of the interval belong to it exactly if the significand is even. -/
def evenSignificand : Binary64 → Bool
  | .finite _ significand _ _ => significand % 2 == 0
  | _ => false

/-- Whether `n / d` units round to the finite value `x`, signs aside. -/
def roundsFrom (x : Binary64) (n d : Nat) : Bool :=
  let low := (4 * x.magnitude - x.reachBelow) * d
  let high := (4 * x.magnitude + x.reachAbove) * d
  if x.evenSignificand then low ≤ 4 * n && 4 * n ≤ high else low < 4 * n && 4 * n < high

/-- The number `p` with `10 ^ (p - 1) ≤ n / d < 10 ^ p`, for positive `n` and `d`. -/
def decimalPoint (n d : Nat) : Int :=
  ((Nat.toDigits 10 (n * Nat.pow 10 400 / d)).length : Int) - 400

/-- The better of the two neighbours of `x` on the grid of multiples of `10 ^ scale` that read
back as `x`, if one does; the even one if they are equally near. -/
def onGrid? (x : Binary64) (scale : Int) : Option Nat :=
  let up := Nat.pow 10 scale.toNat
  let down := Nat.pow 10 (-scale).toNat
  let n := x.magnitude * down
  let d := one * up
  let below := n / d
  let reads (c : Nat) := x.roundsFrom (c * up * one) down
  match reads below, reads (below + 1) with
  | true, true => some (nearestQuotient n d)
  | true, false => some below
  | false, true => some (below + 1)
  | false, false => none

/-- Digits and scale of the shortest decimal that reads back as the finite value `x`. -/
def shortest (x : Binary64) : Nat × Int :=
  if x.magnitude = 0 then (0, 0)
  else
    let point := decimalPoint x.magnitude one
    ((List.range 17).findSome? fun (k : Nat) =>
      let scale := point - (k + 1 : Int)
      (x.onGrid? scale).map (·, scale)).getD (0, 0)

end Binary64

/-- How a format writes a decimal: between which powers of ten it is positional, whether a whole
number keeps a fraction, the least number of exponent digits, the sign of zero, and the words for
what is not finite. -/
structure DecimalLayout where
  leastPositional : Int
  firstScientific : Int
  keepsFraction : Bool
  exponentDigits : Nat
  signedZero : Bool
  nan : String
  infinity : String

namespace DecimalLayout

/-- Trailing zeros carry no information once the position of the point is known. -/
def dropTrailingZeros (digits : List Char) : List Char :=
  (digits.reverse.dropWhile (· == '0')).reverse

def padLeft (width : Nat) (digits : List Char) : List Char :=
  List.replicate (width - digits.length) '0' ++ digits

/-- The text of `0.digits * 10 ^ point`. -/
def place (layout : DecimalLayout) (digits : List Char) (point : Int) : List Char :=
  let exponent := point - 1
  if layout.leastPositional ≤ exponent && exponent < layout.firstScientific then
    if point ≤ 0 then
      '0' :: '.' :: (List.replicate (-point).toNat '0' ++ digits)
    else if digits.length ≤ point.toNat then
      digits ++ List.replicate (point.toNat - digits.length) '0' ++
        (if layout.keepsFraction then ['.', '0'] else [])
    else digits.take point.toNat ++ '.' :: digits.drop point.toNat
  else
    let tail := digits.drop 1
    digits.take 1 ++ (if tail.isEmpty then [] else '.' :: tail) ++
      'e' :: (if exponent < 0 then '-' else '+') ::
        padLeft layout.exponentDigits (Nat.toDigits 10 exponent.natAbs)

/-- The text of a double in the given layout. -/
def text (layout : DecimalLayout) (x : Binary64) : String :=
  match x with
  | .nan => layout.nan
  | .infinite negative => if negative then "-" ++ layout.infinity else layout.infinity
  | .finite negative .. =>
    let body :=
      if x.isZero then '0' :: (if layout.keepsFraction then ['.', '0'] else [])
      else
        let (digits, scale) := x.shortest
        let all := Nat.toDigits 10 digits
        layout.place (dropTrailingZeros all) (all.length + scale)
    let signed := negative && (layout.signedZero || !x.isZero)
    String.ofList (if signed then '-' :: body else body)

end DecimalLayout

end GridRules
