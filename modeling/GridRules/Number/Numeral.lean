import GridRules.Number.Binary64
import GridRules.Text.Blank
import GridRules.Text.Digit
/-!
Reading numbers. An authored numeral is a decimal with optional fraction and exponent, the word
Infinity, or a hexadecimal, octal or binary literal. A lenient numeral is a decimal in digits of
any script, with underscores between digits, or one of the words inf, infinity and nan.
-/

namespace GridRules

namespace Numeral

/-- A sign, if there is one, and the rest. -/
def takeSign : List Char → Bool × List Char
  | '-' :: rest => (true, rest)
  | '+' :: rest => (false, rest)
  | cs => (false, cs)

/-- An exponent part that reaches the end: nothing, or `e`, a sign and digits. -/
def exponent? : List Char → Option Int
  | [] => some 0
  | c :: rest =>
    if c = 'e' ∨ c = 'E' then
      let (negative, digits) := takeSign rest
      if digits.isEmpty || !digits.all Char.isDigit then none
      else
        let size : Int := Nat.ofDigitChars 10 digits 0
        some (if negative then -size else size)
    else none

/-- An unsigned decimal as digits and a power of ten: `12.5e3` is `125 * 10 ^ 2`. -/
def decimal? (cs : List Char) : Option (Nat × Int) :=
  let whole := cs.takeWhile Char.isDigit
  let afterWhole := cs.dropWhile Char.isDigit
  let afterPoint := match afterWhole with
    | '.' :: rest => rest
    | rest => rest
  let fraction := match afterWhole with
    | '.' :: rest => rest.takeWhile Char.isDigit
    | _ => []
  if whole.isEmpty && fraction.isEmpty then none
  else
    (exponent? (afterPoint.drop fraction.length)).map fun e =>
      (Nat.ofDigitChars 10 (whole ++ fraction) 0, e - fraction.length)

/-- A decimal with optional sign, rounded to a double. -/
def float? (cs : List Char) : Option Binary64 :=
  let (negative, rest) := takeSign cs
  (decimal? rest).map fun (digits, scale) => Binary64.ofDecimal negative digits scale

def digitValue? (c : Char) : Option Nat :=
  if c.isDigit then some (c.toNat - 48)
  else if 'a' ≤ c ∧ c ≤ 'f' then some (c.toNat - 87)
  else if 'A' ≤ c ∧ c ≤ 'F' then some (c.toNat - 55)
  else none

def inBase? (base : Nat) (cs : List Char) : Option Nat :=
  if cs.isEmpty then none
  else cs.foldl (fun total c => do
    let n ← total
    let d ← digitValue? c
    if d < base then some (base * n + d) else none) (some 0)

/-- A literal `0x…`, `0o…` or `0b…`. -/
def based? : List Char → Option Nat
  | '0' :: c :: digits =>
    if c = 'x' ∨ c = 'X' then inBase? 16 digits
    else if c = 'o' ∨ c = 'O' then inBase? 8 digits
    else if c = 'b' ∨ c = 'B' then inBase? 2 digits
    else none
  | _ => none

/-- An authored numeral without surrounding blanks: `none` if it is none, `some none` if it is a
based literal beyond the range of doubles. -/
def authored? (cs : List Char) : Option (Option Binary64) :=
  let (negative, rest) := takeSign cs
  if rest = "Infinity".toList then some (some (.infinite negative))
  else
    match float? cs with
    | some x => some (some x)
    | none => (based? cs).map fun n =>
      let x := Binary64.ofInt n
      if x.isFinite then some x else none

/-- Digits of any script as ASCII digits. -/
def asciiDigits (cs : List Char) : List Char :=
  cs.map fun c => match decimalValue? c with
    | some d => Nat.digitChar d
    | none => c

/-- Drops underscores that stand between two digits; any other underscore is refused. -/
def dropUnderscores? : Option Char → List Char → Option (List Char)
  | _, [] => some []
  | before, '_' :: rest =>
    match before, rest with
    | some b, d :: _ =>
      if b.isDigit && d.isDigit then dropUnderscores? none rest else none
    | _, _ => none
  | _, c :: rest => (dropUnderscores? (some c) rest).map (c :: ·)

/-- A lenient numeral; blanks around it are ignored. -/
def lenient? (s : String) : Option Binary64 := do
  let cs ← dropUnderscores? none (asciiDigits (trimList isBlank s.toList))
  let (negative, rest) := takeSign cs
  let word := String.ofList (rest.map Char.toLower)
  if word = "inf" || word = "infinity" then some (.infinite negative)
  else if word = "nan" then some .nan
  else float? cs

/-- An integer in decimal digits of any script, with a sign and underscores between digits. -/
def integer? (s : String) : Option Int := do
  let cs ← dropUnderscores? none (asciiDigits (trimList isBlank s.toList))
  let (negative, digits) := takeSign cs
  if digits.isEmpty || !digits.all Char.isDigit then none
  else
    let size : Int := Nat.ofDigitChars 10 digits 0
    some (if negative then -size else size)

end Numeral

end GridRules
