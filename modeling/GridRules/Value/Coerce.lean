import GridRules.Number.Numeral
import GridRules.Value.Basic
/-!
Values as numbers and as truth values. Null and blank texts count as zero, a text counts as the
number it spells, and everything else that is no number is NaN.
-/

namespace GridRules

/-- The number a text spells; a blank text is zero and any other text NaN. There is no result for
a based literal beyond the range of doubles. -/
def numericText? (s : String) : Option Binary64 :=
  if isBlankText s then some .zero
  else
    match Numeral.authored? (trimList isBlank s.toList) with
    | some result => result
    | none => some .nan

namespace Value

def toNumber? : Value → Option Number
  | .null => some (.int 0)
  | .int n => some (.int n)
  | .float x => some (.float x)
  | .str s => if isBlankText s then some (.int 0) else (numericText? s).map .float
  | _ => some .nan

/-- The number of a value that is to be checked; here null and blank texts are no numbers. -/
def parseNumber? : Value → Option Number
  | .int n => some (.int n)
  | .float x => some (.float x)
  | .str s => if isBlankText s then some .nan else (numericText? s).map .float
  | _ => some .nan

/-- Null, false, zero, NaN and the empty text are false. The test fails on an integer beyond the
range of doubles. -/
def truthy? : Value → Option Bool
  | .null => some false
  | .bool b => some b
  | .int n => if n = 0 then some false else (Number.int n).nanTest?.map (!·)
  | .float x => some (!x.isZero && !x.isNaN)
  | .str s => some (s != "")
  | .list _ => some true
  | .object _ => some true

end Value

end GridRules
