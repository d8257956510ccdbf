import GridRules.Value.Basic
import GridRules.Number.Shortest
import GridRules.Text.Escape
import GridRules.Text.Printable
/-!
The display form of a value: how messages and length checks show it. A text shows as itself on its
own, and in quotes inside a list or an object.
-/

namespace GridRules

/-- Positional from 0.0001 to below 10 ^ 16, whole numbers with a fraction, two exponent digits. -/
def displayLayout : DecimalLayout :=
  ⟨-4, 16, true, 2, true, "nan", "inf"⟩

/-- One character of a quoted text. -/
def quotedChar (quote c : Char) : List Char :=
  let n := c.toNat
  if c == quote || n == 0x5C then ['\\', c]
  else if n == 0x0A then ['\\', 'n']
  else if n == 0x0D then ['\\', 'r']
  else if n == 0x09 then ['\\', 't']
  else if isPrintable c then [c]
  else if n < 0x100 then ['\\', 'x'] ++ hexDigits 2 n
  else if n < 0x10000 then ['\\', 'u'] ++ hexDigits 4 n
  else ['\\', 'U'] ++ hexDigits 8 n

/-- A text in single quotes, or in double quotes if it holds single quotes only. -/
def quoted (s : String) : String :=
  let cs := s.toList
  let single := Char.ofNat 0x27
  let double := Char.ofNat 0x22
  let quote := if cs.contains single && !cs.contains double then double else single
  String.ofList (quote :: cs.flatMap (quotedChar quote) ++ [quote])

def bracketed (opening closing : String) (parts : List String) : String :=
  opening ++ String.intercalate ", " parts ++ closing

namespace Value

mutual

/-- The display form inside a list or an object. -/
def literal : Value → String
  | .null => "None"
  | .bool b => if b then "True" else "False"
  | .int n => toString n
  | .float x => displayLayout.text x
  | .str s => quoted s
  | .list items => bracketed "[" "]" (literals items)
  | .object entries => bracketed "\x7b" "\x7d" (entryLiterals entries)

def literals : List Value → List String
  | [] => []
  | v :: rest => literal v :: literals rest

def entryLiterals : List (String × Value) → List String
  | [] => []
  | (key, v) :: rest => (quoted key ++ ": " ++ literal v) :: entryLiterals rest

end

/-- The display form of a value on its own. -/
def display : Value → String
  | .str s => s
  | v => v.literal

/-- The display form of a bound; a whole double loses its fraction. -/
def boundText : Value → String
  | .float x =>
    match x.toInt? with
    | some n => toString n
    | none => displayLayout.text x
  | v => v.display

/-- The word for what kind of value this is. -/
def kindName : Value → String
  | .null => "NoneType"
  | .bool _ => "bool"
  | .int _ => "int"
  | .float _ => "float"
  | .str _ => "str"
  | .list _ => "list"
  | .object _ => "dict"

end Value

end GridRules
