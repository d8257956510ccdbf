import GridRules.Value.Text
import GridRules.Hash.Sha256
/-!
Canonical JSON: keys sorted by 16-bit units, no spaces, only what must be escaped is escaped, and
numbers as ECMAScript writes them. It covers integers below 2 ^ 53 in size and finite doubles, and
is the text under which plans and results are cached.
-/

namespace GridRules

/-- What canonical JSON cannot show. -/
inductive CanonicalError where
  | notFinite (x : Binary64)
  | integerTooLarge (n : Int)
  deriving DecidableEq

def CanonicalError.message : CanonicalError → String
  | .notFinite x => displayLayout.text x ++ " is not representable in JCS"
  | .integerTooLarge n => toString n ++ " exceeds safe integer domain for JSON floats"

namespace Canonical

/-- Positional from 10 ^ -6 to below 10 ^ 21, no fraction for whole numbers, no sign for zero. -/
def numberLayout : DecimalLayout :=
  ⟨-6, 21, false, 1, false, "NaN", "Infinity"⟩

def escape (c : Char) : List Char :=
  let n := c.toNat
  if n == 0x22 || n == 0x5C then ['\\', c]
  else if n == 0x08 then ['\\', 'b']
  else if n == 0x0C then ['\\', 'f']
  else if n == 0x0A then ['\\', 'n']
  else if n == 0x0D then ['\\', 'r']
  else if n == 0x09 then ['\\', 't']
  else if n < 0x20 then ['\\', 'u'] ++ hexDigits 4 n
  else [c]

def string (s : String) : String :=
  "\"" ++ String.ofList (s.toList.flatMap escape) ++ "\""

def keyLe (a b : String) : Bool :=
  !(units16 b.toList).lex (units16 a.toList)

/-- The first failure, or all results. -/
def allOk {α ε : Type} : List (Except ε α) → Except ε (List α)
  | [] => .ok []
  | .error e :: _ => .error e
  | .ok a :: rest => (allOk rest).map (a :: ·)

mutual

def write : Value → Except CanonicalError String
  | .null => .ok "null"
  | .bool b => .ok (if b then "true" else "false")
  | .int n =>
    if n.natAbs < Nat.pow 2 53 then .ok (toString n) else .error (.integerTooLarge n)
  | .float x =>
    if x.isFinite then .ok (numberLayout.text x) else .error (.notFinite x)
  | .str s => .ok (string s)
  | .list items => do
    let parts ← allOk (writeItems items)
    return "[" ++ String.intercalate "," parts ++ "]"
  | .object entries => do
    let sorted := (writeEntries entries).mergeSort fun a b => keyLe a.1 b.1
    let parts ← allOk (sorted.map fun e => e.2.map fun text => string e.1 ++ ":" ++ text)
    return "\x7b" ++ String.intercalate "," parts ++ "\x7d"

def writeItems : List Value → List (Except CanonicalError String)
  | [] => []
  | v :: rest => write v :: writeItems rest

def writeEntries : List (String × Value) → List (String × Except CanonicalError String)
  | [] => []
  | (key, v) :: rest => (key, write v) :: writeEntries rest

end

def hash (v : Value) : Except CanonicalError String :=
  (write v).map Sha256.ofText

/-- The digest of the display form. -/
def displayHash (v : Value) : String :=
  Sha256.ofText v.literal

/-- The key of a value in a cache: the digest of its canonical text, or of its display form where
there is no canonical text. -/
def signature (v : Value) : String :=
  match hash v with
  | .ok digest => digest
  | .error _ => displayHash v

end Canonical

/-- A value in which a list may also be a tuple or a set. -/
inductive Datum where
  | value (v : Value)
  | list (items : List Datum)
  | tuple (items : List Datum)
  | set (items : List Datum)
  | object (entries : List (String × Datum))

namespace Datum

mutual

/-- Tuples become lists, and sets become lists sorted by display form. -/
def toValue : Datum → Value
  | .value v => v
  | .list items => .list (toValues items)
  | .tuple items => .list (toValues items)
  | .set items => .list ((toValues items).mergeSort fun a b => decide (a.literal ≤ b.literal))
  | .object entries => .object (toEntries entries)

def toValues : List Datum → List Value
  | [] => []
  | d :: rest => toValue d :: toValues rest

def toEntries : List (String × Datum) → List (String × Value)
  | [] => []
  | (key, d) :: rest => (key, toValue d) :: toEntries rest

end

mutual

def literal : Datum → String
  | .value v => v.literal
  | .list items => bracketed "[" "]" (literals items)
  | .tuple items =>
    match literals items with
    | [part] => "(" ++ part ++ ",)"
    | parts => bracketed "(" ")" parts
  | .set items => if items.isEmpty then "set()" else bracketed "\x7b" "\x7d" (literals items)
  | .object entries => bracketed "\x7b" "\x7d" (entryLiterals entries)

def literals : List Datum → List String
  | [] => []
  | d :: rest => literal d :: literals rest

def entryLiterals : List (String × Datum) → List String
  | [] => []
  | (key, d) :: rest => (quoted key ++ ": " ++ literal d) :: entryLiterals rest

end

def canonicalJson (d : Datum) : Except CanonicalError String :=
  Canonical.write d.toValue

def hash (d : Datum) : Except CanonicalError String :=
  Canonical.hash d.toValue

def displayHash (d : Datum) : String :=
  Sha256.ofText d.literal

def signature (d : Datum) : String :=
  match d.hash with
  | .ok digest => digest
  | .error _ => d.displayHash

end Datum

end GridRules
