import GridRules.Fault
import GridRules.Value.Text
/-!
JSON text in ASCII. Compact text has its keys in the order of the object or sorted by code point;
indented text has every item on a line of its own, two spaces further in than what holds it.
-/

namespace GridRules

namespace Json

/-- The layout of numbers in JSON text; what is not finite has a word. -/
def numberLayout : DecimalLayout :=
  ⟨-4, 16, true, 2, true, "NaN", "Infinity"⟩

def asciiEscape (c : Char) : List Char :=
  let n := c.toNat
  if n == 0x22 || n == 0x5C then ['\\', c]
  else if n == 0x08 then ['\\', 'b']
  else if n == 0x0C then ['\\', 'f']
  else if n == 0x0A then ['\\', 'n']
  else if n == 0x0D then ['\\', 'r']
  else if n == 0x09 then ['\\', 't']
  else if 0x20 ≤ n && n < 0x7F then [c]
  else (units16 [c]).flatMap fun unit => ['\\', 'u'] ++ hexDigits 4 unit

/-- A text in double quotes with everything outside printable ASCII escaped. -/
def asciiString (s : String) : String :=
  "\"" ++ String.ofList (s.toList.flatMap asciiEscape) ++ "\""

/-- The order of keys by code point. -/
def keyLe (a b : String × String) : Bool :=
  a.1 ≤ b.1

mutual

/-- The compact text of a value, with sorted keys on request. -/
def write (sorted : Bool) : Value → String
  | .null => "null"
  | .bool b => if b then "true" else "false"
  | .int n => toString n
  | .float x => numberLayout.text x
  | .str s => asciiString s
  | .list items => "[" ++ String.intercalate "," (writeItems sorted items) ++ "]"
  | .object entries =>
    let written := writeEntries sorted entries
    let ordered := if sorted then written.mergeSort keyLe else written
    "\x7b" ++ String.intercalate "," (ordered.map fun e => asciiString e.1 ++ ":" ++ e.2) ++ "\x7d"

def writeItems (sorted : Bool) : List Value → List String
  | [] => []
  | v :: rest => write sorted v :: writeItems sorted rest

def writeEntries (sorted : Bool) : List (String × Value) → List (String × String)
  | [] => []
  | (key, v) :: rest => (key, write sorted v) :: writeEntries sorted rest

end

end Json

namespace Value

/-- The text of a value in labels and ids: null is empty, truth values are lower case, whole
doubles have no fraction, lists and objects are JSON. -/
def plain : Value → String
  | .null => ""
  | .bool b => if b then "true" else "false"
  | .int n => toString n
  | .float x =>
    match x.toInt? with
    | some n => toString n
    | none => Json.numberLayout.text x
  | .str s => s
  | v => Json.write false v

/-- How many digits an integer may have where it is written. -/
def maxWrittenDigits : Nat := 4300

mutual

/-- Whether every integer in a value, at any depth, is short enough to be written. -/
def printable : Value → Bool
  | .int n => n.natAbs < 10 ^ maxWrittenDigits
  | .list items => itemsPrintable items
  | .object entries => entriesPrintable entries
  | _ => true

def itemsPrintable : List Value → Bool
  | [] => true
  | v :: rest => printable v && itemsPrintable rest

def entriesPrintable : List (String × Value) → Bool
  | [] => true
  | (_, v) :: rest => printable v && entriesPrintable rest

end

/-- The plain text of a value that may have been computed, so that an integer in it can be too long
to be written. -/
def plain? (v : Value) : Except Fault String :=
  if v.printable then .ok v.plain else .error .unwritableInteger

/-- The text under which equal values are recognised; the order of keys does not matter. -/
def stableKey : Value → String
  | v@(.list _) => Json.write true v
  | v@(.object _) => Json.write true v
  | v => v.plain

end Value

namespace Json

def newLine (depth : Nat) : String :=
  "\n" ++ String.ofList (List.replicate (2 * depth) ' ')

/-- Items between brackets, each on its line. -/
def onLines (depth : Nat) (opening closing : String) (items : List String) : String :=
  if items.isEmpty then opening ++ closing
  else
    opening ++ newLine (depth + 1) ++ String.intercalate ("," ++ newLine (depth + 1)) items ++
      newLine depth ++ closing

mutual

/-- The text of a value at a depth. -/
def indented (depth : Nat) : Value → String
  | .list items => onLines depth "[" "]" (indentedItems (depth + 1) items)
  | .object entries =>
    onLines depth "\x7b" "\x7d" (indentedEntries (depth + 1) entries)
  | v => write false v

def indentedItems (depth : Nat) : List Value → List String
  | [] => []
  | v :: rest => indented depth v :: indentedItems depth rest

def indentedEntries (depth : Nat) : List (String × Value) → List String
  | [] => []
  | (key, v) :: rest =>
    (asciiString key ++ ": " ++ indented depth v) :: indentedEntries depth rest

end

end Json

end GridRules
