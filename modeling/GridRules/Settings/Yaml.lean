import GridRules.Json.Read
import GridRules.Text.Blank
/-!
Reading settings files: YAML mappings in block style, nested by indentation, whose leaves are
scalars. A file with anything else in it is refused.
-/

namespace GridRules

namespace Yaml

def doubleQuote : Char := Char.ofNat 0x22

def singleQuote : Char := Char.ofNat 0x27

def withoutUnderscores (cs : List Char) : List Char :=
  cs.filter (· != '_')

def startsNumeral : List Char → Bool
  | c :: _ => c.isDigit || c == '+' || c == '-'
  | [] => false

/-- An unsigned integer, with its base in front unless that is ten. -/
def natural? : List Char → Option Nat
  | '0' :: 'b' :: digits => Numeral.inBase? 2 digits
  | '0' :: 'o' :: digits => Numeral.inBase? 8 digits
  | '0' :: 'x' :: digits => Numeral.inBase? 16 digits
  | digits => Numeral.inBase? 10 digits

def integer? (cs : List Char) : Option Int :=
  if startsNumeral cs then
    let (negative, rest) := Numeral.takeSign cs
    (natural? (withoutUnderscores rest)).map fun n => if negative then -(n : Int) else n
  else none

def isPointOrExponent (c : Char) : Bool :=
  c == '.' || c == 'e' || c == 'E'

/-- A double: a decimal with a point or an exponent, or a word for what is not finite. -/
def float? (cs : List Char) : Option Binary64 :=
  let (negative, rest) := Numeral.takeSign cs
  let word := String.ofList rest
  if [".inf", ".Inf", ".INF"].contains word then some (.infinite negative)
  else if [".nan", ".NaN", ".NAN"].contains (String.ofList cs) then some .nan
  else if rest.any isPointOrExponent && (rest.head?).any (· != '_') then
    (Numeral.decimal? (withoutUnderscores rest)).map fun (digits, scale) =>
      Binary64.ofDecimal negative digits scale
  else none

/-- The value of a scalar without quotes. -/
def plainValue (s : String) : Value :=
  if ["", "~", "null", "Null", "NULL"].contains s then .null
  else if ["true", "True", "TRUE"].contains s then .bool true
  else if ["false", "False", "FALSE"].contains s then .bool false
  else
    match integer? s.toList, float? s.toList with
    | some n, _ => .int n
    | none, some x => .float x
    | none, none => .str s

/-- Characters that a scalar without quotes cannot begin with. -/
def isIndicator (c : Char) : Bool :=
  "[]\x7b\x7d,#&*!|>%@`".toList.contains c || c == doubleQuote || c == singleQuote

/-- What stands between double quotes, escapes included, and what follows. -/
def doubleQuoted? : List Char → Option (List Char × List Char)
  | [] => none
  | '\\' :: c :: rest =>
    (doubleQuoted? rest).map fun (inner, behind) => ('\\' :: c :: inner, behind)
  | c :: rest =>
    if c == doubleQuote then some ([], rest)
    else (doubleQuoted? rest).map fun (inner, behind) => (c :: inner, behind)

/-- What stands between single quotes, where two of them stand for one, and what follows. -/
def singleQuoted? : List Char → Option (List Char × List Char)
  | [] => none
  | [c] => if c == singleQuote then some ([], []) else none
  | c :: d :: rest =>
    if c == singleQuote then
      if d == singleQuote then
        (singleQuoted? rest).map fun (inner, behind) => (c :: inner, behind)
      else some ([], d :: rest)
    else (singleQuoted? (d :: rest)).map fun (inner, behind) => (c :: inner, behind)

/-- A quoted text and what follows it. -/
def quoted? : List Char → Option (String × List Char)
  | [] => none
  | c :: rest =>
    if c == doubleQuote then do
      let (inner, behind) ← doubleQuoted? rest
      match Json.read (String.ofList (doubleQuote :: inner ++ [doubleQuote])) with
      | .ok (.str s) => return (s, behind)
      | _ => none
    else if c == singleQuote then
      (singleQuoted? rest).map fun (inner, behind) => (String.ofList inner, behind)
    else none

def isGap (c : Char) : Bool :=
  c == ' ' || c == '\t'

/-- What follows the gap behind something. -/
def skipGap (cs : List Char) : List Char :=
  cs.dropWhile isGap

/-- A text up to a comment, which has a gap before it. -/
def beforeComment : List Char → List Char
  | [] => []
  | [c] => [c]
  | c :: d :: rest => if isGap c && d == '#' then [] else c :: beforeComment (d :: rest)

/-- Whether nothing but a comment follows. -/
def isEnd (cs : List Char) : Bool :=
  match skipGap cs with
  | [] => true
  | c :: _ => c == '#' && (cs.head?).any isGap

/-- Whether nothing or a gap follows. -/
def endsWord (cs : List Char) : Bool :=
  cs.isEmpty || (cs.head?).any isGap

/-- A text before a colon at the end or before a gap, and what follows the colon. -/
def splitAtColon? : List Char → Option (List Char × List Char)
  | [] => none
  | ':' :: rest =>
    if endsWord rest then some ([], rest)
    else (splitAtColon? rest).map fun (before, behind) => (':' :: before, behind)
  | c :: rest => (splitAtColon? rest).map fun (before, behind) => (c :: before, behind)

/-- Whether a text can be a scalar without quotes. -/
def isPlain (cs : List Char) : Bool :=
  match cs with
  | [] => false
  | c :: rest =>
    !isIndicator c && !isGap c && !((c == '-' || c == '?' || c == ':') && endsWord rest)

/-- The key of a line, and what follows its colon. -/
def key? (cs : List Char) : Option (String × List Char) :=
  match quoted? cs with
  | some (key, behind) =>
    match skipGap behind with
    | ':' :: rest => if endsWord rest then some (key, rest) else none
    | _ => none
  | none => do
    let (before, behind) ← splitAtColon? cs
    let key := trimList isGap before
    if isPlain before && beforeComment before == before then some (String.ofList key, behind)
    else none

/-- What stands behind a key: a scalar, or nothing. -/
def scalar? (behind : List Char) : Option (Option Value) :=
  if isEnd behind then some none
  else
    let cs := skipGap behind
    match quoted? cs with
    | some (s, rest) => if isEnd rest then some (some (.str s)) else none
    | none =>
      let plain := trimList isGap (beforeComment cs)
      if isPlain plain && (splitAtColon? plain).isNone then
        some (some (plainValue (String.ofList plain)))
      else none

/-- A line that is neither empty nor a comment. -/
structure Line where
  indent : Nat
  content : List Char

/-- The line of a text that has one. Only spaces indent. -/
def line? (cs : List Char) : Option Line :=
  let indent := (cs.takeWhile (· == ' ')).length
  let content := ((cs.drop indent).reverse.dropWhile fun c => isGap c || c == '\r').reverse
  match content with
  | [] => none
  | c :: _ => if c == '#' then none else some ⟨indent, content⟩

/-- The lines of a text; a marker for the start of a document may come first. -/
def linesOf (text : String) : List Line :=
  let lines := (text.splitToList (· == '\n')).filterMap fun line => line? line.toList
  match lines with
  | first :: rest => if first.content == "---".toList then rest else lines
  | [] => []

/-- The indentation of the next line. -/
def nextIndent : List Line → Nat
  | next :: _ => next.indent
  | [] => 0

/-- Reads the entries that have an indentation. Every step uses up a line, so that as many steps
as there are lines are enough. -/
def readBlock (indent : Nat) : Nat → List Line → Option (Entries × List Line)
  | 0, lines => if lines.isEmpty then some ([], []) else none
  | _ + 1, [] => some ([], [])
  | fuel + 1, line :: rest =>
    if line.indent < indent then some ([], line :: rest)
    else if indent < line.indent then none
    else do
      let (key, behind) ← key? line.content
      let scalar ← scalar? behind
      let (v, rest) ←
        if scalar.isNone && indent < nextIndent rest then
          (readBlock (nextIndent rest) fuel rest).map fun (entries, rest) => (.object entries, rest)
        else some (scalar.getD .null, rest)
      let (entries, rest) ← readBlock indent fuel rest
      return ((key, v) :: entries, rest)

/-- The mapping of a text; an empty text is an empty mapping. -/
def read? (text : String) : Option Entries :=
  let lines := linesOf text
  match lines with
  | [] => some []
  | first :: _ =>
    match readBlock first.indent lines.length lines with
    | some (entries, []) => some entries
    | _ => none

end Yaml

end GridRules
