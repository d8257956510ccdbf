import GridRules.Assoc
import GridRules.Text.Blank
/-!
Files with environment variables, one assignment a line. Values may be quoted, and may refer to
other variables in braces behind a dollar sign. Lines that are no assignments are passed over.
-/

namespace GridRules

namespace EnvFile

def isLineEnd (c : Char) : Bool :=
  c == '\n' || c == '\r'

/-- White space within a line. -/
def isGap (c : Char) : Bool :=
  isBlank c && !isLineEnd c

def skipGap (cs : List Char) : List Char :=
  cs.dropWhile isGap

/-- What follows the end of the line that is next. -/
def skipLineEnd : List Char → List Char
  | '\r' :: '\n' :: rest => rest
  | _ :: rest => rest
  | [] => []

/-- What follows this line. -/
def skipLine (cs : List Char) : List Char :=
  skipLineEnd (cs.dropWhile fun c => !isLineEnd c)

/-- What stands before a closing quote, escapes included, and what follows. A quote behind a
backslash closes only if no other does. -/
def quoted? (quote : Char) : List Char → Option (List Char × List Char)
  | [] => none
  | c :: rest =>
    if c == quote then some ([], rest)
    else
      match rest with
      | [] => none
      | d :: behind =>
        if c == '\\' && d == quote then
          match quoted? quote behind with
          | some (inner, behind) => some (c :: d :: inner, behind)
          | none => some ([c], behind)
        else (quoted? quote (d :: behind)).map fun (inner, behind) => (c :: inner, behind)

def doubleQuote : Char := Char.ofNat 0x22

def singleQuote : Char := Char.ofNat 0x27

/-- What characters behind a backslash stand for in single quotes. -/
def singleEscapes : List (Char × Char) :=
  [('\\', '\\'), (singleQuote, singleQuote)]

/-- What characters behind a backslash stand for in double quotes. -/
def doubleEscapes : List (Char × Char) :=
  singleEscapes ++ [(doubleQuote, doubleQuote), ('a', Char.ofNat 7), ('b', Char.ofNat 8),
    ('f', Char.ofNat 12), ('n', '\n'), ('r', '\r'), ('t', '\t'), ('v', Char.ofNat 11)]

/-- Replaces escapes; other backslashes stay. -/
def unescape (escapes : List (Char × Char)) : List Char → List Char
  | [] => []
  | [c] => [c]
  | c :: d :: rest =>
    if c == '\\' then
      match escapes.lookup d with
      | some e => e :: unescape escapes rest
      | none => c :: unescape escapes (d :: rest)
    else c :: unescape escapes (d :: rest)

/-- A text up to a comment, which has a blank before it. -/
def beforeComment : List Char → List Char
  | [] => []
  | [c] => [c]
  | c :: d :: rest =>
    if isBlank c && d == '#' then [] else c :: beforeComment (d :: rest)

/-- The value of an assignment, and what follows it; none if a quote is not closed. -/
def value? (cs : List Char) : Option (List Char × List Char) :=
  match cs with
  | [] => some ([], [])
  | c :: rest =>
    if c == singleQuote then
      (quoted? c rest).map fun (inner, behind) => (unescape singleEscapes inner, behind)
    else if c == doubleQuote then
      (quoted? c rest).map fun (inner, behind) => (unescape doubleEscapes inner, behind)
    else
      some (trimEnd (beforeComment (cs.takeWhile fun c => !isLineEnd c)),
        cs.dropWhile fun c => !isLineEnd c)
where
  trimEnd (cs : List Char) : List Char := (cs.reverse.dropWhile isBlank).reverse

/-- Drops the word that marks exported variables. -/
def skipExport (cs : List Char) : List Char :=
  let word := "export".toList
  if word.isPrefixOf cs && ((cs.drop word.length).head?).any isGap then
    skipGap (cs.drop word.length)
  else cs

/-- The name of a variable, and what follows it; none if there is no name. -/
def name? (cs : List Char) : Option (List Char × List Char) :=
  let isNameChar (c : Char) : Bool := c != '=' && c != '#' && !isBlank c
  match cs with
  | [] => none
  | c :: rest =>
    if c == singleQuote then
      let name := rest.takeWhile (· != singleQuote)
      match rest.drop name.length with
      | _ :: behind => if name.isEmpty then none else some (name, behind)
      | [] => none
    else
      let name := cs.takeWhile isNameChar
      if name.isEmpty then none else some (name, cs.drop name.length)

/-- Whether a line ends here, but for a comment. -/
def endsLine (cs : List Char) : Bool :=
  match skipGap cs with
  | [] => true
  | c :: _ => isLineEnd c || c == '#'

/-- An assignment at the start of a text, and what follows it; none if there is no assignment. -/
def assignment? (cs : List Char) : Option ((String × String) × List Char) := do
  let (name, rest) ← name? (skipExport cs)
  match skipGap rest with
  | '=' :: rest =>
    let (value, behind) ← value? (skipGap rest)
    if endsLine behind then return ((String.ofList name, String.ofList value), skipLine behind)
    else none
  | _ => none

/-- The assignments of a text. Every step drops a character at least. -/
def assignments : Nat → List Char → Assoc String
  | 0, _ => []
  | fuel + 1, cs =>
    match cs.dropWhile isBlank with
    | [] => []
    | c :: rest =>
      match assignment? (c :: rest) with
      | some (entry, behind) => entry :: assignments fuel behind
      | none => assignments fuel (skipLine (c :: rest))

/-- The name in a reference and its default, and what follows the brace that closes it. -/
def reference? (cs : List Char) : Option (String × String × List Char) :=
  let isNameChar (c : Char) : Bool := c != '\x7d' && c != ':'
  let name := String.ofList (cs.takeWhile isNameChar)
  match cs.dropWhile isNameChar with
  | '\x7d' :: rest => some (name, "", rest)
  | ':' :: '-' :: rest =>
    match rest.dropWhile (· != '\x7d') with
    | _ :: behind => some (name, String.ofList (rest.takeWhile (· != '\x7d')), behind)
    | [] => none
  | _ => none

/-- Replaces references by the values of variables. Every step drops a character at least. -/
def expand (environment : Assoc String) : Nat → List Char → String
  | 0, cs => String.ofList cs
  | _ + 1, [] => ""
  | fuel + 1, c :: rest =>
    match c, rest with
    | '$', '\x7b' :: inner =>
      match reference? inner with
      | some (name, default, behind) =>
        (environment.get? name).getD default ++ expand environment fuel behind
      | none => String.ofList [c] ++ expand environment fuel rest
    | _, _ => String.ofList [c] ++ expand environment fuel rest

/-- The variables of a file, in an environment that goes over them. -/
def read (text : String) (environment : Assoc String) : Assoc String :=
  (assignments text.length text.toList).foldl (fun found entry =>
    found.put entry.1
      (expand (found.putAll environment) entry.2.length entry.2.toList)) []

/-- An environment with the variables of a file that it does not have itself. -/
def extend (environment : Assoc String) (text : String) : Assoc String :=
  (read text environment).putAll environment

end EnvFile

end GridRules
