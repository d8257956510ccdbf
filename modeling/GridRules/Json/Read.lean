import GridRules.Number.Numeral
import GridRules.Text.Escape
import GridRules.Value.Basic
/-!
Reading JSON text. Beside JSON proper the words NaN, Infinity and -Infinity are read as numbers;
`readFinite` then refuses what is not finite. A problem is reported with its place in the text.
-/

namespace GridRules

namespace Json

inductive Problem where
  | byteOrderMark
  | expectingValue
  | expectingName
  | expectingColon
  | expectingComma
  | unterminatedString
  | controlCharacter
  | badEscape
  | badUnicodeEscape
  | extraData
  deriving DecidableEq

def Problem.text : Problem → String
  | .byteOrderMark => "Unexpected UTF-8 BOM (decode using utf-8-sig)"
  | .expectingValue => "Expecting value"
  | .expectingName => "Expecting property name enclosed in double quotes"
  | .expectingColon => "Expecting ':' delimiter"
  | .expectingComma => "Expecting ',' delimiter"
  | .unterminatedString => "Unterminated string starting at"
  | .controlCharacter => "Invalid control character at"
  | .badEscape => "Invalid \\escape"
  | .badUnicodeEscape => "Invalid \\uXXXX escape"
  | .extraData => "Extra data"

inductive ReadError where
  | problem (kind : Problem) (position : Nat)
  /-- An integer has more digits than can be converted. -/
  | integerTooLong
  /-- A number in the text is NaN or infinite. -/
  | notFinite
  deriving DecidableEq

/-- Line and column of a position, both from one. -/
def lineAndColumn (text : List Char) (position : Nat) : Nat × Nat :=
  (text.take position).foldl
    (fun place c => if c = '\n' then (place.1 + 1, 1) else (place.1, place.2 + 1)) (1, 1)

/-- The message for a text that cannot be read. -/
def ReadError.message (text : String) : ReadError → String
  | .problem kind position =>
    let place := lineAndColumn text.toList position
    kind.text ++ ": line " ++ toString place.1 ++ " column " ++ toString place.2 ++ " (char " ++
      toString position ++ ")"
  | .integerTooLong => "integer has too many digits"
  | .notFinite => "JSON contains non-finite values (NaN or Infinity)"

/-- What is left of a text, and how far it is from the start. -/
structure Cursor where
  position : Nat
  rest : List Char

/-- An integer has at most this many digits. -/
def maxDigits : Nat := 4300

def isSpace (c : Char) : Bool :=
  c == ' ' || c == '\t' || c == '\n' || c == '\r'

def skipSpaces : Nat → List Char → Cursor
  | position, [] => ⟨position, []⟩
  | position, c :: rest =>
    if isSpace c then skipSpaces (position + 1) rest else ⟨position, c :: rest⟩

def Cursor.skip (s : Cursor) : Cursor :=
  skipSpaces s.position s.rest

def Cursor.drop (s : Cursor) (n : Nat) : Cursor :=
  ⟨s.position + n, s.rest.drop n⟩

def fail {α : Type} (kind : Problem) (position : Nat) : Except ReadError α :=
  .error (.problem kind position)

/-- The code of four hexadecimal digits. -/
def hexCode? (digits : List Char) : Option Nat :=
  if digits.length = 4 then Numeral.inBase? 16 digits else none

/-- A unicode escape at `position`, from behind its `u`; a pair of halves makes one character. -/
def unicodeEscape (position : Nat) (rest : List Char) :
    Except ReadError (Char × Cursor) :=
  if (rest.drop 4).isEmpty then fail .badUnicodeEscape (position + 1)
  else
    match hexCode? (rest.take 4) with
    | none => fail .badUnicodeEscape (position + 1)
    | some code =>
      let single : Char × Cursor := (Char.ofNat code, ⟨position + 6, rest.drop 4⟩)
      if 0xD800 ≤ code && code < 0xDC00 && !(rest.drop 10).isEmpty then
        match rest.drop 4 with
        | '\\' :: 'u' :: more =>
          match hexCode? (more.take 4) with
          | none => fail .badUnicodeEscape (position + 7)
          | some low =>
            if 0xDC00 ≤ low && low < 0xE000 then
              .ok (Char.ofNat (ofSurrogates code low), ⟨position + 12, more.drop 4⟩)
            else .ok single
        | _ => .ok single
      else .ok single

def simpleEscape? (c : Char) : Option Char :=
  match c with
  | '"' => some '"'
  | '\\' => some '\\'
  | '/' => some '/'
  | 'b' => some (Char.ofNat 8)
  | 'f' => some (Char.ofNat 12)
  | 'n' => some '\n'
  | 'r' => some '\r'
  | 't' => some '\t'
  | _ => none

/-- The rest of a string that began at `start`; characters are gathered latest first. -/
def stringTail (start : Nat) : Nat → List Char → Cursor → Except ReadError (String × Cursor)
  | 0, _, _ => fail .unterminatedString start
  | fuel + 1, taken, ⟨position, rest⟩ =>
    match rest with
    | [] => fail .unterminatedString start
    | c :: rest =>
      if c = '"' then .ok (String.ofList taken.reverse, ⟨position + 1, rest⟩)
      else if c = '\\' then
        match rest with
        | [] => fail .unterminatedString start
        | d :: rest =>
          if d = 'u' then
            match unicodeEscape position rest with
            | .ok (e, next) => stringTail start fuel (e :: taken) next
            | .error e => .error e
          else
            match simpleEscape? d with
            | some e => stringTail start fuel (e :: taken) ⟨position + 2, rest⟩
            | none => fail .badEscape position
      else if c.toNat < 0x20 then fail .controlCharacter position
      else stringTail start fuel (c :: taken) ⟨position + 1, rest⟩

/-- A string from behind its opening quote; `fuel` exceeds the length of what is left. -/
def readString (fuel : Nat) (s : Cursor) : Except ReadError (String × Cursor) :=
  stringTail (s.position - 1) fuel [] s

/-- The fraction and the exponent of a number, if they are complete. -/
def numberTail (rest : List Char) : List Char :=
  let fraction := match rest with
    | '.' :: d :: more => if d.isDigit then '.' :: d :: more.takeWhile Char.isDigit else []
    | _ => []
  let behind := rest.drop fraction.length
  let exponent := match behind with
    | e :: more =>
      if e = 'e' ∨ e = 'E' then
        let sign := match more with
          | c :: _ => if c = '+' ∨ c = '-' then [c] else []
          | [] => []
        let digits := (more.drop sign.length).takeWhile Char.isDigit
        if digits.isEmpty then [] else e :: (sign ++ digits)
      else []
    | [] => []
  fraction ++ exponent

/-- A number; where none begins, a value is missing. -/
def readNumber (s : Cursor) : Except ReadError (Value × Cursor) :=
  let sign := match s.rest with
    | '-' :: _ => ['-']
    | _ => []
  let body := s.rest.drop sign.length
  let whole := match body with
    | '0' :: _ => ['0']
    | _ => body.takeWhile Char.isDigit
  if whole.isEmpty then fail .expectingValue s.position
  else
    let tail := numberTail (body.drop whole.length)
    let next := s.drop (sign.length + whole.length + tail.length)
    if tail.isEmpty then
      if maxDigits < whole.length then .error .integerTooLong
      else
        let size : Int := Nat.ofDigitChars 10 whole 0
        .ok (.int (if sign.isEmpty then size else -size), next)
    else .ok (.float ((Numeral.float? (sign ++ whole ++ tail)).getD .nan), next)

/-- A word with a fixed meaning. -/
def word? (rest : List Char) : Option (Value × Nat) :=
  match rest with
  | 'n' :: 'u' :: 'l' :: 'l' :: _ => some (.null, 4)
  | 't' :: 'r' :: 'u' :: 'e' :: _ => some (.bool true, 4)
  | 'f' :: 'a' :: 'l' :: 's' :: 'e' :: _ => some (.bool false, 5)
  | 'N' :: 'a' :: 'N' :: _ => some (.float .nan, 3)
  | 'I' :: 'n' :: 'f' :: 'i' :: 'n' :: 'i' :: 't' :: 'y' :: _ => some (.float (.infinite false), 8)
  | '-' :: 'I' :: 'n' :: 'f' :: 'i' :: 'n' :: 'i' :: 't' :: 'y' :: _ =>
    some (.float (.infinite true), 9)
  | _ => none

mutual

def readValue : Nat → Cursor → Except ReadError (Value × Cursor)
  | 0, s => fail .expectingValue s.position
  | fuel + 1, s =>
    match s.rest with
    | '"' :: _ =>
      match readString fuel (s.drop 1) with
      | .ok (text, next) => .ok (.str text, next)
      | .error e => .error e
    | '[' :: _ =>
      let inside := (s.drop 1).skip
      match inside.rest with
      | ']' :: _ => .ok (.list [], inside.drop 1)
      | _ => readItems fuel [] inside
    | '\x7b' :: _ =>
      let inside := (s.drop 1).skip
      match inside.rest with
      | '\x7d' :: _ => .ok (.object [], inside.drop 1)
      | _ => readEntries fuel [] inside
    | rest =>
      match word? rest with
      | some (v, n) => .ok (v, s.drop n)
      | none => readNumber s

/-- The items of a list, latest first. -/
def readItems : Nat → List Value → Cursor → Except ReadError (Value × Cursor)
  | 0, _, s => fail .expectingValue s.position
  | fuel + 1, items, s =>
    match readValue fuel s with
    | .error e => .error e
    | .ok (v, next) =>
      let next := next.skip
      match next.rest with
      | ']' :: _ => .ok (.list (v :: items).reverse, next.drop 1)
      | ',' :: _ => readItems fuel (v :: items) (next.drop 1).skip
      | _ => fail .expectingComma next.position

/-- The entries of an object, latest first. -/
def readEntries : Nat → Entries → Cursor → Except ReadError (Value × Cursor)
  | 0, _, s => fail .expectingValue s.position
  | fuel + 1, entries, s =>
    match s.rest with
    | '"' :: _ =>
      match readString fuel (s.drop 1) with
      | .error e => .error e
      | .ok (key, next) =>
        let next := next.skip
        match next.rest with
        | ':' :: _ =>
          match readValue fuel (next.drop 1).skip with
          | .error e => .error e
          | .ok (v, next) =>
            let next := next.skip
            match next.rest with
            | '\x7d' :: _ => .ok (.object (objectOf ((key, v) :: entries).reverse), next.drop 1)
            | ',' :: _ => readEntries fuel ((key, v) :: entries) (next.drop 1).skip
            | _ => fail .expectingComma next.position
        | _ => fail .expectingColon next.position
    | _ => fail .expectingName s.position
where
  /-- A key that comes again keeps its place and takes the later value. -/
  objectOf (entries : Entries) : Entries :=
    Assoc.putAll [] entries

end

/-- Reads a text that holds one value and nothing else. -/
def read (text : String) : Except ReadError Value :=
  let chars := text.toList
  if chars.head? = some (Char.ofNat 0xFEFF) then fail .byteOrderMark 0
  else
    match readValue (2 * chars.length + 2) (skipSpaces 0 chars) with
    | .error e => .error e
    | .ok (v, next) =>
      let next := next.skip
      if next.rest.isEmpty then .ok v else fail .extraData next.position

mutual

/-- Whether every number in a value is finite. -/
def allFinite : Value → Bool
  | .float x => x.isFinite
  | .list items => itemsFinite items
  | .object entries => entriesFinite entries
  | _ => true

def itemsFinite : List Value → Bool
  | [] => true
  | v :: rest => allFinite v && itemsFinite rest

def entriesFinite : List (String × Value) → Bool
  | [] => true
  | (_, v) :: rest => allFinite v && entriesFinite rest

end

/-- Reads a text whose numbers must be finite. -/
def readFinite (text : String) : Except ReadError Value := do
  let v ← read text
  if allFinite v then return v else .error .notFinite

end Json

end GridRules
