import GridRules.Text.Utf8
/-!
Percent escapes, and the form encoding of queries, in which a plus sign stands for a space.
-/

namespace GridRules

namespace Url

def isHexDigit (c : Char) : Bool :=
  c.isDigit || ('a' ≤ c && c ≤ 'f') || ('A' ≤ c && c ≤ 'F')

def hexValue (c : Char) : Nat :=
  if c.isDigit then c.toNat - 0x30
  else if 'a' ≤ c then c.toNat - 0x57
  else c.toNat - 0x37

/-- An upper case hexadecimal digit. -/
def hexDigit (n : Nat) : Char :=
  if n < 10 then Char.ofNat (0x30 + n) else Char.ofNat (0x37 + n)

/-- Letters, digits and the marks that never need an escape. -/
def isUnreserved (c : Char) : Bool :=
  c.isAlphanum || c == '-' || c == '.' || c == '_' || c == '~'

def escapeByte (byte : UInt8) : List Char :=
  ['%', hexDigit (byte.toNat / 16), hexDigit (byte.toNat % 16)]

/-- A character, escaped byte by byte unless it is safe. -/
def escapeChar (safe : Char → Bool) (c : Char) : List Char :=
  if isUnreserved c || safe c then [c] else (String.utf8EncodeChar c).flatMap escapeByte

/-- Escapes what is not safe, and leaves the escapes that are there. -/
def escape (safe : Char → Bool) : List Char → List Char
  | [] => []
  | [c] => escapeChar safe c
  | [c, d] => escapeChar safe c ++ escapeChar safe d
  | c :: d :: e :: rest =>
    if c == '%' && isHexDigit d && isHexDigit e then c :: d :: e :: escape safe rest
    else escapeChar safe c ++ escape safe (d :: e :: rest)

/-- The bytes that a text with escapes stands for. -/
def unescapeBytes : List Char → List UInt8
  | [] => []
  | c :: d :: e :: rest =>
    if c == '%' && isHexDigit d && isHexDigit e then
      UInt8.ofNat (16 * hexValue d + hexValue e) :: unescapeBytes rest
    else String.utf8EncodeChar c ++ unescapeBytes (d :: e :: rest)
  | c :: rest => String.utf8EncodeChar c ++ unescapeBytes rest

/-- A name or value of a query, encoded. -/
def encodeForm (s : String) : List Char :=
  s.toList.flatMap fun c => if c == ' ' then ['+'] else escapeChar (fun _ => false) c

def decodeForm (cs : List Char) : String :=
  ofUtf8 (unescapeBytes (cs.map fun c => if c == '+' then ' ' else c))

/-- The text up to the first character that `p` accepts, and the text behind that character. -/
def cutAt (p : Char → Bool) (cs : List Char) : List Char × Option (List Char) :=
  match cs.dropWhile fun c => !p c with
  | [] => (cs, none)
  | _ :: rest => (cs.takeWhile fun c => !p c, some rest)

/-- The pieces between separators; there is one more of them than separators. -/
def splitAt (separator : Char) : List Char → List (List Char)
  | [] => [[]]
  | c :: rest =>
    if c == separator then [] :: splitAt separator rest
    else
      match splitAt separator rest with
      | piece :: pieces => (c :: piece) :: pieces
      | [] => [[c]]

def joinWith (separator : Char) (pieces : List (List Char)) : List Char :=
  [separator].intercalate pieces

/-- One name and value of a query; a name alone has an empty value. -/
def decodePair (piece : List Char) : String × String :=
  let (name, value) := cutAt (· == '=') piece
  (decodeForm name, decodeForm (value.getD []))

/-- The names and values of a query in their order. -/
def decodeQuery (query : List Char) : List (String × String) :=
  ((splitAt '&' query).filter fun piece => !piece.isEmpty).map decodePair

def encodeQuery (pairs : List (String × String)) : List Char :=
  joinWith '&' (pairs.map fun pair => encodeForm pair.1 ++ '=' :: encodeForm pair.2)

/-- Queries order values by the first place of their name. -/
def groupPairs (pairs : List (String × String)) : List (String × String) :=
  ((pairs.map (·.1)).eraseDups).flatMap fun name => pairs.filter fun pair => pair.1 == name

/-- Gives a name one value: in the place of its values, or behind all others. -/
def setPair (pairs : List (String × String)) (name value : String) : List (String × String) :=
  if pairs.any fun pair => pair.1 == name then
    ((pairs.map (·.1)).eraseDups).flatMap fun other =>
      if other == name then [(name, value)] else pairs.filter fun pair => pair.1 == other
  else groupPairs pairs ++ [(name, value)]

end Url

end GridRules
