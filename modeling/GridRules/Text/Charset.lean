import GridRules.Text.Escape
import GridRules.Text.Lowercase
import GridRules.Text.Blank
import GridRules.Text.Utf8
/-!
Character sets that texts are sent in. The common ones are read here; a platform knows many more,
and how it reads those is a parameter. What is not known, and what is not named, is UTF-8.
-/

namespace GridRules

inductive Charset where
  | utf8
  | utf8Marked
  | latin1
  | ascii
  | windows1252
  | utf16
  | utf16Little
  | utf16Big
  deriving DecidableEq

namespace Charset

/-- Names in lower case, with hyphens. -/
def names : List (String × Charset) := [
  ("utf-8", .utf8), ("utf8", .utf8), ("u8", .utf8), ("utf", .utf8), ("utf-8-sig", .utf8Marked),
  ("latin-1", .latin1), ("latin1", .latin1), ("latin", .latin1), ("l1", .latin1),
  ("iso-8859-1", .latin1), ("iso8859-1", .latin1), ("8859", .latin1), ("cp819", .latin1),
  ("ascii", .ascii), ("us-ascii", .ascii), ("646", .ascii),
  ("windows-1252", .windows1252), ("cp1252", .windows1252), ("1252", .windows1252),
  ("utf-16", .utf16), ("utf16", .utf16), ("u16", .utf16),
  ("utf-16-le", .utf16Little), ("utf-16le", .utf16Little),
  ("utf-16-be", .utf16Big), ("utf-16be", .utf16Big)]

def ofName? (name : String) : Option Charset :=
  let spelled := (lowerText name).toList.map fun c => if c == '_' || c == ' ' then '-' else c
  names.lookup (String.ofList spelled)

/-- The characters of the bytes from 0x80 to 0x9F; zero stands for none. -/
def windowsCodes : List Nat := [
  0x20AC, 0, 0x201A, 0x192, 0x201E, 0x2026, 0x2020, 0x2021, 0x2C6, 0x2030, 0x160, 0x2039, 0x152, 0,
  0x17D, 0, 0, 0x2018, 0x2019, 0x201C, 0x201D, 0x2022, 0x2013, 0x2014, 0x2DC, 0x2122, 0x161, 0x203A,
  0x153, 0, 0x17E, 0x178]

def windowsChar (byte : Nat) : Char :=
  if 0x80 ≤ byte && byte < 0xA0 then
    match windowsCodes[byte - 0x80]? with
    | some (code + 1) => Char.ofNat (code + 1)
    | _ => replacementChar
  else Char.ofNat byte

/-- The 16-bit units of bytes; a byte left over at the end is one unit that is none. -/
def unitsOf (big : Bool) : List UInt8 → List Nat
  | [] => []
  | [_] => [0xD800]
  | a :: b :: rest =>
    (if big then 256 * a.toNat + b.toNat else 256 * b.toNat + a.toNat) :: unitsOf big rest

def readUnits : List Nat → List Char
  | [] => []
  | high :: low :: rest =>
    if 0xD800 ≤ high && high < 0xDC00 && 0xDC00 ≤ low && low < 0xE000 then
      Char.ofNat (ofSurrogates high low) :: readUnits rest
    else if 0xD800 ≤ high && high < 0xE000 then replacementChar :: readUnits (low :: rest)
    else Char.ofNat high :: readUnits (low :: rest)
  | [unit] => if 0xD800 ≤ unit && unit < 0xE000 then [replacementChar] else [Char.ofNat unit]

def readUtf16 (bytes : List UInt8) : List Char :=
  match unitsOf false bytes with
  | 0xFEFF :: units => readUnits units
  | 0xFFFE :: _ => readUnits ((unitsOf true bytes).drop 1)
  | units => readUnits units

/-- The text of bytes in a character set. -/
def decode (charset : Charset) (bytes : List UInt8) : String :=
  match charset with
  | .utf8 => ofUtf8 bytes
  | .utf8Marked =>
    match bytes with
    | 0xEF :: 0xBB :: 0xBF :: rest => ofUtf8 rest
    | bytes => ofUtf8 bytes
  | .latin1 => String.ofList (bytes.map fun b => Char.ofNat b.toNat)
  | .ascii => String.ofList (bytes.map fun b =>
      if b.toNat < 0x80 then Char.ofNat b.toNat else replacementChar)
  | .windows1252 => String.ofList (bytes.map fun b => windowsChar b.toNat)
  | .utf16 => String.ofList (readUtf16 bytes)
  | .utf16Little => String.ofList (readUnits (unitsOf false bytes))
  | .utf16Big => String.ofList (readUnits (unitsOf true bytes))

/-- The pieces of a content type between semicolons. -/
def parameters (contentType : String) : List String :=
  (contentType.splitToList (· == ';')).map trimBlank

/-- The name of the character set in a content type. -/
def nameIn? (contentType : Option String) : Option String :=
  contentType.bind fun text => (parameters text).findSome? fun parameter =>
    match parameter.toList.span (· != '=') with
    | (name, '=' :: value) =>
      if lowerText (trimBlank (String.ofList name)) == "charset" then
        some (String.ofList (trimList (· == Char.ofNat 0x22) (trimList isBlank value)))
      else none
    | _ => none

/-- The text of bytes that are sent with a content type. A name that is not listed is looked up by
`codec`, and what that finds may be no character set and give no text. -/
def read? (codec : String → Option (List UInt8 → Option String)) (contentType : Option String)
    (bytes : List UInt8) : Option String :=
  match nameIn? contentType with
  | none => some (decode .utf8 bytes)
  | some name =>
    match ofName? name with
    | some charset => some (charset.decode bytes)
    | none =>
      match codec name with
      | some read => read bytes
      | none => some (decode .utf8 bytes)

end Charset

end GridRules
