/-!
Texts as bytes. What is no UTF-8 is read as well: every longest run of bytes that starts a character
and does not finish it stands for one replacement character.
-/

namespace GridRules

def replacementChar : Char := Char.ofNat 0xFFFD

/-- The bytes of a character. -/
def utf8Bytes (cs : List Char) : List UInt8 :=
  cs.flatMap String.utf8EncodeChar

/-- A character of which some bytes are read: its bits so far, how many bytes are missing, and
between which bounds the next of them lies. -/
structure PartialChar where
  bits : Nat
  missing : Nat
  low : Nat
  high : Nat

/-- The character that a byte begins; none if no character begins with it. -/
def PartialChar.start? (byte : Nat) : Option PartialChar :=
  if 0xC2 ≤ byte && byte ≤ 0xDF then some ⟨byte - 0xC0, 1, 0x80, 0xBF⟩
  else if byte == 0xE0 then some ⟨0, 2, 0xA0, 0xBF⟩
  else if byte == 0xED then some ⟨0xD, 2, 0x80, 0x9F⟩
  else if 0xE1 ≤ byte && byte ≤ 0xEF then some ⟨byte - 0xE0, 2, 0x80, 0xBF⟩
  else if byte == 0xF0 then some ⟨0, 3, 0x90, 0xBF⟩
  else if byte == 0xF4 then some ⟨4, 3, 0x80, 0x8F⟩
  else if 0xF1 ≤ byte && byte ≤ 0xF3 then some ⟨byte - 0xF0, 3, 0x80, 0xBF⟩
  else none

/-- What a byte gives where a character begins: the characters read, and the one it begins. -/
def firstByte (byte : Nat) : List Char × Option PartialChar :=
  if byte < 0x80 then ([Char.ofNat byte], none)
  else
    match PartialChar.start? byte with
    | some state => ([], some state)
    | none => ([replacementChar], none)

/-- What the next byte of a character gives. -/
def nextByte (state : PartialChar) (byte : Nat) : List Char × Option PartialChar :=
  if state.low ≤ byte && byte ≤ state.high then
    let bits := 64 * state.bits + (byte - 0x80)
    if state.missing = 1 then ([Char.ofNat bits], none)
    else ([], some ⟨bits, state.missing - 1, 0x80, 0xBF⟩)
  else
    let (cs, state) := firstByte byte
    (replacementChar :: cs, state)

/-- Reads bytes that go on with a character begun before. -/
def readUtf8 (state : Option PartialChar) : List UInt8 → List Char
  | [] => if state.isSome then [replacementChar] else []
  | byte :: rest =>
    let (cs, state) :=
      match state with
      | none => firstByte byte.toNat
      | some state => nextByte state byte.toNat
    cs ++ readUtf8 state rest

/-- The text of bytes. -/
def ofUtf8 (bytes : List UInt8) : String :=
  String.ofList (readUtf8 none bytes)

end GridRules
