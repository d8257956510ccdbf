/-! Escapes by code point: hexadecimal digits and the two halves of a character beyond U+FFFF. -/

namespace GridRules

/-- The `width` lowest hexadecimal digits of `n`, in lower case. -/
def hexDigits (width n : Nat) : List Char :=
  match width with
  | 0 => []
  | width + 1 => hexDigits width (n / 16) ++ [Nat.digitChar (n % 16)]

/-- The two 16-bit halves of a code point beyond U+FFFF. -/
def surrogates (code : Nat) : Nat × Nat :=
  (0xD800 + (code - 0x10000) / 0x400, 0xDC00 + (code - 0x10000) % 0x400)

/-- The code point of two such halves. -/
def ofSurrogates (high low : Nat) : Nat :=
  0x10000 + (high - 0xD800) * 0x400 + (low - 0xDC00)

/-- The 16-bit units of a text. -/
def units16 (cs : List Char) : List Nat :=
  cs.flatMap fun c =>
    if c.toNat < 0x10000 then [c.toNat]
    else
      let halves := surrogates c.toNat
      [halves.1, halves.2]

end GridRules
