import GridRules.Number.Numeral
import GridRules.Text.Lowercase
import GridRules.Url.Escape
import GridRules.Url.Idna
/-!
Hosts: numeric addresses, which have to be well formed, and names, which are written in lower case
and in ASCII.
-/

namespace GridRules

namespace Url

/-- Whether a text is made of digits, any character, digits and so on, with `separators` characters
between the runs of digits; `seen` tells whether a digit has just been read. -/
def looksNumeric (separators : Nat) (seen : Bool) : List Char → Bool
  | [] => separators == 0 && seen
  | c :: rest =>
    (c.isDigit && looksNumeric separators true rest) ||
      match separators with
      | 0 => false
      | n + 1 => seen && looksNumeric n false rest

/-- A decimal number below 256 without leading zeros. -/
def isOctet (cs : List Char) : Bool :=
  !cs.isEmpty && cs.all Char.isDigit && cs.length ≤ 3 &&
    (cs.length == 1 || cs.head? != some '0') && Nat.ofDigitChars 10 cs 0 ≤ 255

def isIpv4 (cs : List Char) : Bool :=
  let octets := splitAt '.' cs
  octets.length == 4 && octets.all isOctet

def isHextet (cs : List Char) : Bool :=
  !cs.isEmpty && cs.length ≤ 4 && cs.all isHexDigit

/-- The pieces of an address, an address of four octets at the end counted as two of them. -/
def ipv6Pieces (cs : List Char) : Option (List (List Char)) :=
  let pieces := splitAt ':' cs
  match pieces.getLast? with
  | some last =>
    if pieces.length < 3 then none
    else if last.contains '.' then
      if isIpv4 last then some (pieces.dropLast ++ [['0'], ['0']]) else none
    else some pieces
  | none => none

/-- Whether pieces before and behind a gap make an address: at an end of the text the gap takes in
one more empty piece. -/
def fitsGap (before behind : List (List Char)) : Bool :=
  let strip (side : List (List Char)) := if side == [[]] then [] else side
  let front := strip before
  let back := strip behind
  front.all isHextet && back.all isHextet && front.length + back.length < 8

def isIpv6Groups (cs : List Char) : Bool :=
  match ipv6Pieces cs with
  | none => false
  | some pieces =>
    let inner := pieces.tail.dropLast
    let gaps := inner.countP List.isEmpty
    if 9 < pieces.length || 1 < gaps then false
    else if gaps = 1 then
      let i := 1 + inner.findIdx List.isEmpty
      fitsGap (pieces.take i) (pieces.drop (i + 1))
    else pieces.length == 8 && pieces.all isHextet

/-- An address of eight groups, with a zone that may follow it. -/
def isIpv6 (cs : List Char) : Bool :=
  match cutAt (· == '%') cs with
  | (groups, none) => isIpv6Groups groups
  | (groups, some zone) => !zone.isEmpty && !zone.contains '%' && isIpv6Groups groups

/-- Marks that may stand in a name without an escape. -/
def isHostSafe (c : Char) : Bool :=
  "!$&'()*+,;=\"`\x7b\x7d%|\\".toList.contains c

/-- A host in the form in which it is compared and sent. -/
def encodeHost (host : List Char) : Option (List Char) :=
  if host.isEmpty then some []
  else if looksNumeric 3 false host then if isIpv4 host then some host else none
  else if host.head? == some '[' && host.getLast? == some ']' then
    let inner := host.tail.dropLast
    if isIpv6 inner then some inner else none
  else if host.all fun c => c.toNat < 0x80 then
    some (escape isHostSafe (host.map Char.toLower))
  else Idna.encode (lowerText (String.ofList host)).toList

/-- The host as it is shown: names that are encoded are decoded. -/
def shownHost (host : List Char) : Option (List Char) :=
  if "xn--".toList.isPrefixOf host then Idna.decode host else some host

end Url

end GridRules
