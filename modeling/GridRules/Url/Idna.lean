import GridRules.Url.Escape
import GridRules.Url.IdnaTable
/-!
Names with characters beyond ASCII. A label is encoded by writing the characters in it that are
ASCII, and behind them where the others go: for each of them, in the order of code points, the
distance to it as a number of variable length.
-/

namespace GridRules

namespace Idna

/-- The least value of a digit that ends a number, at a place in the number. -/
def threshold (bias place : Nat) : Nat :=
  if place ≤ bias then 1 else if bias + 26 ≤ place then 26 else place - bias

/-- Divides by 35 until the distance is small, and counts the divisions. -/
def shrink : Nat → Nat → Nat → Nat × Nat
  | 0, delta, count => (delta, count)
  | fuel + 1, delta, count =>
    if 455 < delta then shrink fuel (delta / 35) (count + 1) else (delta, count)

/-- The bias after a distance, when `points` characters are written. -/
def adapt (delta points : Nat) (isFirst : Bool) : Nat :=
  let delta := if isFirst then delta / 700 else delta / 2
  let (delta, count) := shrink delta (delta + delta / points) 0
  36 * count + 36 * delta / (delta + 38)

def digitChar (n : Nat) : Char :=
  if n < 26 then Char.ofNat (0x61 + n) else Char.ofNat (0x16 + n)

def digitValue? (c : Char) : Option Nat :=
  if 'a' ≤ c && c ≤ 'z' then some (c.toNat - 0x61)
  else if 'A' ≤ c && c ≤ 'Z' then some (c.toNat - 0x41)
  else if c.isDigit then some (c.toNat - 0x16)
  else none

/-- The digits of a distance. -/
def writeDistance (bias : Nat) : Nat → Nat → Nat → List Char
  | 0, _, _ => []
  | fuel + 1, place, n =>
    let t := threshold bias place
    if n < t then [digitChar n]
    else digitChar (t + (n - t) % (36 - t)) ::
      writeDistance bias fuel (place + 36) ((n - t) / (36 - t))

/-- The state of encoding: the distance since the last character written, the bias, and how many
characters are written. -/
structure Progress where
  delta : Nat
  bias : Nat
  written : Nat
  output : List Char

/-- Passes over the label once and writes the places of one character. -/
def writePlaces (basic code : Nat) (codes : List Nat) (state : Progress) : Progress :=
  codes.foldl (fun state c =>
    if c < code then { state with delta := state.delta + 1 }
    else if c = code then
      { delta := 0
        bias := adapt state.delta (state.written + 1) (state.written == basic)
        written := state.written + 1
        output := state.output ++ writeDistance state.bias (state.delta + 1) 36 state.delta }
    else state) state

def writeAll (basic : Nat) (codes : List Nat) : List Nat → Nat → Progress → List Char
  | [], _, state => state.output
  | code :: rest, last, state =>
    let state := { state with delta := state.delta + (code - last) * (state.written + 1) }
    let state := writePlaces basic code codes state
    writeAll basic codes rest (code + 1) { state with delta := state.delta + 1 }

/-- A label in ASCII, without the mark that tells it from other labels. -/
def encodeLabel (label : List Char) : List Char :=
  let codes := label.map Char.toNat
  let basic := label.filter fun c => c.toNat < 0x80
  let others := ((codes.filter fun n => 0x80 ≤ n).mergeSort).eraseDups
  (if basic.isEmpty then [] else basic ++ ['-']) ++
    writeAll basic.length codes others 0x80 ⟨0, 72, basic.length, []⟩

/-- Reads one distance: its value, and what follows it. -/
def readDistance (bias : Nat) : Nat → Nat → Nat → List Char → Option (Nat × List Char)
  | _, _, _, [] => none
  | place, weight, sum, c :: rest => do
    let d ← digitValue? c
    let sum := sum + d * weight
    let t := threshold bias place
    if d < t then return (sum, rest)
    readDistance bias (place + 36) (weight * (36 - t)) sum rest

/-- Puts characters into a label as their distances are read. -/
def readAll : Nat → Nat → Nat → Nat → List Char → List Char → Option (List Char)
  | 0, _, _, _, output, _ => some output
  | _, _, _, _, output, [] => some output
  | fuel + 1, code, place, bias, output, cs => do
    let (distance, rest) ← readDistance bias 36 1 0 cs
    let points := output.length + 1
    let i := place + distance
    let code := code + i / points
    if 0x10FFFF < code then none
    let at_ := i % points
    let bias := adapt distance points (place == 0 && output.all fun c => c.toNat < 0x80)
    readAll fuel code (at_ + 1) bias (output.take at_ ++ Char.ofNat code :: output.drop at_) rest

def decodeLabel (cs : List Char) : Option (List Char) :=
  let behind := (cs.reverse.takeWhile (· != '-')).reverse
  let basic := (cs.take (cs.length - behind.length)).dropLast
  if basic.all fun c => c.toNat < 0x80 then
    readAll behind.length 0x80 0 72 basic behind
  else none

/-- Whether a label is allowed: not empty, not too long, no hyphens at its ends or as its third and
fourth character, and only characters that names may have. -/
def isAllowed (label : List Char) : Bool :=
  !label.isEmpty && label.length ≤ 254 && (label.drop 2).take 2 != ['-', '-'] &&
    label.head? != some '-' && label.getLast? != some '-' &&
    label.all fun c => isNameChar c

def mark : List Char := "xn--".toList

/-- A label as it is shown. -/
def showLabel (label : List Char) : Option (List Char) :=
  let lower := label.map Char.toLower
  if mark.isPrefixOf lower then do
    let shown ← decodeLabel (lower.drop 4)
    if isAllowed shown && !(lower.drop 4).isEmpty && lower.getLast? != some '-' then some shown
    else none
  else if isAllowed lower then some lower
  else none

/-- A label as it is sent. -/
def sendLabel (label : List Char) : Option (List Char) := do
  if label.all fun c => c.toNat < 0x80 then
    let _ ← showLabel label
    if 63 < label.length then none
    return label
  else if isAllowed label then
    let sent := mark ++ encodeLabel label
    if 63 < sent.length then none
    return sent
  else none

/-- Characters that separate labels. -/
def isDot (c : Char) : Bool :=
  [0x2E, 0x3002, 0xFF0E, 0xFF61].contains c.toNat

/-- The labels of a name; an empty one at the end is a final dot. -/
def labels (name : List Char) : List (List Char) × Bool :=
  let pieces := Url.splitAt '.' (name.map fun c => if isDot c then '.' else c)
  if 1 < pieces.length && pieces.getLast? == some [] then (pieces.dropLast, true)
  else (pieces, false)

def convert (label : List Char → Option (List Char)) (name : List Char) : Option (List Char) := do
  let (pieces, dot) := labels name
  let done ← pieces.mapM label
  return Url.joinWith '.' (if dot then done ++ [[]] else done)

/-- A name in ASCII. -/
def encode (name : List Char) : Option (List Char) := do
  let sent ← convert sendLabel name
  if sent.length ≤ 253 then some sent else none

/-- A name in ASCII, decoded. -/
def decode (name : List Char) : Option (List Char) :=
  convert showLabel name

end Idna

end GridRules
