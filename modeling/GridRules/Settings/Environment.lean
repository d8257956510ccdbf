import GridRules.Json.Read
import GridRules.Text.Lowercase
/-!
Settings in environment variables. A variable names a section and a key behind a common prefix, and
its value is a TOML scalar; what is none is taken as text.
-/

namespace GridRules

namespace Toml

/-- Drops underscores between hexadecimal digits; any other underscore is refused. -/
def dropMarks? : Bool → List Char → Option (List Char)
  | _, [] => some []
  | behindDigit, '_' :: rest =>
    if behindDigit && (rest.head?).any fun c => (Numeral.digitValue? c).isSome then
      dropMarks? false rest
    else none
  | _, c :: rest => (dropMarks? (Numeral.digitValue? c).isSome rest).map (c :: ·)

/-- Whether the digits that a number begins with have no zero in front. -/
def leadsWell (cs : List Char) : Bool :=
  match cs.takeWhile Char.isDigit with
  | [] => false
  | [_] => true
  | c :: _ => c != '0'

/-- An unsigned integer in decimal digits. -/
def decimal? (cs : List Char) : Option Nat :=
  if leadsWell cs && cs.all Char.isDigit then some (Nat.ofDigitChars 10 cs 0) else none

/-- An integer; only a decimal one can have a sign. -/
def integer? (cs : List Char) : Option Int := do
  let cs ← dropMarks? false cs
  match cs with
  | '0' :: 'x' :: digits => (Numeral.inBase? 16 digits).map Int.ofNat
  | '0' :: 'o' :: digits => (Numeral.inBase? 8 digits).map Int.ofNat
  | '0' :: 'b' :: digits => (Numeral.inBase? 2 digits).map Int.ofNat
  | cs =>
    let (negative, digits) := Numeral.takeSign cs
    (decimal? digits).map fun n => if negative then -(n : Int) else n

/-- Whether a digit follows every point. -/
def pointsFit : List Char → Bool
  | [] => true
  | '.' :: rest => (rest.head?).any Char.isDigit && pointsFit rest
  | _ :: rest => pointsFit rest

def float? (cs : List Char) : Option Binary64 := do
  let (negative, rest) := Numeral.takeSign (← dropMarks? false cs)
  let word := String.ofList rest
  if word = "inf" then some (.infinite negative)
  else if word = "nan" then some .nan
  else if leadsWell rest && pointsFit rest then
    (Numeral.decimal? rest).map fun (digits, scale) => Binary64.ofDecimal negative digits scale
  else none

/-- A text in single quotes, which has no escapes. -/
def literal? (cs : List Char) : Option String :=
  let quote := Char.ofNat 0x27
  match cs with
  | c :: rest =>
    match rest.reverse with
    | d :: inner =>
      if c == quote && d == quote && !inner.contains quote then
        some (String.ofList inner.reverse)
      else none
    | [] => none
  | [] => none

/-- A text in double quotes. -/
def basic? (cs : List Char) : Option String :=
  match Json.read (String.ofList cs) with
  | .ok (.str s) => some s
  | _ => none

def isGap (c : Char) : Bool :=
  c == ' ' || c == '\t'

/-- The value of a scalar, if a text is one. -/
def scalar? (s : String) : Option Value :=
  let cs := trimList isGap s.toList
  let word := String.ofList cs
  if ["true", "True"].contains word then some (.bool true)
  else if ["false", "False"].contains word then some (.bool false)
  else
    match integer? cs, float? cs with
    | some n, _ => some (.int n)
    | none, some x => some (.float x)
    | none, none => ((literal? cs).or (basic? cs)).map .str

/-- The value that a text stands for. -/
def value (s : String) : Value :=
  (scalar? s).getD (.str s)

end Toml

namespace Settings

/-- What the names of variables with settings begin with. -/
def variableStart : List Char := "TRACKERFLOW_".toList

/-- Splits a name where two underscores stand. -/
def splitName : List Char → List Char → List (List Char)
  | piece, [] => [piece]
  | piece, '_' :: '_' :: rest => piece :: splitName [] rest
  | piece, c :: rest => splitName (piece ++ [c]) rest

/-- The keys that a variable names, one below the other, if it is one with settings. -/
def variableKeys? (name : String) : Option (List String) :=
  let cs := name.toList
  if variableStart.isPrefixOf cs && variableStart.length < cs.length then
    some ((splitName [] (cs.drop variableStart.length)).map fun piece =>
      lowerText (String.ofList piece))
  else none

/-- A value below keys. -/
def nest (keys : List String) (v : Value) : Value :=
  keys.foldr (fun key inner => .object [(key, inner)]) v

mutual

/-- A value over another: objects are merged, and anything else takes the place of what was
there. -/
def overlay : Value → Value → Value
  | .object new, .object old => .object (overlayEntries new old ++
      old.filter fun entry => !(new.lookup entry.1).isSome)
  | new, _ => new

def overlayEntries : List (String × Value) → Entries → List (String × Value)
  | [], _ => []
  | (key, v) :: rest, old =>
    (key, match old.get? key with
      | some before => overlay v before
      | none => v) :: overlayEntries rest old

end

/-- Puts a value under a key, over what is there. -/
def putOver (config : Entries) (key : String) (v : Value) : Entries :=
  config.put key (match config.get? key with
    | some before => overlay v before
    | none => v)

mutual

/-- A value with all keys in lower case; what two spellings of a key hold is merged. -/
def lowerKeys : Value → Value
  | .object entries => .object (lowerEntries [] entries)
  | v => v

def lowerEntries (done : Entries) : List (String × Value) → Entries
  | [] => done
  | (key, v) :: rest => lowerEntries (putOver done (lowerText key) (lowerKeys v)) rest

end

/-- Settings with those of the environment over them. -/
def withEnvironment (config : Entries) (environment : Assoc String) : Entries :=
  environment.foldl (fun config entry =>
    match variableKeys? entry.1 with
    | some (key :: keys) => putOver config key (nest keys (Toml.value entry.2))
    | _ => config) config

end Settings

end GridRules
