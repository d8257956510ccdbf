import GridRules.Number.Numeral
import GridRules.Value.Text
/-!
Decoding documents. A decoder gives a typed value or all the problems it found, each with the place
where it was found. Decoders are combined so that the problems of all parts are kept, in the order
of the parts.
-/

namespace GridRules

/-- What can be wrong with a part of a document. -/
inductive Complaint where
  | missing
  | unknownKey
  | notText
  | emptyText
  | notInteger
  | unreadableInteger
  | fractionalInteger
  | oversizedInteger
  | notFinite
  | notNumber
  | unreadableNumber
  | notPositive
  | notBoolean
  | unreadableBoolean
  | notList
  | notDictionary
  | notInstance (model : String)
  | notTagged
  | noTag (field : String)
  | unknownTag (tag field : String) (expected : List String)
  | notOneOf (choices : List String)
  | refused (reason : String)
  deriving DecidableEq

/-- Quoted choices, the last one behind `or`. -/
def choicesText : List String → String
  | [] => ""
  | [a] => quoted a
  | [a, b] => quoted a ++ " or " ++ quoted b
  | a :: rest => quoted a ++ ", " ++ choicesText rest

def Complaint.message : Complaint → String
  | .missing => "Field required"
  | .unknownKey => "Extra inputs are not permitted"
  | .notText => "Input should be a valid string"
  | .emptyText => "String should have at least 1 character"
  | .notInteger => "Input should be a valid integer"
  | .unreadableInteger => "Input should be a valid integer, unable to parse string as an integer"
  | .fractionalInteger => "Input should be a valid integer, got a number with a fractional part"
  | .oversizedInteger => "Unable to parse input string as an integer, exceeded maximum size"
  | .notFinite => "Input should be a finite number"
  | .notNumber => "Input should be a valid number"
  | .unreadableNumber => "Input should be a valid number, unable to parse string as a number"
  | .notPositive => "Input should be greater than 0"
  | .notBoolean => "Input should be a valid boolean"
  | .unreadableBoolean => "Input should be a valid boolean, unable to interpret input"
  | .notList => "Input should be a valid list"
  | .notDictionary => "Input should be a valid dictionary"
  | .notInstance model => "Input should be a valid dictionary or instance of " ++ model
  | .notTagged => "Input should be a valid dictionary or object to extract fields from"
  | .noTag field => "Unable to extract tag using discriminator " ++ quoted field
  | .unknownTag tag field expected =>
    "Input tag '" ++ tag ++ "' found using " ++ quoted field ++
      " does not match any of the expected tags: " ++
      String.intercalate ", " (expected.map quoted)
  | .notOneOf choices => "Input should be " ++ choicesText choices
  | .refused reason => "Value error, " ++ reason

/-- A complaint and the path to its place, from the outside in. -/
structure Problem where
  place : List String
  complaint : Complaint
  deriving DecidableEq

/-- The line that reports a problem. -/
def Problem.line (problem : Problem) : String :=
  String.intercalate "." problem.place ++ ": " ++ problem.complaint.message

/-- A decoded value, or what is wrong with the document. -/
inductive Decoded (α : Type) where
  | ok (value : α)
  | failed (problems : List Problem)

namespace Decoded

variable {α β : Type}

def map (f : α → β) : Decoded α → Decoded β
  | .ok a => .ok (f a)
  | .failed problems => .failed problems

/-- Both parts, or the problems of both. -/
def combine : Decoded (α → β) → Decoded α → Decoded β
  | .ok f, .ok a => .ok (f a)
  | .ok _, .failed problems => .failed problems
  | .failed problems, .ok _ => .failed problems
  | .failed problems, .failed more => .failed (problems ++ more)

instance : Functor Decoded where
  map := map

instance : Applicative Decoded where
  pure := .ok
  seq f a := combine f (a ())

def problems : Decoded α → List Problem
  | .ok _ => []
  | .failed problems => problems

/-- A complaint about the value itself. -/
def complain (complaint : Complaint) : Decoded α :=
  .failed [⟨[], complaint⟩]

/-- Places the problems of a part under its key or index. -/
def under (key : String) : Decoded α → Decoded α
  | .ok a => .ok a
  | .failed problems => .failed (problems.map fun p => { p with place := key :: p.place })

/-- Goes on from a value that is decoded without problems. -/
def refine (f : α → Except String β) : Decoded α → Decoded β
  | .ok a =>
    match f a with
    | .ok b => .ok b
    | .error reason => complain (.refused reason)
  | .failed problems => .failed problems

/-- A check of a value that is decoded without problems. -/
def check (test : α → Option String) : Decoded α → Decoded α :=
  refine fun a =>
    match test a with
    | some reason => .error reason
    | none => .ok a

/-- Adds problems behind those that there are. -/
def also (more : List Problem) : Decoded α → Decoded α
  | .ok a => if more.isEmpty then .ok a else .failed more
  | .failed problems => .failed (problems ++ more)

def toExcept : Decoded α → Except (List Problem) α
  | .ok a => .ok a
  | .failed problems => .error problems

end Decoded

namespace Decode

variable {α : Type}

def any (v : Value) : Decoded Value := .ok v

def text : Value → Decoded String
  | .str s => .ok s
  | _ => .complain .notText

/-- A text that is not empty once white space around it is gone. -/
def nonEmpty : Value → Decoded String
  | .str s =>
    let trimmed := String.ofList (trimList isWhiteSpace s.toList)
    if trimmed = "" then .complain .emptyText else .ok trimmed
  | _ => .complain .notText

/-- Whether underscores stand one by one and not at an end. -/
def underscoresFit (cs : List Char) : Bool :=
  cs.head? != some '_' && cs.getLast? != some '_' && !occursTwice cs
where
  occursTwice : List Char → Bool
    | '_' :: '_' :: _ => true
    | _ :: rest => occursTwice rest
    | [] => false

def dropZeroFraction (cs : List Char) : List Char :=
  let whole := cs.takeWhile (· != '.')
  match cs.dropWhile (· != '.') with
  | '.' :: zeros => if zeros.all (· == '0') then whole else cs
  | _ => cs

/-- An integer in a text: a sign, digits with underscores between them, and a fraction of zeros. -/
def integerText (s : String) : Decoded Int :=
  let (negative, unsigned) := Numeral.takeSign (trimList isWhiteSpace s.toList)
  let whole := dropZeroFraction unsigned
  let digits := whole.filter (· != '_')
  if digits.isEmpty || !digits.all Char.isDigit || !underscoresFit whole then
    .complain .unreadableInteger
  else if 4300 < s.utf8ByteSize then .complain .oversizedInteger
  else
    let size : Int := Nat.ofDigitChars 10 digits 0
    .ok (if negative then -size else size)

def integer : Value → Decoded Int
  | .int n => .ok n
  | .bool b => .ok (if b then 1 else 0)
  | .float x =>
    if !x.isFinite then .complain .notFinite
    else
      match x.toInt? with
      | none => .complain .fractionalInteger
      | some n => if n.natAbs < Nat.pow 2 63 then .ok n else .complain .oversizedInteger
  | .str s => integerText s
  | _ => .complain .notInteger

def positiveInteger (v : Value) : Decoded Positive :=
  match integer v with
  | .ok n => if h : 0 < n.toNat then .ok ⟨n.toNat, h⟩ else .complain .notPositive
  | .failed problems => .failed problems

/-- A number in a text. -/
def numberText (s : String) : Decoded Binary64 :=
  let cs := trimList isWhiteSpace s.toList
  let (negative, unsigned) := Numeral.takeSign cs
  let word := String.ofList (unsigned.map Char.toLower)
  if word = "inf" || word = "infinity" then .ok (.infinite negative)
  else if word = "nan" then .ok .nan
  else
    match Numeral.float? (cs.filter (· != '_')) with
    | some x => if underscoresFit cs then .ok x else .complain .unreadableNumber
    | none => .complain .unreadableNumber

def number : Value → Decoded Binary64
  | .float x => .ok x
  | .int n =>
    match Number.floatOfInt? n with
    | some x => .ok x
    | none => .complain .notNumber
  | .bool b => .ok (.ofInt (if b then 1 else 0))
  | .str s => numberText s
  | _ => .complain .notNumber

def positiveNumber (v : Value) : Decoded Binary64 :=
  match number v with
  | .ok x => if (Number.int 0).lt (.float x) then .ok x else .complain .notPositive
  | failed => failed

def boolOfInt (n : Int) : Decoded Bool :=
  if n = 0 then .ok false
  else if n = 1 then .ok true
  else .complain .unreadableBoolean

def boolean : Value → Decoded Bool
  | .bool b => .ok b
  | .int n => boolOfInt n
  | .float x =>
    match x.toInt? with
    | some n => boolOfInt n
    | none => .complain .notBoolean
  | .str s =>
    let word := String.ofList (s.toList.map Char.toLower)
    if ["0", "off", "f", "false", "n", "no"].contains word then .ok false
    else if ["1", "on", "t", "true", "y", "yes"].contains word then .ok true
    else .complain .unreadableBoolean
  | _ => .complain .notBoolean

/-- One of some words. -/
def oneOf (choices : List (String × α)) (v : Value) : Decoded α :=
  match v.string?.bind fun s => List.lookup s choices with
  | some a => .ok a
  | none => .complain (.notOneOf (choices.map (·.1)))

/-- Null, or a value of some kind. -/
def nullable (decode : Value → Decoded α) : Value → Decoded (Option α)
  | .null => .ok none
  | v => (decode v).map some

/-- All items, or the problems of all items. -/
def items (decode : Value → Decoded α) : Nat → List Value → Decoded (List α)
  | _, [] => .ok []
  | i, v :: rest =>
    (((decode v).under (toString i)).map List.cons).combine (items decode (i + 1) rest)

def list (decode : Value → Decoded α) : Value → Decoded (List α)
  | .list values => items decode 0 values
  | _ => .complain .notList

def entries (decode : Value → Decoded α) : Entries → Decoded (Assoc α)
  | [] => .ok []
  | (key, v) :: rest =>
    (((decode v).under key).map fun a => List.cons (key, a)).combine (entries decode rest)

def dictionary (decode : Value → Decoded α) : Value → Decoded (Assoc α)
  | .object es => entries decode es
  | _ => .complain .notDictionary

/-- An object as it is. -/
def rawObject : Value → Decoded Entries
  | .object es => .ok es
  | _ => .complain .notDictionary

/-- The spelling of a field name with underscores: `gridId` is also `grid_id`. -/
def snakeCase (name : String) : String :=
  String.ofList (name.toList.flatMap fun c =>
    if c.isUpper then ['_', c.toLower] else [c])

/-- The key under which a field is given; the first spelling goes before the other. -/
def spelling? (es : Entries) (name : String) : Option String :=
  if es.has name then some name
  else if es.has (snakeCase name) then some (snakeCase name)
  else none

def find? (es : Entries) (name : String) : Option Value :=
  (spelling? es name).bind es.get?

/-- A field that must be there. -/
def required (es : Entries) (name : String) (decode : Value → Decoded α) : Decoded α :=
  match find? es name with
  | some v => (decode v).under name
  | none => .failed [⟨[name], .missing⟩]

/-- A field with a default. -/
def field (es : Entries) (name : String) (default : α) (decode : Value → Decoded α) : Decoded α :=
  match find? es name with
  | some v => (decode v).under name
  | none => .ok default

/-- A field that may be missing or null. -/
def optional (es : Entries) (name : String) (decode : Value → Decoded α) : Decoded (Option α) :=
  field es name none (nullable decode)

/-- Keys that no field uses. -/
def unknownKeys (es : Entries) (names : List String) : List Problem :=
  let used := names.filterMap (spelling? es)
  (es.keys.filter fun key => !used.contains key).map fun key => ⟨[key], .unknownKey⟩

/-- An object of a model that knows these fields and no others. -/
def closed (model : String) (names : List String) (decode : Entries → Decoded α) (v : Value) :
    Decoded α :=
  match v with
  | .object es => (decode es).also (unknownKeys es names)
  | _ => .complain (.notInstance model)

/-- An object of a model that lets other keys be. -/
def lenient (model : String) (decode : Entries → Decoded α) (v : Value) : Decoded α :=
  match v with
  | .object es => decode es
  | _ => .complain (.notInstance model)

/-- An object whose kind is told by the value under `field`. -/
def tagged (field : String) (kinds : List (String × (Value → Decoded α))) (v : Value) :
    Decoded α :=
  match v with
  | .object es =>
    match Assoc.get? es field with
    | none => .complain (.noTag field)
    | some tag =>
      match tag.string?.bind fun s => List.lookup s kinds with
      | some decode => (decode v).under tag.display
      | none => .complain (.unknownTag tag.display field (kinds.map (·.1)))
  | _ => .complain .notTagged

/-- A value of the first kind that fits, or the problems with all of them. -/
def anyOf : List (String × (Value → Decoded α)) → Value → Decoded α
  | [], _ => .failed []
  | (kind, decode) :: rest, v =>
    match (decode v).under kind with
    | .ok a => .ok a
    | .failed problems =>
      match anyOf rest v with
      | .ok a => .ok a
      | .failed more => .failed (problems ++ more)

/-- The problems of a whole document under a heading that counts them. -/
def heading (model : String) (problems : List Problem) : String :=
  toString problems.length ++
    (if problems.length = 1 then " validation error for " else " validation errors for ") ++ model

end Decode

/-- An object of a model as it is written back. Unless it is to be full, fields without a value are
left out. -/
def modelValue (full : Bool) (fields : Entries) : Value :=
  .object (if full then fields else fields.filter fun entry => !entry.2.isNull)

/-- Null, or a value written back. -/
def optionalValue {α : Type} (write : α → Value) : Option α → Value
  | none => .null
  | some a => write a

/-- A document that cannot be used: it is no object, or it has problems. -/
inductive DocumentError where
  | notObject (what kind : String)
  | faulty (what model : String) (problems : List Problem)
  deriving DecidableEq

namespace DocumentError

/-- The first line of the message. -/
def firstLine : DocumentError → String
  | .notObject what kind => "Invalid " ++ what ++ ": expected an object, got " ++ kind ++ "."
  | .faulty what model problems =>
    "Invalid " ++ what ++ ": " ++ Decode.heading model problems

/-- One line for each problem. -/
def details : DocumentError → List String
  | .notObject _ _ => []
  | .faulty _ _ problems => problems.map Problem.line

end DocumentError

/-- Decodes a whole document. -/
def decodeDocument {α : Type} (what model : String) (decode : Value → Decoded α) (v : Value) :
    Except DocumentError α :=
  match v with
  | .object _ =>
    match decode v with
    | .ok a => .ok a
    | .failed problems => .error (.faulty what model problems)
  | other => .error (.notObject what other.kindName)

end GridRules
