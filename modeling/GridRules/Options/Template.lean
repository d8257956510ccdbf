import GridRules.Options.Rows
/-!
Templates: texts with placeholders for arguments and for values of the context. A placeholder is
written in double braces, as an argument name behind `arg.` or a dotted path behind `context.`.
-/

namespace GridRules

inductive Placeholder where
  | arg (name : String)
  | context (path : String)
  deriving DecidableEq

inductive TemplatePiece where
  | char (c : Char)
  | placeholder (p : Placeholder)
  deriving DecidableEq

namespace Template

/-- What follows a prefix. -/
def behind? : List Char → List Char → Option (List Char)
  | [], cs => some cs
  | _ :: _, [] => none
  | p :: ps, c :: cs => if p = c then behind? ps cs else none

def opening : List Char := ['\x7b', '\x7b']

def closing : List Char := ['\x7d', '\x7d']

/-- Characters that the name of a placeholder can have. -/
def isNameChar (c : Char) : Bool :=
  !isBlank c && !opening.contains c && !closing.contains c

/-- The kind of placeholder that a text begins with, and what follows its dot. -/
def readKind? (cs : List Char) : Option ((String → Placeholder) × List Char) :=
  match behind? "arg.".toList cs with
  | some rest => some (.arg, rest)
  | none => (behind? "context.".toList cs).map fun rest => (.context, rest)

/-- The placeholder that a text begins with, and what follows it. -/
def readPlaceholder? (cs : List Char) : Option (Placeholder × List Char) := do
  let rest ← behind? opening cs
  let (kind, rest) ← readKind? (rest.dropWhile isBlank)
  let name := rest.takeWhile isNameChar
  if name.isEmpty then none
  let rest ← behind? closing ((rest.dropWhile isNameChar).dropWhile isBlank)
  return (kind (String.ofList name), rest)

/-- Splits a text from left to right, passing over the characters of a placeholder just read. -/
def splitFrom : Nat → List Char → List TemplatePiece
  | _, [] => []
  | skipped + 1, _ :: rest => splitFrom skipped rest
  | 0, c :: rest =>
    match readPlaceholder? (c :: rest) with
    | some (p, behind) => .placeholder p :: splitFrom (rest.length - behind.length) rest
    | none => .char c :: splitFrom 0 rest

def split (template : String) : List TemplatePiece :=
  splitFrom 0 template.toList

end Template

/-- The text that stands in the place of a placeholder. -/
def Placeholder.text (p : Placeholder) (inputs : Inputs) : Except Fault String :=
  match p with
  | .arg name => .ok (inputs.args.getD name).plain
  | .context path => (inputs.context.lookupD path).map Value.plain

def TemplatePiece.text (inputs : Inputs) : TemplatePiece → Except Fault String
  | .char c => .ok (String.ofList [c])
  | .placeholder p => p.text inputs

/-- A template with the values of its placeholders. Values are not looked at for placeholders. -/
def interpolate (template : String) (inputs : Inputs) : Except Fault String :=
  ((Template.split template).mapM (TemplatePiece.text inputs)).map String.join

end GridRules
