import GridRules.Text.Blank
/-!
Field paths. A field is named by its id alone, as `grid.field`, or as `tab.grid.field`, where the
tab carries no information.
-/

namespace GridRules

/-- The pieces between dots; there is one more of them than dots. -/
def splitDots : List Char → List (List Char)
  | [] => [[]]
  | c :: rest =>
    if c = '.' then [] :: splitDots rest
    else
      match splitDots rest with
      | piece :: pieces => (c :: piece) :: pieces
      | [] => [[c]]

def pathPieces (path : String) : List String :=
  (splitDots path.toList).map String.ofList

def hasDot (path : String) : Bool :=
  path.toList.contains '.'

/-- A field, with its grid if the path names one. -/
structure FieldPath where
  gridId : Option String
  fieldId : String
  deriving DecidableEq

namespace FieldPath

/-- Reads a path of one to three pieces, none of them empty. -/
def parse? (path : String) : Option FieldPath :=
  let pieces := pathPieces path
  if pieces.any (·.isEmpty) then none
  else
    match pieces with
    | [field] => some ⟨none, field⟩
    | [grid, field] => some ⟨some grid, field⟩
    | [_, grid, field] => some ⟨some grid, field⟩
    | _ => none

def qualified (path : FieldPath) : String :=
  match path.gridId with
  | none => path.fieldId
  | some grid => grid ++ "." ++ path.fieldId

/-- The path of a field that is placed in a grid. -/
def inGrid (gridId fieldId : String) : String :=
  gridId ++ "." ++ fieldId

end FieldPath

/-- The id of the field that a reference means inside a grid; none if it is blank, unreadable or
leads to another grid. -/
def localFieldId? (ref gridId : String) : Option String :=
  if isBlankText ref then none
  else if !hasDot ref then some ref
  else
    match FieldPath.parse? ref with
    | some path => if path.gridId = some gridId then some path.fieldId else none
    | none => none

/-- Grid and field of a path that names both. -/
def qualifiedPath? (key : String) : Option (String × String) :=
  if !hasDot key then none
  else
    match FieldPath.parse? key with
    | some ⟨some grid, field⟩ => some (grid, field)
    | _ => none

end GridRules
