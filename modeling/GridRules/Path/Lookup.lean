import GridRules.Path.Basic
import GridRules.Value.Basic
import GridRules.Fault
import GridRules.Text.Digit
/-!
Dotted lookup. Each piece of the path is a key of an object or an index of a list; empty pieces
are skipped.
-/

namespace GridRules

/-- An index has at most this many digits. -/
def maxIndexDigits : Nat := 4300

/-- The index that a piece of a path stands for; none if the piece is not made of digits. -/
def readIndex (piece : String) : Except Fault (Option Nat) :=
  let cs := piece.toList
  if cs.isEmpty || !cs.all isDigitLike then .ok none
  else if cs.all isDecimal && cs.length ≤ maxIndexDigits then
    .ok (some (cs.foldl (fun n c => 10 * n + (decimalValue? c).getD 0) 0))
  else .error .unreadableInteger

/-- One step of a lookup. -/
def Value.step (v : Value) (piece : String) : Except Fault (Option Value) :=
  match v with
  | .list items => do
    match ← readIndex piece with
    | some i => return items[i]?
    | none => return none
  | .object entries => return Assoc.get? entries piece
  | _ => return none

def Value.follow (v : Value) : List String → Except Fault (Option Value)
  | [] => .ok (some v)
  | piece :: pieces => do
    match ← v.step piece with
    | some w => w.follow pieces
    | none => return none

/-- The value at the end of a path, if the path leads to one. -/
def Value.lookup (v : Value) (path : String) : Except Fault (Option Value) :=
  v.follow ((pathPieces path).filter (!·.isEmpty))

/-- The value at the end of a path, null if the path leads to none. -/
def Value.lookupD (v : Value) (path : String) : Except Fault Value :=
  (v.lookup path).map (·.getD .null)

end GridRules
