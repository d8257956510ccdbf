import GridRules.Expr.Basic
import GridRules.Text.Blank
/-!
What an expression refers to, and whether it is complete.
-/

namespace GridRules

namespace Expr

mutual

/-- The field references of an expression in the order they are written. -/
def allRefs : Expr → List String
  | .field (some ref) => if ref = "" then [] else [ref]
  | .variadic _ args => allRefsOf args
  | .binary _ left right => left.allRefs ++ right.allRefs
  | .connective _ args => allRefsOf args
  | .not arg => arg.allRefs
  | .cond test yes no => test.allRefs ++ yes.allRefs ++ no.allRefs
  | .regex subject _ _ => subject.allRefs
  | _ => []

def allRefsOf : List Expr → List String
  | [] => []
  | e :: rest => e.allRefs ++ allRefsOf rest

end

/-- The field references of an expression, each once, in the order they are first seen. -/
def refs (e : Expr) : List String :=
  e.allRefs.foldl (fun seen ref => if seen.contains ref then seen else seen ++ [ref]) []

mutual

/-- Whether every operator exists and has its operands. -/
def wellFormed : Expr → Bool
  | .invalid => false
  | .unknown => false
  | .const _ => true
  | .field (some ref) => !isBlankText ref
  | .field none => false
  | .variadic _ args => !args.isEmpty && allWellFormed args
  | .binary _ left right => left.wellFormed && right.wellFormed
  | .unpaired _ => false
  | .connective _ args => !args.isEmpty && allWellFormed args
  | .not arg => arg.wellFormed
  | .cond test yes no => test.wellFormed && yes.wellFormed && no.wellFormed
  | .regex subject pattern _ => pattern.isSome && subject.wellFormed

def allWellFormed : List Expr → Bool
  | [] => true
  | e :: rest => e.wellFormed && allWellFormed rest

end

end Expr

/-- The field references of a node. -/
def fieldRefs (node : Value) : List String :=
  (Expr.ofValue node).refs

/-- Whether a node is complete. -/
def isWellFormed (node : Value) : Bool :=
  (Expr.ofValue node).wellFormed

end GridRules
