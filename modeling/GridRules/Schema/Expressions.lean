import GridRules.Expr.Basic
import GridRules.Fault
import GridRules.Regex.Match
/-!
Checks of expressions as they are authored. A problem is reported with the path to the part of the
document where it is.
-/

namespace GridRules

/-- What is wrong with a pattern. -/
def patternProblems (path : String) (pattern : Option String) (flags : Value) :
    Except Fault (List String) :=
  match pattern with
  | none => .ok [path ++ ".pattern must be a string"]
  | some pattern =>
    match Regex.compile pattern (Regex.Options.ofFlags flags) with
    | .ok _ => .ok []
    | .error .malformed => .ok [path ++ ".pattern is not a valid regex"]
    | .error .countTooLarge => .error .tooLarge
    | .error .charsetClash => .error .charsetClash

def flagsProblems (path : String) : Value → List String
  | .null | .str _ => []
  | _ => [path ++ ".flags must be a string when provided"]

namespace Expr

variable (checkRef : String → String → List String)

mutual

/-- The problems of an expression at `path`; `place` says where it should be. Field references are
checked by `checkRef`. -/
def problems (place path : String) : Expr → Except Fault (List String)
  | .invalid => .ok [place ++ " is not a valid expression node"]
  | .unknown => .ok [path ++ ".op is not a supported operator"]
  | .const _ => .ok []
  | .field ref =>
    match ref with
    | none => .ok [path ++ ".fieldId must be a non-empty string"]
    | some ref =>
      if isBlankText ref then .ok [path ++ ".fieldId must be a non-empty string"]
      else .ok (checkRef ref path)
  | .variadic _ args =>
    if args.isEmpty then .ok [path ++ ".args must be a non-empty array"]
    else argProblems path 0 args
  | .connective _ args =>
    if args.isEmpty then .ok [path ++ ".args must be a non-empty array"]
    else argProblems path 0 args
  | .binary _ left right => do
    let first ← problems (path ++ ".left (or .args[0])") (path ++ ".left") left
    let second ← problems (path ++ ".right (or .args[1])") (path ++ ".right") right
    return first ++ second
  | .unpaired _ =>
    .ok [path ++ " must have .left and .right, or .args with two expression nodes"]
  | .not arg => problems (path ++ ".arg") (path ++ ".arg") arg
  | .cond test yes no => do
    let first ← problems (path ++ ".cond") (path ++ ".cond") test
    let second ← problems (path ++ ".then") (path ++ ".then") yes
    let third ← problems (path ++ ".else") (path ++ ".else") no
    return first ++ second ++ third
  | .regex subject pattern flags => do
    let inner ← problems (path ++ ".value") (path ++ ".value") subject
    let own ← patternProblems path pattern flags
    return inner ++ own ++ flagsProblems path flags

/-- The problems of the operands from the `i`-th on. -/
def argProblems (path : String) (i : Nat) : List Expr → Except Fault (List String)
  | [] => .ok []
  | e :: rest => do
    let place := path ++ ".args[" ++ toString i ++ "]"
    let first ← problems place place e
    let others ← argProblems path (i + 1) rest
    return first ++ others

end

end Expr

end GridRules
