import GridRules.Path.Basic
import GridRules.Schema.Expressions
import GridRules.Schema.Report
import GridRules.Tracker.Basic
import GridRules.Validation.Rule
/-!
Checks of validation rules. Rules stand under the path of a placed field or under the id of a
field, and may read fields under either.
-/

namespace GridRules

namespace Tracker

/-- What is wrong with a reference in a validation rule. -/
def ruleRefProblems (tracker : Tracker) (ref path : String) : List String :=
  if hasDot ref then
    if tracker.fieldPaths.contains ref then []
    else [path ++ ".fieldId references missing field path \"" ++ ref ++
      "\" (use gridId.fieldId)"]
  else if (tracker.field? ref).isSome then []
  else [path ++ ".fieldId references missing field \"" ++ ref ++ "\""]

/-- What is wrong with the key that rules stand under. -/
def ruleKeyProblem? (tracker : Tracker) (key : String) : Option String :=
  let named := "validations key \"" ++ key ++ "\""
  if hasDot key then
    match qualifiedPath? key with
    | none => some (named ++ " must be \"gridId.fieldId\" or a single fieldId")
    | some (gridId, _) =>
      if (tracker.grid? gridId).isNone then
        some (named ++ ": grid \"" ++ gridId ++ "\" not found")
      else if !tracker.fieldPaths.contains key then
        some (named ++ ": field path \"" ++ key ++
          "\" not found (field must be placed in layout for that grid)")
      else none
  else if key = "" then some (named ++ " must be \"gridId.fieldId\" or a single fieldId")
  else if (tracker.field? key).isNone then
    some (named ++ ": field \"" ++ key ++ "\" not found")
  else none

/-- The problems of a rule of a kind that exists. -/
def kindProblems (tracker : Tracker) (path : String) (kind : RuleKind) (rule : Entries) :
    Except Fault (List String) :=
  if kind.isNumeric then
    let bound := rule.getD "value"
    .ok (if bound.isNumber && !bound.isNaN then [] else [path ++ ".value must be a number"])
  else if kind = .expr then
    let e := Expr.ofValue (rule.getD "expr")
    let at_ := path ++ ".expr"
    if e.isNode then e.problems tracker.ruleRefProblems at_ at_
    else .ok [at_ ++ " must be a valid expression node"]
  else .ok []

def ruleProblems (tracker : Tracker) (path : String) (rule : Value) :
    Except Fault (List String) :=
  match (rule.field "type").string? with
  | none => .ok [path ++ ".type is required"]
  | some name =>
    match RuleKind.ofName? name with
    | none => .ok [path ++ ".type \"" ++ name ++ "\" is not supported"]
    | some kind => tracker.kindProblems path kind (rule.object?.getD [])

/-- The problems of the rules from the `i`-th on. -/
def rulesProblems (tracker : Tracker) (key : String) (i : Nat) :
    List Value → Except Fault (List String)
  | [] => .ok []
  | rule :: rest => do
    let first ← tracker.ruleProblems ("validations." ++ key ++ "[" ++ toString i ++ "]") rule
    let others ← tracker.rulesProblems key (i + 1) rest
    return first ++ others

/-- The problems of what stands under a key. -/
def keyedRulesProblems (tracker : Tracker) (key : String) (rules : Value) :
    Except Fault (List String) :=
  match tracker.ruleKeyProblem? key with
  | some message => .ok [message]
  | none =>
    match rules with
    | .list items => tracker.rulesProblems key 0 items
    | _ => .ok ["validations." ++ key ++ " must be an array"]

def checkRules (tracker : Tracker) : Except Fault ValidationReport := do
  let problems ← tracker.validations.mapM fun entry =>
    tracker.keyedRulesProblems entry.1 entry.2
  return ⟨problems.flatten, []⟩

end Tracker

end GridRules
