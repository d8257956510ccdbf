import GridRules.Value.Text
/-!
Validation rules. A rule is an object with a type, and beside it a bound or an expression and
possibly a message of its own.
-/

namespace GridRules

inductive RuleKind where
  | required
  | min
  | max
  | minLength
  | maxLength
  | expr
  deriving DecidableEq

namespace RuleKind

def name : RuleKind → String
  | .required => "required"
  | .min => "min"
  | .max => "max"
  | .minLength => "minLength"
  | .maxLength => "maxLength"
  | .expr => "expr"

def all : List RuleKind :=
  [.required, .min, .max, .minLength, .maxLength, .expr]

def ofName? (name : String) : Option RuleKind :=
  all.find? fun kind => kind.name == name

/-- Whether rules of this kind compare with a bound. -/
def isNumeric : RuleKind → Bool
  | .min | .max | .minLength | .maxLength => true
  | .required | .expr => false

end RuleKind

namespace Rule

def kind? (rule : Entries) : Option RuleKind :=
  (rule.getD "type").string?.bind RuleKind.ofName?

/-- What a rule says when it has no message of its own. -/
def defaultMessage (rule : Entries) : String :=
  let bound := (rule.getD "value").boundText
  match kind? rule with
  | some .required => "Required"
  | some .min => "Must be at least " ++ bound
  | some .max => "Must be at most " ++ bound
  | some .minLength => "At least " ++ bound ++ " characters"
  | some .maxLength => "At most " ++ bound ++ " characters"
  | some .expr | none => "Invalid value"

/-- The message of the rule, if it has one that is not empty. -/
def ownMessage? (rule : Entries) : Option String :=
  match rule.getD "message" with
  | .str s => if s = "" then none else some s
  | _ => none

def message (rule : Entries) : String :=
  (ownMessage? rule).getD (defaultMessage rule)

end Rule

end GridRules
