import GridRules.Expr.Evaluate
import GridRules.Fault
import GridRules.Validation.Rule
/-!
Validation plans. The rules of a field are those that its configuration implies, then those given
for it; a value is checked against them in order, and the first rule that fails gives the message.
-/

namespace GridRules

structure ValidationPlan where
  fieldId : String
  rules : List Entries
  /-- Hidden and disabled fields take every value. -/
  skip : Bool
  isStringType : Bool
  isNumberType : Bool

def isStringType (fieldType : String) : Bool :=
  ["string", "text", "link"].contains fieldType

def isNumberType (fieldType : String) : Bool :=
  ["number", "currency", "percentage"].contains fieldType

def invalidNumberMessage : String := "Enter a valid number"

/-- The rule that a bound in the configuration implies, if the bound is a number. -/
def boundRule (config : Entries) (kind : RuleKind) : Except Fault (List Entries) :=
  match (config.getD kind.name).number? with
  | none => .ok []
  | some n => do
    if ← orTooLarge n.nanTest? then return []
    return [[("type", .str kind.name), ("value", .ofNumber n)]]

/-- The rules that a configuration implies. -/
def configRules (config : Entries) : Except Fault (List Entries) := do
  let required :=
    if config.getD "isRequired" = .bool true then
      [[("type", Value.str RuleKind.required.name)]]
    else []
  let bounds ← [RuleKind.min, .max, .minLength, .maxLength].mapM (boundRule config)
  return required ++ bounds.flatten

namespace ValidationPlan

/-- Compiles a plan; rules that are no objects are left out. -/
def build (fieldId fieldType : String) (config : Entries) (rules : List Value) :
    Except Fault ValidationPlan := do
  let implied ← configRules config
  return {
    fieldId := fieldId
    rules := implied ++ rules.filterMap Value.object?
    skip := decide (config.getD "isHidden" = .bool true) ||
      decide (config.getD "isDisabled" = .bool true)
    isStringType := GridRules.isStringType fieldType
    isNumberType := GridRules.isNumberType fieldType }

/-- Whether a bound rule of the kind refuses the number. -/
def refuses (kind : RuleKind) (n bound : Number) : Bool :=
  match kind with
  | .min | .minLength => n.lt bound
  | .max | .maxLength => bound.lt n
  | .required | .expr => false

/-- The number test of a bound rule; there is no bound where none is a number. -/
def checkBound (rule : Entries) (kind : RuleKind) (n : Number) : Option String :=
  match (rule.getD "value").number? with
  | none => none
  | some bound => if refuses kind n bound then some (Rule.message rule) else none

def checkRange (rule : Entries) (kind : RuleKind) (value : Value) :
    Except Fault (Option String) :=
  if value.isEmpty then .ok none
  else do
    let n ← orTooLarge value.parseNumber?
    if ← orTooLarge n.nanTest? then
      return some ((Rule.ownMessage? rule).getD invalidNumberMessage)
    return checkBound rule kind n

/-- The text whose length counts. -/
def lengthText : Value → String
  | .null => ""
  | v => v.display

def checkLength (plan : ValidationPlan) (rule : Entries) (kind : RuleKind) (value : Value) :
    Option String :=
  if plan.isStringType then checkBound rule kind (.int (lengthText value).length) else none

/-- The row a rule sees: the candidate value stands under the id of the field. -/
def candidateRow (plan : ValidationPlan) (value : Value) (row : Entries) : Entries :=
  if plan.fieldId = "" then row else row.put plan.fieldId value

/-- An expression accepts by true and by what counts as true; a text it gives is the message. -/
def checkExpr (plan : ValidationPlan) (rule : Entries) (value : Value) (row : Entries) :
    Except Fault (Option String) := do
  match ← evaluate? (rule.getD "expr") (plan.candidateRow value row) with
  | .bool b => return if b then none else some (Rule.message rule)
  | .str s => return some (if s = "" then Rule.message rule else s)
  | .null => return some (Rule.message rule)
  | result => do
    let accepted ← orTooLarge result.truthy?
    return if accepted then none else some (Rule.message rule)

/-- The message of a rule that refuses the value. -/
def checkRule (plan : ValidationPlan) (value : Value) (row : Entries) (rule : Entries) :
    Except Fault (Option String) :=
  match Rule.kind? rule with
  | some .required => .ok (if value.isEmpty then some (Rule.message rule) else none)
  | some .min => checkRange rule .min value
  | some .max => checkRange rule .max value
  | some .minLength => .ok (plan.checkLength rule .minLength value)
  | some .maxLength => .ok (plan.checkLength rule .maxLength value)
  | some .expr => plan.checkExpr rule value row
  | none => .ok none

/-- Number fields refuse what is not empty and no number. -/
def checkNumber (plan : ValidationPlan) (value : Value) : Except Fault (Option String) :=
  if plan.isNumberType && !value.isEmpty then do
    let n ← orTooLarge value.parseNumber?
    if ← orTooLarge n.nanTest? then return some invalidNumberMessage
    return none
  else .ok none

def checkRules (plan : ValidationPlan) (value : Value) (row : Entries) :
    List Entries → Except Fault (Option String)
  | [] => plan.checkNumber value
  | rule :: rest => do
    match ← plan.checkRule value row rule with
    | some message => return some message
    | none => plan.checkRules value row rest

/-- The message of the first rule that refuses the value, or none if all accept it. -/
def check (plan : ValidationPlan) (value : Value) (row : Entries) :
    Except Fault (Option String) :=
  if plan.skip then .ok none else plan.checkRules value row plan.rules

end ValidationPlan

end GridRules
