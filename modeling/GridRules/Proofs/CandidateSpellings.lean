import GridRules.Proofs.PlannerRuns
import GridRules.Proofs.ReferenceSpellings
import GridRules.Schema.Rules
import Mathlib.Logic.Relation

namespace GridRules

/-- In one rule of a list, one reference of its expression is spelled in another way. -/
inductive RespelledIn (spelling : String → String → Prop) : List Value → List Value → Prop
  | rule {front back rule expr} : Respelled spelling (Entries.getD rule "expr") expr →
      RespelledIn spelling (front ++ .object rule :: back)
        (front ++ .object (rule.put "expr" expr) :: back)

/-- Of the id of a field and its path in a grid, either may become the other. -/
def OwnSpelling (gridId fieldId ref other : String) : Prop :=
  ref = fieldId ∧ other = FieldPath.inGrid gridId fieldId ∨
    ref = FieldPath.inGrid gridId fieldId ∧ other = fieldId

/-- The id of a field in the place of its path; all other references stay. -/
def ownId (gridId fieldId ref : String) : String :=
  if ref = FieldPath.inGrid gridId fieldId then fieldId else ref

theorem OwnSpelling.ownId_eq {gridId fieldId ref other : String}
    (h : OwnSpelling gridId fieldId ref other) :
    ownId gridId fieldId ref = ownId gridId fieldId other := by
  obtain ⟨rfl, rfl⟩ | ⟨rfl, rfl⟩ := h <;> simp [ownId]

/-- What a rule sees under the id of its own field: the candidate, unless the field has no id. -/
def seenCandidate (fieldId : String) (value : Value) (row : Entries) : Value :=
  if fieldId = "" then row.getD fieldId else value

namespace ValidationPlan

variable {plan : ValidationPlan} {gridId : String} {value : Value} {row : Entries}

theorem getD_candidateRow_ownId
    (seen : row.getD (FieldPath.inGrid gridId plan.fieldId) =
      seenCandidate plan.fieldId value row) (ref : String) :
    (plan.candidateRow value row).getD (ownId gridId plan.fieldId ref) =
      (plan.candidateRow value row).getD ref := by
  unfold ownId
  split
  next he =>
    subst he
    unfold seenCandidate at seen
    unfold candidateRow
    split
    next hid =>
      rw [if_pos hid] at seen
      exact seen.symm
    next hid =>
      rw [if_neg hid] at seen
      rw [getD_put, getD_put, if_pos rfl, seen, ite_self]
  next => rfl

theorem evaluate?_respelled
    (seen : row.getD (FieldPath.inGrid gridId plan.fieldId) =
      seenCandidate plan.fieldId value row) {expr expr' : Value}
    (h : Respelled (OwnSpelling gridId plan.fieldId) expr expr') :
    evaluate? expr' (plan.candidateRow value row) = evaluate? expr (plan.candidateRow value row) := by
  have own (ref other : String) (ho : OwnSpelling gridId plan.fieldId ref other) :
      ownId gridId plan.fieldId ref = ownId gridId plan.fieldId other := ho.ownId_eq
  have hspelled (v : Value) : evaluate? v (plan.candidateRow value row) =
      (spelledExpr (ownId gridId plan.fieldId) v).evaluate? (plan.candidateRow value row) :=
    congrArg Expr.contain (Expr.attempt_mapRefs (getD_candidateRow_ownId seen) _).symm
  rw [hspelled, hspelled, h.spelledExpr_eq own]

/-- Of the expression of a rule only its value counts. -/
theorem checkRule_put_expr {rule : Entries} {expr : Value}
    (h : evaluate? expr (plan.candidateRow value row) =
      evaluate? (rule.getD "expr") (plan.candidateRow value row)) :
    plan.checkRule value row (rule.put "expr" expr) = plan.checkRule value row rule := by
  have hget {key : String} (hne : key ≠ "expr") :
      Entries.getD (rule.put "expr" expr) key = rule.getD key := by
    rw [getD_put, if_neg hne]
  have hkind : Rule.kind? (rule.put "expr" expr) = Rule.kind? rule := by
    rw [Rule.kind?, Rule.kind?, hget (by decide)]
  have hown : Rule.ownMessage? (rule.put "expr" expr) = Rule.ownMessage? rule := by
    rw [Rule.ownMessage?, Rule.ownMessage?, hget (by decide)]
  have hmessage : Rule.message (rule.put "expr" expr) = Rule.message rule := by
    simp only [Rule.message, Rule.defaultMessage, hown, hkind,
      hget (show "value" ≠ "expr" by decide)]
  have hexpr : Entries.getD (rule.put "expr" expr) "expr" = expr := by rw [getD_put, if_pos rfl]
  simp only [checkRule, checkRange, checkLength, checkBound, checkExpr, hkind, hown, hmessage,
    hexpr, h, hget (show "value" ≠ "expr" by decide)]

theorem checkRules_congr {rules rules' : List Entries}
    (h : List.Forall₂ (fun r r' => plan.checkRule value row r = plan.checkRule value row r') rules
      rules') : plan.checkRules value row rules = plan.checkRules value row rules' := by
  induction h with
  | nil => rfl
  | cons hr _ ih => rw [checkRules, checkRules, hr, ih]

theorem checkRules_respelled
    (seen : row.getD (FieldPath.inGrid gridId plan.fieldId) =
      seenCandidate plan.fieldId value row) {rules rules' : List Value} (implied : List Entries)
    (h : RespelledIn (OwnSpelling gridId plan.fieldId) rules rules') :
    plan.checkRules value row (implied ++ rules'.filterMap Value.object?) =
      plan.checkRules value row (implied ++ rules.filterMap Value.object?) := by
  obtain @⟨front, back, rule, expr, hexpr⟩ := h
  have hrule := checkRule_put_expr (evaluate?_respelled seen hexpr)
  have same (rules : List Entries) : List.Forall₂
      (fun r r' => plan.checkRule value row r = plan.checkRule value row r') rules rules :=
    List.forall₂_same.mpr fun _ _ => rfl
  apply checkRules_congr
  simp only [List.filterMap_append, List.filterMap_cons, Value.object?]
  exact List.rel_append (same implied) (List.rel_append (same _) (.cons hrule (same _)))

/-- A plan goes through any rules in the same way, whatever its own are. -/
theorem checkRules_with_rules (own rules : List Entries) :
    ({ plan with rules := own } : ValidationPlan).checkRules value row rules =
      plan.checkRules value row rules := by
  induction rules with
  | nil => rfl
  | cons rule rest ih =>
    rw [checkRules, checkRules, ih]
    rfl

/-- The plan of a field without rules. -/
def bare (fieldId fieldType : String) (config : Entries) : ValidationPlan where
  fieldId := fieldId
  rules := []
  skip := decide (config.getD "isHidden" = .bool true) ||
    decide (config.getD "isDisabled" = .bool true)
  isStringType := GridRules.isStringType fieldType
  isNumberType := GridRules.isNumberType fieldType

theorem build_check_eq (fieldId fieldType : String) (config : Entries) (rules : List Value) :
    ((build fieldId fieldType config rules).bind fun plan => plan.check value row) =
      (configRules config).bind fun implied =>
        if (bare fieldId fieldType config).skip then .ok none
        else (bare fieldId fieldType config).checkRules value row
          (implied ++ rules.filterMap Value.object?) := by
  unfold build
  cases configRules config with
  | error e => rfl
  | ok implied =>
    change ValidationPlan.check _ value row = _
    rw [check]
    exact congrArg (ite _ _) (@checkRules_with_rules (bare fieldId fieldType config) value row _ _)

theorem build_check_respelled {fieldId : String} (fieldType : String) (config : Entries)
    {rules rules' : List Value}
    (seen : row.getD (FieldPath.inGrid gridId fieldId) = seenCandidate fieldId value row)
    (h : RespelledIn (OwnSpelling gridId fieldId) rules rules') :
    ((build fieldId fieldType config rules').bind fun plan => plan.check value row) =
      (build fieldId fieldType config rules).bind fun plan => plan.check value row := by
  have hrules (implied : List Entries) :=
    @checkRules_respelled (bare fieldId fieldType config) gridId value row seen _ _ implied h
  rw [build_check_eq, build_check_eq]
  simp only [hrules]

end ValidationPlan

namespace ValidationPlanner

/-- What the plan of a field of a tracker says about a value. -/
def checkForField (planner : ValidationPlanner) (tracker : Tracker) (gridId fieldId : String)
    (value : Value) (row : Entries) : Option (Except Fault (Option String)) :=
  (planner.compileForField tracker gridId fieldId).map fun compiled =>
    compiled.1.bind fun plan => plan.check value row

theorem checkForField_ofSettings (settings : CacheSettings) (tracker : Tracker)
    (gridId fieldId : String) (value : Value) (row : Entries) :
    (ofSettings settings).checkForField tracker gridId fieldId value row =
      (tracker.field? fieldId).map fun field =>
        (ValidationPlan.build fieldId field.dataType field.config
          (rulesOf tracker gridId fieldId)).bind fun plan => plan.check value row := by
  have hcompile (fieldType : String) (config : Entries) (rules : List Value) :
      ((ofSettings settings).compile fieldId fieldType config rules).1 =
        ValidationPlan.build fieldId fieldType config rules := by
    change ((ofSettings settings).compileInput ⟨fieldId, fieldType, config, rules⟩).1 = _
    rw [compileInput_eq, Prod.map_fst, id, BoundedCache.getOr_fst]
    rfl
  rw [checkForField, compileForField, Option.map_map]
  simp only [Function.comp_def, hcompile]

/-- Where the row shows the candidate under the path of the field too, it makes no difference to the
rules of the field whether they name it by its id or by its path. -/
theorem checkForField_respelled (settings : CacheSettings) (tracker : Tracker)
    (validations : Entries) (gridId fieldId : String)
    (respelled : Relation.ReflTransGen (RespelledIn (OwnSpelling gridId fieldId))
      (rulesOf tracker gridId fieldId)
      (rulesOf { tracker with validations := validations } gridId fieldId))
    (value : Value) (row : Entries)
    (seen : row.getD (FieldPath.inGrid gridId fieldId) = seenCandidate fieldId value row) :
    (ofSettings settings).checkForField { tracker with validations := validations } gridId fieldId
        value row =
      (ofSettings settings).checkForField tracker gridId fieldId value row := by
  have hcheck (fieldType : String) (config : Entries) {rules rules' : List Value}
      (h : Relation.ReflTransGen (RespelledIn (OwnSpelling gridId fieldId)) rules rules') :
      ((ValidationPlan.build fieldId fieldType config rules').bind fun p => p.check value row) =
        (ValidationPlan.build fieldId fieldType config rules).bind
          fun p => p.check value row := by
    induction h with
    | refl => rfl
    | tail _ step ih => rw [← ih, ValidationPlan.build_check_respelled fieldType config seen step]
  rw [checkForField_ofSettings, checkForField_ofSettings]
  simp only [hcheck _ _ respelled]
  rfl

/-- Rules for the count of an order: it is five at most, and named by a reference of its own. -/
def countRules (ref : String) : Entries :=
  [("order.count", .list [.object [("type", .str "expr"), ("expr", .object [("op", .str "lte"),
    ("left", .object [("op", .str "field"), ("fieldId", .str ref)]),
    ("right", .object [("op", .str "const"), ("value", .int 5)])])]])]

def countTracker (ref : String) : Tracker where
  tabs := []
  sections := []
  grids := [⟨"order", "Orders", none, none⟩]
  fields := [⟨"count", "number", none, []⟩]
  layoutNodes := [⟨"order", "count", none⟩]
  validations := countRules ref
  calculations := []
  options := .empty

theorem countRules_respelled :
    RespelledIn (OwnSpelling "order" "count") (rulesOf (countTracker "count") "order" "count")
      (rulesOf { countTracker "count" with validations := countRules "order.count" } "order"
        "count") :=
  @RespelledIn.rule _ [] [] _ _
    (@Respelled.operand _ _ (.binary .lte) "left" _ rfl (by decide)
      (.field rfl rfl (.inl ⟨rfl, rfl⟩)))

theorem checkForField_respelled_count :
    let row : Entries := [("count", .int 1), ("order.count", .int 9)]
    (countTracker "count").checkRules = .ok ⟨[], []⟩ ∧
      (countTracker "order.count").checkRules = .ok ⟨[], []⟩ ∧
      row.getD (FieldPath.inGrid "order" "count") = seenCandidate "count" (.int 9) row ∧
      (ofSettings .default).checkForField
          { countTracker "count" with validations := countRules "order.count" } "order" "count"
          (.int 9) row =
        (ofSettings .default).checkForField (countTracker "count") "order" "count" (.int 9)
          row := by
  intro row
  refine ⟨by decide +kernel, by decide +kernel, by decide, ?_⟩
  exact checkForField_respelled .default _ _ "order" "count" (.single countRules_respelled) (.int 9)
    row (by decide)

/-- A rule that names its own field by the path goes by the value in the row, not by the
candidate. -/
theorem checkForField_ne_respelled :
    let row : Entries := [("count", .int 1), ("order.count", .int 1)]
    (countTracker "count").checkRules = .ok ⟨[], []⟩ ∧
      (countTracker "order.count").checkRules = .ok ⟨[], []⟩ ∧
      (ofSettings .default).checkForField (countTracker "count") "order" "count" (.int 9) row =
        some (.ok (some "Invalid value")) ∧
      (ofSettings .default).checkForField (countTracker "order.count") "order" "count" (.int 9)
        row = some (.ok none) := by
  intro row
  rw [checkForField_ofSettings, checkForField_ofSettings]
  decide +kernel

end ValidationPlanner

end GridRules
