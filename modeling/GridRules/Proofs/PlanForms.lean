import GridRules.Proofs.ExpressionForms
import GridRules.Proofs.Results
import GridRules.Validation.Planner

namespace GridRules

open Canonical (form)

namespace Rule

/-- The constants of the expression that a rule checks by, if it does. -/
def constants (rule : Entries) : List Value :=
  if kind? rule = some .expr then (Expr.ofValue (rule.getD "expr")).constants else []

/-- Rules of one form whose constants are spelled alike. -/
structure Alike (r r' : Entries) : Prop where
  form_eq : form (.object r) = form (.object r')
  constants_eq : constants r = constants r'

namespace Alike

variable {r r' : Entries}

theorem kind?_eq (h : Alike r r') : kind? r = kind? r' := by
  unfold kind?
  rw [Canonical.string?_alike (Canonical.getD_alike h.form_eq "type")]

theorem ownMessage?_eq (h : Alike r r') : ownMessage? r = ownMessage? r' := by
  have hown (r : Entries) : ownMessage? r =
      (r.getD "message").string?.bind fun s => if s = "" then none else some s := by
    unfold ownMessage?
    cases r.getD "message" <;> rfl
  rw [hown, hown, Canonical.string?_alike (Canonical.getD_alike h.form_eq "message")]

/-- The messages of rules without a bound, or with a number as their bound. -/
theorem message_eq (h : Alike r r')
    (hbound : (r.getD "value").isNumber = true ∨ kind? r = some .required ∨ kind? r = some .expr) :
    message r = message r' := by
  have hdefault : defaultMessage r = defaultMessage r' := by
    unfold defaultMessage
    simp only
    rw [← h.kind?_eq]
    rcases hbound with hbound | hkind | hkind
    · rw [Canonical.boundText_alike (Canonical.getD_alike h.form_eq "value") hbound]
    · rw [hkind]
    · rw [hkind]
  rw [message, message, h.ownMessage?_eq, hdefault]

end Alike

end Rule

namespace ValidationPlan

/-- Plans of one field with rules that are alike one by one. -/
structure Alike (p p' : ValidationPlan) : Prop where
  fieldId : p.fieldId = p'.fieldId
  rules : List.Forall₂ Rule.Alike p.rules p'.rules
  skip : p.skip = p'.skip
  isStringType : p.isStringType = p'.isStringType
  isNumberType : p.isNumberType = p'.isNumberType

theorem refuses_alike (kind : RuleKind) (n : Number) {bound bound' : Number}
    (h : bound.Alike bound') : refuses kind n bound = refuses kind n bound' := by
  cases kind <;> simp [refuses, h.lt_left, h.lt_right]

theorem checkBound_alike {r r' : Entries} (h : Rule.Alike r r') (kind : RuleKind) (n : Number) :
    checkBound r kind n = checkBound r' kind n := by
  unfold checkBound
  rcases Canonical.number?_alike (Canonical.getD_alike h.form_eq "value") with
    ⟨hr, hr'⟩ | ⟨bound, bound', hr, hr', hbound⟩
  · rw [hr, hr']
  · rw [hr, hr']
    simp only
    rw [refuses_alike kind n hbound, h.message_eq (.inl (by rw [Value.isNumber, hr]; rfl))]

theorem checkRange_alike {r r' : Entries} (h : Rule.Alike r r') (kind : RuleKind) (value : Value) :
    checkRange r kind value = checkRange r' kind value := by
  unfold checkRange
  simp only [h.ownMessage?_eq, checkBound_alike h]

section Checks

variable {p p' : ValidationPlan} (h : p.Alike p')
include h

theorem checkLength_alike {r r' : Entries} (hr : Rule.Alike r r') (kind : RuleKind)
    (value : Value) : p.checkLength r kind value = p'.checkLength r' kind value := by
  unfold checkLength
  rw [h.isStringType, checkBound_alike hr]

theorem checkExpr_alike {r r' : Entries} (hr : Rule.Alike r r')
    (hkind : Rule.kind? r = some .expr) (value : Value) (row : Entries) :
    p.checkExpr r value row = p'.checkExpr r' value row := by
  have hconstants := hr.constants_eq
  unfold Rule.constants at hconstants
  rw [if_pos hkind, if_pos (hr.kind?_eq ▸ hkind)] at hconstants
  have hrow : p.candidateRow value row = p'.candidateRow value row := by
    rw [candidateRow, candidateRow, h.fieldId]
  unfold checkExpr
  rw [hrow, evaluate?_eq_of_constants (Canonical.getD_alike hr.form_eq "expr") hconstants,
    hr.message_eq (.inr (.inr hkind))]

theorem checkRule_alike {r r' : Entries} (hr : Rule.Alike r r') (value : Value) (row : Entries) :
    p.checkRule value row r = p'.checkRule value row r' := by
  unfold checkRule
  rw [← hr.kind?_eq]
  cases hkind : Rule.kind? r with
  | none => rfl
  | some kind =>
    cases kind with
    | required => simp only [hr.message_eq (.inr (.inl hkind))]
    | min | max => exact checkRange_alike hr _ value
    | minLength | maxLength => exact congrArg Except.ok (checkLength_alike h hr _ value)
    | expr => exact checkExpr_alike h hr hkind value row

theorem checkRules_alike {rules rules' : List Entries}
    (hrules : List.Forall₂ Rule.Alike rules rules') (value : Value) (row : Entries) :
    p.checkRules value row rules = p'.checkRules value row rules' := by
  induction hrules with
  | nil =>
    rw [checkRules, checkRules, checkNumber, checkNumber, h.isNumberType]
  | cons hr _ ih => rw [checkRules, checkRules, checkRule_alike h hr, ih]

/-- Plans that are alike check every value in the same way. -/
theorem check_alike (value : Value) (row : Entries) : p.check value row = p'.check value row := by
  rw [check, check, h.skip, checkRules_alike h h.rules]

end Checks

/-- The constants that each rule of a list checks by. -/
def ruleConstants (rules : List Value) : List (List Value) :=
  rules.map fun rule => (rule.object?.map Rule.constants).getD []

theorem form_object_of_entries {a b : List (String × Value)}
    (h : a.map (fun e => (e.1, form e.2)) = b.map fun e => (e.1, form e.2)) :
    form (.object a) = form (.object b) := by
  rw [Canonical.form_object, Canonical.form_object, Canonical.map_inKeyOrder,
    Canonical.map_inKeyOrder, h]

theorem form_of_number? {v : Value} {n : Number} (h : v.number? = some n) : v = .ofNumber n := by
  cases v with
  | int | float =>
    cases h
    rfl
  | null | bool | str | list | object => cases h

theorem kind?_implied (kind : RuleKind) (rest : Entries) :
    Rule.kind? (("type", .str kind.name) :: rest) = some kind := by
  cases kind <;> rfl

theorem constants_implied {kind : RuleKind} (h : kind ≠ .expr) (rest : Entries) :
    Rule.constants (("type", .str kind.name) :: rest) = [] := by
  rw [Rule.constants, kind?_implied, if_neg fun hkind => h (Option.some.inj hkind)]

theorem boundRule_alike {config config' : Entries}
    (h : form (.object config) = form (.object config')) {kind : RuleKind} (hkind : kind ≠ .expr) :
    AgreeBy (List.Forall₂ Rule.Alike) (boundRule config kind) (boundRule config' kind) := by
  have hvalue := Canonical.getD_alike h kind.name
  unfold boundRule
  rcases Canonical.number?_alike hvalue with ⟨hn, hn'⟩ | ⟨n, n', hn, hn', halike⟩
  · rw [hn, hn']
    exact .nil
  · rw [hn, hn']
    simp only [halike.nanTest]
    cases n'.nanTest? with
    | none => exact rfl
    | some isNaN =>
      cases isNaN with
      | true => exact .nil
      | false =>
        refine .cons ⟨form_object_of_entries ?_, ?_⟩ .nil
        · rw [form_of_number? hn, form_of_number? hn'] at hvalue
          simp [hvalue]
        · rw [constants_implied hkind, constants_implied hkind]

theorem configRules_alike {config config' : Entries}
    (h : form (.object config) = form (.object config')) :
    AgreeBy (List.Forall₂ Rule.Alike) (configRules config) (configRules config') := by
  unfold configRules
  refine (AgreeBy.mapM fun kind hkind => boundRule_alike h ?_).bind fun bounds bounds' hbounds => ?_
  · rintro rfl
    simp at hkind
  · refine List.rel_append ?_ (List.rel_flatten hbounds)
    simp only [Canonical.eq_bool_alike (Canonical.getD_alike h "isRequired")]
    split
    · exact .cons ⟨rfl, rfl⟩ .nil
    · exact .nil

theorem givenRules_alike {rules rules' : List Value} (h : rules.map form = rules'.map form)
    (hconstants : ruleConstants rules = ruleConstants rules') :
    List.Forall₂ Rule.Alike (rules.filterMap Value.object?) (rules'.filterMap Value.object?) := by
  induction rules generalizing rules' with
  | nil =>
    cases rules' with
    | nil => exact .nil
    | cons => cases h
  | cons rule rules ih =>
    cases rules' with
    | nil => cases h
    | cons rule' rules' =>
      obtain ⟨hform, hforms⟩ := List.cons.inj h
      obtain ⟨hrule, hrules⟩ := List.cons.inj hconstants
      have hrest := ih hforms hrules
      by_cases hobject : ∃ r : Entries, rule = .object r
      · obtain ⟨r, rfl⟩ := hobject
        obtain ⟨r', rfl⟩ := Canonical.object_alike hform
        exact .cons ⟨hform, hrule⟩ hrest
      · have hnone : rule.object? = none := by
          cases rule with
          | object r => exact absurd ⟨r, rfl⟩ hobject
          | null | bool | int | float | str | list => rfl
        have hnone' : rule'.object? = none := by
          cases rule' with
          | object r => exact absurd (Canonical.object_alike hform.symm) hobject
          | null | bool | int | float | str | list => rfl
        rwa [List.filterMap_cons_none hnone, List.filterMap_cons_none hnone']

/-- Plans for inputs of one form are alike, if the constants of the rules are spelled alike; and
what cannot be compiled in one spelling cannot in the other. -/
theorem build_alike (fieldId fieldType : String) {config config' : Entries}
    {rules rules' : List Value} (hconfig : form (.object config) = form (.object config'))
    (hrules : rules.map form = rules'.map form)
    (hconstants : ruleConstants rules = ruleConstants rules') :
    AgreeBy Alike (build fieldId fieldType config rules)
      (build fieldId fieldType config' rules') := by
  unfold build
  refine (configRules_alike hconfig).bind fun implied implied' himplied => ?_
  refine ⟨rfl, List.rel_append himplied (givenRules_alike hrules hconstants), ?_, rfl, rfl⟩
  simp only [Canonical.eq_bool_alike (Canonical.getD_alike hconfig "isHidden"),
    Canonical.eq_bool_alike (Canonical.getD_alike hconfig "isDisabled")]

end ValidationPlan

end GridRules
