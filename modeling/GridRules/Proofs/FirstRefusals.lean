import GridRules.Proofs.CandidateSpellings
/-!
A check decides rule by rule. What one rule says of a value does not depend on the others, so that
the check accepts exactly what each rule accepts alone, and else gives the message of the first rule
that refuses; the test for numbers comes behind the last rule.
-/

namespace GridRules

theorem Number.isNaN_of_nanTest? {n : Number} {nan : Bool} (h : n.nanTest? = some nan) :
    n.isNaN = nan := by
  obtain ⟨x, hx, rfl⟩ := Option.map_eq_some_iff.mp h
  cases n with
  | int n => exact (isNaN_of_toFloat? rfl hx).symm
  | float y =>
    obtain rfl := Option.some.inj hx
    rfl

/-- The value is empty, or it is or spells a number. -/
def Value.EmptyOrNumber (v : Value) : Prop :=
  v.isEmpty = true ∨ ∃ n, v.parseNumber? = some n ∧ n.isNaN = false

namespace ValidationPlan

/-- The plan of the same field with other rules. -/
def withRules (plan : ValidationPlan) (rules : List Entries) : ValidationPlan :=
  { plan with rules := rules }

/-- The plan of the same field with a single rule and without the test for numbers. -/
def alone (plan : ValidationPlan) (rule : Entries) : ValidationPlan :=
  { plan with rules := [rule], isNumberType := false }

section Rules

variable {plan : ValidationPlan} {value : Value} {row : Entries}

theorem checkRules_eq_none_iff (rules : List Entries) :
    plan.checkRules value row rules = .ok none ↔
      (∀ rule ∈ rules, plan.checkRule value row rule = .ok none) ∧
        plan.checkNumber value = .ok none := by
  induction rules with
  | nil => simp [checkRules]
  | cons rule rest ih =>
    rw [checkRules, bind_eq_ok_iff, List.forall_mem_cons, and_assoc, ← ih]
    constructor
    · rintro ⟨refused, hrule, hrest⟩
      cases refused with
      | some message => cases hrest
      | none => exact ⟨hrule, hrest⟩
    · rintro ⟨hrule, hrest⟩
      exact ⟨none, hrule, hrest⟩

theorem checkRules_eq_some_iff (rules : List Entries) (message : String) :
    plan.checkRules value row rules = .ok (some message) ↔
      (∃ before rule after, rules = before ++ rule :: after ∧
        (∀ other ∈ before, plan.checkRule value row other = .ok none) ∧
        plan.checkRule value row rule = .ok (some message)) ∨
      (∀ rule ∈ rules, plan.checkRule value row rule = .ok none) ∧
        plan.checkNumber value = .ok (some message) := by
  induction rules with
  | nil => simp [checkRules]
  | cons rule rest ih =>
    rw [checkRules, bind_eq_ok_iff]
    constructor
    · rintro ⟨refused, hrule, hrest⟩
      cases refused with
      | some own =>
        obtain rfl : own = message := Option.some.inj (Except.ok.inj hrest)
        exact .inl ⟨[], rule, rest, rfl, List.forall_mem_nil _, hrule⟩
      | none =>
        rcases ih.mp hrest with ⟨before, first, after, rfl, accepted, refused⟩ | ⟨accepted, number⟩
        · refine .inl ⟨rule :: before, first, after, rfl, ?_, refused⟩
          exact List.forall_mem_cons.mpr ⟨hrule, accepted⟩
        · exact .inr ⟨List.forall_mem_cons.mpr ⟨hrule, accepted⟩, number⟩
    · rintro (⟨before, first, after, hsplit, accepted, refused⟩ | ⟨accepted, number⟩)
      · rcases List.cons_eq_append_iff.mp hsplit with ⟨rfl, hcons⟩ | ⟨others, rfl, rfl⟩
        · obtain ⟨rfl, rfl⟩ := List.cons.inj hcons
          exact ⟨some message, refused, rfl⟩
        · obtain ⟨hrule, accepted⟩ := List.forall_mem_cons.mp accepted
          exact ⟨none, hrule, ih.mpr (.inl ⟨others, first, after, rfl, accepted, refused⟩)⟩
      · obtain ⟨hrule, accepted⟩ := List.forall_mem_cons.mp accepted
        exact ⟨none, hrule, ih.mpr (.inr ⟨accepted, number⟩)⟩

theorem exists_checkRules {rules : List Entries}
    (answers : ∀ rule ∈ rules, ∃ refused, plan.checkRule value row rule = .ok refused)
    (number : ∃ refused, plan.checkNumber value = .ok refused) :
    ∃ refused, plan.checkRules value row rules = .ok refused := by
  induction rules with
  | nil => exact number
  | cons rule rest ih =>
    obtain ⟨⟨refused, hrule⟩, answers⟩ := List.forall_mem_cons.mp answers
    rw [checkRules, hrule]
    cases refused with
    | some message => exact ⟨some message, rfl⟩
    | none => exact ih answers

/-- If the test for numbers comes to an answer, it accepts what is empty or a number, and refuses
all else with one message. -/
theorem checkNumber_cases (answers : ∃ refused, plan.checkNumber value = .ok refused) :
    (plan.isNumberType = true → value.EmptyOrNumber) ∧ plan.checkNumber value = .ok none ∨
      ¬ (plan.isNumberType = true → value.EmptyOrNumber) ∧
        plan.checkNumber value = .ok (some invalidNumberMessage) := by
  cases tested : plan.isNumberType && !value.isEmpty with
  | false =>
    refine .inl ⟨fun typed => .inl ?_, by rw [checkNumber, tested]; rfl⟩
    simpa [typed] using tested
  | true =>
    have hcheck : plan.checkNumber value = (do
        let n ← orTooLarge value.parseNumber?
        if ← orTooLarge n.nanTest? then return some invalidNumberMessage
        return none) := by
      rw [checkNumber, tested, if_pos rfl]
    simp only [Bool.and_eq_true, Bool.not_eq_true'] at tested
    obtain ⟨refused, hrefused⟩ := answers
    obtain ⟨n, hparse, hnext⟩ := bind_eq_ok_iff.mp (hcheck ▸ hrefused)
    obtain ⟨nan, htest, hlast⟩ := bind_eq_ok_iff.mp hnext
    have hnumber : (plan.isNumberType = true → value.EmptyOrNumber) ↔ nan = false := by
      rw [← Number.isNaN_of_nanTest? (orTooLarge_eq_ok_iff.mp htest)]
      simp [Value.EmptyOrNumber, tested, orTooLarge_eq_ok_iff.mp hparse]
    rw [hnumber, hrefused]
    cases nan with
    | false => exact .inl ⟨rfl, hlast.symm⟩
    | true => exact .inr ⟨Bool.true_eq_false.mp, hlast.symm⟩

variable (plan value row)

/-- A rule alone says what it says among others. -/
theorem check_alone (unskipped : plan.skip = false) (rule : Entries) :
    (plan.alone rule).check value row = plan.checkRule value row rule := by
  have hrule : (plan.alone rule).checkRule value row rule = plan.checkRule value row rule := rfl
  have hnumber : (plan.alone rule).checkNumber value = .ok none := rfl
  rw [check, alone, unskipped]
  change (plan.alone rule).checkRules value row [rule] = _
  rw [checkRules, hrule, checkRules, hnumber]
  cases plan.checkRule value row rule with
  | error e => rfl
  | ok refused => cases refused <;> rfl

theorem check_withRules (unskipped : plan.skip = false) (rules : List Entries) :
    (plan.withRules rules).check value row = plan.checkRules value row rules := by
  rw [check, if_neg (show ¬ (plan.withRules rules).skip = true by simp [withRules, unskipped])]
  exact checkRules_with_rules rules rules

theorem check_of_skip (skipped : plan.skip = true) : plan.check value row = .ok none := by
  rw [check, skipped, if_pos rfl]

end Rules

/-- The message of the first rule that refuses the value alone; where each accepts it alone, that of
the test for numbers. -/
inductive RefusedFirst (plan : ValidationPlan) (value : Value) (row : Entries) : String → Prop
  | rule {before after : List Entries} {rule : Entries} {message : String}
    (split : plan.rules = before ++ rule :: after)
    (accepted : ∀ other ∈ before, (plan.alone other).check value row = .ok none)
    (refused : (plan.alone rule).check value row = .ok (some message)) :
    RefusedFirst plan value row message
  | number (accepted : ∀ rule ∈ plan.rules, (plan.alone rule).check value row = .ok none)
    (typed : plan.isNumberType = true) (other : ¬ value.EmptyOrNumber) :
    RefusedFirst plan value row invalidNumberMessage

section Unskipped

variable {plan : ValidationPlan} {value : Value} {row : Entries} (unskipped : plan.skip = false)
  (number : ∃ refused, (plan.withRules []).check value row = .ok refused)

include unskipped

theorem exists_check
    (answers : ∀ rule ∈ plan.rules, ∃ refused, (plan.alone rule).check value row = .ok refused)
    (number : ∃ refused, (plan.withRules []).check value row = .ok refused) :
    ∃ refused, plan.check value row = .ok refused := by
  simp only [check_alone _ _ _ unskipped, check_withRules _ _ _ unskipped] at answers number
  rw [show plan.check value row = _ from plan.check_withRules value row unskipped plan.rules]
  exact exists_checkRules answers number

include number

theorem check_eq_none_iff :
    plan.check value row = .ok none ↔
      (∀ rule ∈ plan.rules, (plan.alone rule).check value row = .ok none) ∧
        (plan.isNumberType = true → value.EmptyOrNumber) := by
  rw [check_withRules _ _ _ unskipped] at number
  rw [show plan.check value row = _ from plan.check_withRules value row unskipped plan.rules,
    checkRules_eq_none_iff]
  simp only [check_alone _ _ _ unskipped]
  refine and_congr_right fun _ => ?_
  rcases checkNumber_cases number with ⟨fits, hnumber⟩ | ⟨misfits, hnumber⟩
  · exact iff_of_true hnumber fits
  · exact iff_of_false (by simp [hnumber]) misfits

theorem check_eq_some_iff (message : String) :
    plan.check value row = .ok (some message) ↔ plan.RefusedFirst value row message := by
  rw [check_withRules _ _ _ unskipped] at number
  rw [show plan.check value row = _ from plan.check_withRules value row unskipped plan.rules,
    checkRules_eq_some_iff]
  have halone := check_alone plan value row unskipped
  constructor
  · rintro (⟨before, rule, after, split, accepted, refused⟩ | ⟨accepted, refused⟩)
    · refine .rule split (fun other hother => ?_) ((halone rule).trans refused)
      exact (halone other).trans (accepted other hother)
    · rcases checkNumber_cases number with ⟨-, hnumber⟩ | ⟨misfits, hnumber⟩
      · cases hnumber.symm.trans refused
      · obtain ⟨typed, other⟩ := Classical.not_imp.mp misfits
        obtain rfl := Option.some.inj (Except.ok.inj (hnumber.symm.trans refused))
        exact .number (fun rule hrule => (halone rule).trans (accepted rule hrule)) typed other
  · intro refusedFirst
    cases refusedFirst with
    | @rule before after rule _ split accepted refused =>
      refine .inl ⟨before, rule, after, split, fun other hother => ?_,
        (halone rule).symm.trans refused⟩
      exact (halone other).symm.trans (accepted other hother)
    | number accepted typed other =>
      refine .inr ⟨fun rule hrule => (halone rule).symm.trans (accepted rule hrule), ?_⟩
      rcases checkNumber_cases number with ⟨fits, -⟩ | ⟨-, hnumber⟩
      · exact absurd (fits typed) other
      · exact hnumber

end Unskipped

/-- Where each rule alone and the test for numbers come to an answer, so does the check. It accepts
a value if the field is skipped, or if each rule alone does and a number field is given nothing or a
number; else it gives the message of what refuses first. The order of the rules does not decide
about acceptance, and with fewer rules nothing is refused that was accepted. -/
theorem check_rule_by_rule (plan : ValidationPlan) (value : Value) (row : Entries)
    (answers : ∀ rule ∈ plan.rules, ∃ refused, (plan.alone rule).check value row = .ok refused)
    (number : ∃ refused, (plan.withRules []).check value row = .ok refused) :
    (∃ refused, plan.check value row = .ok refused) ∧
    (plan.check value row = .ok none ↔ plan.skip = true ∨
      (∀ rule ∈ plan.rules, (plan.alone rule).check value row = .ok none) ∧
        (plan.isNumberType = true → value.EmptyOrNumber)) ∧
    (∀ message, plan.check value row = .ok (some message) ↔
      plan.skip = false ∧ plan.RefusedFirst value row message) ∧
    (∀ rules, rules.Perm plan.rules → ∃ refused,
      (plan.withRules rules).check value row = .ok refused ∧
        (refused = none ↔ plan.check value row = .ok none)) ∧
    (∀ kept ⊆ plan.rules, plan.check value row = .ok none →
      (plan.withRules kept).check value row = .ok none) := by
  cases skipped : plan.skip with
  | true =>
    have accepts (rules : List Entries) : (plan.withRules rules).check value row = .ok none :=
      check_of_skip _ value row skipped
    have accepted : plan.check value row = .ok none := check_of_skip plan value row skipped
    exact ⟨⟨none, accepted⟩, by simp [accepted], fun message => by simp [accepted],
      fun rules _ => ⟨none, accepts rules, by simp [accepted]⟩, fun kept _ _ => accepts kept⟩
  | false =>
    have unskipped (rules : List Entries) : (plan.withRules rules).skip = false := skipped
    have accepts_iff (rules : List Entries) : (plan.withRules rules).check value row = .ok none ↔
        (∀ rule ∈ rules, (plan.alone rule).check value row = .ok none) ∧
          (plan.isNumberType = true → value.EmptyOrNumber) :=
      check_eq_none_iff (unskipped rules) number
    have accepted_iff := check_eq_none_iff skipped number
    refine ⟨exists_check skipped answers number, by simpa using accepted_iff,
      fun message => by simpa using check_eq_some_iff skipped number message,
      fun rules hperm => ?_, fun kept hkept haccepted => ?_⟩
    · obtain ⟨refused, hrefused⟩ := exists_check (unskipped rules)
        (fun rule hrule => answers rule (hperm.subset hrule)) number
      refine ⟨refused, hrefused, ?_⟩
      simp only [accepted_iff, ← hperm.mem_iff]
      rw [← accepts_iff, hrefused, Except.ok.injEq]
    · obtain ⟨each, fits⟩ := accepted_iff.mp haccepted
      exact (accepts_iff kept).mpr ⟨fun rule hrule => each rule (hkept hrule), fits⟩

/-- A dose of at least one that does not exceed the limit in its row. -/
def dosePlan : ValidationPlan where
  fieldId := "dose"
  rules := [
    [("type", .str "required")],
    [("type", .str "min"), ("value", .int 1)],
    [("type", .str "expr"), ("message", .str "Too much"), ("expr", .object [
      ("op", .str "lte"), ("args", .list [
        .object [("op", .str "field"), ("fieldId", .str "dose")],
        .object [("op", .str "field"), ("fieldId", .str "limit")]])])],
    [("type", .str "max"), ("value", .int 30)]]
  skip := false
  isStringType := false
  isNumberType := true

/-- The third rule refuses the dose before the fourth one does; in another order the message may be
that of the fourth. -/
theorem check_rule_by_rule_dose :
    let row : Entries := [("limit", .int 20)]
    (∀ rule ∈ dosePlan.rules, ∃ refused,
      (dosePlan.alone rule).check (.str "0x1F") row = .ok refused) ∧
    (dosePlan.withRules []).check (.str "0x1F") row = .ok none ∧
    dosePlan.check (.str "0x1F") row = .ok (some "Too much") ∧
    ∀ rules, rules.Perm dosePlan.rules → ∃ message,
      (dosePlan.withRules rules).check (.str "0x1F") row = .ok (some message) := by
  intro row
  have each : ∀ rule ∈ dosePlan.rules,
      ((dosePlan.alone rule).check (.str "0x1F") row).toOption.isSome = true := by
    decide +kernel
  have answers : ∀ rule ∈ dosePlan.rules, ∃ refused,
      (dosePlan.alone rule).check (.str "0x1F") row = .ok refused := by
    intro rule hrule
    have hsome := each rule hrule
    cases hcheck : (dosePlan.alone rule).check (.str "0x1F") row with
    | ok refused => exact ⟨refused, rfl⟩
    | error e => simp [hcheck, Except.toOption] at hsome
  have number : (dosePlan.withRules []).check (.str "0x1F") row = .ok none := by decide +kernel
  obtain ⟨-, -, hsome, hperm, -⟩ :=
    check_rule_by_rule dosePlan (.str "0x1F") row answers ⟨none, number⟩
  have accepted : ∀ rule ∈ dosePlan.rules.take 2,
      (dosePlan.alone rule).check (.str "0x1F") row = .ok none := by
    decide +kernel
  have refused : dosePlan.check (.str "0x1F") row = .ok (some "Too much") :=
    (hsome "Too much").mpr ⟨rfl, .rule rfl accepted (by decide +kernel)⟩
  refine ⟨answers, number, refused, fun rules h => ?_⟩
  obtain ⟨answer, hanswer, hiff⟩ := hperm rules h
  cases answer with
  | some message => exact ⟨message, hanswer⟩
  | none => cases refused.symm.trans (hiff.mp rfl)

end ValidationPlan

end GridRules
