import GridRules.Proofs.NumberRanges
import GridRules.Proofs.PlannerRuns
/-!
When a check comes to an answer. It breaks off at a test of a number beyond the range of doubles: a
bound in the configuration, the value that is checked, or what an expression gives; and where the
evaluation of an expression breaks off.
-/

namespace GridRules

/-- The computation comes to a result if `P` holds, and else breaks off with a fault of which `F`
holds. -/
structure EndsIf {α : Type} (F : Fault → Prop) (P : Prop) (x : Except Fault α) : Prop where
  result : P → ∃ a, x = .ok a
  fault : ¬ P → ∃ fault, x = .error fault ∧ F fault

namespace EndsIf

variable {α β : Type} {F : Fault → Prop} {P Q : Prop} {x : Except Fault α}

theorem ok (a : α) : EndsIf F True (.ok a : Except Fault α) :=
  ⟨fun _ => ⟨a, rfl⟩, fun h => absurd trivial h⟩

theorem congr (h : EndsIf F P x) (hPQ : P ↔ Q) : EndsIf F Q x :=
  ⟨fun hQ => h.result (hPQ.mpr hQ), fun hQ => h.fault fun hP => hQ (hPQ.mp hP)⟩

theorem orTooLarge (large : F .tooLarge) (o : Option α) :
    EndsIf F (o.isSome = true) (GridRules.orTooLarge o) := by
  cases o with
  | none => exact ⟨nofun, fun _ => ⟨_, rfl, large⟩⟩
  | some a => exact (ok a).congr (by simp)

/-- What follows decides with the result that there is. -/
theorem bind {R : α → Prop} {f : α → Except Fault β} (h : EndsIf F P x)
    (hf : ∀ a, x = .ok a → EndsIf F (R a) (f a)) :
    EndsIf F (P ∧ ∀ a, x = .ok a → R a) (x >>= f) := by
  by_cases hP : P
  · obtain ⟨a, rfl⟩ := h.result hP
    refine (hf a rfl).congr ⟨fun hR => ⟨hP, ?_⟩, fun hR => hR.2 a rfl⟩
    rintro _ ⟨⟩
    exact hR
  · obtain ⟨fault, rfl, hF⟩ := h.fault hP
    exact ⟨fun hR => absurd hR.1 hP, fun _ => ⟨fault, rfl, hF⟩⟩

theorem bind_ok {f : α → Except Fault β} (h : EndsIf F P x) (hf : ∀ a, ∃ b, f a = .ok b) :
    EndsIf F P (x >>= f) := by
  have hR (a : α) : EndsIf F True (f a) := by
    obtain ⟨b, hb⟩ := hf a
    exact hb ▸ ok b
  exact (h.bind fun a _ => hR a).congr (by simp)

theorem mapM {items : List α} {R : α → Prop} {f : α → Except Fault β}
    (h : ∀ a, EndsIf F (R a) (f a)) : EndsIf F (∀ a ∈ items, R a) (items.mapM f) := by
  induction items with
  | nil => exact (ok []).congr (by simp)
  | cons a items ih =>
    rw [List.mapM_cons]
    refine ((h a).bind fun b _ => ih.bind_ok fun _ => ⟨_, rfl⟩).congr ?_
    rw [List.forall_mem_cons]
    refine ⟨fun ⟨ha, hrest⟩ => ⟨ha, ?_⟩, fun ⟨ha, hrest⟩ => ⟨ha, fun _ _ => hrest⟩⟩
    obtain ⟨b, hb⟩ := (h a).result ha
    exact hrest b hb

end EndsIf

/-- A value that is to be checked is parsed and tested for NaN. -/
theorem endsIf_parse {α : Type} {F : Fault → Prop} (large : F .tooLarge) (v : Value)
    {next : Number → Bool → Except Fault α} (hnext : ∀ n b, ∃ a, next n b = .ok a) :
    EndsIf F v.InRange (do
      let n ← orTooLarge v.parseNumber?
      let b ← orTooLarge n.nanTest?
      next n b) := by
  have htest (n : Number) : EndsIf F (n.nanTest?.isSome = true) (do
      let b ← orTooLarge n.nanTest?
      next n b) := (EndsIf.orTooLarge large _).bind_ok (hnext n)
  refine ((EndsIf.orTooLarge large _).bind fun n _ => htest n).congr ?_
  rw [← v.isSome_parseNumber?]
  cases v.parseNumber? <;> simp [orTooLarge]

/-- The computation comes to a value that is no number beyond the range of doubles. -/
def ComesInRange (x : Except Fault Value) : Prop :=
  ∃ v, x = .ok v ∧ v.NumberInRange

instance decideComesInRange : (x : Except Fault Value) → Decidable (ComesInRange x)
  | .ok v => decidable_of_iff v.NumberInRange (by simp [ComesInRange])
  | .error _ => isFalse (by simp [ComesInRange])

namespace ValidationPlan

variable (plan : ValidationPlan) (value : Value) (row : Entries)

/-- What the expression of a rule comes to for a candidate. -/
def exprOutcome (rule : Entries) : Except Fault Value :=
  evaluate? (rule.getD "expr") (plan.candidateRow value row)

/-- What a rule tests for NaN is within the range of doubles. -/
def RuleSettles (rule : Entries) : Prop :=
  (Rule.kind? rule ∈ [some .min, some .max] → value.isEmpty = false → value.InRange) ∧
    (Rule.kind? rule = some .expr → ComesInRange (plan.exprOutcome value row rule))

instance (rule : Entries) : Decidable (plan.RuleSettles value row rule) :=
  inferInstanceAs (Decidable (_ ∧ _))

/-- What is tested for NaN until a rule refuses the value is within the range of doubles. -/
def RulesSettle : List Entries → Prop
  | [] => plan.isNumberType = true → value.isEmpty = false → value.InRange
  | rule :: rest => plan.RuleSettles value row rule ∧
      (plan.checkRule value row rule = .ok none → RulesSettle rest)

instance decideRulesSettle : (rules : List Entries) → Decidable (plan.RulesSettle value row rules)
  | [] => inferInstanceAs (Decidable (_ → _ → _))
  | _ :: rest =>
    have := decideRulesSettle rest
    inferInstanceAs (Decidable (_ ∧ (_ → plan.RulesSettle value row rest)))

/-- Until a rule of the plan refuses the value, all that is tested is within range. -/
def Settles : Prop :=
  plan.skip = false → plan.RulesSettle value row plan.rules

instance : Decidable (plan.Settles value row) :=
  inferInstanceAs (Decidable (_ → _))

/-- The expression of one of the rules breaks off with the fault. -/
def ExprBreaksOff (rules : List Entries) (fault : Fault) : Prop :=
  ∃ rule ∈ rules, Rule.kind? rule = some .expr ∧ plan.exprOutcome value row rule = .error fault

variable {plan value row} {F : Fault → Prop} (large : F .tooLarge)
include large

theorem endsIf_checkRange (rule : Entries) (kind : RuleKind) :
    EndsIf F (value.isEmpty = false → value.InRange) (checkRange rule kind value) := by
  unfold checkRange
  split
  next h => exact (EndsIf.ok _).congr (by simp [h])
  next h =>
    refine (endsIf_parse large value fun n b => ?_).congr (by simp [h])
    cases b <;> exact ⟨_, rfl⟩

theorem endsIf_checkExpr {rule : Entries}
    (breaks : ∀ fault, plan.exprOutcome value row rule = .error fault → F fault) :
    EndsIf F (ComesInRange (plan.exprOutcome value row rule)) (plan.checkExpr rule value row) := by
  have htest (v : Value) : EndsIf F v.NumberInRange (do
      let accepted ← orTooLarge v.truthy?
      return if accepted then none else some (Rule.message rule)) :=
    ((EndsIf.orTooLarge large _).bind_ok fun b => ⟨_, rfl⟩).congr v.isSome_truthy?
  unfold checkExpr
  rw [← exprOutcome]
  cases houtcome : plan.exprOutcome value row rule with
  | error fault =>
    have hno : ¬ ComesInRange (.error fault) := fun ⟨_, hv, _⟩ => nomatch hv
    exact ⟨fun h => absurd h hno, fun _ => ⟨fault, rfl, breaks fault houtcome⟩⟩
  | ok v =>
    have hrange : v.NumberInRange ↔ ComesInRange (.ok v) := by simp [ComesInRange]
    refine EndsIf.congr ?_ hrange
    cases v with
    | null | bool | str => exact (EndsIf.ok _).congr (by simp [Value.NumberInRange, Value.number?])
    | int | float | list | object => exact htest _

theorem endsIf_checkRule {rule : Entries}
    (breaks : Rule.kind? rule = some .expr → ∀ fault,
      plan.exprOutcome value row rule = .error fault → F fault) :
    EndsIf F (plan.RuleSettles value row rule) (plan.checkRule value row rule) := by
  unfold checkRule RuleSettles
  cases hkind : Rule.kind? rule with
  | none => exact (EndsIf.ok none).congr (by simp)
  | some kind =>
    cases kind with
    | required | minLength | maxLength => exact (EndsIf.ok _).congr (by simp)
    | min | max => exact (endsIf_checkRange large rule _).congr (by simp)
    | expr => exact (endsIf_checkExpr large (breaks hkind)).congr (by simp)

theorem endsIf_checkNumber :
    EndsIf F (plan.isNumberType = true → value.isEmpty = false → value.InRange)
      (plan.checkNumber value) := by
  unfold checkNumber
  split
  next h =>
    refine (endsIf_parse large value fun n b => ?_).congr (by simp_all)
    cases b <;> exact ⟨_, rfl⟩
  next h => exact (EndsIf.ok none).congr (by simp_all)

theorem endsIf_checkRules {rules : List Entries}
    (breaks : ∀ fault, plan.ExprBreaksOff value row rules fault → F fault) :
    EndsIf F (plan.RulesSettle value row rules) (plan.checkRules value row rules) := by
  induction rules with
  | nil => exact endsIf_checkNumber large
  | cons rule rest ih =>
    have hrule : EndsIf F (plan.RuleSettles value row rule) (plan.checkRule value row rule) :=
      endsIf_checkRule large fun hkind fault h =>
        breaks fault ⟨rule, List.mem_cons_self, hkind, h⟩
    have hrest := ih fun fault ⟨other, hm, hother⟩ =>
      breaks fault ⟨other, List.mem_cons_of_mem rule hm, hother⟩
    rw [checkRules, RulesSettle]
    refine (hrule.bind (R := fun refused => refused = none → plan.RulesSettle value row rest)
      fun refused _ => ?_).congr ?_
    · cases refused with
      | some message => exact (EndsIf.ok _).congr (by simp)
      | none => exact hrest.congr (by simp)
    · refine and_congr_right fun _ => ⟨fun h hnone => h none hnone rfl, ?_⟩
      rintro h _ hnone rfl
      exact h hnone

theorem endsIf_check (breaks : ∀ fault, plan.ExprBreaksOff value row plan.rules fault → F fault) :
    EndsIf F (plan.Settles value row) (plan.check value row) := by
  unfold check Settles
  split
  next h => exact (EndsIf.ok none).congr (by simp [h])
  next h => exact (endsIf_checkRules large breaks).congr (by simp [h])

end ValidationPlan

/-- No bound in the configuration is a number beyond the range of doubles. -/
def BoundsInRange (config : Entries) : Prop :=
  ∀ kind ∈ [RuleKind.min, .max, .minLength, .maxLength], (config.getD kind.name).NumberInRange

instance (config : Entries) : Decidable (BoundsInRange config) :=
  inferInstanceAs (Decidable (∀ kind ∈ _, Value.NumberInRange _))

section Bounds

variable {F : Fault → Prop} (large : F .tooLarge)
include large

theorem endsIf_boundRule (config : Entries) (kind : RuleKind) :
    EndsIf F (config.getD kind.name).NumberInRange (boundRule config kind) := by
  unfold boundRule Value.NumberInRange
  cases (config.getD kind.name).number? with
  | none => exact (EndsIf.ok []).congr (by simp)
  | some n =>
    refine ((EndsIf.orTooLarge large n.nanTest?).bind_ok fun b => ?_).congr
      (by simp [n.isSome_nanTest?])
    cases b <;> exact ⟨_, rfl⟩

theorem endsIf_configRules (config : Entries) :
    EndsIf F (BoundsInRange config) (configRules config) :=
  (EndsIf.mapM (endsIf_boundRule large config)).bind_ok fun _ => ⟨_, rfl⟩

end Bounds

namespace PlanInput

/-- The bounds are within range, and so is all that the plan tests of the value. -/
structure Settles (input : PlanInput) (value : Value) (row : Entries) : Prop where
  bounds : BoundsInRange input.config
  check : ∀ plan, input.build = .ok plan → plan.Settles value row

/-- The expression of a rule breaks off with the fault. -/
def ExprBreaksOff (input : PlanInput) (value : Value) (row : Entries) (fault : Fault) : Prop :=
  ∃ plan, input.build = .ok plan ∧ plan.ExprBreaksOff value row plan.rules fault

variable {input : PlanInput} {value : Value} {row : Entries}

theorem endsIf_check :
    EndsIf (fun fault => fault = .tooLarge ∨ input.ExprBreaksOff value row fault)
      (input.Settles value row) (input.check value row) := by
  have large : Fault.tooLarge = .tooLarge ∨ input.ExprBreaksOff value row .tooLarge := Or.inl rfl
  have hbuild : EndsIf (fun fault => fault = .tooLarge ∨ input.ExprBreaksOff value row fault)
      (BoundsInRange input.config) input.build :=
    (endsIf_configRules large input.config).bind_ok fun _ => ⟨_, rfl⟩
  refine (hbuild.bind fun plan hplan => ?_).congr
    ⟨fun h => ⟨h.1, h.2⟩, fun h => ⟨h.bounds, h.check⟩⟩
  exact ValidationPlan.endsIf_check large fun fault h => Or.inr ⟨plan, hplan, h⟩

end PlanInput

namespace ValidationPlanner

theorem validationError_fst (planner : ValidationPlanner) (input : PlanInput) (value : Value)
    (row : Entries) :
    (planner.validationError input.fieldId input.fieldType input.config input.rules value row).1 =
      (((planner.cache.find? input.key).map .ok).getD input.build).bind
        fun plan => plan.check value row := by
  have hcompile : (planner.compileInput input).1 =
      ((planner.cache.find? input.key).map .ok).getD input.build := by
    rw [compileInput_eq, Prod.map_fst, id, BoundedCache.getOr_fst]
  rw [← hcompile]
  rfl

/-- A dose of at least one that does not exceed the limit in its row. -/
def doseInput : PlanInput where
  fieldId := "dose"
  fieldType := "number"
  config := [("min", .int 1)]
  rules := [.object [("type", .str "expr"), ("expr", .object [("op", .str "lte"), ("args", .list [
    .object [("op", .str "field"), ("fieldId", .str "dose")],
    .object [("op", .str "field"), ("fieldId", .str "limit")]])])]]

theorem doseInput_settles : doseInput.Settles (.str "0x1F") [("limit", .int 20)] where
  bounds := by decide +kernel
  check := by
    intro plan hplan
    have hsettles : ∀ plan ∈ doseInput.build.toOption,
        plan.Settles (.str "0x1F") [("limit", .int 20)] := by decide +kernel
    exact hsettles plan (by rw [hplan]; rfl)

end ValidationPlanner

end GridRules
