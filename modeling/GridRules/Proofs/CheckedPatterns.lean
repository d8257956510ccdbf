import GridRules.Proofs.CheckedExpressions
import GridRules.Proofs.NodeShape
import GridRules.Schema.Validate
/-!
When the check of a document comes to a report. Whatever is wrong with a document is reported,
except for two things about its patterns: a repetition count that is too large and character sets
that clash break the check off.
-/

namespace GridRules

section Returns

variable {ε α β γ : Type}

/-- A computation in two parts, of which the second comes to a result whatever the first gives, or
never. -/
theorem bind_returns_iff {x : Except ε α} {f : α → Except ε β} {p : Prop}
    (h : ∀ a, (∃ b, f a = .ok b) ↔ p) : (∃ b, (x >>= f) = .ok b) ↔ (∃ a, x = .ok a) ∧ p := by
  cases x with
  | error e => simp [bind, Except.bind]
  | ok a => simpa [bind, Except.bind] using h a

theorem pure_returns (a : α) : (∃ b, (pure a : Except ε α) = .ok b) ↔ True :=
  ⟨fun _ => trivial, fun _ => ⟨a, rfl⟩⟩

theorem map_returns_iff {x : Except ε α} {f : α → β} :
    (∃ b, x.map f = .ok b) ↔ ∃ a, x = .ok a := by
  cases x <;> simp [Except.map]

theorem mapM_returns_iff {items : List α} {f : α → Except ε β} :
    (∃ results, items.mapM f = .ok results) ↔ ∀ a ∈ items, ∃ b, f a = .ok b := by
  induction items with
  | nil => simp [pure, Except.pure]
  | cons a items ih =>
    rw [List.mapM_cons, List.forall_mem_cons, ← ih]
    refine bind_returns_iff fun b => ?_
    rw [bind_returns_iff fun _ => pure_returns _, and_true]

end Returns

/-- The pattern can be compiled or is found malformed. -/
def Regex.Decided (pattern : String) (flags : Value) : Prop :=
  ∀ refusal, compile pattern (.ofFlags flags) = .error refusal → refusal = .malformed

theorem patternProblems_returns_iff {path : String} {pattern : Option String} {flags : Value} :
    (∃ problems, patternProblems path pattern flags = .ok problems) ↔
      ∀ p, pattern = some p → Regex.Decided p flags := by
  cases pattern with
  | none => simp [patternProblems]
  | some p =>
    unfold patternProblems Regex.Decided
    cases h : Regex.compile p (.ofFlags flags) with
    | ok e => simp [h]
    | error refusal => cases refusal <;> simp [h]

namespace Expr

/-- All patterns in the expression are decided. -/
def PatternsDecided (e : Expr) : Prop :=
  ∀ subject pattern flags, Within (.regex subject (some pattern) flags) e →
    Regex.Decided pattern flags

theorem within_iff {inner e : Expr} :
    Within inner e ↔ inner = e ∨ ∃ arg ∈ e.operands, Within inner arg := by
  constructor
  · intro h
    cases h with
    | self => exact Or.inl rfl
    | operand ha hw => exact Or.inr ⟨_, ha, hw⟩
  · rintro (rfl | ⟨arg, ha, hw⟩)
    · exact .self inner
    · exact .operand ha hw

theorem patternsDecided_iff {e : Expr} :
    e.PatternsDecided ↔
      (∀ subject pattern flags, e = .regex subject (some pattern) flags →
        Regex.Decided pattern flags) ∧ ∀ arg ∈ e.operands, arg.PatternsDecided := by
  constructor
  · intro h
    refine ⟨fun subject pattern flags he => h subject pattern flags (he ▸ .self _), ?_⟩
    exact fun arg ha subject pattern flags hw => h subject pattern flags (.operand ha hw)
  · rintro ⟨own, below⟩ subject pattern flags hw
    obtain he | ⟨arg, ha, hw⟩ := within_iff.mp hw
    · exact own subject pattern flags he.symm
    · exact below arg ha subject pattern flags hw

/-- An expression that is no regular expression has no patterns but those of its operands. -/
theorem patternsDecided_of_operands {e : Expr}
    (h : ∀ subject pattern flags, e ≠ .regex subject pattern flags) :
    e.PatternsDecided ↔ ∀ arg ∈ e.operands, arg.PatternsDecided := by
  rw [patternsDecided_iff, and_iff_right]
  exact fun subject pattern flags he => absurd he (h subject (some pattern) flags)

theorem patternsDecided_of_no_node {e : Expr} (h : e.isNode = false) : e.PatternsDecided := by
  cases e with
  | invalid => simp [patternsDecided_of_operands, operands]
  | _ => cases h

variable {checkRef : String → String → List String}

theorem argProblems_returns_iff {args : List Expr}
    (each : ∀ arg ∈ args, ∀ place path,
      (∃ found, arg.problems checkRef place path = .ok found) ↔ arg.PatternsDecided)
    (path : String) (i : Nat) :
    (∃ found, argProblems checkRef path i args = .ok found) ↔
      ∀ arg ∈ args, arg.PatternsDecided := by
  induction args generalizing i with
  | nil => simp [argProblems]
  | cons e rest ih =>
    obtain ⟨first, others⟩ := List.forall_mem_cons.mp each
    rw [argProblems, List.forall_mem_cons, ← first, ← ih others (i + 1)]
    refine bind_returns_iff fun _ => ?_
    rw [bind_returns_iff fun _ => pure_returns _, and_true]

/-- The check of an expression comes to an end if all its patterns are decided. -/
theorem problems_returns_iff (e : Expr) : ∀ place path,
    (∃ found, e.problems checkRef place path = .ok found) ↔ e.PatternsDecided := by
  induction e using operand_induction with
  | step e ih =>
    intro place path
    cases e with
    | variadic op args =>
      rw [problems, patternsDecided_of_operands (by simp)]
      split
      next he => simp [List.isEmpty_iff.mp he, operands]
      next => exact argProblems_returns_iff ih path 0
    | connective op args =>
      rw [problems, patternsDecided_of_operands (by simp)]
      split
      next he => simp [List.isEmpty_iff.mp he, operands]
      next => exact argProblems_returns_iff ih path 0
    | binary op left right =>
      rw [problems, patternsDecided_of_operands (by simp)]
      have hl := ih left (by simp [operands])
      have hr := ih right (by simp [operands])
      rw [bind_returns_iff fun _ => bind_returns_iff fun _ => pure_returns _, hl, hr]
      simp [operands]
    | not arg =>
      rw [problems, patternsDecided_of_operands (by simp), ih arg (by simp [operands])]
      simp [operands]
    | cond test yes no =>
      rw [problems, patternsDecided_of_operands (by simp)]
      have ht := ih test (by simp [operands])
      have hy := ih yes (by simp [operands])
      have hn := ih no (by simp [operands])
      rw [bind_returns_iff fun _ => bind_returns_iff fun _ => bind_returns_iff fun _ =>
        pure_returns _, ht, hy, hn]
      simp [operands]
    | regex subject pattern flags =>
      have own : (∀ s p f, regex subject pattern flags = regex s (some p) f → Regex.Decided p f) ↔
          ∀ p, pattern = some p → Regex.Decided p flags := by
        constructor
        · exact fun h p hp => h subject p flags (hp ▸ rfl)
        · intro h s p f he
          obtain ⟨-, hp, rfl⟩ := regex.inj he
          exact h p hp
      rw [problems, patternsDecided_iff, own,
        bind_returns_iff fun _ => bind_returns_iff fun _ => pure_returns _,
        ih subject (by simp [operands]), patternProblems_returns_iff]
      simp [operands, and_comm]
    | field ref =>
      rw [patternsDecided_of_operands (by simp)]
      cases ref with
      | none => simp [problems, operands]
      | some ref =>
        rw [problems]
        split <;> simp [operands]
    | _ => simp [problems, patternsDecided_of_operands, operands]

end Expr

namespace Tracker

/-- The expression is one that the check of the tracker goes through: the one of a calculation under
the path of a placed field, or the one of a rule under a key that is accepted. -/
inductive Checked (tracker : Tracker) : Expr → Prop
  | calculation {key gridId fieldId entries} : (key, .object entries) ∈ tracker.calculations →
      qualifiedPath? key = some (gridId, fieldId) → (tracker.grid? gridId).isSome = true →
      key ∈ tracker.fieldPaths → Checked tracker (.ofValue (Entries.getD entries "expr"))
  | rule {key items entries name} : (key, .list items) ∈ tracker.validations →
      tracker.ruleKeyProblem? key = none → .object entries ∈ items →
      Entries.getD entries "type" = .str name → RuleKind.ofName? name = some .expr →
      Checked tracker (.ofValue (Entries.getD entries "expr"))

variable {tracker : Tracker} {key : String}

theorem forall_names_iff {gridId fieldId : String} {P : String → Prop} :
    (∀ grid field, some (gridId, fieldId) = some (grid, field) → P grid) ↔ P gridId := by
  refine ⟨fun h => h gridId fieldId rfl, ?_⟩
  rintro h _ _ ⟨⟩
  exact h

theorem checkCalculation_returns_iff {rule : Value} :
    (∃ checked, tracker.checkCalculation key rule = .ok checked) ↔
      ∀ gridId fieldId, qualifiedPath? key = some (gridId, fieldId) →
        (tracker.grid? gridId).isSome = true → key ∈ tracker.fieldPaths →
        ∀ entries, rule = .object entries →
          (Expr.ofValue (Entries.getD entries "expr")).PatternsDecided := by
  have refused (message : String) : ∃ checked, refusedCalculation message = .ok checked :=
    ⟨_, rfl⟩
  unfold checkCalculation
  dsimp only
  cases hq : qualifiedPath? key with
  | none => exact iff_of_true (refused _) nofun
  | some names =>
    obtain ⟨gridId, fieldId⟩ := names
    refine Iff.trans ?_ (forall_names_iff (P := fun gridId => (tracker.grid? gridId).isSome = true →
      key ∈ tracker.fieldPaths → ∀ entries, rule = .object entries →
        (Expr.ofValue (Entries.getD entries "expr")).PatternsDecided)).symm
    dsimp only
    by_cases hg : (tracker.grid? gridId).isSome = true
    · by_cases hm : key ∈ tracker.fieldPaths
      · rw [if_neg (by simp [Option.isSome_iff_ne_none.mp hg]), if_neg (by simp [hm])]
        simp only [hg, hm, forall_const]
        cases rule with
        | object entries =>
          simp only [Value.object.injEq, forall_eq']
          split
          next hn =>
            exact iff_of_true (refused _) (Expr.patternsDecided_of_no_node (by simpa using hn))
          next =>
            rw [bind_returns_iff fun _ => pure_returns _, Expr.problems_returns_iff, and_true]
        | _ => exact iff_of_true (refused _) nofun
      · refine iff_of_true ?_ fun _ h => absurd h hm
        rw [if_neg (by simp [Option.isSome_iff_ne_none.mp hg]), if_pos (by simp [hm])]
        exact refused _
    · refine iff_of_true ?_ fun h => absurd h hg
      rw [if_pos (by simpa using hg)]
      exact refused _

theorem checkCalculations_returns_iff :
    (∃ report, tracker.checkCalculations = .ok report) ↔
      ∀ entry ∈ tracker.calculations,
        ∃ checked, tracker.checkCalculation entry.1 entry.2 = .ok checked := by
  rw [checkCalculations, bind_returns_iff fun _ => pure_returns _, and_true, checkedCalculations,
    mapM_returns_iff]
  simp only [map_returns_iff]

theorem kindProblems_returns_iff {path : String} {kind : RuleKind} {rule : Entries} :
    (∃ found, tracker.kindProblems path kind rule = .ok found) ↔
      (kind = .expr → (Expr.ofValue (rule.getD "expr")).PatternsDecided) := by
  unfold kindProblems
  by_cases hk : kind = .expr
  · subst hk
    rw [if_neg (by decide), if_pos rfl, imp_iff_right rfl]
    dsimp only
    split
    next => exact Expr.problems_returns_iff _ _ _
    next hn => exact iff_of_true ⟨_, rfl⟩ (Expr.patternsDecided_of_no_node (by simpa using hn))
  · refine iff_of_true ?_ fun h => absurd h hk
    rw [if_neg hk]
    split <;> exact ⟨_, rfl⟩

theorem ruleProblems_returns_iff {path : String} {rule : Value} :
    (∃ found, tracker.ruleProblems path rule = .ok found) ↔
      ∀ entries name, rule = .object entries → Entries.getD entries "type" = .str name →
        RuleKind.ofName? name = some .expr →
          (Expr.ofValue (Entries.getD entries "expr")).PatternsDecided := by
  unfold ruleProblems
  cases ht : (rule.field "type").string? with
  | none =>
    refine iff_of_true ⟨_, rfl⟩ ?_
    rintro entries name rfl hname
    simp [Value.field, hname, Value.string?] at ht
  | some name =>
    cases rule with
    | object entries =>
      have hname : Entries.getD entries "type" = .str name := Value.eq_str_of_string? ht
      have hiff : (∀ entries' name', Value.object entries = .object entries' →
          Entries.getD entries' "type" = .str name' → RuleKind.ofName? name' = some .expr →
            (Expr.ofValue (Entries.getD entries' "expr")).PatternsDecided) ↔
          (RuleKind.ofName? name = some .expr →
            (Expr.ofValue (Entries.getD entries "expr")).PatternsDecided) := by
        refine ⟨fun h => h entries name rfl hname, ?_⟩
        rintro h _ name' ⟨⟩ hname'
        obtain rfl : name = name' := by simpa [hname] using hname'
        exact h
      rw [hiff]
      dsimp only
      cases RuleKind.ofName? name with
      | none => exact iff_of_true ⟨_, rfl⟩ (by simp)
      | some kind => simp [kindProblems_returns_iff, Value.object?]
    | _ => cases ht

theorem rulesProblems_returns_iff {items : List Value} (i : Nat) :
    (∃ found, tracker.rulesProblems key i items = .ok found) ↔
      ∀ entries name, .object entries ∈ items → Entries.getD entries "type" = .str name →
        RuleKind.ofName? name = some .expr →
          (Expr.ofValue (Entries.getD entries "expr")).PatternsDecided := by
  induction items generalizing i with
  | nil => simp [rulesProblems]
  | cons rule items ih =>
    rw [rulesProblems, bind_returns_iff fun _ => bind_returns_iff fun _ => pure_returns _, ih,
      ruleProblems_returns_iff]
    grind

theorem keyedRulesProblems_returns_iff {rules : Value} :
    (∃ found, tracker.keyedRulesProblems key rules = .ok found) ↔
      ∀ items entries name, rules = .list items → tracker.ruleKeyProblem? key = none →
        .object entries ∈ items → Entries.getD entries "type" = .str name →
        RuleKind.ofName? name = some .expr →
          (Expr.ofValue (Entries.getD entries "expr")).PatternsDecided := by
  unfold keyedRulesProblems
  cases hk : tracker.ruleKeyProblem? key with
  | some message => simp
  | none =>
    cases rules with
    | list items =>
      refine (rulesProblems_returns_iff 0).trans
        ⟨?_, fun h entries name => h _ entries name rfl rfl⟩
      rintro h _ entries name ⟨⟩ -
      exact h entries name
    | _ => simp

theorem checkRules_returns_iff :
    (∃ report, tracker.checkRules = .ok report) ↔
      ∀ entry ∈ tracker.validations,
        ∃ found, tracker.keyedRulesProblems entry.1 entry.2 = .ok found := by
  rw [checkRules, bind_returns_iff fun _ => pure_returns _, and_true, mapM_returns_iff]

/-- The check of a tracker comes to a report if the patterns in all expressions that it goes through
are decided. -/
theorem validate_returns_iff :
    (∃ report, tracker.validate = .ok report) ↔ ∀ e, tracker.Checked e → e.PatternsDecided := by
  rw [validate, bind_returns_iff fun _ => bind_returns_iff fun _ => pure_returns _, and_true,
    checkCalculations_returns_iff, checkRules_returns_iff]
  simp only [checkCalculation_returns_iff, keyedRulesProblems_returns_iff]
  constructor
  · rintro ⟨calculations, rules⟩ e he
    cases he with
    | calculation hm hq hg hp => exact calculations _ hm _ _ hq hg hp _ rfl
    | rule hm hk hi ht hn => exact rules _ hm _ _ _ rfl hk hi ht hn
  · intro each
    constructor
    · rintro ⟨key, rule⟩ hm gridId fieldId hq hg hp entries rfl
      exact each _ (.calculation hm hq hg hp)
    · rintro ⟨key, rules⟩ hm items entries name rfl hk hi ht hn
      exact each _ (.rule hm hk hi ht hn)

end Tracker

/-- A document with one field and a rule that searches the field for a pattern. -/
def searchingDocument (pattern : String) : Value :=
  .object [
    ("fields", .list [.object [("id", .str "code"), ("dataType", .str "string"),
      ("ui", .object [("label", .str "Code")])]]),
    ("validations", .object [("code", .list [.object [("type", .str "expr"),
      ("expr", .object [("op", .str "regex"),
        ("value", .object [("op", .str "field"), ("fieldId", .str "code")]),
        ("pattern", .str pattern)])]])])]

end GridRules
