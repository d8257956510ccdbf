import GridRules.Proofs.CacheEntries
import GridRules.Proofs.PlanForms
import Mathlib.Data.List.Induction

namespace GridRules

open Canonical (form signedText)

/-- What a plan is compiled from. -/
structure PlanInput where
  fieldId : String
  fieldType : String
  config : Entries
  rules : List Value

namespace PlanInput

def build (input : PlanInput) : Except Fault ValidationPlan :=
  ValidationPlan.build input.fieldId input.fieldType input.config input.rules

def key (input : PlanInput) : String :=
  ValidationPlanner.key input.fieldId input.fieldType input.config input.rules

/-- The text whose digest is the key. -/
def keyText (input : PlanInput) : String :=
  signedText (.list [
    .str input.fieldId, .str input.fieldType, .object input.config, .list input.rules])

/-- What the uncached plan says about a value. -/
def check (input : PlanInput) (value : Value) (row : Entries) : Except Fault (Option String) :=
  input.build.bind fun plan => plan.check value row

theorem key_eq (input : PlanInput) : input.key = Sha256.ofText input.keyText :=
  Canonical.signature_eq _

/-- Inputs with one key text have plans that are alike, if the constants of their rules are spelled
alike. -/
theorem build_alike {input other : PlanInput} (h : input.keyText = other.keyText)
    (hconstants : ValidationPlan.ruleConstants input.rules =
      ValidationPlan.ruleConstants other.rules) :
    AgreeBy ValidationPlan.Alike input.build other.build := by
  have hform := Canonical.form_eq_of_signedText_list h
  rw [Canonical.form_list, Canonical.form_list] at hform
  simp only [List.map_cons, List.map_nil, Value.list.injEq, List.cons.injEq] at hform
  obtain ⟨hid, htype, hconfig, hrules, -⟩ := hform
  have hrules : input.rules.map form = other.rules.map form := by
    rw [Canonical.form_list, Canonical.form_list] at hrules
    exact Value.list.inj hrules
  unfold build
  rw [Canonical.str_alike hid, Canonical.str_alike htype]
  exact ValidationPlan.build_alike _ _ hconfig hrules hconstants

end PlanInput

inductive PlannerCall where
  | compile (input : PlanInput)
  | clear

namespace ValidationPlanner

def compileInput (planner : ValidationPlanner) (input : PlanInput) :
    Except Fault ValidationPlan × ValidationPlanner :=
  planner.compile input.fieldId input.fieldType input.config input.rules

def call (planner : ValidationPlanner) : PlannerCall → ValidationPlanner
  | .compile input => (planner.compileInput input).2
  | .clear => planner.clear

/-- A planner without plans after some calls. -/
def after (limit : Positive) (calls : List PlannerCall) : ValidationPlanner :=
  calls.foldl call ⟨.ofLimit limit⟩

theorem after_concat (limit : Positive) (calls : List PlannerCall) (last : PlannerCall) :
    after limit (calls ++ [last]) = (after limit calls).call last := by
  rw [after, List.foldl_append]
  rfl

/-- Every plan in the cache was compiled from an input with its key. -/
def Kept (calls : List PlannerCall) (key : String) (plan : ValidationPlan) : Prop :=
  ∃ input, .compile input ∈ calls ∧ input.key = key ∧ input.build = .ok plan

theorem compileInput_eq (planner : ValidationPlanner) (input : PlanInput) :
    planner.compileInput input =
      (planner.cache.getOr input.key input.build).map id ValidationPlanner.mk := by
  unfold compileInput compile PlanInput.key PlanInput.build
  generalize key input.fieldId input.fieldType input.config input.rules = k
  generalize ValidationPlan.build input.fieldId input.fieldType input.config input.rules = built
  rcases hget : planner.cache.get k with ⟨_ | plan, rest⟩
  · cases built <;> simp only [BoundedCache.getOr, hget, Prod.map, id]
  · simp only [BoundedCache.getOr, hget, Prod.map, id]

theorem holds_after (limit : Positive) (calls : List PlannerCall) :
    (after limit calls).cache.Holds (Kept calls) := by
  induction calls using List.reverseRecOn with
  | nil => exact .empty limit.1 limit.2
  | append_singleton calls last ih =>
    rw [after_concat]
    cases last with
    | compile input =>
      have kept : (after limit calls).cache.Holds (Kept (calls ++ [.compile input])) :=
        ih.mono fun _ _ ⟨other, hmem, h⟩ => ⟨other, List.mem_append_left _ hmem, h⟩
      rw [call, compileInput_eq]
      exact kept.getOr fun plan hplan => ⟨input, by simp, rfl, hplan⟩
    | clear => exact .clear _

theorem find?_after {limit : Positive} (calls : List PlannerCall) {input : PlanInput}
    {plan : ValidationPlan} (hnew : (after limit calls).cache.find? input.key = none)
    (hbuild : input.build = .ok plan) :
    (after limit (calls ++ [.compile input])).cache.find? input.key = some plan := by
  rw [after_concat, call, compileInput_eq]
  exact BoundedCache.find?_getOr hnew hbuild

/-- A plan from the cache checks every value as one compiled now does, whatever was compiled or
cleared before, if inputs with one key spell the constants of their rules alike. -/
theorem compile_check_eq_build (limit : Positive) (calls : List PlannerCall) (input : PlanInput)
    (tellsApart : Sha256.TellsApart fun text =>
      ∃ other, (other = input ∨ .compile other ∈ calls) ∧ text = other.keyText)
    (spelled : ∀ other, .compile other ∈ calls → other.key = input.key →
      ValidationPlan.ruleConstants other.rules = ValidationPlan.ruleConstants input.rules)
    (value : Value) (row : Entries) :
    (((after limit calls).compileInput input).1.bind fun plan => plan.check value row) =
      input.check value row := by
  rw [compileInput_eq, Prod.map_fst, id, BoundedCache.getOr_fst]
  cases hfound : (after limit calls).cache.find? input.key with
  | none => rfl
  | some plan =>
    obtain ⟨other, hmem, hkey, hbuild⟩ := holds_after limit calls _ _ hfound
    have htext : other.keyText = input.keyText := by
      rw [PlanInput.key_eq, PlanInput.key_eq] at hkey
      exact tellsApart _ _ ⟨other, .inr hmem, rfl⟩ ⟨input, .inl rfl, rfl⟩ hkey
    have halike := PlanInput.build_alike htext (spelled other hmem hkey)
    rw [hbuild] at halike
    exact halike.bind_eq fun p p' h => ValidationPlan.check_alike h value row

section Spellings

def oneAsDouble : Value := .float (.finite false (2 ^ 52) 1022 (by decide))

/-- A field with a greatest length and a rule that looks for a point in the text of a constant. -/
def spelledInput (most constant : Value) : PlanInput where
  fieldId := "f"
  fieldType := "string"
  config := [("maxLength", most)]
  rules := [.object [("type", .str "expr"), ("expr", .object [
    ("op", .str "regex"),
    ("value", .object [("op", .str "const"), ("value", .list [constant])]),
    ("pattern", .str "\\.")])]]

theorem spelledInput_keyText {most most' constant constant' : Value}
    (hmost : Canonical.write most = Canonical.write most')
    (hconstant : Canonical.write constant = Canonical.write constant')
    (hwritable : Canonical.writable most = true ∧ Canonical.writable constant = true) :
    (spelledInput most constant).keyText = (spelledInput most' constant').keyText := by
  refine Canonical.signedText_eq_of_write ?_ ?_
  · simp [spelledInput, Canonical.writable, Canonical.allWritable, Canonical.allEntriesWritable,
      hwritable]
  · simp only [spelledInput, Canonical.write, Canonical.writeItems, Canonical.writeEntries, hmost,
      hconstant]

theorem write_oneAsDouble : Canonical.write oneAsDouble = Canonical.write (.int 1) := by
  have h : Canonical.numberLayout.text (.finite false (2 ^ 52) 1022 (by decide)) = toString 1 := by
    decide +kernel
  exact congrArg Except.ok h

theorem compile_check_eq_build_spelled :
    (((after ⟨1, Nat.one_pos⟩ [.compile (spelledInput oneAsDouble (.int 1))]).compileInput
        (spelledInput (.int 1) (.int 1))).1.bind fun plan => plan.check (.str "x") []) =
      (spelledInput (.int 1) (.int 1)).check (.str "x") [] := by
  have htext : (spelledInput oneAsDouble (.int 1)).keyText =
      (spelledInput (.int 1) (.int 1)).keyText :=
    spelledInput_keyText write_oneAsDouble rfl (by decide)
  have hall (other : PlanInput) (h : other = spelledInput (.int 1) (.int 1) ∨
      PlannerCall.compile other ∈ [PlannerCall.compile (spelledInput oneAsDouble (.int 1))]) :
      other.keyText = (spelledInput (.int 1) (.int 1)).keyText := by
    rcases h with rfl | h
    · rfl
    · obtain rfl : other = spelledInput oneAsDouble (.int 1) := by simpa using h
      exact htext
  refine compile_check_eq_build ⟨1, Nat.one_pos⟩ [.compile (spelledInput oneAsDouble (.int 1))]
    (spelledInput (.int 1) (.int 1)) ?_ ?_ (.str "x") []
  · rintro _ _ ⟨other, h, rfl⟩ ⟨other', h', rfl⟩ -
    rw [hall other h, hall other' h']
  · intro other h _
    obtain rfl : other = spelledInput oneAsDouble (.int 1) := by simpa using h
    rfl

/-- A constant whose spelling shows: the first plan finds a point in it, the second would not. -/
theorem compile_check_ne_build :
    (((after ⟨1, Nat.one_pos⟩ [.compile (spelledInput (.int 1) oneAsDouble)]).compileInput
        (spelledInput (.int 1) (.int 1))).1.bind fun plan => plan.check (.str "x") []) = .ok none ∧
      (spelledInput (.int 1) (.int 1)).check (.str "x") [] = .ok (some "Invalid value") := by
  have htext : (spelledInput (.int 1) oneAsDouble).keyText =
      (spelledInput (.int 1) (.int 1)).keyText :=
    spelledInput_keyText rfl write_oneAsDouble (by decide)
  constructor
  · have hcheck : (spelledInput (.int 1) oneAsDouble).check (.str "x") [] = .ok none := by
      decide +kernel
    obtain ⟨plan, hplan, hcheck⟩ := bind_eq_ok_iff.mp hcheck
    have hfound : (after ⟨1, Nat.one_pos⟩
        [.compile (spelledInput (.int 1) oneAsDouble)]).cache.find?
          (spelledInput (.int 1) oneAsDouble).key = some plan := find?_after [] rfl hplan
    rw [PlanInput.key_eq, htext, ← PlanInput.key_eq] at hfound
    rw [compileInput_eq, Prod.map_fst, id, BoundedCache.getOr_fst, hfound]
    exact hcheck
  · decide +kernel

end Spellings

end ValidationPlanner

end GridRules
