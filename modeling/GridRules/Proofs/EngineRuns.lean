import GridRules.Calculation.Engine
import GridRules.Proofs.CacheEntries
/-!
Runs of an engine. Whatever it has compiled, overwritten or dropped, it answers as an engine that
keeps no plans.
-/

namespace GridRules

inductive EngineCall where
  | compile (gridId : String) (rules : Option RuleSet)
  | apply (gridId : String) (row : HeldRow) (rules : Option RuleSet) (changed : List String)
  | clear

inductive EngineAnswer where
  | plan (plan : CalculationPlan)
  | result (result : Except Fault CalculationResult)
  | cleared

namespace EngineCall

def rules? : EngineCall → Option RuleSet
  | .compile _ rules | .apply _ _ rules _ => rules
  | .clear => none

/-- The plan that is built for a rule set, or for no rules. -/
def plan (gridId : String) : Option RuleSet → CalculationPlan
  | none => .build gridId []
  | some set => .build gridId set.calculations set.identity

/-- The answer to a call for which every plan is built anew. -/
def uncached : EngineCall → EngineAnswer
  | .compile gridId rules => .plan (plan gridId rules)
  | .apply gridId row rules changed => .result ((plan gridId rules).apply row changed)
  | .clear => .cleared

end EngineCall

/-- No rule set is changed in place: what has one identity has the same calculations. -/
def RuleSet.Unchanged (sets : List RuleSet) : Prop :=
  ∀ a ∈ sets, ∀ b ∈ sets, a.identity = b.identity → a.calculations = b.calculations

namespace CalculationEngine

def answer (engine : CalculationEngine) : EngineCall → EngineAnswer × CalculationEngine
  | .compile gridId rules => (engine.compile gridId rules).map .plan id
  | .apply gridId row rules changed => (engine.applyRules gridId row rules changed).map .result id
  | .clear => (.cleared, engine.clear)

/-- The answers to calls that are made one after the other. -/
def answers (engine : CalculationEngine) : List EngineCall → List EngineAnswer
  | [] => []
  | call :: rest => (engine.answer call).1 :: (engine.answer call).2.answers rest

/-- What is in the cache was built for the grid of its key, from one of the rule sets. -/
def KeptFrom (sets : List RuleSet) (key : String × Nat) (kept : RuleSet × CalculationPlan) : Prop :=
  kept.1 ∈ sets ∧ kept.2 = .build key.1 kept.1.calculations kept.1.identity

section Compile

variable {sets : List RuleSet} {engine : CalculationEngine}

theorem compileFresh_keeps (holds : engine.cache.Holds (KeptFrom sets)) (gridId : String)
    {set : RuleSet} (hset : set ∈ sets) :
    (engine.compileFresh gridId set).2.cache.Holds (KeptFrom sets) :=
  holds.put ⟨hset, rfl⟩

/-- One compilation: the plan is the one that is built anew, and the cache stays right. -/
theorem compile_keeps (holds : engine.cache.Holds (KeptFrom sets))
    (unchanged : RuleSet.Unchanged sets) (gridId : String) {rules : Option RuleSet}
    (hrules : ∀ set, rules = some set → set ∈ sets) :
    (engine.compile gridId rules).1 = EngineCall.plan gridId rules ∧
      (engine.compile gridId rules).2.cache.Holds (KeptFrom sets) := by
  cases rules with
  | none => exact ⟨rfl, holds⟩
  | some set =>
    have hset := hrules set rfl
    have hfst := engine.cache.get_fst (gridId, engine.address set.identity)
    have hsnd := holds.get (gridId, engine.address set.identity)
    unfold compile
    dsimp only
    split
    next kept plan cache hget =>
      rw [hget] at hfst hsnd
      split
      next hsame =>
        -- the plan was built from a set with this identity, which was not changed since
        obtain ⟨hkept, hplan⟩ := holds _ _ hfst.symm
        have hcalculations := unchanged kept hkept set hset hsame
        obtain rfl : plan = .build gridId kept.calculations kept.identity := hplan
        refine ⟨?_, hsnd⟩
        rw [hcalculations, hsame]
        rfl
      next => exact ⟨rfl, compileFresh_keeps hsnd gridId hset⟩
    next cache hget =>
      rw [hget] at hsnd
      exact ⟨rfl, compileFresh_keeps hsnd gridId hset⟩

theorem answer_keeps (holds : engine.cache.Holds (KeptFrom sets))
    (unchanged : RuleSet.Unchanged sets) {call : EngineCall}
    (hcall : ∀ set, call.rules? = some set → set ∈ sets) :
    (engine.answer call).1 = call.uncached ∧
      (engine.answer call).2.cache.Holds (KeptFrom sets) := by
  cases call with
  | compile gridId rules =>
    obtain ⟨hplan, hkeeps⟩ := compile_keeps holds unchanged gridId hcall
    exact ⟨congrArg EngineAnswer.plan hplan, hkeeps⟩
  | apply gridId row rules changed =>
    obtain ⟨hplan, hkeeps⟩ := compile_keeps holds unchanged gridId hcall
    have hresult := congrArg (fun plan : CalculationPlan => plan.apply row changed) hplan
    exact ⟨congrArg EngineAnswer.result hresult, hkeeps⟩
  | clear => exact ⟨rfl, .clear _⟩

/-- A run from an engine whose plans were built from rule sets that nobody changes. -/
theorem answers_eq (holds : engine.cache.Holds (KeptFrom sets)) (unchanged : RuleSet.Unchanged sets)
    {calls : List EngineCall}
    (hcalls : ∀ call ∈ calls, ∀ set, call.rules? = some set → set ∈ sets) :
    engine.answers calls = calls.map EngineCall.uncached := by
  induction calls generalizing engine with
  | nil => rfl
  | cons call rest ih =>
    obtain ⟨hanswer, hkeeps⟩ := answer_keeps holds unchanged (hcalls call List.mem_cons_self)
    have hrest := ih hkeeps fun other hother => hcalls other (List.mem_cons_of_mem _ hother)
    rw [answers, hanswer, hrest, List.map_cons]

end Compile

/-- The cache of plans cannot be seen. An engine with any limit answers every call of a run as if it
built each plan anew, over any grids and rule sets and wherever in memory these are, if no rule set
is changed in place. -/
theorem answers_uncached (limit : Positive) (address : Nat → Nat) (calls : List EngineCall)
    (unchanged : RuleSet.Unchanged (calls.filterMap EngineCall.rules?)) :
    (ofLimit limit address).answers calls = calls.map EngineCall.uncached :=
  answers_eq (.empty limit.1 limit.2) unchanged fun call hcall _ hset =>
    List.mem_filterMap.mpr ⟨call, hcall, hset⟩

section SharedAddress

/-- Rules that set the cost of two grids. -/
def fixedCost (identity : Nat) (cost : Int) : RuleSet :=
  let rule : Value := .object [("expr", .object [("op", .str "const"), ("value", .int cost)])]
  ⟨identity, [("g.cost", rule), ("h.cost", rule)]⟩

/-- Two grids share a rule set, which is edited, and one of them goes back to it. -/
def editedCostCalls : List EngineCall :=
  [.apply "g" [] (some (fixedCost 0 1)) [], .apply "h" [] (some (fixedCost 0 1)) [],
    .apply "g" [] (some (fixedCost 1 2)) [], .compile "g" none, .compile "g" (some (fixedCost 0 1)),
    .clear, .apply "g" (.given [("cost", .int 1)]) (some (fixedCost 1 2)) ["cost"]]

/-- All rule sets are kept at one address by a cache that has room for one plan. -/
theorem answers_uncached_sharedAddress :
    RuleSet.Unchanged (editedCostCalls.filterMap EngineCall.rules?) ∧
      (ofLimit ⟨1, Nat.one_pos⟩ fun _ => 0).answers editedCostCalls =
        editedCostCalls.map EngineCall.uncached := by
  have unchanged : RuleSet.Unchanged (editedCostCalls.filterMap EngineCall.rules?) := by
    intro a ha b hb
    simp only [editedCostCalls, List.filterMap_cons, EngineCall.rules?, List.filterMap_nil,
      List.mem_cons, List.not_mem_nil, or_false] at ha hb
    rcases ha with rfl | rfl | rfl | rfl | rfl <;> rcases hb with rfl | rfl | rfl | rfl | rfl <;>
      simp [fixedCost]
  exact ⟨unchanged, answers_uncached _ _ _ unchanged⟩

end SharedAddress

end CalculationEngine

end GridRules
