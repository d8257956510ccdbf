import GridRules.Cache.Bounded
import GridRules.Calculation.Apply
import GridRules.Settings.Basic
/-!
An engine keeps the plans it has compiled. A rule set is known by its identity: the same one under
the same grid is compiled once, and an edited rule set is another one.
-/

namespace GridRules

/-- Calculations together with what tells them apart from other rule sets. -/
structure RuleSet where
  identity : Nat
  calculations : Entries

/-- A plan is kept with the rule set that it was compiled from. -/
structure CalculationEngine where
  cache : BoundedCache (String × Nat) (RuleSet × CalculationPlan)
  /-- Where a rule set is in memory. One that is gone can leave its place to another. -/
  address : Nat → Nat

namespace CalculationEngine

/-- An engine without plans that keeps as many as the limit says. -/
def ofLimit (limit : Positive) (address : Nat → Nat) : CalculationEngine :=
  ⟨.ofLimit limit, address⟩

def ofSettings (settings : CacheSettings) : CalculationEngine :=
  ofLimit settings.calculationPlanLimit id

/-- Compiles a rule set and keeps the plan. -/
def compileFresh (engine : CalculationEngine) (gridId : String) (set : RuleSet) :
    CalculationPlan × CalculationEngine :=
  let plan := CalculationPlan.build gridId set.calculations set.identity
  (plan, { engine with
    cache := engine.cache.put (gridId, engine.address set.identity) (set, plan) })

/-- The plan of a rule set; without one the plan is empty and the cache is not asked. What is kept
at the address of a rule set counts only if it was compiled from this very rule set. -/
def compile (engine : CalculationEngine) (gridId : String) (rules : Option RuleSet) :
    CalculationPlan × CalculationEngine :=
  match rules with
  | none => (.build gridId [], engine)
  | some set =>
    match engine.cache.get (gridId, engine.address set.identity) with
    | (some (kept, plan), cache) =>
      if kept.identity = set.identity then (plan, { engine with cache := cache })
      else compileFresh { engine with cache := cache } gridId set
    | (none, cache) => compileFresh { engine with cache := cache } gridId set

/-- Compiles and applies in one step. -/
def applyRules (engine : CalculationEngine) (gridId : String) (row : HeldRow)
    (rules : Option RuleSet) (changed : List String) :
    Except Fault CalculationResult × CalculationEngine :=
  let (plan, engine) := engine.compile gridId rules
  (plan.apply row changed, engine)

def stats (engine : CalculationEngine) : CacheStats :=
  engine.cache.stats

def clear (engine : CalculationEngine) : CalculationEngine :=
  { engine with cache := engine.cache.clear }

end CalculationEngine

end GridRules
