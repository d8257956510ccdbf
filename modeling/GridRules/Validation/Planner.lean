import GridRules.Cache.Bounded
import GridRules.Json.Canonical
import GridRules.Path.Basic
import GridRules.Settings.Basic
import GridRules.Tracker.Basic
import GridRules.Validation.Plan
/-!
A planner compiles validation plans and keeps them in a cache under the signature of what they
were compiled from.
-/

namespace GridRules

structure ValidationPlanner where
  cache : BoundedCache String ValidationPlan

namespace ValidationPlanner

/-- A planner without plans that keeps as many as the settings say. -/
def ofSettings (settings : CacheSettings) : ValidationPlanner :=
  ⟨.empty settings.validationPlanLimit.1 settings.validationPlanLimit.2⟩

/-- The key of a plan in the cache. -/
def key (fieldId fieldType : String) (config : Entries) (rules : List Value) : String :=
  Canonical.signature
    (.list [.str fieldId, .str fieldType, .object config, .list rules])

/-- The plan, from the cache or compiled now; a plan that cannot be compiled is not kept. -/
def compile (planner : ValidationPlanner) (fieldId fieldType : String) (config : Entries)
    (rules : List Value) : Except Fault ValidationPlan × ValidationPlanner :=
  let key := key fieldId fieldType config rules
  match planner.cache.get key with
  | (some plan, cache) => (.ok plan, ⟨cache⟩)
  | (none, cache) =>
    match ValidationPlan.build fieldId fieldType config rules with
    | .ok plan => (.ok plan, ⟨cache.put key plan⟩)
    | .error e => (.error e, ⟨cache⟩)

/-- What a tracker has as the rules of a field in a grid: those under the path of the field, or
those under its id alone. -/
def rulesValue (tracker : Tracker) (gridId fieldId : String) : Value :=
  match tracker.validations.getD (FieldPath.inGrid gridId fieldId) with
  | .null => tracker.validations.getD fieldId
  | rules => rules

/-- The rules of a field in a grid; what is no list is no rules. -/
def rulesOf (tracker : Tracker) (gridId fieldId : String) : List Value :=
  (rulesValue tracker gridId fieldId).list?.getD []

/-- The plan of a field of a tracker, if the tracker has the field. -/
def compileForField (planner : ValidationPlanner) (tracker : Tracker) (gridId fieldId : String) :
    Option (Except Fault ValidationPlan × ValidationPlanner) :=
  (tracker.field? fieldId).map fun field =>
    planner.compile fieldId field.dataType field.config (rulesOf tracker gridId fieldId)

/-- Compiles and checks in one step. -/
def validationError (planner : ValidationPlanner) (fieldId fieldType : String)
    (config : Entries) (rules : List Value) (value : Value) (row : Entries) :
    Except Fault (Option String) × ValidationPlanner :=
  let (plan, planner) := planner.compile fieldId fieldType config rules
  (plan.bind fun p => p.check value row, planner)

def stats (planner : ValidationPlanner) : CacheStats :=
  planner.cache.stats

def clear (planner : ValidationPlanner) : ValidationPlanner :=
  ⟨planner.cache.clear⟩

end ValidationPlanner

end GridRules
