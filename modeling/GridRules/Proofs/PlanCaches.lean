import GridRules.Options.GraphPlan
import GridRules.Proofs.CacheEntries
import GridRules.Proofs.CanonicalForms
import Mathlib.Data.List.Induction

namespace GridRules

open Canonical (form)

/-- The text whose digest a graph is cached under. -/
def graphText (definition : FunctionDefinition) (connectors : List String) : String :=
  Canonical.signedText (.list [
    .str definition.id,
    .int definition.version.1,
    optionalValue (GraphSpec.toValue true) definition.body.graphSpec,
    .list ((sortTexts connectors.eraseDups).map .str)])

theorem graphSignature_eq (definition : FunctionDefinition) (connectors : List String) :
    graphSignature definition connectors = Sha256.ofText (graphText definition connectors) :=
  Canonical.signature_eq _

/-- Graphs that are cached under one text belong to one function, are written back alike and may
use the same connectors. -/
theorem alike_of_graphText {definition other : FunctionDefinition}
    {connectors connectors' : List String}
    (h : graphText definition connectors = graphText other connectors') :
    definition.id = other.id ∧
      form (optionalValue (GraphSpec.toValue true) definition.body.graphSpec) =
        form (optionalValue (GraphSpec.toValue true) other.body.graphSpec) ∧
      ∀ id, id ∈ connectors ↔ id ∈ connectors' := by
  have hform := Canonical.form_eq_of_signedText_list h
  rw [Canonical.form_list, Canonical.form_list] at hform
  simp only [List.map_cons, List.map_nil, Value.list.injEq, List.cons.injEq] at hform
  obtain ⟨hid, -, hspec, hconnectors, -⟩ := hform
  refine ⟨Canonical.str_alike hid, hspec, fun id => ?_⟩
  have hsorted := Canonical.map_alike (f := fun text => text) (fun _ _ => Canonical.str_alike)
    hconnectors
  simp only [List.map_id'] at hsorted
  have hmem (texts : List String) : id ∈ sortTexts texts.eraseDups ↔ id ∈ texts := by
    rw [sortTexts, List.mem_mergeSort, List.mem_eraseDups]
  rw [← hmem connectors, hsorted, hmem]

theorem DraftGraph.connectorIssues_congr (draft : DraftGraph) {connectors connectors' : List String}
    (h : ∀ id, id ∈ connectors ↔ id ∈ connectors') :
    draft.connectorIssues connectors = draft.connectorIssues connectors' := by
  have hempty : connectors.isEmpty = connectors'.isEmpty := by
    rw [Bool.eq_iff_iff, List.isEmpty_iff, List.isEmpty_iff, List.eq_nil_iff_forall_not_mem,
      List.eq_nil_iff_forall_not_mem]
    exact forall_congr' fun id => not_congr (h id)
  have hcontains (id : String) : connectors.contains id = connectors'.contains id := by
    rw [Bool.eq_iff_iff, List.contains_iff_mem, List.contains_iff_mem, h]
  simp only [connectorIssues, hempty, hcontains]

/-- The order of the connectors makes no difference. -/
theorem GraphSpec.compile_congr (spec : GraphSpec) (functionId : String)
    {connectors connectors' : List String} (h : ∀ id, id ∈ connectors ↔ id ∈ connectors') :
    spec.compile functionId connectors = spec.compile functionId connectors' := by
  have hissues : (DraftGraph.ofSpec spec).allIssues spec connectors =
      (DraftGraph.ofSpec spec).allIssues spec connectors' := by
    rw [DraftGraph.allIssues, DraftGraph.allIssues, DraftGraph.connectorIssues_congr _ h]
  unfold compile
  dsimp only
  rw [hissues]

namespace FunctionDefinition

variable {definition : FunctionDefinition} {connectors : List String} {cache : PlanCache}

theorem compileGraphCached_of_graph {spec : GraphSpec} (h : definition.body = .graph spec) :
    definition.compileGraphCached connectors cache =
      cache.getOr (graphSignature definition connectors)
        (definition.compileGraph connectors) := by
  have hplan : definition.compileGraph connectors = spec.compile definition.id connectors := by
    simp only [compileGraph, h]
  rcases hget : cache.get (graphSignature definition connectors) with ⟨_ | plan, rest⟩
  · cases hcompiled : spec.compile definition.id connectors <;>
      simp only [compileGraphCached, BoundedCache.getOr, h, hget, hplan, hcompiled]
  · simp only [compileGraphCached, BoundedCache.getOr, h, hget]

theorem compileGraphCached_of_flat {pipeline : Pipeline} (h : definition.body = .flat pipeline) :
    definition.compileGraphCached connectors cache =
      (definition.compileGraph connectors, cache) := by
  simp only [compileGraphCached, compileGraph, h]

/-- A graph is compiled, or its plan is one that the cache has under its key. -/
theorem compileGraphCached_fst (definition : FunctionDefinition) (connectors : List String)
    (cache : PlanCache) :
    (definition.compileGraphCached connectors cache).1 = definition.compileGraph connectors ∨
      ∃ plan, cache.find? (graphSignature definition connectors) = some plan ∧
        (definition.compileGraphCached connectors cache).1 = .ok plan := by
  cases hbody : definition.body with
  | flat pipeline => exact .inl (by rw [compileGraphCached_of_flat hbody])
  | graph spec =>
    rw [compileGraphCached_of_graph hbody, BoundedCache.getOr_fst]
    cases hfound : cache.find? (graphSignature definition connectors) with
    | some plan => exact .inr ⟨plan, rfl, rfl⟩
    | none => exact .inl rfl

/-- What goes for all plans in the cache still does, if it goes for the plan that is compiled. -/
theorem holds_compileGraphCached {P : String → GraphPlan → Prop} (holds : cache.Holds P)
    (h : ∀ plan, definition.compileGraph connectors = .ok plan →
      P (graphSignature definition connectors) plan) :
    (definition.compileGraphCached connectors cache).2.Holds P := by
  cases hbody : definition.body with
  | flat pipeline =>
    rw [compileGraphCached_of_flat hbody]
    exact holds
  | graph spec =>
    rw [compileGraphCached_of_graph hbody]
    exact holds.getOr h

theorem exists_spec_of_compileGraph {plan : GraphPlan}
    (h : definition.compileGraph connectors = .ok plan) :
    ∃ spec, definition.body = .graph spec := by
  unfold compileGraph at h
  split at h
  next => cases h
  next spec hbody => exact ⟨spec, hbody⟩

theorem compileGraph_congr {connectors' : List String}
    (h : ∀ id, id ∈ connectors ↔ id ∈ connectors') :
    definition.compileGraph connectors = definition.compileGraph connectors' := by
  unfold compileGraph
  split
  · rfl
  · exact GraphSpec.compile_congr _ _ h

/-- A plan from the cache is the one that would be compiled now, if graphs that are cached under
one text are the same. -/
theorem compileGraphCached_eq (holds : cache.Holds fun key plan => ∃ other connectors',
      graphSignature other connectors' = key ∧ other.compileGraph connectors' = .ok plan ∧
      (graphSignature other connectors' = graphSignature definition connectors →
        graphText other connectors' = graphText definition connectors ∧
        other.body = definition.body)) :
    (definition.compileGraphCached connectors cache).1 = definition.compileGraph connectors := by
  rcases definition.compileGraphCached_fst connectors cache with h | ⟨plan, hfound, h⟩
  · exact h
  · obtain ⟨other, connectors', hkey, hplan, hsame⟩ := holds _ _ hfound
    obtain ⟨htext, hbody⟩ := hsame hkey
    obtain ⟨hid, -, hconnectors⟩ := alike_of_graphText htext
    rw [h, ← compileGraph_congr hconnectors, ← hplan, compileGraph, compileGraph, hbody, hid]

end FunctionDefinition

namespace PlanCache

/-- The cache after some graphs were compiled with it. -/
def after (limit : Positive) (calls : List (FunctionDefinition × List String)) : PlanCache :=
  calls.foldl (fun cache call => (call.1.compileGraphCached call.2 cache).2) (.ofLimit limit)

/-- A plan was compiled from a graph with this key. -/
def Kept (calls : List (FunctionDefinition × List String)) (key : String) (plan : GraphPlan) :
    Prop :=
  ∃ call ∈ calls, graphSignature call.1 call.2 = key ∧ call.1.compileGraph call.2 = .ok plan

theorem holds_after (limit : Positive) (calls : List (FunctionDefinition × List String)) :
    (after limit calls).Holds (Kept calls) := by
  induction calls using List.reverseRecOn with
  | nil => exact .empty limit.1 limit.2
  | append_singleton calls last ih =>
    rw [after, List.foldl_append]
    refine FunctionDefinition.holds_compileGraphCached
      (ih.mono fun _ _ ⟨call, hm, h⟩ => ⟨call, List.mem_append_left _ hm, h⟩) ?_
    exact fun plan hplan => ⟨last, by simp, rfl, hplan⟩

end PlanCache

end GridRules
