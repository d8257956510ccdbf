import GridRules.Proofs.Runs

namespace GridRules

namespace OptionsContext

/-- What a run that calls nobody can see of a context: no rules, no functions and no connectors of
the tracker, and no difference between no row and an empty one. -/
def seen (context : OptionsContext) : OptionsContext where
  tracker := { context.tracker with validations := [], calculations := [], options := .empty }
  gridData := context.gridData
  runtime := { context.runtime with row := some (context.runtime.row.getD []) }

end OptionsContext

namespace Execution

open Run (Silent)

/-- What a run that calls nobody can see of an execution. -/
def seen (execution : Execution) : Execution where
  executor := { execution.executor with
    connectors := []
    collaborators := { fetch := fun _ => .cancelled, secret := none, ai := none, remote := none } }
  context := execution.context.seen
  args := execution.args

variable (execution : Execution)

section Flat

variable {pipeline : Pipeline}

theorem silent_gridRows (gridId : String) : Silent (execution.gridRows gridId) := by
  unfold gridRows
  dsimp only
  split <;> rfl

theorem silent_builtinRows (functionId : String) :
    Silent (execution.builtinRows functionId) := by
  unfold builtinRows
  split <;> rfl

theorem silent_runFlat (h : pipeline.source.isRemote = false) :
    Silent (execution.runFlat pipeline) := by
  have hrows : Silent (execution.sourceRows pipeline.source) := by
    cases hs : pipeline.source with
    | builtin functionId => exact execution.silent_builtinRows functionId
    | gridRows gridId => exact execution.silent_gridRows gridId
    | layoutFields source => exact .pure _
    | httpGet source => simp [hs, Source.isRemote] at h
  exact hrows.bind fun _ => (Silent.ofExcept _).bind fun _ => .ofExcept _

theorem runFlat_seen (h : pipeline.source.isRemote = false) :
    execution.seen.runFlat pipeline = execution.runFlat pipeline := by
  have hrows : execution.seen.sourceRows pipeline.source =
      execution.sourceRows pipeline.source := by
    cases hs : pipeline.source with
    | builtin | gridRows | layoutFields => rfl
    | httpGet source => simp [hs, Source.isRemote] at h
  unfold runFlat
  rw [hrows]
  rfl

end Flat

section Graph

variable {plan : GraphPlan} {ids : List String}

theorem silent_runNode (v : Value) {config : NodeConfig} (h : config.kind.isRemote = false) :
    Silent (execution.runNode v config) := by
  cases config with
  | start | currentContext | layoutFields => exact .pure _
  | gridRows gridId => exact (execution.silent_gridRows gridId).bind fun _ => .pure _
  | transform step => exact (Silent.ofExcept _).bind fun _ => .pure _
  | output mapping => exact (Silent.ofExcept _).bind fun _ => .pure _
  | httpGet | aiExtract => cases h

theorem runNode_seen (v : Value) {config : NodeConfig} (h : config.kind.isRemote = false) :
    execution.seen.runNode v config = execution.runNode v config := by
  cases config with
  | start | currentContext | layoutFields | gridRows | transform | output => rfl
  | httpGet | aiExtract => cases h

/-- None of the nodes needs the network. -/
def Local (plan : GraphPlan) (ids : List String) : Prop :=
  ∀ id ∈ ids, ∀ config, plan.nodes.get? id = some config → config.kind.isRemote = false

theorem silent_runNodes (h : Local plan ids) (results : Assoc NodeResult) :
    Silent (execution.runNodes plan results ids) := by
  induction ids generalizing results with
  | nil => exact .pure _
  | cons id rest ih =>
    have hrest := ih fun other hm => h other (List.mem_cons_of_mem _ hm)
    simp only [runNodes]
    cases hc : plan.nodes.get? id with
    | none => exact hrest results
    | some config =>
      exact (execution.silent_runNode _ (h id (by simp) config hc)).bind fun _ => hrest _

theorem runNodes_seen (h : Local plan ids) (results : Assoc NodeResult) :
    execution.seen.runNodes plan results ids = execution.runNodes plan results ids := by
  induction ids generalizing results with
  | nil => rfl
  | cons id rest ih =>
    have hrest := ih fun other hm => h other (List.mem_cons_of_mem _ hm)
    simp only [runNodes]
    cases hc : plan.nodes.get? id with
    | none => exact hrest results
    | some config =>
      simp only [execution.runNode_seen _ (h id (by simp) config hc), hrest]

end Graph

/-- Nobody is called to finish a run. -/
theorem finish_calls (functionId : String) (run : Run (List OptionItem)) :
    (execution.finish functionId run).calls = run.calls := by
  refine Run.calls_bind_of_silent fun ⟨items, warnings⟩ => ?_
  dsimp only
  split
  · exact Silent.bind rfl fun _ => .pure _
  · exact .pure _

theorem silent_finish (functionId : String) {run : Run (List OptionItem)} (h : Silent run) :
    Silent (execution.finish functionId run) :=
  (execution.finish_calls functionId run).trans h

/-- The options of a run are cut to what the settings allow, whatever function they are for. -/
theorem finish_result (functionId : String) (run : Run (List OptionItem)) :
    (execution.finish functionId run).result = run.result.map fun items =>
      ⟨items.take execution.executor.settings.options.maxItems.1, false, run.warnings⟩ := by
  obtain ⟨result, warnings, calls, events⟩ := run
  cases result with
  | error e => rfl
  | ok items =>
    cases warnings with
    | nil => rfl
    | cons warning warnings => rfl

variable {execution} in
/-- What a finished run was made of. -/
theorem finish_eq_ok {functionId : String} {run : Run (List OptionItem)} {r : ExecutionResult}
    (h : (execution.finish functionId run).result = .ok r) :
    ∃ items, run.result = .ok items ∧
      r = ⟨items.take execution.executor.settings.options.maxItems.1, false, run.warnings⟩ := by
  rw [finish_result] at h
  cases hr : run.result with
  | error e => simp [hr, Except.map] at h
  | ok items =>
    rw [hr] at h
    exact ⟨items, rfl, (Except.ok.inj h).symm⟩

end Execution

/-- A plan that is not marked as one for the network runs no node that needs it. -/
def GraphPlan.Gated (plan : GraphPlan) : Prop :=
  plan.requiresRemote = false → Execution.Local plan plan.executionOrder

namespace Execution

open Run (Silent)

variable {execution : Execution} (offline : execution.executor.allowHttp = false)
  (functionId : String)

include offline

theorem silent_executePipeline (pipeline : Pipeline) :
    Silent (execution.executePipeline functionId pipeline) := by
  unfold executePipeline
  split
  · exact .pure _
  next hremote =>
    have hremote : pipeline.source.isRemote = false := by simpa [offline] using hremote
    exact execution.silent_finish functionId (execution.silent_runFlat hremote)

theorem executePipeline_seen (pipeline : Pipeline) :
    execution.seen.executePipeline functionId pipeline =
      execution.executePipeline functionId pipeline := by
  cases hremote : pipeline.source.isRemote with
  | true => simp [executePipeline, hremote, offline, seen]
  | false =>
    simp only [executePipeline, hremote, Bool.false_and, Bool.false_eq_true, if_false,
      execution.runFlat_seen hremote]
    rfl

variable {plan : GraphPlan} (gated : plan.Gated)

include gated

theorem silent_executePlan : Silent (execution.executePlan functionId plan) := by
  unfold executePlan
  split
  · exact .pure _
  next hremote =>
    have hremote : plan.requiresRemote = false := by simpa [offline] using hremote
    refine execution.silent_finish functionId ?_
    refine (execution.silent_runNodes (gated hremote) []).bind fun results => ?_
    split <;> exact .pure _

theorem executePlan_seen :
    execution.seen.executePlan functionId plan = execution.executePlan functionId plan := by
  cases hremote : plan.requiresRemote with
  | true => simp [executePlan, hremote, offline, seen]
  | false =>
    simp only [executePlan, hremote, Bool.false_and, Bool.false_eq_true, if_false, runGraph,
      execution.runNodes_seen (gated hremote)]
    rfl

end Execution

namespace FunctionDefinition

open Run (Silent)

variable {definition : FunctionDefinition} {execution : Execution}
  {compiled : Except (List CompileIssue) GraphPlan}
  (offline : execution.executor.allowHttp = false)
  (gated : ∀ plan, compiled = .ok plan → plan.Gated)

include offline gated

/-- Where the network is not allowed, nobody is called. -/
theorem silent_executeWith : Silent (definition.executeWith execution compiled) := by
  unfold executeWith
  split
  · exact .pure _
  · split
    · exact Execution.silent_executePipeline offline _ _
    · exact Execution.silent_executePlan offline _ (gated _ rfl)
    · exact Silent.bind rfl fun _ => .bind rfl fun _ => .pure _

/-- Where the network is not allowed, what cannot be seen makes no difference. -/
theorem executeWith_seen :
    definition.executeWith execution.seen compiled = definition.executeWith execution compiled := by
  unfold executeWith
  split
  · rfl
  · split
    · exact Execution.executePipeline_seen offline _ _
    · exact Execution.executePlan_seen offline _ (gated _ rfl)
    · rfl

end FunctionDefinition

end GridRules
