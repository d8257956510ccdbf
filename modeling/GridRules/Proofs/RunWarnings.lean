import GridRules.Proofs.AllowedHosts
import GridRules.Proofs.Lists
/-!
What executions warn of as not found. A source gives such a warning if what it refers to is not
there, and nothing else that a run does gives one: the texts begin or end differently.
-/

namespace GridRules

/-- The warning says that a grid, a connector or a builtin function was not found. -/
inductive NotFound : String → Prop where
  | grid (gridId : String) : NotFound ("Grid \"" ++ gridId ++ "\" not found")
  | connector (connectorId : String) : NotFound ("Connector \"" ++ connectorId ++ "\" not found")
  | builtin (functionId : String) :
    NotFound ("Builtin function \"" ++ functionId ++ "\" was not found")

section Texts

variable {w : String} {c : Char}

namespace NotFound

theorem head?_mem (h : NotFound w) : w.toList.head? ∈ [some 'G', some 'C', some 'B'] := by
  cases h with
  | grid gridId =>
    rw [head?_toList_append (head?_toList_append (c := 'G') rfl)]
    decide
  | connector connectorId =>
    rw [head?_toList_append (head?_toList_append (c := 'C') rfl)]
    decide
  | builtin functionId =>
    rw [head?_toList_append (head?_toList_append (c := 'B') rfl)]
    decide

theorem getLast?_eq (h : NotFound w) : w.toList.getLast? = some 'd' := by
  cases h <;> exact getLast?_toList_append rfl

theorem not_of_head? (h : w.toList.head? = some c)
    (other : some c ∉ [some 'G', some 'C', some 'B']) : ¬ NotFound w :=
  fun found => other (h ▸ found.head?_mem)

theorem not_of_getLast? (h : w.toList.getLast? = some c) (other : c ≠ 'd') : ¬ NotFound w :=
  fun found => other (Option.some.inj (h.symm.trans found.getLast?_eq))

end NotFound

end Texts

namespace Run

variable {α β : Type} {P Q : String → Prop} {run : Run α}

/-- All warnings of the run have the property. -/
def Warns (P : String → Prop) (run : Run α) : Prop :=
  ∀ w ∈ run.warnings, P w

/-- The run does not warn of anything as not found. -/
abbrev Quiet (run : Run α) : Prop :=
  Warns (fun w => ¬ NotFound w) run

namespace Warns

theorem pure (a : α) : Warns P (Pure.pure a : Run α) := fun _ h => by cases h

theorem ofExcept (result : Except Fault α) : Warns P (Run.ofExcept result) := by
  intro w h
  cases result <;> cases h

theorem warn {w : String} (h : P w) : Warns P (Run.warn w) := fun other hm => by
  rwa [List.mem_singleton.mp hm]

theorem bind {next : α → Run β} (h : Warns P run) (hnext : ∀ a, Warns P (next a)) :
    Warns P (run >>= next) := by
  change ∀ w ∈ (run.andThen next).warnings, P w
  unfold andThen
  cases run.result with
  | error e => exact h
  | ok a => exact fun w hm => (List.mem_append.mp hm).elim (h w) (hnext a w)

theorem warn_return {w : String} (h : P w) (a : α) : Warns P (do Run.warn w; return a) :=
  (warn h).bind fun _ => pure a

theorem mono (h : Warns P run) (hpq : ∀ w, P w → Q w) : Warns Q run :=
  fun w hm => hpq w (h w hm)

/-- A run that does not warn by itself. -/
theorem of_nil (h : run.warnings = []) : Warns P run := fun _ hm => by
  rw [h] at hm
  cases hm

end Warns

end Run

namespace HttpGetSource

open Run (Warns Quiet)

variable (connector : Connector) (collaborators : Collaborators)

theorem quiet_resolveSecret (refId : String) :
    Quiet (resolveSecret connector refId collaborators) := by
  unfold resolveSecret
  cases collaborators.secret with
  | none => exact .pure _
  | some resolve =>
    refine Warns.bind (.of_nil rfl) fun _ => ?_
    cases resolve refId with
    | failed kind => exact Warns.bind (.of_nil rfl) fun _ => .pure _
    | value v => cases v <;> exact .pure _

theorem quiet_authorize (headers : Assoc String) :
    Quiet (authorize connector collaborators headers) := by
  unfold authorize
  cases connector.auth with
  | none => exact .pure _
  | secret refId =>
    refine (quiet_resolveSecret connector collaborators refId).bind fun found => ?_
    cases found with
    | some secret => exact .pure _
    | none =>
      have hhead : ("Secret \"" ++ refId ++
          "\" could not be resolved; request sent without Authorization").toList.head? =
            some 'S' :=
        head?_toList_append (head?_toList_append rfl)
      exact .warn_return (NotFound.not_of_head? hhead (by decide)) _

theorem quiet_send (host : String) (request : HttpRequest) :
    Quiet (send connector host request collaborators) := by
  unfold send
  refine Warns.bind (.of_nil rfl) fun _ => .bind (.of_nil rfl) fun _ => ?_
  cases collaborators.fetch request with
  | reply reply => exact .pure _
  | cancelled => exact .of_nil rfl
  | failed kind =>
    refine Warns.bind (.of_nil rfl) fun _ => ?_
    exact .warn_return (NotFound.not_of_head? (head?_toList_append (c := 'H') rfl) (by decide)) _

theorem quiet_readReply (settings : HttpSettings) (reply : HttpReply) :
    Quiet (readReply connector settings collaborators reply) := by
  have warns {w : String} (h : w.toList.head? = some 'H') :
      Quiet (do Run.warn w; return (none : Option Value)) :=
    .warn_return (NotFound.not_of_head? h (by decide)) none
  unfold readReply
  split
  · exact warns (head?_toList_append rfl)
  · split
    · exact warns rfl
    · split
      · exact .of_nil rfl
      · split
        · exact .of_nil rfl
        · split
          · exact .pure _
          · exact .of_nil rfl
          · exact Warns.bind (.of_nil rfl) fun _ => warns rfl

theorem quiet_noPayload {w : String} (h : ¬ NotFound w) : Quiet (noPayload w) :=
  .warn_return h _

theorem quiet_selectPayload (source : HttpGetSource) (payload : Value) :
    Quiet (source.selectPayload payload) := by
  unfold selectPayload
  split
  · exact .pure _
  · exact .pure _
  · refine (Warns.ofExcept _).bind fun found => ?_
    split
    · exact .pure _
    · refine quiet_noPayload (NotFound.not_of_head? (c := 'H') ?_ (by decide))
      exact head?_toList_append (head?_toList_append rfl)

theorem quiet_fetchAt (source : HttpGetSource) (url : Url) (host : String) (inputs : Inputs)
    (settings : HttpSettings) :
    Quiet (source.fetchAt connector url host inputs settings collaborators) := by
  refine (Warns.ofExcept _).bind fun headers => ?_
  refine (quiet_authorize connector collaborators headers).bind fun headers => ?_
  refine (quiet_send connector collaborators host _).bind fun reply => ?_
  cases reply with
  | none => exact .pure _
  | some reply =>
    refine (quiet_readReply connector collaborators settings reply).bind fun payload => ?_
    cases payload with
    | none => exact .pure _
    | some payload => exact source.quiet_selectPayload payload

/-- With a connector nothing is warned of as not found. -/
theorem quiet_fetchJson {source : HttpGetSource} {connectors : Assoc Connector}
    (h : connectors.get? source.connectorId = some connector) (inputs : Inputs)
    (settings : HttpSettings) :
    Quiet (source.fetchJson connectors inputs settings collaborators) := by
  simp only [fetchJson, h]
  split
  · refine Warns.bind (.of_nil rfl) fun _ => quiet_noPayload ?_
    exact NotFound.not_of_getLast? (getLast?_toList_append (c := 'L') rfl) (by decide)
  · split
    · exact source.quiet_fetchAt connector collaborators _ _ inputs settings
    · refine quiet_noPayload (NotFound.not_of_head? (c := 'H') ?_ (by decide))
      exact head?_toList_append (head?_toList_append (head?_toList_append
        (head?_toList_append rfl)))

end HttpGetSource

/-- The source that a node gives the rows or the payload of. -/
def NodeConfig.source? : NodeConfig → Option Source
  | .gridRows gridId => some (.gridRows gridId)
  | .layoutFields source => some (.layoutFields source)
  | .httpGet source => some (.httpGet source)
  | .start | .currentContext _ | .transform _ | .aiExtract _ | .output _ => none

/-- A node that is run has the source. -/
def GraphPlan.Reads (plan : GraphPlan) (source : Source) : Prop :=
  ∃ id ∈ plan.executionOrder, ∃ config, plan.nodes.get? id = some config ∧
    config.source? = some source

namespace Execution

open Run (Warns Quiet)

/-- What a source refers to is not there, and a warning says so. -/
inductive Missing (execution : Execution) : Source → String → Prop where
  | grid {gridId : String} (absent : execution.context.tracker.grid? gridId = none)
      (empty : execution.context.gridData.has gridId = false) :
    Missing execution (.gridRows gridId) ("Grid \"" ++ gridId ++ "\" not found")
  | connector {source : HttpGetSource}
      (absent : execution.connectors.get? source.connectorId = none) :
    Missing execution (.httpGet source) ("Connector \"" ++ source.connectorId ++ "\" not found")
  | builtin {functionId : String} (unknown : isBuiltin functionId = false) :
    Missing execution (.builtin functionId)
      ("Builtin function \"" ++ functionId ++ "\" was not found")

/-- The warning is not one of something not found, unless this is missing in one of the sources. -/
def Accounts (execution : Execution) (reads : Source → Prop) (w : String) : Prop :=
  NotFound w → ∃ source, reads source ∧ execution.Missing source w

variable {execution : Execution} {reads : Source → Prop}

theorem Accounts.of_not_notFound {w : String} (h : ¬ NotFound w) : execution.Accounts reads w :=
  fun found => absurd found h

/-- What is said of a function as a whole is not that something was not found. -/
theorem accounts_function (functionId rest : String) :
    ∀ w ∈ ["Function \"" ++ functionId ++ rest], execution.Accounts reads w := by
  intro w hm
  obtain rfl := List.mem_singleton.mp hm
  exact .of_not_notFound (NotFound.not_of_head?
    (head?_toList_append (head?_toList_append (c := 'F') rfl)) (by decide))

theorem accounts_of_quiet {α : Type} {run : Run α} (h : Quiet run) :
    Warns (execution.Accounts reads) run :=
  h.mono fun _ => .of_not_notFound

theorem warns_gridRows {gridId : String} (h : reads (.gridRows gridId)) :
    Warns (execution.Accounts reads) (execution.gridRows gridId) := by
  unfold gridRows
  dsimp only
  split
  next missing =>
    simp only [Bool.and_eq_true, Option.isNone_iff_eq_none, Bool.not_eq_true'] at missing
    exact .warn_return (fun _ => ⟨_, h, .grid missing.1 missing.2⟩) _
  next => exact .pure _

theorem warns_fetch {source : HttpGetSource} (h : reads (.httpGet source)) :
    Warns (execution.Accounts reads) (execution.fetch source) := by
  unfold fetch
  cases hconnector : execution.connectors.get? source.connectorId with
  | some connector =>
    exact accounts_of_quiet (HttpGetSource.quiet_fetchJson connector _ hconnector _ _)
  | none =>
    simp only [HttpGetSource.fetchJson, hconnector]
    exact .warn_return (fun _ => ⟨_, h, .connector hconnector⟩) _

theorem warns_builtinRows {functionId : String} (h : reads (.builtin functionId)) :
    Warns (execution.Accounts reads) (execution.builtinRows functionId) := by
  unfold builtinRows
  split
  next unknown =>
    have unknown : isBuiltin functionId = false := by simpa using unknown
    exact .warn_return (fun _ => ⟨_, h, .builtin unknown⟩) _
  next => exact .pure _

theorem warns_sourceRows {source : Source} (h : reads source) :
    Warns (execution.Accounts reads) (execution.sourceRows source) := by
  cases source with
  | builtin functionId => exact warns_builtinRows h
  | gridRows gridId => exact warns_gridRows h
  | layoutFields source => exact .pure _
  | httpGet source =>
    refine (warns_fetch h).bind fun payload => ?_
    have hlist : Quiet (Run.warn "HTTP response did not resolve to a list") :=
      .warn (NotFound.not_of_head? (c := 'H') rfl (by decide))
    cases payload with
    | null | list => exact .pure _
    | bool | int | float | str | object => exact (accounts_of_quiet hlist).bind fun _ => .pure _

theorem warns_runFlat (execution : Execution) (pipeline : Pipeline) :
    Warns (execution.Accounts (· = pipeline.source)) (execution.runFlat pipeline) := by
  have hsource : Warns (execution.Accounts (· = pipeline.source))
      (execution.sourceRows pipeline.source) := warns_sourceRows rfl
  exact hsource.bind fun _ => (Warns.ofExcept _).bind fun _ => .ofExcept _

theorem quiet_extractRows (execution : Execution) (config : AiExtractConfig) (v : Value) :
    Quiet (execution.extractRows config v) := by
  unfold extractRows
  cases execution.executor.collaborators.ai with
  | none =>
    exact .warn_return (NotFound.not_of_head? (c := 'A') rfl (by decide)) _
  | some extract =>
    dsimp only
    refine (Warns.ofExcept _).bind fun input => .bind (.of_nil rfl) fun _ => ?_
    split
    · exact .pure _
    · exact .of_nil rfl

theorem warns_runNode {config : NodeConfig}
    (h : ∀ source, config.source? = some source → reads source) (v : Value) :
    Warns (execution.Accounts reads) (execution.runNode v config) := by
  cases config with
  | start | currentContext | layoutFields => exact .pure _
  | gridRows gridId => exact (warns_gridRows (h _ rfl)).bind fun _ => .pure _
  | httpGet source => exact (warns_fetch (h _ rfl)).bind fun _ => .pure _
  | transform step => exact (Warns.ofExcept _).bind fun _ => .pure _
  | output mapping => exact (Warns.ofExcept _).bind fun _ => .pure _
  | aiExtract config =>
    exact (accounts_of_quiet (execution.quiet_extractRows config v)).bind fun _ => .pure _

/-- The induction is on the nodes to run; what each warns of is accounted for by its own source. -/
theorem warns_runNodes {plan : GraphPlan} {ids : List String}
    (h : ∀ id ∈ ids, ∀ config, plan.nodes.get? id = some config →
      ∀ source, config.source? = some source → reads source) (results : Assoc NodeResult) :
    Warns (execution.Accounts reads) (execution.runNodes plan results ids) := by
  induction ids generalizing results with
  | nil => exact .pure _
  | cons id rest ih =>
    have hrest := ih fun other hm => h other (List.mem_cons_of_mem _ hm)
    simp only [runNodes]
    cases hconfig : plan.nodes.get? id with
    | none => exact hrest results
    | some config =>
      exact (warns_runNode (h id List.mem_cons_self config hconfig) _).bind fun _ => hrest _

theorem warns_runGraph (execution : Execution) (plan : GraphPlan) :
    Warns (execution.Accounts plan.Reads) (execution.runGraph plan) := by
  have hnodes : Warns (execution.Accounts plan.Reads)
      (execution.runNodes plan [] plan.executionOrder) :=
    warns_runNodes (fun id hid config hconfig source hsource =>
      ⟨id, hid, config, hconfig, hsource⟩) []
  refine hnodes.bind fun results => ?_
  split <;> exact .pure _

end Execution

namespace FunctionDefinition

/-- The function has the source; `compiled` is what its graph compiles to, if it is one. -/
def Reads (definition : FunctionDefinition) (compiled : Except (List CompileIssue) GraphPlan)
    (source : Source) : Prop :=
  match definition.body, compiled with
  | .flat pipeline, _ => source = pipeline.source
  | .graph _, .ok plan => plan.Reads source
  | .graph _, .error _ => False

/-- What an execution warns of as not found is missing in a source of its function. -/
theorem accounts_executeWith {definition : FunctionDefinition} {execution : Execution}
    {compiled : Except (List CompileIssue) GraphPlan} {result : ExecutionResult}
    (compiles : definition.isGraph = true → ∃ plan, compiled = .ok plan)
    (hresult : (definition.executeWith execution compiled).result = .ok result) :
    ∀ w ∈ result.warnings, execution.Accounts (definition.Reads compiled) w := by
  unfold executeWith at hresult
  split at hresult
  next =>
    obtain rfl := Except.ok.inj hresult
    exact Execution.accounts_function _ _
  next =>
    unfold Reads
    cases hbody : definition.body with
    | flat pipeline =>
      simp only [hbody, Execution.executePipeline] at hresult
      split at hresult
      next =>
        obtain rfl := Except.ok.inj hresult
        exact Execution.accounts_function _ _
      next =>
        obtain ⟨items, -, rfl⟩ := Execution.finish_eq_ok hresult
        exact execution.warns_runFlat pipeline
    | graph spec =>
      obtain ⟨plan, rfl⟩ := compiles (by rw [isGraph, hbody, FunctionBody.isGraph])
      simp only [hbody, Execution.executePlan] at hresult
      split at hresult
      next =>
        obtain rfl := Except.ok.inj hresult
        exact Execution.accounts_function _ _
      next =>
        obtain ⟨items, -, rfl⟩ := Execution.finish_eq_ok hresult
        exact execution.warns_runGraph plan

end FunctionDefinition

end GridRules
