import GridRules.Proofs.RequestCounts
import GridRules.Proofs.Results
/-!
Where secrets go. Two executions whose resolvers find the same secrets, with whatever values, come
to one result: they make the same calls, requests that differ in their authorization alone, and log
the same headers.
-/

namespace GridRules

/-- The secret that an answer gives, if it gives one that is not empty. -/
def SecretAnswer.found? : SecretAnswer → Option String
  | .value (.str s) => if s = "" then none else some s
  | _ => none

/-- The secret that a resolver finds, if there is a resolver. -/
def foundSecret? (secret : Option (String → SecretAnswer)) (refId : String) : Option String :=
  secret.bind fun resolve => (resolve refId).found?

/-- Headers of the same names, and with the same values but for the authorization. -/
def SameBesidesAuthorization (headers other : Assoc String) : Prop :=
  List.Forall₂ (fun h k => h.1 = k.1 ∧ (h.1 ≠ "Authorization" → h.2 = k.2)) headers other

namespace SameBesidesAuthorization

variable {headers other : Assoc String}

theorem refl (headers : Assoc String) : SameBesidesAuthorization headers headers :=
  List.forall₂_same.mpr fun _ _ => ⟨rfl, fun _ => rfl⟩

theorem put (headers : Assoc String) (value value' : String) :
    SameBesidesAuthorization (headers.put "Authorization" value)
      (headers.put "Authorization" value') := by
  induction headers with
  | nil => exact .cons ⟨rfl, fun h => absurd rfl h⟩ .nil
  | cons header rest ih =>
    obtain ⟨name, old⟩ := header
    rw [Assoc.put, Assoc.put]
    split
    · exact .cons ⟨rfl, fun h => absurd rfl h⟩ (refl rest)
    · exact .cons ⟨rfl, fun _ => rfl⟩ ih

theorem isCredentialHeader_authorization : isCredentialHeader "Authorization" = true := by
  decide +kernel

/-- Masked, they are the same. -/
theorem redactHeaders_eq (h : SameBesidesAuthorization headers other) :
    redactHeaders headers = redactHeaders other := by
  induction h with
  | nil => rfl
  | @cons header header' rest rest' hheader _ ih =>
    obtain ⟨name, value⟩ := header
    obtain ⟨name', value'⟩ := header'
    obtain ⟨hname, hvalue⟩ := hheader
    obtain rfl : name = name' := hname
    have hmasked : (if isCredentialHeader name then redactedText else value) =
        if isCredentialHeader name then redactedText else value' := by
      by_cases hauth : name = "Authorization"
      · rw [hauth, isCredentialHeader_authorization]
        rfl
      · rw [show value = value' from hvalue hauth]
    simpa only [redactHeaders, List.map_cons, hmasked, List.cons.injEq, true_and] using ih

end SameBesidesAuthorization

/-- Requests that differ in their authorization alone. -/
structure HttpRequest.Alike (request other : HttpRequest) : Prop where
  url : request.url = other.url
  headers : SameBesidesAuthorization request.headers other.headers
  timeout : request.timeout = other.timeout

/-- Calls that are the same, but for the authorization of a request. -/
def Call.Alike : Call → Call → Prop
  | .fetch request, .fetch other => request.Alike other
  | call, other => call = other

theorem HttpRequest.Alike.refl (request : HttpRequest) : request.Alike request :=
  ⟨rfl, .refl _, rfl⟩

theorem Call.Alike.refl (call : Call) : call.Alike call := by
  cases call with
  | fetch request => exact HttpRequest.Alike.refl request
  | secret | ai | remote => exact rfl

namespace Run

variable {α β γ δ : Type}

/-- The calls of a run besides those for secrets. -/
def outgoing (run : Run α) : List Call :=
  run.calls.filter fun call => !call.isSecret

/-- What a run logs besides that a secret was not resolved. -/
def logged (run : Run α) : List LogEvent :=
  run.events.filter fun event => event.event != "secret_resolution_failed"

/-- Two runs that nobody can tell apart but by their secrets, with results that are related. -/
structure Alike (R : α → β → Prop) (run : Run α) (other : Run β) : Prop where
  result : AgreeBy R run.result other.result
  warnings : run.warnings = other.warnings
  outgoing : List.Forall₂ Call.Alike run.outgoing other.outgoing
  logged : run.logged = other.logged

namespace Alike

variable {R : α → β → Prop} {S : γ → δ → Prop} {run : Run α} {other : Run β}

theorem refl (run : Run α) : Alike Eq run run where
  result := by cases run.result <;> exact rfl
  warnings := rfl
  outgoing := List.forall₂_same.mpr fun call _ => Call.Alike.refl call
  logged := rfl

theorem pure {a : α} {b : β} (h : R a b) : Alike R (Pure.pure a) (Pure.pure b) :=
  ⟨h, rfl, .nil, rfl⟩

theorem bind {next : α → Run γ} {next' : β → Run δ} (h : Alike R run other)
    (hnext : ∀ a b, R a b → Alike S (next a) (next' b)) :
    Alike S (run >>= next) (other >>= next') := by
  obtain ⟨result, warnings, calls, events⟩ := run
  obtain ⟨result', warnings', calls', events'⟩ := other
  change Alike S (andThen _ next) (andThen _ next')
  cases result with
  | error e =>
    cases result' with
    | error e' => exact ⟨h.result, h.warnings, h.outgoing, h.logged⟩
    | ok b => exact h.result.elim
  | ok a =>
    cases result' with
    | error e' => exact h.result.elim
    | ok b =>
      have hrest := hnext a b h.result
      refine ⟨hrest.result, ?_, ?_, ?_⟩
      · exact congrArg₂ (· ++ ·) h.warnings hrest.warnings
      · simp only [Run.outgoing, andThen, List.filter_append]
        exact List.rel_append h.outgoing hrest.outgoing
      · simp only [Run.logged, andThen, List.filter_append]
        exact congrArg₂ (· ++ ·) h.logged hrest.logged

theorem bind_refl {run : Run α} {next : α → Run γ} {next' : α → Run δ}
    (hnext : ∀ a, Alike S (next a) (next' a)) : Alike S (run >>= next) (run >>= next') :=
  (refl run).bind fun a _ h => h ▸ hnext a

theorem bind_same {run other : Run α} (h : Alike Eq run other) (next : α → Run γ) :
    Alike Eq (run >>= next) (other >>= next) :=
  h.bind fun _ _ hab => hab ▸ refl _

theorem collect {run other : Run α} (h : Alike Eq run other) :
    Alike Eq run.collect other.collect where
  result := by
    have hresult := h.result
    have hwarnings := h.warnings
    obtain ⟨result, warnings, calls, events⟩ := run
    obtain ⟨result', warnings', calls', events'⟩ := other
    obtain rfl : warnings = warnings' := hwarnings
    cases result with
    | error e =>
      cases result' with
      | error e' => exact hresult
      | ok b => exact hresult.elim
    | ok a =>
      cases result' with
      | error e' => exact hresult.elim
      | ok b => exact congrArg (·, warnings) hresult
  warnings := rfl
  outgoing := h.outgoing
  logged := h.logged

end Alike

end Run

/-- The collaborators with another resolver of secrets. -/
def Collaborators.withSecrets (collaborators : Collaborators)
    (secret : Option (String → SecretAnswer)) : Collaborators :=
  { collaborators with secret := secret }

/-- What is fetched does not depend on the authorization. -/
def Collaborators.IgnoresAuthorization (collaborators : Collaborators) : Prop :=
  ∀ request other : HttpRequest, request.Alike other →
    collaborators.fetch request = collaborators.fetch other

namespace HttpGetSource

open Run (Alike)

variable {collaborators : Collaborators} {secret secret' : Option (String → SecretAnswer)}
  (found : ∀ refId, (foundSecret? secret refId).isSome = (foundSecret? secret' refId).isSome)

include found

theorem alike_resolveSecret (connector : Connector) (refId : String) :
    Alike (fun a b => a.isSome = b.isSome)
      (resolveSecret connector refId (collaborators.withSecrets secret))
      (resolveSecret connector refId (collaborators.withSecrets secret')) := by
  have run (resolver : Option (String → SecretAnswer)) :
      let run := resolveSecret connector refId (collaborators.withSecrets resolver)
      run.result = .ok (foundSecret? resolver refId) ∧ run.warnings = [] ∧ run.outgoing = [] ∧
        run.logged = [] := by
    cases resolver with
    | none => exact ⟨rfl, rfl, rfl, rfl⟩
    | some resolve =>
      simp only [resolveSecret, Collaborators.withSecrets, foundSecret?, Option.bind_some]
      cases resolve refId with
      | failed kind => exact ⟨rfl, rfl, rfl, rfl⟩
      | value v => cases v <;> exact ⟨rfl, rfl, rfl, rfl⟩
  obtain ⟨hresult, hwarnings, houtgoing, hlogged⟩ := run secret
  obtain ⟨hresult', hwarnings', houtgoing', hlogged'⟩ := run secret'
  constructor
  · rw [hresult, hresult']
    exact found refId
  · rw [hwarnings, hwarnings']
  · rw [houtgoing, houtgoing']
    exact .nil
  · rw [hlogged, hlogged']

theorem alike_authorize (connector : Connector) (headers : Assoc String) :
    Alike SameBesidesAuthorization
      (authorize connector (collaborators.withSecrets secret) headers)
      (authorize connector (collaborators.withSecrets secret') headers) := by
  unfold authorize
  cases connector.auth with
  | none => exact .pure (.refl headers)
  | secret refId =>
    refine (alike_resolveSecret found connector refId).bind fun a b hab => ?_
    cases a with
    | none =>
      cases b with
      | none => exact .bind_refl fun _ => .pure (.refl headers)
      | some value => cases hab
    | some value =>
      cases b with
      | none => cases hab
      | some value' =>
        dsimp only
        split
        · exact .pure (.refl headers)
        · exact .pure (.put headers _ _)

omit found in
theorem alike_send (blind : collaborators.IgnoresAuthorization) (connector : Connector)
    (host : String) {request other : HttpRequest} (h : request.Alike other) :
    Alike Eq (send connector host request (collaborators.withSecrets secret))
      (send connector host other (collaborators.withSecrets secret')) := by
  have hfetch : (collaborators.withSecrets secret).fetch request =
      (collaborators.withSecrets secret').fetch other := blind request other h
  have hcall : Alike Eq (Run.call (.fetch request)) (Run.call (.fetch other)) :=
    ⟨rfl, rfl, .cons h .nil, rfl⟩
  unfold send
  rw [h.url, h.headers.redactHeaders_eq, hfetch]
  exact .bind_refl fun _ => hcall.bind_same _

variable (blind : collaborators.IgnoresAuthorization)

include blind

theorem alike_fetchAt (source : HttpGetSource) (connector : Connector) (url : Url) (host : String)
    (inputs : Inputs) (settings : HttpSettings) :
    Alike Eq
      (source.fetchAt connector url host inputs settings (collaborators.withSecrets secret))
      (source.fetchAt connector url host inputs settings (collaborators.withSecrets secret')) := by
  unfold fetchAt
  refine .bind_refl fun headers => ?_
  refine (alike_authorize found connector headers).bind fun authorized authorized' h => ?_
  have halike : HttpRequest.Alike ⟨url.text, authorized, settings.timeoutSeconds⟩
      ⟨url.text, authorized', settings.timeoutSeconds⟩ := ⟨rfl, h, rfl⟩
  exact (alike_send blind connector host halike).bind_same _

theorem alike_fetchJson (source : HttpGetSource) (connectors : Assoc Connector) (inputs : Inputs)
    (settings : HttpSettings) :
    Alike Eq (source.fetchJson connectors inputs settings (collaborators.withSecrets secret))
      (source.fetchJson connectors inputs settings (collaborators.withSecrets secret')) := by
  unfold fetchJson
  split
  · exact .refl _
  · dsimp only
    split
    · exact .refl _
    · split
      · exact alike_fetchAt found blind source _ _ _ inputs settings
      · exact .refl _

end HttpGetSource

namespace Execution

open Run (Alike)

/-- The execution with another resolver of secrets. -/
def withSecrets (execution : Execution) (secret : Option (String → SecretAnswer)) : Execution :=
  execution.calling (execution.executor.collaborators.withSecrets secret)

variable {execution : Execution} {secret secret' : Option (String → SecretAnswer)}
  (found : ∀ refId, (foundSecret? secret refId).isSome = (foundSecret? secret' refId).isSome)
  (blind : execution.executor.collaborators.IgnoresAuthorization)

include found blind

theorem alike_fetch (source : HttpGetSource) :
    Alike Eq ((execution.withSecrets secret).fetch source)
      ((execution.withSecrets secret').fetch source) :=
  HttpGetSource.alike_fetchJson found blind source _ _ _

theorem alike_runFlat (pipeline : Pipeline) :
    Alike Eq ((execution.withSecrets secret).runFlat pipeline)
      ((execution.withSecrets secret').runFlat pipeline) := by
  have hrows : Alike Eq ((execution.withSecrets secret).sourceRows pipeline.source)
      ((execution.withSecrets secret').sourceRows pipeline.source) := by
    cases pipeline.source with
    | httpGet source => exact (alike_fetch found blind source).bind_same _
    | builtin | gridRows | layoutFields => exact .refl _
  exact hrows.bind_same _

theorem alike_runNode (v : Value) (config : NodeConfig) :
    Alike Eq ((execution.withSecrets secret).runNode v config)
      ((execution.withSecrets secret').runNode v config) := by
  cases config with
  | httpGet source => exact (alike_fetch found blind source).bind_same _
  | start | gridRows | currentContext | layoutFields | transform | aiExtract | output =>
    exact .refl _

theorem alike_runNodes (plan : GraphPlan) (ids : List String) (results : Assoc NodeResult) :
    Alike Eq ((execution.withSecrets secret).runNodes plan results ids)
      ((execution.withSecrets secret').runNodes plan results ids) := by
  induction ids generalizing results with
  | nil => exact .refl _
  | cons id rest ih =>
    simp only [runNodes]
    split
    · exact ih results
    · refine (alike_runNode found blind _ _).bind fun a b hab => ?_
      obtain rfl : a = b := hab
      exact ih _

theorem alike_runGraph (plan : GraphPlan) :
    Alike Eq ((execution.withSecrets secret).runGraph plan)
      ((execution.withSecrets secret').runGraph plan) :=
  (alike_runNodes found blind plan plan.executionOrder []).bind_same _

omit found blind in
theorem alike_finish (functionId : String) {run other : Run (List OptionItem)}
    (h : Alike Eq run other) :
    Alike Eq ((execution.withSecrets secret).finish functionId run)
      ((execution.withSecrets secret').finish functionId other) :=
  h.collect.bind_same _

theorem alike_executePipeline (functionId : String) (pipeline : Pipeline) :
    Alike Eq ((execution.withSecrets secret).executePipeline functionId pipeline)
      ((execution.withSecrets secret').executePipeline functionId pipeline) := by
  have either (resolver : Option (String → SecretAnswer)) :
      (execution.withSecrets resolver).executePipeline functionId pipeline =
        if pipeline.source.isRemote && !execution.executor.allowHttp then
          pure (.needsServer functionId)
        else (execution.withSecrets resolver).finish functionId
          ((execution.withSecrets resolver).runFlat pipeline) := rfl
  rw [either, either]
  split
  · exact .refl _
  · exact alike_finish functionId (alike_runFlat found blind pipeline)

theorem alike_executePlan (functionId : String) (plan : GraphPlan) :
    Alike Eq ((execution.withSecrets secret).executePlan functionId plan)
      ((execution.withSecrets secret').executePlan functionId plan) := by
  have either (resolver : Option (String → SecretAnswer)) :
      (execution.withSecrets resolver).executePlan functionId plan =
        if plan.requiresRemote && !execution.executor.allowHttp then
          pure (.needsServer functionId)
        else (execution.withSecrets resolver).finish functionId
          ((execution.withSecrets resolver).runGraph plan) := rfl
  rw [either, either]
  split
  · exact .refl _
  · exact alike_finish functionId (alike_runGraph found blind plan)

end Execution

namespace FunctionDefinition

open Run (Alike)

variable {execution : Execution} {secret secret' : Option (String → SecretAnswer)}

theorem alike_executeWith
    (found : ∀ refId, (foundSecret? secret refId).isSome = (foundSecret? secret' refId).isSome)
    (blind : execution.executor.collaborators.IgnoresAuthorization)
    (definition : FunctionDefinition) (compiled : Except (List CompileIssue) GraphPlan) :
    Alike Eq (definition.executeWith (execution.withSecrets secret) compiled)
      (definition.executeWith (execution.withSecrets secret') compiled) := by
  unfold executeWith
  split
  · exact .refl _
  · split
    · exact Execution.alike_executePipeline found blind _ _
    · exact Execution.alike_executePlan found blind _ _
    · exact .refl _

/-- Two executions whose resolvers find the same secrets, with whatever values, have the same
result; their calls differ in the authorization of requests alone, and all that is logged, with the
headers of requests, is the same, but for why a secret was not resolved. -/
theorem execute_alike_secrets (definition : FunctionDefinition) (execution : Execution)
    (secret secret' : Option (String → SecretAnswer))
    (found : ∀ refId, (foundSecret? secret refId).isSome = (foundSecret? secret' refId).isSome)
    (blind : execution.executor.collaborators.IgnoresAuthorization)
    (run : Execution → Run ExecutionResult)
    (hrun : run = definition.execute ∨
      ∃ plans, run = fun execution => (definition.executeCached execution plans).1) :
    let one := run (execution.withSecrets secret)
    let other := run (execution.withSecrets secret')
    one.result = other.result ∧ List.Forall₂ Call.Alike one.outgoing other.outgoing ∧
      one.logged = other.logged := by
  intro one other
  have alike : Alike Eq one other := by
    rcases hrun with rfl | ⟨plans, rfl⟩
    · exact alike_executeWith found blind definition _
    · simp only [one, other, executeCached_fst]
      exact alike_executeWith found blind definition _
  exact ⟨alike.result.eq, alike.outgoing, alike.logged⟩

/-- The registry that answers every request with one room, whatever the request says. -/
def askOpenRegistry : Execution :=
  askRegistryOnline.calling {
    fetch := fun _ => .reply ⟨200, none, "[\x7b\"name\": \"Hall\", \"code\": 7\x7d]".toUTF8.toList⟩
    secret := none
    ai := none
    remote := none }

def resolvesTo (secret : String) : Option (String → SecretAnswer) :=
  some fun _ => .value (.str secret)

/-- Two requests that each carry a secret; the options are the same for both secrets. -/
theorem execute_alike_secrets_wardRooms :
    let one := wardRooms.execute (askOpenRegistry.withSecrets (resolvesTo "alpha"))
    let other := wardRooms.execute (askOpenRegistry.withSecrets (resolvesTo "beta"))
    one.fetches = 2 ∧ one.outgoing ≠ other.outgoing ∧
      one.result = .ok ⟨[⟨"Hall", .int 7, "7", none⟩], false, []⟩ ∧ one.result = other.result ∧
      List.Forall₂ Call.Alike one.outgoing other.outgoing ∧ one.logged = other.logged := by
  have alike := execute_alike_secrets wardRooms askOpenRegistry (resolvesTo "alpha")
    (resolvesTo "beta") (fun _ => rfl) (fun _ _ _ => rfl) wardRooms.execute (.inl rfl)
  refine ⟨?_, ?_, ?_, alike⟩
  · decide +kernel
  · decide +kernel
  · decide +kernel

end FunctionDefinition

end GridRules
