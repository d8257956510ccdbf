import GridRules.Proofs.AllowedHosts
import GridRules.Proofs.OfflineRuns
/-!
What stands behind a list that was fetched without a warning. Every step from the connector to the
payload warns if it fails, so that a run without warnings has made its one request, and has read a
finite JSON document in a reply that succeeded. The options come from the rows in it; but the
payload of a failure is null, and a body that is null itself passes for one that was warned of.
-/

namespace GridRules

namespace Value

/-- A number that is infinite or NaN stands in the value, at some depth. -/
inductive HoldsNonFinite : Value → Prop
  | float {x : Binary64} : x.isFinite = false → HoldsNonFinite (.float x)
  | item {v : Value} {items : List Value} : v ∈ items → HoldsNonFinite v →
      HoldsNonFinite (.list items)
  | entry {e : String × Value} {entries : Entries} : e ∈ entries → HoldsNonFinite e.2 →
      HoldsNonFinite (.object entries)

end Value

namespace Json

theorem allFinite_of_mem_items {items : List Value} (h : itemsFinite items = true) :
    ∀ v ∈ items, allFinite v = true := by
  induction items with
  | nil => nofun
  | cons v rest ih =>
    rw [itemsFinite, Bool.and_eq_true] at h
    exact List.forall_mem_cons.mpr ⟨h.1, ih h.2⟩

theorem allFinite_of_mem_entries {entries : Entries} (h : entriesFinite entries = true) :
    ∀ e ∈ entries, allFinite e.2 = true := by
  induction entries with
  | nil => nofun
  | cons e rest ih =>
    rw [entriesFinite, Bool.and_eq_true] at h
    exact List.forall_mem_cons.mpr ⟨h.1, ih h.2⟩

/-- The test for finite numbers reaches every depth. -/
theorem not_holdsNonFinite {v : Value} (h : allFinite v = true) : ¬ v.HoldsNonFinite := by
  intro holds
  induction holds with
  | float hx => cases h.symm.trans hx
  | item hm _ ih => exact ih (allFinite_of_mem_items h _ hm)
  | entry hm _ ih => exact ih (allFinite_of_mem_entries h _ hm)

/-- What is read with finite numbers is read, and has none but finite ones. -/
theorem readFinite_eq_ok {text : String} {v : Value} (h : readFinite text = .ok v) :
    read text = .ok v ∧ ¬ v.HoldsNonFinite := by
  obtain ⟨w, hread, h⟩ := bind_eq_ok_iff.mp h
  split at h
  next hfinite =>
    obtain rfl := Except.ok.inj h
    exact ⟨hread, not_holdsNonFinite hfinite⟩
  next => cases h

end Json

namespace HttpGetSource

/-- The payload is what the path of the source leads to in the body, and is a list; or it is the
whole body if there is no path. -/
def Selects (source : HttpGetSource) (body payload : Value) : Prop :=
  match source.responsePath with
  | none | some "" => payload = body
  | some path => body.lookupD path = .ok payload ∧ ∃ items, payload = .list items

/-- All that went well with a request whose payload came without a warning. -/
structure Fetched (source : HttpGetSource) (settings : HttpSettings)
    (collaborators : Collaborators) (request : HttpRequest) (reply : HttpReply)
    (body payload : Value) : Prop where
  answered : collaborators.fetch request = .reply reply
  success : 200 ≤ reply.status ∧ reply.status ≤ 299
  small : reply.body.length ≤ settings.maxResponseBytes.1
  parsed : ∃ text, collaborators.textOf? reply = some text ∧ Json.read text = .ok body
  finite : ¬ body.HoldsNonFinite
  selected : source.Selects body payload

section Steps

open Run

variable {source : HttpGetSource} {connector : Connector} {settings : HttpSettings}
  {collaborators : Collaborators}

theorem not_clean_noPayload {w : String} {v : Value} : ¬ (noPayload w).Clean v :=
  not_clean_warn_bind

theorem of_clean_send {host : String} {request : HttpRequest} {found : Option HttpReply}
    (h : (send connector host request collaborators).Clean found) :
    ∃ reply, found = some reply ∧ collaborators.fetch request = .reply reply := by
  obtain ⟨_, -, h⟩ := clean_bind_iff.mp h
  obtain ⟨_, -, h⟩ := clean_bind_iff.mp h
  split at h
  next => cases h.1
  next =>
    obtain ⟨_, -, h⟩ := clean_bind_iff.mp h
    exact absurd h not_clean_warn_bind
  next reply hreply => exact ⟨reply, (clean_pure_iff.mp h).symm, hreply⟩

theorem of_clean_readReply {reply : HttpReply} {found : Option Value}
    (h : (readReply connector settings collaborators reply).Clean found) :
    ∃ body, found = some body ∧ (200 ≤ reply.status ∧ reply.status ≤ 299) ∧
      reply.body.length ≤ settings.maxResponseBytes.1 ∧
      ∃ text, collaborators.textOf? reply = some text ∧ Json.readFinite text = .ok body := by
  unfold readReply at h
  split at h
  next => exact absurd h not_clean_warn_bind
  next success =>
    split at h
    next => exact absurd h not_clean_warn_bind
    next small =>
      split at h
      next => cases h.1
      next text htext =>
        split at h
        next => cases h.1
        next =>
          split at h
          next body hbody =>
            have small : reply.body.length ≤ settings.maxResponseBytes.1 := Nat.le_of_not_lt small
            exact ⟨body, (clean_pure_iff.mp h).symm, by simpa using success, small, text, htext,
              hbody⟩
          next => cases h.1
          next =>
            obtain ⟨_, -, h⟩ := clean_bind_iff.mp h
            exact absurd h not_clean_warn_bind

theorem of_clean_selectPayload {body payload : Value}
    (h : (source.selectPayload body).Clean payload) : source.Selects body payload := by
  unfold selectPayload at h
  split at h
  next hpath =>
    rw [Selects, hpath]
    exact (clean_pure_iff.mp h).symm
  next hpath =>
    rw [Selects, hpath]
    exact (clean_pure_iff.mp h).symm
  next path hne hpath =>
    obtain ⟨found, hfound, h⟩ := clean_bind_iff.mp h
    have hlookup := clean_ofExcept_iff.mp hfound
    split at h
    next items =>
      obtain rfl := clean_pure_iff.mp h
      unfold Selects
      split
      next hnone => cases hnone.symm.trans hpath
      next hempty => exact absurd (Option.some.inj (hempty.symm.trans hpath)).symm hne
      next hsome =>
        obtain rfl := Option.some.inj (hsome.symm.trans hpath)
        exact ⟨hlookup, items, rfl⟩
    next => exact absurd h not_clean_noPayload

/-- A payload without a warning was fetched by one request. -/
theorem of_clean_fetchAt {url : Url} {host : String} {inputs : Inputs} {payload : Value}
    (h : (source.fetchAt connector url host inputs settings collaborators).Clean payload) :
    ∃ request reply body,
      (source.fetchAt connector url host inputs settings collaborators).calls =
        secretCalls connector collaborators ++ [.fetch request] ∧
      source.Fetched settings collaborators request reply body payload := by
  obtain ⟨headers, hheaders, h⟩ := clean_bind_iff.mp h
  obtain ⟨authorized, hauthorized, h⟩ := clean_bind_iff.mp h
  obtain ⟨found, hsend, h⟩ := clean_bind_iff.mp h
  obtain ⟨reply, rfl, answered⟩ := of_clean_send hsend
  obtain ⟨found, hread, h⟩ := clean_bind_iff.mp h
  obtain ⟨body, rfl, success, small, text, htext, hbody⟩ := of_clean_readReply hread
  obtain ⟨parsed, finite⟩ := Json.readFinite_eq_ok hbody
  have hcalls := fetchAt_calls connector collaborators source url host inputs settings
    (clean_ofExcept_iff.mp hheaders) hauthorized.1
  exact ⟨_, reply, body, hcalls,
    answered, success, small, ⟨text, htext, parsed⟩, finite, of_clean_selectPayload h⟩

theorem of_clean_fetchJson {connectors : Assoc Connector} {inputs : Inputs} {payload : Value}
    (h : (source.fetchJson connectors inputs settings collaborators).Clean payload) :
    ∃ connector url host request reply body,
      source.Admitted connectors inputs connector url host ∧
      (source.fetchJson connectors inputs settings collaborators).calls =
        secretCalls connector collaborators ++ [.fetch request] ∧
      source.Fetched settings collaborators request reply body payload := by
  by_cases hadmitted : ∃ connector url host, source.Admitted connectors inputs connector url host
  · obtain ⟨connector, url, host, admitted⟩ := hadmitted
    rw [admitted.fetchJson_eq] at h ⊢
    obtain ⟨request, reply, body, hcalls, fetched⟩ := of_clean_fetchAt h
    exact ⟨connector, url, host, request, reply, body, admitted, hcalls, fetched⟩
  · obtain ⟨warning, events, hrefused⟩ :=
      fetchJson_of_not_admitted settings collaborators hadmitted
    rw [hrefused] at h
    cases h.2

end Steps

end HttpGetSource

namespace Execution

open Run

variable {execution : Execution}

/-- Rows that were fetched without a warning are those of a list, or none that null has. -/
theorem of_clean_fetchRows {source : HttpGetSource} {rows : List Entries}
    (h : (execution.fetchRows source).Clean rows) :
    ∃ payload, (execution.fetch source).Clean payload ∧ rows = normalizeRows payload ∧
      ((∃ items, payload = .list items) ∨ payload = .null) := by
  obtain ⟨payload, hpayload, h⟩ := clean_bind_iff.mp h
  refine ⟨payload, hpayload, ?_⟩
  split at h
  next => exact ⟨(clean_pure_iff.mp h).symm, .inr rfl⟩
  next items => exact ⟨(clean_pure_iff.mp h).symm, .inl ⟨items, rfl⟩⟩
  next => exact absurd h not_clean_warn_bind

theorem fetchRows_calls (source : HttpGetSource) :
    (execution.fetchRows source).calls = (execution.fetch source).calls := by
  refine calls_bind_of_silent fun payload => ?_
  cases payload <;> rfl

theorem runFlat_calls (pipeline : Pipeline) :
    (execution.runFlat pipeline).calls = (execution.sourceRows pipeline.source).calls :=
  calls_bind_of_silent fun _ => (Silent.ofExcept _).bind fun _ => .ofExcept _

/-- A flat execution whose request gave no warning has its options from the rows that it fetched. -/
theorem of_clean_runFlat {pipeline : Pipeline} {source : HttpGetSource}
    (hsource : pipeline.source = .httpGet source) {items : List OptionItem}
    (h : (execution.runFlat pipeline).Clean items) :
    ∃ payload rows, (execution.fetch source).Clean payload ∧
      ((∃ items, payload = .list items) ∨ payload = .null) ∧
      Transform.applyAll pipeline.transforms (normalizeRows payload) execution.inputs = .ok rows ∧
      pipeline.output.options rows execution.inputs = .ok items := by
  obtain ⟨fetched, hfetched, h⟩ := clean_bind_iff.mp h
  rw [hsource] at hfetched
  obtain ⟨payload, hpayload, rfl, hshape⟩ := of_clean_fetchRows hfetched
  obtain ⟨rows, hrows, h⟩ := clean_bind_iff.mp h
  exact ⟨payload, rows, hpayload, hshape, clean_ofExcept_iff.mp hrows, clean_ofExcept_iff.mp h⟩

end Execution

namespace HttpGetSource

/-- A source that names no path takes the whole body for its payload. -/
def WantsBody (source : HttpGetSource) : Prop :=
  source.responsePath = none ∨ source.responsePath = some ""

theorem filter_secretCalls (connector : Connector) (collaborators : Collaborators) :
    (secretCalls connector collaborators).filter Call.isFetch = [] := by
  apply List.eq_nil_of_length_eq_zero
  rw [← List.countP_eq_length_filter]
  exact (countP_secretCalls connector collaborators).1

variable {source : HttpGetSource} {body : Value}

/-- Null is selected only where it is the whole body. -/
theorem Selects.of_null (h : source.Selects body .null) : source.WantsBody ∧ body = .null := by
  unfold Selects at h
  split at h
  next hpath => exact ⟨.inl hpath, h.symm⟩
  next hpath => exact ⟨.inr hpath, h.symm⟩
  next =>
    obtain ⟨_, _, hlist⟩ := h
    cases hlist

end HttpGetSource

namespace FunctionDefinition

/-- A flat function that is not disabled runs its pipeline where requests are allowed. -/
theorem executeWith_of_flat {definition : FunctionDefinition} {execution : Execution}
    {pipeline : Pipeline} (compiled : Except (List CompileIssue) GraphPlan)
    (enabled : definition.enabled = true) (hbody : definition.body = .flat pipeline)
    (online : execution.executor.allowHttp = true) :
    definition.executeWith execution compiled =
      execution.finish definition.id (execution.runFlat pipeline) := by
  simp [executeWith, enabled, hbody, Execution.executePipeline, online]

/-- A flat execution that ends without a warning has made one request, and its reply had all that
it takes: it succeeded within the limit, its body was read with finite numbers, and the payload is
the list that the options come from; or the body is null where it is all that is wanted. -/
theorem execute_fetched (definition : FunctionDefinition) (execution : Execution)
    (pipeline : Pipeline) (source : HttpGetSource) (run : Run ExecutionResult)
    (executed : ExecutionResult) (hbody : definition.body = .flat pipeline)
    (hsource : pipeline.source = .httpGet source) (online : execution.executor.allowHttp = true)
    (hrun : run = definition.execute execution ∨
      ∃ plans, run = (definition.executeCached execution plans).1)
    (hresult : run.result = .ok executed) (quiet : executed.warnings = []) :
    ∃ request reply body payload rows items,
      run.calls.filter Call.isFetch = [.fetch request] ∧
      source.Fetched execution.executor.settings.http execution.executor.collaborators request
        reply body payload ∧
      ((∃ items, payload = .list items) ∨ body = .null ∧ source.WantsBody) ∧
      Transform.applyAll pipeline.transforms (normalizeRows payload) execution.inputs = .ok rows ∧
      pipeline.output.options rows execution.inputs = .ok items ∧
      executed.options = items.take execution.executor.settings.options.maxItems.1 := by
  obtain ⟨compiled, rfl⟩ : ∃ compiled, run = definition.executeWith execution compiled := by
    rcases hrun with rfl | ⟨plans, rfl⟩
    · exact ⟨_, rfl⟩
    · exact ⟨_, executeCached_fst definition execution plans⟩
  cases enabled : definition.enabled with
  | false =>
    simp only [executeWith, enabled, Bool.not_false, ↓reduceIte] at hresult
    obtain rfl := Except.ok.inj hresult
    cases quiet
  | true =>
    rw [executeWith_of_flat compiled enabled hbody online] at hresult ⊢
    obtain ⟨items, hitems, rfl⟩ := Execution.finish_eq_ok hresult
    obtain ⟨payload, rows, hpayload, hshape, hrows, hoptions⟩ :=
      Execution.of_clean_runFlat hsource ⟨hitems, quiet⟩
    obtain ⟨connector, _, _, request, reply, body, -, hcalls, fetched⟩ :=
      HttpGetSource.of_clean_fetchJson hpayload
    refine ⟨request, reply, body, payload, rows, items, ?_, fetched, ?_, hrows, hoptions, rfl⟩
    · have hnone := HttpGetSource.filter_secretCalls connector execution.executor.collaborators
      have hsame : (execution.finish definition.id (execution.runFlat pipeline)).calls =
          (execution.fetch source).calls := by
        rw [Execution.finish_calls, Execution.runFlat_calls, hsource]
        exact Execution.fetchRows_calls source
      rw [hsame, show (execution.fetch source).calls = _ from hcalls, List.filter_append, hnone]
      rfl
    · rcases hshape with hlist | rfl
      · exact .inl hlist
      · obtain ⟨hwants, hnull⟩ := fetched.selected.of_null
        exact .inr ⟨hnull, hwants⟩

def wardsSource : HttpGetSource :=
  ⟨"registry", "/wards", [], [], none⟩

/-- The wards that a registry lists. -/
def listedWards : FunctionDefinition :=
  ⟨"wards", "Wards", none, ⟨1, Nat.one_pos⟩, none, true, .flat ⟨false, .httpGet wardsSource, [],
    ⟨.path "name", .path "code", none, none⟩⟩⟩

/-- The registry is open to all and answers with a text. -/
def askOpen (text : String) : Execution where
  executor := ⟨.default, true,
    [("registry", ⟨"registry", none, "https://registry.example", .none, [], none⟩)],
    { fetch := fun _ => .reply ⟨200, none, text.toUTF8.toList⟩, secret := none, ai := none
      remote := none }⟩
  context := askRegistry.context
  args := []

/-- A list of one ward. -/
def northWard : String :=
  "[\x7b\"name\": \"North\", \"code\": 1\x7d]"

theorem execute_fetched_wards :
    let execution := askOpen northWard
    let run := listedWards.execute execution
    run.result = .ok ⟨[.plain "North" (.int 1) "1"], false, []⟩ ∧
      ∃ request reply body payload, run.calls.filter Call.isFetch = [.fetch request] ∧
        wardsSource.Fetched .default execution.executor.collaborators request reply body payload ∧
        ∃ items, payload = .list items := by
  intro execution run
  have hresult : run.result = .ok ⟨[.plain "North" (.int 1) "1"], false, []⟩ := by
    decide +kernel
  obtain ⟨request, reply, body, payload, rows, items, hcalls, fetched, hshape, hrows, hoptions,
    -⟩ := listedWards.execute_fetched execution _ wardsSource run _ rfl rfl rfl (.inl rfl) hresult
      rfl
  refine ⟨hresult, request, reply, body, payload, hcalls, fetched, hshape.resolve_right ?_⟩
  rintro ⟨rfl, -⟩
  have hread : Json.read (Charset.decode .utf8 northWard.toUTF8.toList) =
      .ok (.list [.object [("name", .str "North"), ("code", .int 1)]]) := by
    decide +kernel
  obtain rfl := FetchAnswer.reply.inj fetched.answered
  obtain ⟨text, htext, hparsed⟩ := fetched.parsed
  obtain rfl : Charset.decode .utf8 northWard.toUTF8.toList = text := Option.some.inj htext
  cases hread.symm.trans hparsed

/-- A body that is null gives no warning, and no list either. -/
theorem execute_null :
    let execution := askOpen "null"
    let run := listedWards.execute execution
    run.result = .ok ⟨[], false, []⟩ ∧
      ¬ ∃ request reply body items, wardsSource.Fetched .default
        execution.executor.collaborators request reply body (.list items) := by
  intro execution run
  refine ⟨by decide +kernel, ?_⟩
  rintro ⟨request, reply, body, items, fetched⟩
  have hread : Json.read (Charset.decode .utf8 "null".toUTF8.toList) = .ok .null := by
    decide +kernel
  obtain rfl := FetchAnswer.reply.inj fetched.answered
  obtain ⟨text, htext, hparsed⟩ := fetched.parsed
  obtain rfl : Charset.decode .utf8 "null".toUTF8.toList = text := Option.some.inj htext
  obtain rfl := Except.ok.inj (hread.symm.trans hparsed)
  cases fetched.selected

end FunctionDefinition

end GridRules
