import GridRules.Options.HttpGet
import GridRules.Proofs.DecodeProblems
import GridRules.Proofs.LocalRuns
import GridRules.Proofs.UrlTexts
/-!
What a source asks of others. There is one request at most, and a secret is asked for at most once
and before it; both only after the host of the URL was found among the allowed ones. The text that
is sent is read as a URL with this very host if the URL is settled.
-/

namespace GridRules

namespace Call

def isFetch : Call → Bool
  | .fetch _ => true
  | _ => false

def isSecret : Call → Bool
  | .secret _ => true
  | _ => false

end Call

namespace Connector

/-- No allowed host is the empty text. (Without a host, a path with two slashes in front would be
read as one.) -/
def NamesHosts (connector : Connector) : Prop :=
  ∀ hosts ∈ connector.allowHosts, "" ∉ hosts

/-- A connector that was read names the hosts that it allows. -/
theorem namesHosts_of_decode {v : Value} {connector : Connector} (h : decode v = .ok connector) :
    connector.NamesHosts := by
  obtain ⟨es, hes⟩ := Decode.exists_of_closed h
  have hread := Decoded.gives_eq_iff.mpr hes
  simp only [Decoded.gives_seq, Decoded.gives_fmap] at hread
  obtain ⟨_, -, _, -, _, -, _, -, _, -, _, -, allowed, hallowed, rfl⟩ := hread
  intro hosts hhosts hempty
  obtain rfl : allowed = some hosts := hhosts
  obtain ⟨listed, hlisted⟩ := Decode.of_optional_eq_some hallowed
  obtain ⟨host, hhost⟩ := Decode.of_mem_list hlisted "" hempty
  exact Decode.ne_empty_of_nonEmpty hhost rfl

end Connector

namespace HttpGetSource

section Calls

variable (connector : Connector) (collaborators : Collaborators)

/-- What is asked to authorize a request: the one secret that is named, if one is and somebody
resolves it. -/
def secretCalls : List Call :=
  match connector.auth with
  | .none => []
  | .secret refId => if collaborators.secret.isSome then [.secret refId] else []

theorem mem_secretCalls {call : Call} (h : call ∈ secretCalls connector collaborators) :
    ∃ refId, connector.auth = .secret refId ∧ call = .secret refId := by
  unfold secretCalls at h
  split at h
  next => cases h
  next refId hauth =>
    split at h
    · exact ⟨refId, hauth, List.mem_singleton.mp h⟩
    · cases h

theorem countP_secretCalls :
    (secretCalls connector collaborators).countP Call.isFetch = 0 ∧
      (secretCalls connector collaborators).countP Call.isSecret ≤ 1 := by
  unfold secretCalls
  split
  · exact ⟨rfl, Nat.zero_le 1⟩
  · split
    · exact ⟨rfl, Nat.le_refl 1⟩
    · exact ⟨rfl, Nat.zero_le 1⟩

theorem resolveSecret_result (refId : String) :
    ∃ found, (resolveSecret connector refId collaborators).result = .ok found := by
  unfold resolveSecret
  cases collaborators.secret with
  | none => exact ⟨none, rfl⟩
  | some resolve =>
    dsimp only
    rw [Run.result_bind]
    cases resolve refId with
    | failed kind => exact ⟨none, rfl⟩
    | value v => cases v <;> exact ⟨_, rfl⟩

theorem resolveSecret_calls (refId : String) :
    (resolveSecret connector refId collaborators).calls =
      if collaborators.secret.isSome then [.secret refId] else [] := by
  unfold resolveSecret
  cases collaborators.secret with
  | none => rfl
  | some resolve =>
    refine Run.calls_call_bind _ fun _ => ?_
    cases resolve refId with
    | failed kind => rfl
    | value v => cases v <;> rfl

theorem authorize_result (headers : Assoc String) :
    ∃ authorized, (authorize connector collaborators headers).result = .ok authorized := by
  unfold authorize
  cases connector.auth with
  | none => exact ⟨headers, rfl⟩
  | secret refId =>
    obtain ⟨found, hfound⟩ := resolveSecret_result connector collaborators refId
    dsimp only
    rw [Run.result_bind, hfound]
    cases found <;> exact ⟨_, rfl⟩

theorem authorize_calls (headers : Assoc String) :
    (authorize connector collaborators headers).calls = secretCalls connector collaborators := by
  unfold authorize secretCalls
  cases connector.auth with
  | none => rfl
  | secret refId =>
    dsimp only
    rw [Run.calls_bind_of_silent, resolveSecret_calls]
    intro found
    cases found with
    | none => rfl
    | some secret => exact .pure _

theorem silent_readReply (settings : HttpSettings) (reply : HttpReply) :
    (readReply connector settings collaborators reply).Silent := by
  unfold readReply
  split
  · rfl
  · split
    · rfl
    · split
      · rfl
      · split
        · rfl
        · split <;> rfl

theorem silent_selectPayload (source : HttpGetSource) (payload : Value) :
    (source.selectPayload payload).Silent := by
  unfold selectPayload
  split
  · rfl
  · rfl
  · refine (Run.Silent.ofExcept _).bind fun found => ?_
    split <;> rfl

theorem send_calls (host : String) (request : HttpRequest) :
    (send connector host request collaborators).calls = [.fetch request] := by
  change (Run.call (.fetch request) >>= fun _ => _).calls = _
  refine Run.calls_call_bind _ fun _ => ?_
  split <;> rfl

/-- A secret is asked for, and then the request is made. -/
theorem fetchAt_calls (source : HttpGetSource) (url : Url) (host : String) (inputs : Inputs)
    (settings : HttpSettings) {headers authorized : Assoc String}
    (hheaders : source.requestHeaders connector inputs = .ok headers)
    (hauthorized : (authorize connector collaborators headers).result = .ok authorized) :
    (source.fetchAt connector url host inputs settings collaborators).calls =
      secretCalls connector collaborators ++
        [.fetch ⟨url.text, authorized, settings.timeoutSeconds⟩] := by
  unfold fetchAt
  rw [hheaders]
  change (authorize connector collaborators headers >>= fun _ => _).calls = _
  rw [Run.calls_bind, authorize_calls, hauthorized]
  dsimp only
  rw [Run.calls_bind_of_silent, send_calls]
  intro reply
  cases reply with
  | none => rfl
  | some reply =>
    refine (silent_readReply connector collaborators settings reply).bind fun payload => ?_
    cases payload with
    | none => rfl
    | some payload => exact silent_selectPayload source payload

end Calls

/-- A URL that a source asks for has a host that its connector allows. -/
structure Admitted (source : HttpGetSource) (connectors : Assoc Connector) (inputs : Inputs)
    (connector : Connector) (url : Url) (host : String) : Prop where
  found : connectors.get? source.connectorId = some connector
  asked : source.requestUrl? connector inputs = some url
  shown : url.hostAndPort? = some host
  allowed : ∀ hosts ∈ connector.allowHosts, hosts ≠ [] → host ∈ hosts

theorem allows_iff {connector : Connector} {host : String} :
    allows connector host = true ↔ ∀ hosts ∈ connector.allowHosts, hosts ≠ [] → host ∈ hosts := by
  unfold allows
  cases connector.allowHosts with
  | none => simp
  | some hosts => cases hosts <;> simp

section Requests

variable {source : HttpGetSource} {connectors : Assoc Connector} {inputs : Inputs}

theorem Admitted.fetchJson_eq {connector : Connector} {url : Url} {host : String}
    (admitted : source.Admitted connectors inputs connector url host) (settings : HttpSettings)
    (collaborators : Collaborators) :
    source.fetchJson connectors inputs settings collaborators =
      source.fetchAt connector url host inputs settings collaborators := by
  have hallows := allows_iff.mpr admitted.allowed
  unfold fetchJson
  rw [admitted.found]
  simp only [admitted.asked, admitted.shown, Option.bind_some, Option.map_some, hallows, ↓reduceIte]

/-- An admitted request is made if its headers can be written, after its secret was asked for. -/
theorem Admitted.calls {connector : Connector} {url : Url} {host : String}
    (admitted : source.Admitted connectors inputs connector url host) {headers : Assoc String}
    (hheaders : source.requestHeaders connector inputs = .ok headers) (settings : HttpSettings)
    (collaborators : Collaborators) :
    ∃ request : HttpRequest, request.url = url.text ∧
      (source.fetchJson connectors inputs settings collaborators).calls =
        secretCalls connector collaborators ++ [.fetch request] := by
  obtain ⟨authorized, hauthorized⟩ := authorize_result connector collaborators headers
  rw [admitted.fetchJson_eq, fetchAt_calls connector collaborators source url host inputs settings
    hheaders hauthorized]
  exact ⟨_, rfl, rfl⟩

/-- A source whose URL is not admitted is refused with a warning, and nobody is asked. -/
theorem fetchJson_of_not_admitted (settings : HttpSettings) (collaborators : Collaborators)
    (h : ¬ ∃ connector url host, source.Admitted connectors inputs connector url host) :
    ∃ warning events, source.fetchJson connectors inputs settings collaborators =
      ⟨.ok .null, [warning], [], events⟩ := by
  unfold fetchJson
  split
  next => exact ⟨_, _, rfl⟩
  next connector hconnector =>
    dsimp only
    split
    next => exact ⟨_, _, rfl⟩
    next url host hfound =>
      obtain ⟨asked, hurl, hshown⟩ := Option.bind_eq_some_iff.mp hfound
      obtain ⟨shown, hhost, hpair⟩ := Option.map_eq_some_iff.mp hshown
      obtain ⟨rfl, rfl⟩ := Prod.mk.inj hpair
      split
      next hallows =>
        exact absurd ⟨connector, asked, shown, hconnector, hurl, hhost, allows_iff.mp hallows⟩ h
      next => exact ⟨_, _, rfl⟩

/-- Nobody is asked unless the host is admitted and the headers can be written. -/
theorem calls_eq_nil (settings : HttpSettings) (collaborators : Collaborators)
    (h : ¬ ∃ connector url host headers, source.Admitted connectors inputs connector url host ∧
      source.requestHeaders connector inputs = .ok headers) :
    (source.fetchJson connectors inputs settings collaborators).calls = [] := by
  by_cases hadmitted : ∃ connector url host,
    source.Admitted connectors inputs connector url host
  · obtain ⟨connector, url, host, admitted⟩ := hadmitted
    rw [admitted.fetchJson_eq]
    unfold fetchAt
    cases hheaders : source.requestHeaders connector inputs with
    | error fault => rfl
    | ok headers => exact absurd ⟨connector, url, host, headers, admitted, hheaders⟩ h
  · obtain ⟨warning, events, hrefused⟩ := fetchJson_of_not_admitted settings collaborators hadmitted
    rw [hrefused]

/-- A query that is set keeps a URL in form, and settles it. -/
theorem formed_of_withQuery {query : Assoc String} {url asked : Url} (formed : url.Formed)
    (h : withQuery url inputs query = some asked) :
    asked.Formed ∧ (query ≠ [] → asked.Settled) := by
  induction query generalizing url with
  | nil =>
    cases h
    exact ⟨formed, fun hne => absurd rfl hne⟩
  | cons parameter rest ih =>
    obtain ⟨name, template⟩ := parameter
    rw [withQuery] at h
    split at h
    next value _ =>
      obtain ⟨changed, hset, hrest⟩ := Option.bind_eq_some_iff.mp h
      obtain ⟨hformed, hsettled⟩ := formed.setParam? hset
      refine ⟨(ih hformed hrest).1, fun _ => ?_⟩
      cases rest with
      | nil =>
        cases hrest
        exact hsettled
      | cons next others => exact (ih hformed hrest).2 (List.cons_ne_nil _ _)
    next => cases h

theorem formed_of_requestUrl? {connector : Connector} {url : Url}
    (h : source.requestUrl? connector inputs = some url) :
    url.Formed ∧ (source.query ≠ [] → url.Settled) := by
  obtain ⟨joined, _, h⟩ := Option.bind_eq_some_iff.mp h
  obtain ⟨parsed, hparsed, h⟩ := Option.bind_eq_some_iff.mp h
  exact formed_of_withQuery (Url.formed_of_parse? hparsed) h

/-- The text of an admitted URL is read as a URL with an allowed host. -/
theorem Admitted.read_text {connector : Connector} {url : Url} {host : String}
    (admitted : source.Admitted connectors inputs connector url host)
    (names : connector.NamesHosts) {hosts : List String} (hhosts : hosts ∈ connector.allowHosts)
    (hne : hosts ≠ []) (hsettled : source.query ≠ [] ∨ url.Settled)
    (hlength : url.text.length ≤ Url.maxLength) :
    ∃ again, Url.parse? url.text.toList = some again ∧
      ∃ allowed ∈ hosts, again.hostAndPort? = some allowed := by
  obtain ⟨formed, hquery⟩ := formed_of_requestUrl? admitted.asked
  have hallowed := admitted.allowed hosts hhosts hne
  -- without an authority the host would be the empty text, which is not allowed
  have hauthority : url.authority ≠ [] := by
    intro hnil
    obtain ⟨-, hhost, hport⟩ := (Url.authority_eq_nil_iff url).mp hnil
    have hshown := admitted.shown
    rw [Url.hostAndPort?, hhost, hport] at hshown
    obtain rfl : "" = host := Option.some.inj hshown
    exact names hosts hhosts hallowed
  obtain ⟨again, hagain, hsame⟩ :=
    formed.read_text (hsettled.elim hquery id) hauthority hlength
  exact ⟨again, hagain, host, hallowed, hsame.trans admitted.shown⟩

variable (source connectors inputs) in
/-- What a source asks of others: one request and before it one secret, and neither unless its URL
has an allowed host. -/
theorem asks_within_allowed_hosts (settings : HttpSettings) (collaborators : Collaborators)
    (names : ∀ connector ∈ connectors.get? source.connectorId, connector.NamesHosts) :
    let calls := (source.fetchJson connectors inputs settings collaborators).calls
    calls.countP Call.isFetch ≤ 1 ∧ calls.countP Call.isSecret ≤ 1 ∧
      (calls.countP Call.isFetch = 1 ↔ ∃ connector url host headers,
        source.Admitted connectors inputs connector url host ∧
          source.requestHeaders connector inputs = .ok headers) ∧
      ∀ call ∈ calls, ∃ connector url host, source.Admitted connectors inputs connector url host ∧
        match call with
        | .secret refId => connector.auth = .secret refId
        | .fetch request => request.url = url.text ∧
            ∀ hosts ∈ connector.allowHosts, hosts ≠ [] → source.query ≠ [] ∨ url.Settled →
              request.url.length ≤ Url.maxLength →
              ∃ again, Url.parse? request.url.toList = some again ∧
                ∃ allowed ∈ hosts, again.hostAndPort? = some allowed
        | _ => False := by
  intro calls
  by_cases h : ∃ connector url host headers,
    source.Admitted connectors inputs connector url host ∧
      source.requestHeaders connector inputs = .ok headers
  · obtain ⟨connector, url, host, headers, admitted, hheaders⟩ := h
    obtain ⟨request, hurl, hcalls⟩ := admitted.calls hheaders settings collaborators
    obtain ⟨hfetches, hsecrets⟩ := countP_secretCalls connector collaborators
    have hone : calls.countP Call.isFetch = 1 := by
      rw [show calls = _ from hcalls, List.countP_append, hfetches]
      rfl
    refine ⟨hone.le, ?_, iff_of_true hone ⟨connector, url, host, headers, admitted, hheaders⟩,
      fun call hcall => ⟨connector, url, host, admitted, ?_⟩⟩
    · rw [show calls = _ from hcalls, List.countP_append]
      exact hsecrets
    · rw [show calls = _ from hcalls] at hcall
      obtain hsecret | hfetch := List.mem_append.mp hcall
      · obtain ⟨refId, hauth, rfl⟩ := mem_secretCalls connector collaborators hsecret
        exact hauth
      · obtain rfl := List.mem_singleton.mp hfetch
        refine ⟨hurl, fun hosts hhosts hne hsettled hlength => ?_⟩
        rw [hurl] at hlength ⊢
        exact admitted.read_text (names connector admitted.found) hhosts hne hsettled hlength
  · rw [show calls = [] from calls_eq_nil settings collaborators h]
    exact ⟨Nat.zero_le 1, Nat.zero_le 1, iff_of_false (by decide) h, nofun⟩

end Requests

section Stores

/-- A store that lists its items by name, behind a secret. -/
def store : Connector :=
  ⟨"store", none, "https://Shop.example:8443/", .secret "key", [], some ["shop.example:8443"]⟩

def storeItems : HttpGetSource :=
  ⟨"store", "/items", [("name", "\x7b\x7barg.name\x7d\x7d")], [], none⟩

def storeCollaborators : Collaborators where
  fetch _ := .reply ⟨200, none, "[1]".toUTF8.toList⟩
  secret := some fun _ => .value (.str "s3cret")
  ai := none
  remote := none

/-- A name with marks of its own reaches the store as a parameter. -/
theorem asks_within_allowed_hosts_store :
    (∀ connector ∈ Assoc.get? [("store", store)] storeItems.connectorId, connector.NamesHosts) ∧
      ∃ request, (storeItems.fetchJson [("store", store)] ⟨[("name", .str "@x/?")], .object []⟩
          .default storeCollaborators).calls = [.secret "key", .fetch request] ∧
        request.url = "https://shop.example:8443/items?name=%40x%2F%3F" ∧
        ∃ again, Url.parse? request.url.toList = some again ∧
          again.hostAndPort? = some "shop.example:8443" := by
  have names : ∀ connector ∈ Assoc.get? [("store", store)] storeItems.connectorId,
      connector.NamesHosts := by
    rintro _ ⟨⟩ _ ⟨⟩
    decide
  let request : HttpRequest := ⟨"https://shop.example:8443/items?name=%40x%2F%3F",
    [("Authorization", "Bearer s3cret")], HttpSettings.default.timeoutSeconds⟩
  have hcalls : (storeItems.fetchJson [("store", store)] ⟨[("name", .str "@x/?")], .object []⟩
      .default storeCollaborators).calls = [.secret "key", .fetch request] := by
    decide +kernel
  obtain ⟨-, -, -, hasked⟩ := asks_within_allowed_hosts storeItems [("store", store)]
    ⟨[("name", .str "@x/?")], .object []⟩ .default storeCollaborators names
  rw [hcalls] at hasked
  obtain ⟨connector, url, host, admitted, -, hread⟩ := hasked (.fetch request) (by simp)
  obtain rfl : store = connector := Option.some.inj admitted.found
  obtain ⟨again, hagain, allowed, hallowed, hhost⟩ :=
    hread _ rfl (List.cons_ne_nil _ _) (.inl (List.cons_ne_nil _ _)) (by decide)
  obtain rfl := List.mem_singleton.mp hallowed
  exact ⟨names, request, hcalls, rfl, again, hagain, hhost⟩

/-- A scheme in upper case keeps its default port in the host that is looked up, but the text that
is sent is read without it. -/
theorem asks_outside_allowed_hosts :
    let connector : Connector := ⟨"c", none, "http://a", .none, [], some ["good.com:443"]⟩
    let source : HttpGetSource := ⟨"c", "HTTPS://good.com:443/x", [], [], none⟩
    let run := source.fetchJson [("c", connector)] ⟨[], .object []⟩ .default storeCollaborators
    ∃ request again, run.calls = [.fetch request] ∧
      Url.parse? request.url.toList = some again ∧ again.hostAndPort? = some "good.com" ∧
      ¬ ∃ allowed ∈ ["good.com:443"], again.hostAndPort? = some allowed := by
  refine ⟨⟨"https://good.com:443/x", [], HttpSettings.default.timeoutSeconds⟩,
    ⟨"https".toList, [], "good.com".toList, none, "/x".toList, none, none⟩, ?_, ?_, ?_, ?_⟩
  · decide +kernel
  · decide +kernel
  · decide +kernel
  · decide +kernel

end Stores

end HttpGetSource

end GridRules
