import GridRules.Json.Read
import GridRules.Options.Definition
import GridRules.Options.Run
import GridRules.Options.Template
import GridRules.Settings.Basic
import GridRules.Text.Charset
import GridRules.Url.Basic
import GridRules.Url.Join
/-!
Requests through a connector. The URL is that of the source relative to the base of the connector,
and its host has to be allowed; credentials come from a secret. Whatever goes wrong becomes a
warning and leaves null as the payload.
-/

namespace GridRules

/-- The text in the body of a reply. -/
def Collaborators.textOf? (collaborators : Collaborators) (reply : HttpReply) : Option String :=
  Charset.read? collaborators.codec reply.contentType reply.body

namespace HttpGetSource

def logSource : String := "trackerflow.options.http"

/-- Sets the parameters of the query one by one. None of what goes wrong on the way leaves a URL. -/
def withQuery (url : Url) (inputs : Inputs) : Assoc String → Option Url
  | [] => some url
  | (name, template) :: rest =>
    match interpolate template inputs with
    | .ok value => (url.setParam? name value).bind fun url => withQuery url inputs rest
    | .error _ => none

/-- The URL of a request. -/
def requestUrl? (source : HttpGetSource) (connector : Connector) (inputs : Inputs) :
    Option Url := do
  let joined ← Url.join connector.baseUrl.toList source.path.toList
  let url ← Url.parse? joined
  withQuery url inputs source.query

/-- Whether a connector may reach a host. Without a list of hosts it may reach all. -/
def allows (connector : Connector) (host : String) : Bool :=
  match connector.allowHosts with
  | none | some [] => true
  | some hosts => hosts.contains host

/-- The headers of a connector, and over them those of the source. -/
def requestHeaders (source : HttpGetSource) (connector : Connector) (inputs : Inputs) :
    Except Fault (Assoc String) := do
  let own ← source.headers.mapM fun header =>
    (interpolate header.2 inputs).map fun value => (header.1, value)
  return connector.defaultHeaders.putAll own

/-- The value of a secret, if it is there and not empty. -/
def resolveSecret (connector : Connector) (refId : String) (collaborators : Collaborators) :
    Run (Option String) := do
  match collaborators.secret with
  | none => return none
  | some resolve =>
    Run.call (.secret refId)
    match resolve refId with
    | .value (.str s) => return if s = "" then none else some s
    | .value _ => return none
    | .failed kind =>
      Run.log .warning logSource "secret_resolution_failed"
        [("connector_id", .str connector.id), ("error_type", .str kind)]
      return none

/-- Adds the authorization that a connector asks for, unless there is one. -/
def authorize (connector : Connector) (collaborators : Collaborators) (headers : Assoc String) :
    Run (Assoc String) := do
  match connector.auth with
  | .none => return headers
  | .secret refId =>
    match ← resolveSecret connector refId collaborators with
    | none =>
      Run.warn ("Secret \"" ++ refId ++
        "\" could not be resolved; request sent without Authorization")
      return headers
    | some secret =>
      return if hasHeader headers "authorization" then headers
        else headers.put "Authorization" ("Bearer " ++ secret)

/-- Makes a request; there is no reply if it fails. -/
def send (connector : Connector) (host : String) (request : HttpRequest)
    (collaborators : Collaborators) : Run (Option HttpReply) := do
  Run.log .debug logSource "http_get_request" [
    ("connector_id", .str connector.id), ("url", .str request.url),
    ("headers", .object ((redactHeaders request.headers).map fun h => (h.1, .str h.2)))]
  Run.call (.fetch request)
  match collaborators.fetch request with
  | .cancelled => Run.interrupt .cancelled
  | .failed kind =>
    Run.log .warning logSource "http_get_failed" [
      ("connector_id", .str connector.id), ("host", .str host), ("error_type", .str kind)]
    Run.warn ("HTTP request failed: " ++ kind)
    return none
  | .reply reply => return some reply

/-- A warning, and no payload. -/
def noPayload (warning : String) : Run Value := do
  Run.warn warning
  return .null

/-- The payload that a reply has in its body. -/
def readReply (connector : Connector) (settings : HttpSettings) (collaborators : Collaborators)
    (reply : HttpReply) : Run (Option Value) := do
  if !(200 ≤ reply.status && reply.status ≤ 299) then
    Run.warn ("HTTP source failed with status " ++ toString reply.status)
    return none
  if settings.maxResponseBytes.1 < reply.body.length then
    Run.warn "HTTP response exceeded max size"
    return none
  match collaborators.textOf? reply with
  | none => Run.interrupt (.fault .undecodable)
  | some text =>
    if !collaborators.roomFor text then Run.interrupt (.fault .nestedTooDeep)
    else
      match Json.readFinite text with
      | .ok payload => return some payload
      | .error .integerTooLong => Run.interrupt (.fault .unreadableInteger)
      | .error e =>
        Run.log .debug logSource "http_get_invalid_json"
          [("connector_id", .str connector.id), ("error", .str (e.message text))]
        Run.warn "HTTP response is not valid JSON"
        return none

/-- The list that the source asks for in a payload. -/
def selectPayload (source : HttpGetSource) (payload : Value) : Run Value := do
  match source.responsePath with
  | none | some "" => return payload
  | some path =>
    match ← Run.ofExcept (payload.lookupD path) with
    | .list items => return .list items
    | _ => noPayload ("HTTP response path \"" ++ path ++ "\" did not resolve to a list")

/-- Makes the request of a source at a URL. -/
def fetchAt (source : HttpGetSource) (connector : Connector) (url : Url) (host : String)
    (inputs : Inputs) (settings : HttpSettings) (collaborators : Collaborators) : Run Value := do
  let headers ← Run.ofExcept (source.requestHeaders connector inputs)
  let headers ← authorize connector collaborators headers
  match ← send connector host ⟨url.text, headers, settings.timeoutSeconds⟩ collaborators with
  | none => return .null
  | some reply =>
    match ← readReply connector settings collaborators reply with
    | none => return .null
    | some payload => source.selectPayload payload

/-- The payload that a source fetches. -/
def fetchJson (source : HttpGetSource) (connectors : Assoc Connector) (inputs : Inputs)
    (settings : HttpSettings) (collaborators : Collaborators) : Run Value := do
  match connectors.get? source.connectorId with
  | none => noPayload ("Connector \"" ++ source.connectorId ++ "\" not found")
  | some connector =>
    let found := (source.requestUrl? connector inputs).bind fun url =>
      url.hostAndPort?.map fun host => (url, host)
    match found with
    | none =>
      Run.log .warning logSource "http_get_invalid_url" [("connector_id", .str connector.id)]
      noPayload ("Connector \"" ++ connector.id ++ "\" produced an invalid URL")
    | some (url, host) =>
      if allows connector host then
        source.fetchAt connector url host inputs settings collaborators
      else
        noPayload ("Host \"" ++ host ++ "\" is not allowlisted for connector \"" ++
          connector.id ++ "\"")

end HttpGetSource

end GridRules
