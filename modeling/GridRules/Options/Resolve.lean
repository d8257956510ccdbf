import GridRules.Cache.Expiring
import GridRules.Options.Execute
import GridRules.Time.Instant
/-!
Resolving a function id to a list of options. Builtin functions are answered from the tracker;
functions of the tracker are executed, or given to a remote resolver where they need the network
that is not allowed here. Lists without warnings are cached for a time, under the function, its
arguments and what can be seen of the context.
-/

namespace GridRules

inductive ResolutionSource where
  | builtin
  | localCustom
  | remote
  | unknown
  deriving DecidableEq

namespace ResolutionSource

def name : ResolutionSource → String
  | .builtin => "builtin"
  | .localCustom => "local_custom"
  | .remote => "remote"
  | .unknown => "unknown"

end ResolutionSource

/-- A list of options, and where it comes from. -/
structure Resolution where
  options : List OptionItem
  source : ResolutionSource
  functionId : String
  fromCache : Bool
  fetchedAt : Instant
  /-- When the list is fetched anew; there is no such time for a list that is not cached. -/
  expiresAt : Option Instant
  warnings : List String
  deriving DecidableEq

namespace Resolution

/-- A list as it is when it has just been fetched. -/
def fetched (options : List OptionItem) (source : ResolutionSource) (functionId : String)
    (fetchedAt : Instant) (warnings : List String) : Resolution :=
  ⟨options, source, functionId, false, fetchedAt, none, warnings⟩

end Resolution

/-- A moment on the clock that caches go by, and in the calendar. -/
structure Moment where
  clock : Number
  date : Instant
  deriving DecidableEq

/-- What is resolved, and for which place. -/
structure ResolveRequest where
  functionId : Option String
  context : OptionsContext
  args : Entries
  /-- A place that counts instead of that of the context. -/
  runtime : Option RuntimeContext
  /-- Whether the list is fetched anew even if it is cached. -/
  forceRefresh : Bool
  ttlOverride : Option Int
  deriving DecidableEq

namespace ResolveRequest

/-- The context with the place that counts. -/
def placedContext (request : ResolveRequest) : OptionsContext :=
  match request.runtime with
  | some runtime => { request.context with runtime := runtime }
  | none => request.context

/-- What a list is cached under. -/
def cacheKey (request : ResolveRequest) (functionId : String) : String :=
  Canonical.signature (.list [
    .str functionId, .object request.args, .str request.placedContext.version])

end ResolveRequest

structure ResolverCaches where
  results : ExpiringCache String Resolution
  plans : PlanCache

namespace ResolverCaches

def ofSettings (settings : CacheSettings) : ResolverCaches where
  results := ⟨.empty settings.resultLimit.1 settings.resultLimit.2,
    .int settings.resultTtlSeconds.1, 0⟩
  plans := .empty settings.graphPlanLimit.1 settings.graphPlanLimit.2

def clear (caches : ResolverCaches) : ResolverCaches :=
  ⟨caches.results.clear, caches.plans.clear⟩

end ResolverCaches

/-- What a function has given. -/
structure FetchedOptions where
  options : List OptionItem
  source : ResolutionSource
  warnings : List String

/-- What resolutions in one place share. -/
structure Resolver where
  settings : Settings
  allowHttp : Bool
  collaborators : Collaborators

namespace Resolver

def logSource : String := "trackerflow.options.resolver"

/-- No more options than this are fetched, whatever the settings say. -/
def maxOptions : Nat := 500

/-- How long a list is cached: as the call says, or the definition, or the settings. -/
def ttlSeconds (resolver : Resolver) (definition : FunctionDefinition)
    (request : ResolveRequest) : Int :=
  let own : Int :=
    match definition.cache.bind CacheSpec.ttlSeconds with
    | some seconds => seconds.1
    | none => resolver.settings.cache.resultTtlSeconds.1
  match request.ttlOverride with
  | none | some 0 => own
  | some seconds => seconds

def execution (resolver : Resolver) (request : ResolveRequest) : Execution where
  executor := ⟨resolver.settings, resolver.allowHttp, [], resolver.collaborators⟩
  context := request.placedContext
  args := request.args

/-- Has a function executed by the remote resolver. -/
def fetchRemote (resolver : Resolver) (functionId : String) (request : ResolveRequest) :
    Run FetchedOptions := do
  match resolver.collaborators.remote with
  | none =>
    Run.log .info logSource "options_remote_unavailable" [("function_id", .str functionId)]
    return ⟨[], .remote, ["Function \"" ++ functionId ++
      "\" requires server execution but no remote resolver is configured"]⟩
  | some resolve =>
    let call : RemoteRequest :=
      ⟨functionId, request.placedContext, request.args, request.forceRefresh,
        request.ttlOverride⟩
    Run.call (.remote call)
    match resolve call with
    | .options items warnings => return ⟨items.take maxOptions, .remote, warnings⟩
    | .failed reason => Run.interrupt (.failed reason)

/-- The options of an execution, or of the remote resolver if that is what it takes. -/
def fetchedOptions (resolver : Resolver) (functionId : String) (request : ResolveRequest)
    (executed : ExecutionResult) : Run FetchedOptions :=
  if executed.requiresRemote then resolver.fetchRemote functionId request
  else pure ⟨executed.options.take maxOptions, .localCustom, executed.warnings⟩

/-- The resolution of fetched options, and the cache with it. Options with warnings are not
cached. -/
def store (results : ExpiringCache String Resolution) (key functionId : String) (ttl : Int)
    (now : Moment) (fetched : FetchedOptions) :
    Run Resolution × ExpiringCache String Resolution :=
  let resolution :=
    Resolution.fetched fetched.options fetched.source functionId now.date fetched.warnings
  if !fetched.warnings.isEmpty then (pure resolution, results)
  else
    match now.date.addSeconds? ttl with
    | none => (Run.interrupt (.fault .tooLarge), results)
    | some expiresAt =>
      let resolution := { resolution with expiresAt := some expiresAt }
      match results.put? now.clock key resolution (some (.int ttl)) with
      | none => (Run.interrupt (.fault .tooLarge), results)
      | some results => (pure resolution, results)

/-- Fetches the options of a definition and caches them. -/
def fetch (resolver : Resolver) (caches : ResolverCaches) (now : Moment) (key functionId : String)
    (definition : FunctionDefinition) (request : ResolveRequest) :
    Run Resolution × ResolverCaches :=
  let (executed, plans) :=
    definition.executeCached (resolver.execution request) caches.plans
  let run := executed.andThen (resolver.fetchedOptions functionId request)
  match run.result with
  | .error e => ({ run with result := .error e }, { caches with plans := plans })
  | .ok fetched =>
    let (stored, results) :=
      store caches.results key functionId (resolver.ttlSeconds definition request) now fetched
    (run.andThen fun _ => stored, ⟨results, plans⟩)

/-- Resolves a function of the tracker. -/
def resolveDefinition (resolver : Resolver) (caches : ResolverCaches) (now : Moment)
    (functionId : String) (definition : FunctionDefinition) (request : ResolveRequest) :
    Run Resolution × ResolverCaches :=
  let key := request.cacheKey functionId
  if request.forceRefresh then resolver.fetch caches now key functionId definition request
  else
    match caches.results.get now.clock key with
    | (some found, results) =>
      let run : Run Resolution := do
        Run.log .debug logSource "options_cache_hit" [("function_id", .str functionId)]
        return { found with fromCache := true }
      (run, { caches with results := results })
    | (none, results) =>
      resolver.fetch { caches with results := results } now key functionId definition request

/-- The resolution of a builtin function. -/
def builtinResolution (builtin : Builtin) (functionId : String) (context : OptionsContext)
    (date : Instant) : Resolution :=
  .fetched (builtin.options context.tracker) .builtin functionId date []

/-- Resolves a function id at a moment. -/
def resolve (resolver : Resolver) (caches : ResolverCaches) (now : Moment)
    (request : ResolveRequest) : Run Resolution × ResolverCaches :=
  let answered (resolution : Resolution) : Run Resolution × ResolverCaches :=
    (pure resolution, caches)
  match request.functionId with
  | none | some "" =>
    answered (.fetched [] .unknown "" now.date ["Missing dynamic options function id"])
  | some functionId =>
    match Builtin.ofName? functionId with
    | some builtin => answered (builtinResolution builtin functionId request.context now.date)
    | none =>
      match request.context.functions.get? functionId with
      | none =>
        answered (.fetched [] .unknown functionId now.date
          ["Dynamic options function \"" ++ functionId ++ "\" was not found"])
      | some definition =>
        resolver.resolveDefinition caches now functionId definition request

/-- Resolves a builtin function at once; other functions have to be waited for. -/
def resolveAtOnce (functionId : String) (context : OptionsContext) (date : Instant) :
    Resolution :=
  match Builtin.ofName? functionId with
  | some builtin => builtinResolution builtin functionId context date
  | none =>
    .fetched [] .unknown functionId date
      ["Function \"" ++ functionId ++ "\" needs async resolution"]

end Resolver

end GridRules
