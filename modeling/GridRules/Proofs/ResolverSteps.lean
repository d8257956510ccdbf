import GridRules.Options.Resolve
import GridRules.Proofs.CacheEntries
import GridRules.Proofs.Runs

namespace GridRules

/-- A call of a resolver: whoever answers it then, the time and what is asked. -/
structure ResolverCall where
  collaborators : Collaborators
  now : Moment
  request : ResolveRequest

namespace ResolveRequest

/-- The function of the tracker that is asked for; a builtin function is none of them. -/
def own? (request : ResolveRequest) : Option (String × FunctionDefinition) :=
  match request.functionId with
  | none | some "" => none
  | some functionId =>
    match Builtin.ofName? functionId with
    | some _ => none
    | none => (request.context.functions.get? functionId).map (functionId, ·)

/-- The signature of the function, its arguments and the context, for functions of the tracker. -/
def key? (request : ResolveRequest) : Option String :=
  request.own?.map fun own => request.cacheKey own.1

variable {request : ResolveRequest} {functionId : String} {definition : FunctionDefinition}

theorem own?_eq_some (own : request.own? = some (functionId, definition)) :
    request.functionId = some functionId ∧ functionId ≠ "" ∧
      Builtin.ofName? functionId = none ∧
      request.context.functions.get? functionId = some definition := by
  unfold own? at own
  split at own
  next => cases own
  next => cases own
  next hne hid =>
    split at own
    next => cases own
    next hb =>
      obtain ⟨_, hd, he⟩ := Option.map_eq_some_iff.mp own
      obtain ⟨rfl, rfl⟩ := Prod.mk.inj he
      exact ⟨hid, hne, hb, hd⟩

theorem key?_of_own (own : request.own? = some (functionId, definition)) :
    request.key? = some (request.cacheKey functionId) := by
  rw [key?, own, Option.map_some]

theorem key?_eq_none_iff : request.key? = none ↔ request.own? = none :=
  Option.map_eq_none_iff

end ResolveRequest

namespace Resolver

variable (resolver : Resolver)

/-- What becomes of a call. -/
def answer (caches : ResolverCaches) (call : ResolverCall) : Run Resolution × ResolverCaches :=
  { resolver with collaborators := call.collaborators }.resolve caches call.now call.request

/-- Options with warnings are not stored, nor are those whose end is beyond the calendar or the
clock. -/
theorem store_cases (results : ExpiringCache String Resolution) (key functionId : String)
    (ttl : Int) (now : Moment) (fetched : FetchedOptions) :
    ((store results key functionId ttl now fetched).2 = results ∧
      ∀ r, (store results key functionId ttl now fetched).1.result = .ok r →
        r.fromCache = false ∧ r.warnings ≠ []) ∨
    ∃ r, (store results key functionId ttl now fetched).1.result = .ok r ∧
      r.fromCache = false ∧ r.warnings = [] ∧
      results.put? now.clock key r (some (.int ttl)) =
        some (store results key functionId ttl now fetched).2 := by
  unfold store
  dsimp only
  split
  next hwarned =>
    refine .inl ⟨rfl, fun r hr => ?_⟩
    obtain rfl := Except.ok.inj hr
    exact ⟨rfl, by simpa [Resolution.fetched] using hwarned⟩
  next hclean =>
    split
    next => exact .inl ⟨rfl, fun r hr => nomatch hr⟩
    next stop _ =>
      split
      next => exact .inl ⟨rfl, fun r hr => nomatch hr⟩
      next after hput =>
        exact .inr ⟨_, rfl, rfl, by simpa [Resolution.fetched] using hclean, hput⟩

theorem fetch_cases (caches : ResolverCaches) (now : Moment) (key functionId : String)
    (definition : FunctionDefinition) (request : ResolveRequest) :
    ((resolver.fetch caches now key functionId definition request).2.results = caches.results ∧
      ∀ r, (resolver.fetch caches now key functionId definition request).1.result = .ok r →
        r.fromCache = false ∧ r.warnings ≠ []) ∨
    ∃ r, (resolver.fetch caches now key functionId definition request).1.result = .ok r ∧
      r.fromCache = false ∧ r.warnings = [] ∧
      caches.results.put? now.clock key r (some (.int (resolver.ttlSeconds definition request))) =
        some (resolver.fetch caches now key functionId definition request).2.results := by
  unfold fetch
  dsimp only
  split
  next => exact .inl ⟨rfl, fun r hr => nomatch hr⟩
  next fetched hrun =>
    simp only [Run.result_andThen hrun]
    exact store_cases caches.results key functionId (resolver.ttlSeconds definition request) now
      fetched

/-- All that a call can do to the stored lists: it answers a builtin, missing or unknown function
without them, it finds an entry that is alive, it fails or warns, or it stores what it has fetched.
Before it fetches anything it may have dropped a dead entry. -/
inductive Outcome (before : ExpiringCache String Resolution) (call : ResolverCall) :
    Except Interruption Resolution → ExpiringCache String Resolution → Prop
  | answered {r : Resolution} (other : call.request.own? = none) (fresh : r.fromCache = false) :
    Outcome before call (.ok r) before
  | found {key : String} {entry : Expiring Resolution} {after : ExpiringCache String Resolution}
    (hkey : call.request.key? = some key) (unforced : call.request.forceRefresh = false)
    (there : before.peek? key = some entry)
    (alive : entry.expiresAt.le call.now.clock = false)
    (keeps : before.Keeps call.now.clock after) :
    Outcome before call (.ok { entry.value with fromCache := true }) after
  | unstored {result : Except Interruption Resolution} {after : ExpiringCache String Resolution}
    (keeps : before.Keeps call.now.clock after)
    (warned : ∀ r, result = .ok r → r.fromCache = false ∧ r.warnings ≠ []) :
    Outcome before call result after
  | stored {functionId : String} {definition : FunctionDefinition} {r : Resolution}
    {looked after : ExpiringCache String Resolution}
    (own : call.request.own? = some (functionId, definition))
    (keeps : before.Keeps call.now.clock looked) (fresh : r.fromCache = false)
    (clean : r.warnings = [])
    (put : looked.put? call.now.clock (call.request.cacheKey functionId) r
      (some (.int (resolver.ttlSeconds definition call.request))) = some after) :
    Outcome before call (.ok r) after

section Outcome

variable {resolver} {caches : ResolverCaches} {call : ResolverCall} {functionId : String}
  {definition : FunctionDefinition}

theorem outcome_fetch {looked : ResolverCaches}
    (own : call.request.own? = some (functionId, definition))
    (keeps : caches.results.Keeps call.now.clock looked.results) (collaborators : Collaborators) :
    let fetched := { resolver with collaborators := collaborators }.fetch looked call.now
      (call.request.cacheKey functionId) functionId definition call.request
    resolver.Outcome caches.results call fetched.1.result fetched.2.results := by
  rcases fetch_cases { resolver with collaborators := collaborators } looked call.now
    (call.request.cacheKey functionId) functionId definition call.request with
    ⟨hsame, hwarned⟩ | ⟨r, hresult, fresh, clean, hput⟩
  · exact .unstored (hsame.symm ▸ keeps) hwarned
  · simp only [hresult]
    exact .stored own keeps fresh clean hput

theorem outcome_resolveDefinition (own : call.request.own? = some (functionId, definition))
    (collaborators : Collaborators) :
    let resolved := { resolver with collaborators := collaborators }.resolveDefinition caches
      call.now functionId definition call.request
    resolver.Outcome caches.results call resolved.1.result resolved.2.results := by
  have keeps := caches.results.keeps_get call.now.clock (call.request.cacheKey functionId)
  unfold resolveDefinition
  dsimp only
  split
  next => exact outcome_fetch own (.refl _ _) collaborators
  next hforce =>
    split
    next found results hget =>
      obtain ⟨entry, there, rfl, alive⟩ := caches.results.get_eq_some call.now.clock
        (call.request.cacheKey functionId) (congrArg Prod.fst hget)
      rw [hget] at keeps
      exact .found (ResolveRequest.key?_of_own own) (by simpa using hforce) there alive keeps
    next results hget =>
      rw [hget] at keeps
      exact outcome_fetch own keeps collaborators

/-- Calls of builtin, missing and unknown functions do without the caches. -/
theorem answer_of_not_own (resolver : Resolver) (caches : ResolverCaches)
    (other : call.request.own? = none) : ∃ r, resolver.answer caches call = (pure r, caches) ∧
      r.fromCache = false := by
  unfold ResolveRequest.own? at other
  unfold answer resolve
  dsimp only
  split
  next => exact ⟨_, rfl, rfl⟩
  next => exact ⟨_, rfl, rfl⟩
  next functionId hne hid =>
    split
    next => exact ⟨_, rfl, rfl⟩
    next hb =>
      have hd : call.request.context.functions.get? functionId = none := by
        simpa [hid, hb] using other
      rw [hd]
      exact ⟨_, rfl, rfl⟩

theorem answer_of_own (resolver : Resolver) (caches : ResolverCaches)
    (own : call.request.own? = some (functionId, definition)) :
    resolver.answer caches call =
      { resolver with collaborators := call.collaborators }.resolveDefinition caches call.now
        functionId definition call.request := by
  obtain ⟨hid, hne, hb, hd⟩ := ResolveRequest.own?_eq_some own
  unfold answer resolve
  dsimp only
  split
  next h => cases h.symm.trans hid
  next h => exact absurd (Option.some.inj (h.symm.trans hid)).symm hne
  next _ h =>
    obtain rfl := Option.some.inj (h.symm.trans hid)
    rw [hb]
    dsimp only
    rw [hd]

theorem outcome_answer (resolver : Resolver) (caches : ResolverCaches) (call : ResolverCall) :
    resolver.Outcome caches.results call (resolver.answer caches call).1.result
      (resolver.answer caches call).2.results := by
  cases own : call.request.own? with
  | none =>
    obtain ⟨r, hanswer, fresh⟩ := answer_of_not_own resolver caches own
    rw [hanswer]
    exact .answered own fresh
  | some found =>
    rw [answer_of_own resolver caches own]
    exact outcome_resolveDefinition own call.collaborators

/-- An entry that is alive is what is given, unless the list is to be fetched anew. -/
theorem answer_of_peek? (resolver : Resolver) {entry : Expiring Resolution}
    (own : call.request.own? = some (functionId, definition))
    (unforced : call.request.forceRefresh = false)
    (there : caches.results.peek? (call.request.cacheKey functionId) = some entry)
    (alive : entry.expiresAt.le call.now.clock = false) :
    (resolver.answer caches call).1.result = .ok { entry.value with fromCache := true } := by
  obtain ⟨after, hget⟩ := caches.results.get_of_alive call.now.clock
    (call.request.cacheKey functionId) there alive
  rw [answer_of_own resolver caches own, resolveDefinition]
  simp only [unforced, hget, Bool.false_eq_true, if_false]
  rfl

end Outcome

end Resolver

end GridRules
