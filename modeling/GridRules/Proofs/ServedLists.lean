import GridRules.Proofs.ContextVersions
import GridRules.Proofs.OfflineRuns
import GridRules.Proofs.PlanCaches
import GridRules.Proofs.ResolverRuns

namespace GridRules

open Canonical (form signedText)

namespace Resolver

variable {resolver : Resolver} {caches : ResolverCaches}

/-- A resolution has the options and the warnings that were fetched. -/
theorem store_eq_ok {results : ExpiringCache String Resolution} {key functionId : String}
    {ttl : Int} {now : Moment} {fetched : FetchedOptions} {r : Resolution}
    (h : (store results key functionId ttl now fetched).1.result = .ok r) :
    r.options = fetched.options ∧ r.source = fetched.source ∧ r.warnings = fetched.warnings := by
  unfold store at h
  dsimp only at h
  split at h
  next =>
    obtain rfl := Except.ok.inj h
    exact ⟨rfl, rfl, rfl⟩
  next =>
    split at h
    next => cases h
    next =>
      split at h
      next => cases h
      next =>
        obtain rfl := Except.ok.inj h
        exact ⟨rfl, rfl, rfl⟩

theorem fetchRemote_eq_ok {functionId : String} {request : ResolveRequest}
    {fetched : FetchedOptions}
    (h : (resolver.fetchRemote functionId request).result = .ok fetched) :
    fetched.source = .remote ∧ fetched.options.length ≤ maxOptions := by
  unfold fetchRemote at h
  split at h
  next =>
    obtain ⟨_, -, h⟩ := Run.andThen_eq_ok h
    obtain rfl := Except.ok.inj h
    exact ⟨rfl, Nat.zero_le _⟩
  next =>
    obtain ⟨_, -, h⟩ := Run.andThen_eq_ok h
    split at h
    next =>
      obtain rfl := Except.ok.inj h
      exact ⟨rfl, List.length_take_le _ _⟩
    next => cases h

/-- Options that are not remote are those of an execution. -/
theorem fetchedOptions_eq_ok {functionId : String} {request : ResolveRequest}
    {executed : ExecutionResult} {fetched : FetchedOptions}
    (h : (resolver.fetchedOptions functionId request executed).result = .ok fetched)
    (here : fetched.source = .localCustom) :
    executed.requiresRemote = false ∧ fetched.options = executed.options.take maxOptions ∧
      fetched.warnings = executed.warnings := by
  unfold fetchedOptions at h
  split at h
  next => cases (fetchRemote_eq_ok h).1.symm.trans here
  next remote =>
    obtain rfl := Except.ok.inj h
    exact ⟨by simpa using remote, rfl, rfl⟩

/-- A list comes from an execution: it has its options, as far as lists go, and its warnings. -/
def ComesFrom (r : Resolution) (executed : ExecutionResult) : Prop :=
  executed.requiresRemote = false ∧ r.options = executed.options.take maxOptions ∧
    r.warnings = executed.warnings

/-- What is fetched is executed first, and what comes of that is stored. -/
theorem fetch_eq_ok {now : Moment} {key functionId : String} {definition : FunctionDefinition}
    {request : ResolveRequest} {r : Resolution}
    (h : (resolver.fetch caches now key functionId definition request).1.result = .ok r) :
    ∃ executed fetched,
      (definition.executeCached (resolver.execution request) caches.plans).1.result =
        .ok executed ∧
      (resolver.fetchedOptions functionId request executed).result = .ok fetched ∧
      (store caches.results key functionId (resolver.ttlSeconds definition request) now
        fetched).1.result = .ok r := by
  unfold fetch at h
  dsimp only at h
  split at h
  next => cases h
  next fetched hrun =>
    obtain ⟨executed, hexecuted, hfetched⟩ := Run.andThen_eq_ok hrun
    rw [Run.result_andThen hrun] at h
    exact ⟨executed, fetched, hexecuted, hfetched, h⟩

theorem fetch_plans (now : Moment) (key functionId : String) (definition : FunctionDefinition)
    (request : ResolveRequest) :
    (resolver.fetch caches now key functionId definition request).2.plans =
      (definition.executeCached (resolver.execution request) caches.plans).2 := by
  unfold fetch
  dsimp only
  split <;> rfl

theorem connectors_execution (resolver : Resolver) (request : ResolveRequest) :
    (resolver.execution request).connectors = request.context.connectors := by
  change request.placedContext.connectors = _
  unfold ResolveRequest.placedContext
  split <;> rfl

section Answer

variable {call : ResolverCall} {functionId : String} {definition : FunctionDefinition}

/-- The execution that a call asks for. -/
def executionFor (resolver : Resolver) (call : ResolverCall) : Execution :=
  { resolver with collaborators := call.collaborators }.execution call.request

/-- A list of a function of the tracker that does not come from the cache is fetched. -/
theorem fetch_of_fresh (own : call.request.own? = some (functionId, definition)) {r : Resolution}
    (h : (resolver.answer caches call).1.result = .ok r) (fresh : r.fromCache = false) :
    ∃ looked : ResolverCaches, looked.plans = caches.plans ∧
      ({ resolver with collaborators := call.collaborators }.fetch looked call.now
        (call.request.cacheKey functionId) functionId definition call.request).1.result =
        .ok r := by
  rw [answer_of_own resolver caches own, resolveDefinition] at h
  dsimp only at h
  split at h
  next => exact ⟨caches, rfl, h⟩
  next =>
    split at h
    next =>
      obtain ⟨_, -, h⟩ := Run.andThen_eq_ok h
      obtain rfl := Except.ok.inj h
      cases fresh
    next results _ => exact ⟨⟨results, caches.plans⟩, rfl, h⟩

/-- A list that a call has produced here comes from the execution that it asked for. -/
theorem executed_of_produces {key : String} {r : Resolution}
    (h : resolver.Produces caches key call r) (here : r.source = .localCustom) :
    ∃ functionId definition executed, call.request.own? = some (functionId, definition) ∧
      (definition.executeCached (resolver.executionFor call) caches.plans).1.result =
        .ok executed ∧ ComesFrom r executed := by
  obtain ⟨⟨functionId, definition⟩, own, -⟩ := Option.map_eq_some_iff.mp h.key
  obtain ⟨looked, hplans, hfetch⟩ := fetch_of_fresh own h.result h.fresh
  obtain ⟨executed, fetched, hexecuted, hfetched, hstore⟩ := fetch_eq_ok hfetch
  obtain ⟨hoptions, hsource, hwarnings⟩ := store_eq_ok hstore
  obtain ⟨hlocal, hcut, hsame⟩ := fetchedOptions_eq_ok hfetched (hsource ▸ here)
  rw [hplans] at hexecuted
  exact ⟨functionId, definition, executed, own, hexecuted, hlocal, hoptions.trans hcut,
    hwarnings.trans hsame⟩

/-- What goes for all plans in the cache still does after a call, if it goes for the plan of the
function that is called. -/
theorem holds_plans_answer {P : String → GraphPlan → Prop} (holds : caches.plans.Holds P)
    (h : ∀ functionId definition plan, call.request.own? = some (functionId, definition) →
      definition.compileGraph call.request.context.connectors.keys = .ok plan →
      P (graphSignature definition call.request.context.connectors.keys) plan) :
    (resolver.answer caches call).2.plans.Holds P := by
  cases own : call.request.own? with
  | none =>
    obtain ⟨r, hanswer, -⟩ := answer_of_not_own resolver caches own
    rw [hanswer]
    exact holds
  | some found =>
    obtain ⟨functionId, definition⟩ := found
    have fetched (looked : ResolverCaches) (hplans : looked.plans = caches.plans)
        (key : String) : ({ resolver with collaborators := call.collaborators }.fetch looked
          call.now key functionId definition call.request).2.plans.Holds P := by
      rw [fetch_plans, hplans, FunctionDefinition.executeCached]
      split
      next => exact holds
      next =>
        refine FunctionDefinition.holds_compileGraphCached holds fun plan hplan => ?_
        rw [connectors_execution] at hplan ⊢
        exact h functionId definition plan own hplan
    rw [answer_of_own resolver caches own, resolveDefinition]
    dsimp only
    split
    next => exact fetched caches rfl _
    next =>
      split
      next => exact holds
      next results _ => exact fetched ⟨results, caches.plans⟩ rfl _

end Answer

end Resolver

/-- Executions that look the same give the same where the network is not allowed. -/
theorem FunctionDefinition.execute_congr (definition : FunctionDefinition)
    {execution other : Execution} (offline : execution.executor.allowHttp = false)
    (offline' : other.executor.allowHttp = false) (hseen : execution.seen = other.seen)
    (hconnectors : ∀ id, id ∈ execution.connectors.keys ↔ id ∈ other.connectors.keys) :
    definition.execute execution = definition.execute other := by
  have gated {connectors : List String} (plan : GraphPlan)
      (h : definition.compileGraph connectors = .ok plan) : plan.Gated := gated_of_compileGraph h
  unfold execute
  rw [← executeWith_seen offline gated, ← executeWith_seen offline' gated, hseen,
    compileGraph_congr hconnectors]

namespace ResolveRequest

/-- The text whose digest a list is cached under. -/
def keyText (request : ResolveRequest) (functionId : String) : String :=
  signedText (.list [.str functionId, .object request.args, .str request.placedContext.version])

theorem cacheKey_eq (request : ResolveRequest) (functionId : String) :
    request.cacheKey functionId = Sha256.ofText (request.keyText functionId) :=
  Canonical.signature_eq _

theorem alike_of_keyText {request other : ResolveRequest} {functionId functionId' : String}
    (h : request.keyText functionId = other.keyText functionId') :
    functionId = functionId' ∧ form (.object request.args) = form (.object other.args) ∧
      request.placedContext.version = other.placedContext.version := by
  have hform := Canonical.form_eq_of_signedText_list h
  rw [Canonical.form_list, Canonical.form_list] at hform
  simp only [List.map_cons, List.map_nil, Value.list.injEq, List.cons.injEq] at hform
  obtain ⟨hid, hargs, hversion, -⟩ := hform
  exact ⟨Canonical.str_alike hid, hargs, Canonical.str_alike hversion⟩

/-- Two requests agree in what the key of a list leaves out. -/
structure AgreeBesides (request other : ResolveRequest) : Prop where
  context : request.placedContext.AgreeBesides other.placedContext
  definition : ∀ functionId definition definition',
    request.own? = some (functionId, definition) →
    other.own? = some (functionId, definition') → definition = definition'
  args : form (.object request.args) = form (.object other.args) → request.args = other.args

theorem AgreeBesides.refl {request : ResolveRequest}
    (unjoined : request.placedContext.tracker.Unjoined) : request.AgreeBesides request where
  context := .refl unjoined
  definition _ _ _ own own' := (Prod.mk.inj (Option.some.inj (own.symm.trans own'))).2
  args _ := rfl

end ResolveRequest

/-- The digests of what is signed for some requests do not collide. -/
structure ToldApart (asked : ResolveRequest → Prop) : Prop where
  keys : Sha256.TellsApart fun text => ∃ request functionId definition, asked request ∧
    request.own? = some (functionId, definition) ∧ text = request.keyText functionId
  versions : Sha256.TellsApart fun text => ∃ request, asked request ∧
    text = signedText request.placedContext.observed
  graphs : Sha256.TellsApart fun text => ∃ request functionId definition, asked request ∧
    request.own? = some (functionId, definition) ∧
    text = graphText definition request.context.connectors.keys

theorem ToldApart.of_one {asked : ResolveRequest → Prop} {request : ResolveRequest}
    (h : ∀ other, asked other → other = request) : ToldApart asked where
  keys := by
    rintro _ _ ⟨a, _, _, ha, own, rfl⟩ ⟨b, _, _, hb, own', rfl⟩ -
    obtain rfl := h a ha
    obtain rfl := h b hb
    rw [(Prod.mk.inj (Option.some.inj (own.symm.trans own'))).1]
  versions := by
    rintro _ _ ⟨a, ha, rfl⟩ ⟨b, hb, rfl⟩ -
    rw [h a ha, h b hb]
  graphs := by
    rintro _ _ ⟨a, _, _, ha, own, rfl⟩ ⟨b, _, _, hb, own', rfl⟩ -
    obtain rfl := h a ha
    obtain rfl := h b hb
    rw [(Prod.mk.inj (Option.some.inj (own.symm.trans own'))).2]

namespace Resolver

variable {resolver : Resolver} {start : ResolverCaches}

theorem Latest.exists_before {key : String} {history : List ResolverStep} {call : ResolverCall}
    {r : Resolution} (latest : resolver.Latest start key history call r) :
    ∃ before later, history = before ++ .resolve call :: later ∧
      resolver.Produces (resolver.after start before) key call r := by
  induction latest with
  | produced h => exact ⟨_, [], rfl, h⟩
  | kept _ _ ih =>
    obtain ⟨before, later, rfl, h⟩ := ih
    exact ⟨before, _, by rw [List.append_assoc, List.cons_append], h⟩

/-- A plan was compiled for a call. -/
def KeptPlan (history : List ResolverStep) (key : String) (plan : GraphPlan) : Prop :=
  ∃ call functionId definition, .resolve call ∈ history ∧
    call.request.own? = some (functionId, definition) ∧
    graphSignature definition call.request.context.connectors.keys = key ∧
    definition.compileGraph call.request.context.connectors.keys = .ok plan

theorem KeptPlan.mono {history more : List ResolverStep} {key : String} {plan : GraphPlan}
    (h : KeptPlan history key plan) : KeptPlan (history ++ more) key plan := by
  obtain ⟨call, functionId, definition, hm, h⟩ := h
  exact ⟨call, functionId, definition, List.mem_append_left _ hm, h⟩

theorem holds_plans_after (empty : ∀ key, start.plans.find? key = none)
    (history : List ResolverStep) :
    (resolver.after start history).plans.Holds (KeptPlan history) := by
  induction history using List.reverseRecOn with
  | nil => exact fun key plan h => by simp [after, empty] at h
  | append_singleton history last ih =>
    have ih : (resolver.after start history).plans.Holds (KeptPlan (history ++ [last])) :=
      ih.mono fun _ _ h => h.mono
    rw [after_concat]
    cases last with
    | clear => exact .clear _
    | resolve call =>
      exact holds_plans_answer ih fun functionId definition plan own hplan =>
        ⟨call, functionId, definition, by simp, own, rfl, hplan⟩

/-- Graphs that calls have compiled are the same if they are cached under one text. -/
def SpelledAlike (history : List ResolverStep) : Prop :=
  ∀ a b, .resolve a ∈ history → .resolve b ∈ history →
    ∀ functionId definition functionId' definition',
      a.request.own? = some (functionId, definition) →
      b.request.own? = some (functionId', definition') →
      graphText definition a.request.context.connectors.keys =
        graphText definition' b.request.context.connectors.keys →
      definition.body = definition'.body

section Served

variable {history : List ResolverStep} {call : ResolverCall} {asked : ResolveRequest → Prop}
  (empty : ∀ key, start.plans.find? key = none) (apart : ToldApart asked)
  (past : ∀ other, .resolve other ∈ history → asked other.request)
  (spelled : SpelledAlike history)

include empty apart past spelled

/-- With the plans that were compiled before, an execution gives what it gives without. -/
theorem executeCached_after {before later : List ResolverStep}
    (hsplit : history = before ++ .resolve call :: later) {functionId : String}
    {definition : FunctionDefinition} (own : call.request.own? = some (functionId, definition)) :
    (definition.executeCached (resolver.executionFor call)
        (resolver.after start before).plans).1 =
      definition.execute (resolver.executionFor call) := by
  have hconnectors : (resolver.executionFor call).connectors =
    call.request.context.connectors := connectors_execution _ _
  rw [FunctionDefinition.executeCached_fst, FunctionDefinition.execute, hconnectors]
  congr 1
  refine FunctionDefinition.compileGraphCached_eq fun key plan hfound => ?_
  obtain ⟨other, functionId', other', hm, own', hkey, hplan⟩ :=
    holds_plans_after empty before key plan hfound
  have hm : .resolve other ∈ history := hsplit ▸ List.mem_append_left _ hm
  have hcall : .resolve call ∈ history := hsplit ▸ by simp
  refine ⟨other', _, hkey, hplan, fun hsame => ?_⟩
  rw [graphSignature_eq, graphSignature_eq] at hsame
  have htext := apart.graphs _ _ ⟨_, _, _, past other hm, own', rfl⟩
    ⟨_, _, _, past call hcall, own, rfl⟩ hsame
  exact ⟨htext, spelled other call hm hcall _ _ _ _ own' own htext⟩

/-- A list that was produced here under the key of a call is the one that the call would give if it
were executed now, if the two calls agree in what the key leaves out. -/
theorem comesFrom_execute (offline : resolver.allowHttp = false) (now : asked call.request)
    {key : String} {earlier : ResolverCall} {r : Resolution}
    (hkey : call.request.key? = some key)
    (latest : resolver.Latest start key history earlier r) (here : r.source = .localCustom)
    (agree : earlier.request.AgreeBesides call.request) :
    ∃ functionId definition executed, call.request.own? = some (functionId, definition) ∧
      (definition.execute (resolver.executionFor call)).result = .ok executed ∧
      ComesFrom r executed := by
  obtain ⟨before, later, hsplit, produces⟩ := latest.exists_before
  obtain ⟨functionId, definition, executed, own, hexecuted, hcomes⟩ :=
    executed_of_produces produces here
  obtain ⟨⟨functionId', definition'⟩, own', hkey⟩ := Option.map_eq_some_iff.mp hkey
  -- the two calls are for one function, with arguments and contexts that are signed alike
  have hsame := Option.some.inj ((ResolveRequest.key?_of_own own).symm.trans produces.key)
  rw [← hkey, ResolveRequest.cacheKey_eq, ResolveRequest.cacheKey_eq] at hsame
  have hearlier : asked earlier.request := past earlier latest.mem
  obtain ⟨rfl, hargs, hversion⟩ := ResolveRequest.alike_of_keyText (apart.keys _ _
    ⟨_, _, _, hearlier, own, rfl⟩ ⟨_, _, _, now, own', rfl⟩ hsame)
  obtain rfl := agree.definition _ _ _ own own'
  have hargs := agree.args hargs
  have hseen : earlier.request.placedContext.seen = call.request.placedContext.seen := by
    rw [OptionsContext.version, OptionsContext.version, Canonical.signature_eq,
      Canonical.signature_eq] at hversion
    exact OptionsContext.seen_eq (apart.versions _ _ ⟨_, hearlier, rfl⟩ ⟨_, now, rfl⟩ hversion)
      agree.context
  -- so the earlier execution is that of this call
  have hexecution : definition.execute (resolver.executionFor earlier) =
      definition.execute (resolver.executionFor call) := by
    refine definition.execute_congr offline offline ?_ agree.context.connectors
    simp only [executionFor, execution, Execution.seen, hseen, hargs]
  refine ⟨functionId, definition, executed, own', ?_, hcomes⟩
  rw [← hexecution, ← executeCached_after empty apart past spelled hsplit own]
  exact hexecuted

end Served

/-- Contexts with one version give the same without the network, and a list from the cache is the
one that an execution on the given context would give, if they agree in what versions and keys leave
out and if no digests collide. -/
theorem execute_eq_of_version (resolver : Resolver) (offline : resolver.allowHttp = false) :
    (∀ (definition : FunctionDefinition) (connectors : Assoc Connector)
        (context other : OptionsContext) (args : Entries), context.version = other.version →
      Sha256.TellsApart (fun text =>
        text = signedText context.observed ∨ text = signedText other.observed) →
      context.AgreeBesides other →
      let executor : Executor :=
        ⟨resolver.settings, resolver.allowHttp, connectors, resolver.collaborators⟩
      definition.execute ⟨executor, context, args⟩ =
        definition.execute ⟨executor, other, args⟩) ∧
    ∀ (start : ResolverCaches) (history : List ResolverStep) (call : ResolverCall)
        (r : Resolution), (∀ key, start.results.peek? key = none) →
      (∀ key, start.plans.find? key = none) →
      ToldApart (fun request =>
        ∃ other, (other = call ∨ .resolve other ∈ history) ∧ request = other.request) →
      SpelledAlike history →
      (∀ earlier, .resolve earlier ∈ history → earlier.request.key? = call.request.key? →
        earlier.request.AgreeBesides call.request) →
      (resolver.answer (resolver.after start history) call).1.result = .ok r →
      r.fromCache = true → r.source = .localCustom →
      ∃ functionId definition executed, call.request.own? = some (functionId, definition) ∧
        (definition.execute (resolver.executionFor call)).result = .ok executed ∧
        executed.requiresRemote = false ∧ executed.warnings = [] ∧
        r.options = executed.options.take maxOptions := by
  constructor
  · intro definition connectors context other args hversion apart agree
    rw [OptionsContext.version, OptionsContext.version, Canonical.signature_eq,
      Canonical.signature_eq] at hversion
    have hseen := OptionsContext.seen_eq (apart _ _ (.inl rfl) (.inr rfl) hversion) agree
    refine definition.execute_congr offline offline ?_ fun id => ?_
    · simp only [Execution.seen, hseen]
    · simp only [Execution.connectors, Assoc.mem_keys_putAll, agree.connectors]
  · intro start history call r fresh empty apart spelled agree hr cached here
    obtain ⟨key, entry, hkey, -, there, -, rfl⟩ := found_of_fromCache hr cached
    obtain ⟨earlier, latest, -⟩ := (stored_after resolver fresh history).2 key entry there
    obtain ⟨before, later, hsplit, produces⟩ := latest.exists_before
    have hearlier := agree earlier latest.mem (produces.key.trans hkey.symm)
    obtain ⟨functionId, definition, executed, own, hexecuted, hlocal, hoptions, hwarnings⟩ :=
      comesFrom_execute empty apart (fun other hm => ⟨other, .inr hm, rfl⟩) spelled offline
        ⟨call, .inl rfl, rfl⟩ hkey latest here hearlier
    exact ⟨functionId, definition, executed, own, hexecuted, hlocal,
      hwarnings.symm.trans produces.clean, hoptions⟩

theorem execute_eq_of_version_fields :
    (let executor : Executor := ⟨.default, false, [], fieldsResolver.collaborators⟩
      let context := fieldsContext "A"
      let placed := { context with runtime := { context.runtime with row := some [] } }
      fieldsFunction.execute ⟨executor, context, []⟩ =
        fieldsFunction.execute ⟨executor, placed, []⟩) ∧
    ∃ r, (fieldsResolver.answer
        (fieldsResolver.after (.ofSettings .default) (fieldsHistory "A"))
        (fieldsCall "A" 59)).1.result = .ok r ∧
      r.fromCache = true ∧
      ∃ functionId definition executed,
        (fieldsCall "A" 59).request.own? = some (functionId, definition) ∧
        (definition.execute (fieldsResolver.executionFor (fieldsCall "A" 59))).result =
          .ok executed ∧
        executed.requiresRemote = false ∧ executed.warnings = [] ∧
        r.options = executed.options.take maxOptions := by
  have unjoined : (fieldsContext "A").tracker.Unjoined := ⟨by decide, by decide, by decide⟩
  have hit := answer_fieldsCall "A" "A" (by decide +kernel)
  refine ⟨(execute_eq_of_version fieldsResolver rfl).1 fieldsFunction [] _ _ [] rfl ?_ ?_,
    _, hit, rfl, (execute_eq_of_version fieldsResolver rfl).2 (.ofSettings .default)
      (fieldsHistory "A") (fieldsCall "A" 59) _ (fun _ => rfl) (fun _ => rfl) ?_ ?_ ?_ hit rfl rfl⟩
  · rintro _ _ (rfl | rfl) (rfl | rfl) - <;> rfl
  · exact ⟨unjoined, unjoined, fun _ => .rfl, rfl, rfl, rfl, rfl, rfl, fun _ => rfl, fun _ => rfl⟩
  · -- the call and the one before it ask for the same
    refine .of_one fun request h => (?_ : request = (fieldsCall "A" 59).request)
    obtain ⟨other, rfl | h, rfl⟩ := h
    · rfl
    · rw [eq_of_mem_fieldsHistory h]
      rfl
  · intro a b ha hb _ _ _ _ own own' _
    obtain rfl := eq_of_mem_fieldsHistory ha
    obtain rfl := eq_of_mem_fieldsHistory hb
    rw [(Prod.mk.inj (Option.some.inj (own.symm.trans own'))).2]
  · intro earlier h _
    obtain rfl := eq_of_mem_fieldsHistory h
    exact .refl unjoined

/-- Versions leave out the labels of fields, so that a list with an old label is given again. -/
theorem execute_ne_of_version :
    (fieldsContext "Old").version = (fieldsContext "New").version ∧
    (fieldsContext "Old").functions.get? "fields" = some fieldsFunction ∧
    (fieldsContext "New").functions.get? "fields" = some fieldsFunction ∧
    (fieldsFunction.execute (fieldsResolver.executionFor (fieldsCall "Old" 0))).result =
      .ok ⟨[.plain "Old" (.str "a") "a"], false, []⟩ ∧
    (fieldsFunction.execute (fieldsResolver.executionFor (fieldsCall "New" 59))).result =
      .ok ⟨[.plain "New" (.str "a") "a"], false, []⟩ ∧
    ∃ r, (fieldsResolver.answer
        (fieldsResolver.after (.ofSettings .default) (fieldsHistory "Old"))
        (fieldsCall "New" 59)).1.result = .ok r ∧
      r.fromCache = true ∧ r.options = [.plain "Old" (.str "a") "a"] :=
  ⟨rfl, rfl, rfl, by decide +kernel, by decide +kernel, _,
    answer_fieldsCall "Old" "New" (by decide +kernel), rfl, rfl⟩

end Resolver

end GridRules
