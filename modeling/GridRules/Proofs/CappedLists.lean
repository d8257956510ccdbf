import GridRules.Proofs.ServedLists
/-!
How long the lists are that a resolver gives. Lists that were executed are cut to what the settings
allow, and they and remote ones to a length that no settings change, before they are stored, so
that those from the cache are as short. Builtin functions are answered before anything is cut: they
list as much as there is in the tracker.
-/

namespace GridRules

namespace Builtin

theorem length_placedFields_le (tracker : Tracker) (withoutShared : Bool) :
    (placedFields tracker withoutShared).length ≤ tracker.layoutNodes.length :=
  List.length_filterMap_le _ _

/-- A builtin function lists the placed fields, the grids, or one of three fixed lists. -/
theorem length_options_le (builtin : Builtin) (tracker : Tracker) :
    (builtin.options tracker).length ≤
      max tracker.layoutNodes.length (max tracker.grids.length Comparison.all.length) := by
  cases builtin with
  | fieldPaths => exact le_max_of_le_left (length_placedFields_le tracker true)
  | fieldPathsWithShared => exact le_max_of_le_left (length_placedFields_le tracker false)
  | grids =>
    refine le_max_of_le_right (le_max_of_le_left ?_)
    simp [options]
  | operators =>
    refine le_max_of_le_right (le_max_of_le_right ?_)
    simp [options]
  | actions =>
    refine le_max_of_le_right (le_max_of_le_right ?_)
    simp [options, Comparison.all]
  | ruleSetValues =>
    refine le_max_of_le_right (le_max_of_le_right ?_)
    simp [options, Comparison.all]

end Builtin

/-- An executed function gives no more options than the settings allow. -/
theorem FunctionDefinition.length_executeWith_le {definition : FunctionDefinition}
    {execution : Execution} {plan : Except (List CompileIssue) GraphPlan}
    {executed : ExecutionResult}
    (h : (definition.executeWith execution plan).result = .ok executed) :
    executed.options.length ≤ execution.executor.settings.options.maxItems.1 := by
  have finished {run : Run (List OptionItem)}
      (h : (execution.finish definition.id run).result = .ok executed) :
      executed.options.length ≤ execution.executor.settings.options.maxItems.1 := by
    obtain ⟨items, -, rfl⟩ := Execution.finish_eq_ok h
    exact List.length_take_le _ _
  -- wherever nothing is run there are no options
  have nothing {other : ExecutionResult} (hother : other.options = [])
      (h : Except.ok other = (.ok executed : Except Interruption ExecutionResult)) :
      executed.options.length ≤ execution.executor.settings.options.maxItems.1 := by
    obtain rfl := Except.ok.inj h
    simp [hother]
  unfold executeWith at h
  split at h
  next => exact nothing rfl h
  next =>
    split at h
    next =>
      unfold Execution.executePipeline at h
      split at h
      · exact nothing rfl h
      · exact finished h
    next =>
      unfold Execution.executePlan at h
      split at h
      · exact nothing rfl h
      · exact finished h
    next => exact nothing rfl h

/-- The builtin function that is asked for. -/
def ResolveRequest.builtin? (request : ResolveRequest) : Option Builtin :=
  request.functionId.bind Builtin.ofName?

/-- A list is as short as lists have to be under the settings. -/
structure Resolution.Capped (settings : OptionsSettings) (r : Resolution) : Prop where
  few : r.options.length ≤ Resolver.maxOptions
  asSet : r.source = .localCustom → r.options.length ≤ settings.maxItems.1

namespace Resolver

variable {resolver : Resolver} {caches start : ResolverCaches} {call : ResolverCall}

theorem length_fetchedOptions_le {functionId : String} {request : ResolveRequest}
    {executed : ExecutionResult} {fetched : FetchedOptions}
    (h : (resolver.fetchedOptions functionId request executed).result = .ok fetched) :
    fetched.options.length ≤ maxOptions := by
  unfold fetchedOptions at h
  split at h
  next => exact (fetchRemote_eq_ok h).2
  next =>
    obtain rfl := Except.ok.inj h
    exact List.length_take_le _ _

theorem capped_of_fetch {now : Moment} {key functionId : String}
    {definition : FunctionDefinition} {request : ResolveRequest} {r : Resolution}
    (h : (resolver.fetch caches now key functionId definition request).1.result = .ok r) :
    r.Capped resolver.settings.options := by
  obtain ⟨executed, fetched, hexecuted, hfetched, hstore⟩ := fetch_eq_ok h
  obtain ⟨hoptions, hsource, -⟩ := store_eq_ok hstore
  refine ⟨hoptions ▸ length_fetchedOptions_le hfetched, fun here => ?_⟩
  obtain ⟨-, hcut, -⟩ := fetchedOptions_eq_ok hfetched (hsource ▸ here)
  rw [FunctionDefinition.executeCached_fst] at hexecuted
  calc r.options.length = (executed.options.take maxOptions).length := by rw [hoptions, hcut]
    _ ≤ executed.options.length := List.length_take_le' _ _
    _ ≤ resolver.settings.options.maxItems.1 := FunctionDefinition.length_executeWith_le hexecuted

theorem capped_of_fresh {functionId : String} {definition : FunctionDefinition}
    (own : call.request.own? = some (functionId, definition)) {r : Resolution}
    (h : (resolver.answer caches call).1.result = .ok r) (fresh : r.fromCache = false) :
    r.Capped resolver.settings.options := by
  obtain ⟨_, -, hfetch⟩ := fetch_of_fresh own h fresh
  have capped := capped_of_fetch hfetch
  exact capped

theorem capped_of_stored {history : List ResolverStep} {key : String}
    {entry : Expiring Resolution} (stored : resolver.Stored start history key entry) :
    entry.value.Capped resolver.settings.options := by
  obtain ⟨earlier, latest, -⟩ := stored
  obtain ⟨_, _, -, produces⟩ := latest.exists_before
  obtain ⟨⟨functionId, definition⟩, own, -⟩ := Option.map_eq_some_iff.mp produces.key
  exact capped_of_fresh own produces.result produces.fresh

/-- A builtin function is answered in full. -/
theorem answer_of_builtin? (resolver : Resolver) (caches : ResolverCaches) {builtin : Builtin}
    (h : call.request.builtin? = some builtin) :
    ∃ functionId, (resolver.answer caches call).1.result =
      .ok (builtinResolution builtin functionId call.request.context call.now.date) := by
  obtain ⟨functionId, hid, hb⟩ := Option.bind_eq_some_iff.mp h
  have hne : functionId ≠ "" := by
    rintro rfl
    cases hb
  refine ⟨functionId, ?_⟩
  unfold answer resolve
  dsimp only
  split
  next hnone => cases hnone.symm.trans hid
  next hempty => exact absurd (Option.some.inj (hempty.symm.trans hid)).symm hne
  next _ _ hsome =>
    obtain rfl := Option.some.inj (hsome.symm.trans hid)
    rw [hb]
    rfl

/-- What is not a function has no options. -/
theorem options_of_unknown (own : call.request.own? = none)
    (h : call.request.builtin? = none) {r : Resolution}
    (hr : (resolver.answer caches call).1.result = .ok r) :
    r.options = [] ∧ r.source = .unknown := by
  unfold answer resolve at hr
  dsimp only at hr
  split at hr
  next =>
    obtain rfl := Except.ok.inj hr
    exact ⟨rfl, rfl⟩
  next =>
    obtain rfl := Except.ok.inj hr
    exact ⟨rfl, rfl⟩
  next functionId hne hid =>
    have hb : Builtin.ofName? functionId = none := by
      simpa [ResolveRequest.builtin?, hid] using h
    have hd : call.request.context.functions.get? functionId = none := by
      simpa [ResolveRequest.own?, hid, hb] using own
    rw [hb] at hr
    dsimp only at hr
    rw [hd] at hr
    obtain rfl := Except.ok.inj hr
    exact ⟨rfl, rfl⟩

/-- After any calls, every list is as short as it has to be, unless it is that of a builtin
function, which is given in full. -/
theorem answer_capped (resolver : Resolver) (start : ResolverCaches)
    (history : List ResolverStep) (call : ResolverCall) (r : Resolution)
    (empty : ∀ key, start.results.peek? key = none)
    (hr : (resolver.answer (resolver.after start history) call).1.result = .ok r) :
    let tracker := call.request.context.tracker
    (∀ builtin, call.request.builtin? = some builtin →
      r.source = .builtin ∧ r.options = builtin.options tracker) ∧
    (call.request.builtin? = none → r.Capped resolver.settings.options) ∧
    (tracker.grids.length ≤ maxOptions → tracker.layoutNodes.length ≤ maxOptions →
      r.Capped resolver.settings.options) := by
  intro tracker
  have full (builtin : Builtin) (hbuiltin : call.request.builtin? = some builtin) :
      r.source = .builtin ∧ r.options = builtin.options tracker := by
    obtain ⟨functionId, hanswer⟩ := answer_of_builtin? resolver (resolver.after start history)
      hbuiltin
    obtain rfl := Except.ok.inj (hr.symm.trans hanswer)
    exact ⟨rfl, rfl⟩
  have capped (other : call.request.builtin? = none) : r.Capped resolver.settings.options := by
    cases own : call.request.own? with
    | none =>
      obtain ⟨hnone, hsource⟩ := options_of_unknown own other hr
      exact ⟨by simp [hnone], fun here => by cases hsource.symm.trans here⟩
    | some found =>
      cases hfresh : r.fromCache with
      | false => exact capped_of_fresh own hr hfresh
      | true =>
        obtain ⟨key, entry, -, -, there, -, rfl⟩ := found_of_fromCache hr hfresh
        have stored := (stored_after resolver empty history).2 key entry there
        exact ⟨(capped_of_stored stored).few, (capped_of_stored stored).asSet⟩
  refine ⟨full, capped, fun hgrids hnodes => ?_⟩
  cases hbuiltin : call.request.builtin? with
  | none => exact capped hbuiltin
  | some builtin =>
    obtain ⟨hsource, hoptions⟩ := full builtin hbuiltin
    refine ⟨?_, fun here => by cases hsource.symm.trans here⟩
    rw [hoptions]
    refine (builtin.length_options_le tracker).trans ?_
    exact max_le hnodes (max_le hgrids (by decide))

/-- The list of the fields that is given again is as short as the settings want it. -/
theorem answer_capped_fields :
    ∃ r, (fieldsResolver.answer
        (fieldsResolver.after (.ofSettings .default) (fieldsHistory "A"))
        (fieldsCall "A" 59)).1.result = .ok r ∧
      r.fromCache = true ∧ (fieldsCall "A" 59).request.builtin? = none ∧
      r.Capped Settings.default.options := by
  have hit := answer_fieldsCall "A" "A" (by decide +kernel)
  exact ⟨_, hit, rfl, rfl, (answer_capped fieldsResolver (.ofSettings .default)
    (fieldsHistory "A") (fieldsCall "A" 59) _ (fun _ => rfl) hit).2.1 rfl⟩

/-- A call for all grids of a tracker with so many of them. -/
def gridsCall (count : Nat) : ResolverCall :=
  let call := fieldsCall "A" 0
  let grid (i : Nat) : TrackerGrid := ⟨"g" ++ toString i, "Grid " ++ toString i, none, none⟩
  let tracker :=
    { call.request.context.tracker with grids := (List.range count).map grid }
  { call with request :=
    { call.request with
      functionId := some Builtin.grids.name
      context := { call.request.context with tracker := tracker } } }

/-- One grid too many, and the list is too long. -/
theorem answer_not_capped :
    ∃ r, (fieldsResolver.answer (.ofSettings .default) (gridsCall 501)).1.result = .ok r ∧
      r.options.length = 501 ∧ ¬ r.Capped Settings.default.options := by
  have hgrids : (gridsCall 501).request.builtin? = some .grids := rfl
  obtain ⟨functionId, hanswer⟩ :=
    answer_of_builtin? fieldsResolver (.ofSettings .default) hgrids
  have hlength : (builtinResolution .grids functionId (gridsCall 501).request.context
      (gridsCall 501).now.date).options.length = 501 := by
    simp [builtinResolution, Resolution.fetched, Builtin.options, gridsCall]
  refine ⟨_, hanswer, hlength, fun capped => ?_⟩
  have := hlength ▸ capped.few
  exact absurd this (by decide)

end Resolver

end GridRules
