import GridRules.Proofs.ResolverSteps
import Mathlib.Data.List.Induction

namespace GridRules

inductive ResolverStep where
  | resolve (call : ResolverCall)
  | clear

namespace Resolver

/-- The caches after a step. -/
def advance (resolver : Resolver) (caches : ResolverCaches) : ResolverStep → ResolverCaches
  | .resolve call => (resolver.answer caches call).2
  | .clear => caches.clear

/-- The caches after some steps. -/
def after (resolver : Resolver) (start : ResolverCaches) (history : List ResolverStep) :
    ResolverCaches :=
  history.foldl resolver.advance start

variable (resolver : Resolver)

theorem after_concat (start : ResolverCaches) (history : List ResolverStep) (last : ResolverStep) :
    resolver.after start (history ++ [last]) =
      resolver.advance (resolver.after start history) last := by
  rw [after, List.foldl_append]
  rfl

/-- The list that a call of a function of the tracker has fetched itself, without warnings; it is
the one to be stored under the key. -/
structure Produces (caches : ResolverCaches) (key : String) (call : ResolverCall)
    (r : Resolution) : Prop where
  key : call.request.key? = some key
  result : (resolver.answer caches call).1.result = .ok r
  fresh : r.fromCache = false
  clean : r.warnings = []

/-- The latest list that was produced under a key, if nothing was cleared since. -/
inductive Latest (start : ResolverCaches) (key : String) :
    List ResolverStep → ResolverCall → Resolution → Prop
  | produced {history : List ResolverStep} {call : ResolverCall} {r : Resolution}
    (h : resolver.Produces (resolver.after start history) key call r) :
    Latest start key (history ++ [.resolve call]) call r
  | kept {history : List ResolverStep} {call other : ResolverCall} {r : Resolution}
    (h : Latest start key history call r)
    (quiet : ∀ r, ¬ resolver.Produces (resolver.after start history) key other r) :
    Latest start key (history ++ [.resolve other]) call r

/-- When the list that a call stores is dead: a time to live after the call. -/
def stop? (start : ResolverCaches) (call : ResolverCall) : Option Number := do
  let (_, definition) ← call.request.own?
  call.now.clock.add?
    (start.results.ttl (some (.int (resolver.ttlSeconds definition call.request))))

theorem stop?_of_own {caches : ResolverCaches} {call : ResolverCall} {functionId : String}
    {definition : FunctionDefinition}
    (own : call.request.own? = some (functionId, definition)) :
    resolver.stop? caches call = call.now.clock.add? (caches.results.ttl
      (some (.int (resolver.ttlSeconds definition call.request)))) := by
  rw [stop?, own]
  rfl

theorem stop?_congr {start caches : ResolverCaches}
    (h : caches.results.defaultTtl = start.results.defaultTtl) (call : ResolverCall) :
    resolver.stop? caches call = resolver.stop? start call := by
  unfold stop?
  simp only [ExpiringCache.ttl_congr h]

/-- A stored list is the latest that was produced under its key, with the end that it has by that
call. -/
def Stored (start : ResolverCaches) (history : List ResolverStep) (key : String)
    (entry : Expiring Resolution) : Prop :=
  ∃ call, resolver.Latest start key history call entry.value ∧
    resolver.stop? start call = some entry.expiresAt

section Step

variable {resolver} {start caches : ResolverCaches} {history : List ResolverStep}
  {call : ResolverCall} {key : String} {entry : Expiring Resolution}

/-- A list that was produced is stored, with an end after the call. -/
theorem peek?_of_produces {r : Resolution} (h : resolver.Produces caches key call r) :
    ∃ stop, (resolver.answer caches call).2.results.peek? key = some ⟨r, stop⟩ ∧
      resolver.stop? caches call = some stop := by
  have outcome := outcome_answer resolver caches call
  rw [h.result] at outcome
  generalize (resolver.answer caches call).2.results = after at outcome ⊢
  cases outcome with
  | answered other =>
    cases h.key.symm.trans (ResolveRequest.key?_eq_none_iff.mpr other)
  | found => cases h.fresh
  | unstored _ warned => exact absurd h.clean (warned r rfl).2
  | stored own keeps _ _ put =>
    obtain ⟨stop, hstop, -, there, -⟩ := ExpiringCache.peek?_put? put
    have hkey := (ResolveRequest.key?_of_own own).symm.trans h.key
    refine ⟨stop, Option.some.inj hkey ▸ there, ?_⟩
    rw [resolver.stop?_of_own own, ← ExpiringCache.ttl_congr keeps.1]
    exact hstop

/-- A call that produces nothing leaves the stored lists, but for dead ones. -/
theorem keeps_of_quiet (quiet : ∀ key r, ¬ resolver.Produces caches key call r) :
    caches.results.Keeps call.now.clock (resolver.answer caches call).2.results := by
  have outcome := outcome_answer resolver caches call
  generalize hresult : (resolver.answer caches call).1.result = result at outcome
  generalize (resolver.answer caches call).2.results = after at outcome ⊢
  cases outcome with
  | answered => exact .refl _ _
  | found _ _ _ _ keeps => exact keeps
  | unstored keeps => exact keeps
  | stored own _ fresh clean =>
    exact absurd ⟨ResolveRequest.key?_of_own own, hresult, fresh, clean⟩ (quiet _ _)

/-- What is stored after a call was stored before it, or the call has produced it. -/
theorem produces_or_peek?
    (h : (resolver.answer caches call).2.results.peek? key = some entry) :
    resolver.Produces caches key call entry.value ∧
        resolver.stop? caches call = some entry.expiresAt ∨
      caches.results.peek? key = some entry ∧ ∀ r, ¬ resolver.Produces caches key call r := by
  have outcome := outcome_answer resolver caches call
  generalize hresult : (resolver.answer caches call).1.result = result at outcome
  generalize (resolver.answer caches call).2.results = after at outcome h
  cases outcome with
  | answered other =>
    exact .inr ⟨h, fun r hr => nomatch
      hr.key.symm.trans (ResolveRequest.key?_eq_none_iff.mpr other)⟩
  | found _ _ _ _ keeps =>
    refine .inr ⟨keeps.peek?_eq_some h, fun r hr => ?_⟩
    obtain rfl := Except.ok.inj (hresult.symm.trans hr.result)
    cases hr.fresh
  | unstored keeps warned =>
    exact .inr ⟨keeps.peek?_eq_some h, fun r hr =>
      (warned r (hresult.symm.trans hr.result)).2 hr.clean⟩
  | @stored functionId definition r looked _ own keeps fresh clean put =>
    have hkey := ResolveRequest.key?_of_own own
    obtain ⟨stop, hstop, -, there, others⟩ := ExpiringCache.peek?_put? put
    by_cases he : key = call.request.cacheKey functionId
    · subst he
      obtain rfl := Option.some.inj (there.symm.trans h)
      refine .inl ⟨⟨hkey, hresult, fresh, clean⟩, ?_⟩
      rw [resolver.stop?_of_own own, ← ExpiringCache.ttl_congr keeps.1]
      exact hstop
    · exact .inr ⟨keeps.peek?_eq_some (others key entry he h), fun r hr =>
        he (Option.some.inj (hr.key.symm.trans hkey))⟩

theorem found_of_fromCache {r : Resolution}
    (h : (resolver.answer caches call).1.result = .ok r) (cached : r.fromCache = true) :
    ∃ key entry, call.request.key? = some key ∧ call.request.forceRefresh = false ∧
      caches.results.peek? key = some entry ∧ entry.expiresAt.le call.now.clock = false ∧
      r = { entry.value with fromCache := true } := by
  have outcome := outcome_answer resolver caches call
  rw [h] at outcome
  generalize hresult : Except.ok r = result at outcome
  generalize (resolver.answer caches call).2.results = after at outcome
  cases outcome with
  | answered _ fresh =>
    obtain rfl := Except.ok.inj hresult
    cases cached.symm.trans fresh
  | found hkey unforced there alive =>
    exact ⟨_, _, hkey, unforced, there, alive, Except.ok.inj hresult⟩
  | unstored _ warned => cases cached.symm.trans (warned r hresult.symm).1
  | stored _ _ fresh =>
    obtain rfl := Except.ok.inj hresult
    cases cached.symm.trans fresh

theorem defaultTtl_answer (resolver : Resolver) (caches : ResolverCaches) (call : ResolverCall) :
    (resolver.answer caches call).2.results.defaultTtl = caches.results.defaultTtl := by
  have outcome := outcome_answer resolver caches call
  generalize (resolver.answer caches call).1.result = result at outcome
  generalize (resolver.answer caches call).2.results = after at outcome ⊢
  cases outcome with
  | answered => rfl
  | found _ _ _ _ keeps => exact keeps.1
  | unstored keeps => exact keeps.1
  | stored _ keeps _ _ put =>
    obtain ⟨_, -, hdefault, -⟩ := ExpiringCache.peek?_put? put
    exact hdefault.trans keeps.1

end Step

section Run

variable {resolver} {start : ResolverCaches}

/-- A call of a function of the tracker ends at a time, and not at NaN. -/
theorem stop?_spec (positive : (Number.int 0).lt start.results.defaultTtl = true)
    {call : ResolverCall} (finite : call.now.clock.IsFinite) {stop : Number}
    (h : resolver.stop? start call = some stop) : stop.isNaN = false := by
  obtain ⟨_, -, h⟩ := Option.bind_eq_some_iff.mp h
  exact Number.isNaN_of_add? finite (ExpiringCache.isNaN_ttl positive _) h

theorem stored_after (resolver : Resolver) (empty : ∀ key, start.results.peek? key = none)
    (history : List ResolverStep) :
    (resolver.after start history).results.defaultTtl = start.results.defaultTtl ∧
      ∀ key entry, (resolver.after start history).results.peek? key = some entry →
        resolver.Stored start history key entry := by
  induction history using List.reverseRecOn with
  | nil => exact ⟨rfl, fun key entry h => by simp [after, empty] at h⟩
  | append_singleton history last ih =>
    obtain ⟨hdefault, hstored⟩ := ih
    rw [after_concat]
    cases last with
    | clear => exact ⟨hdefault, fun key entry h => nomatch h⟩
    | resolve call =>
      refine ⟨(defaultTtl_answer resolver _ call).trans hdefault, fun key entry h => ?_⟩
      rcases produces_or_peek? h with ⟨produces, hstop⟩ | ⟨there, quiet⟩
      · exact ⟨call, .produced produces, resolver.stop?_congr hdefault call ▸ hstop⟩
      · obtain ⟨earlier, latest, hstop⟩ := hstored key entry there
        exact ⟨earlier, .kept latest quiet, hstop⟩

theorem Latest.mem {key : String} {history : List ResolverStep} {call : ResolverCall}
    {r : Resolution} (latest : resolver.Latest start key history call r) :
    .resolve call ∈ history := by
  induction latest with
  | produced => simp
  | kept _ _ ih => exact List.mem_append_left _ ih

end Run

/-- What one call of a resolver gives and stores after any others. A list from the cache is the
latest that was produced under its key and that has not reached its end; a call that answers a
builtin, missing or unknown function, that warns or that fails stores nothing; and a call that
refreshes stores what it gives. -/
theorem answer_after (resolver : Resolver) (start : ResolverCaches)
    (history : List ResolverStep) (call : ResolverCall)
    (empty : ∀ key, start.results.peek? key = none)
    (positive : (Number.int 0).lt start.results.defaultTtl = true)
    (finite : ∀ other, .resolve other ∈ history ∨ other = call → other.now.clock.IsFinite) :
    let caches := resolver.after start history
    let result := (resolver.answer caches call).1.result
    let stored := (resolver.answer caches call).2.results.peek?
    (∀ r, result = .ok r → r.fromCache = true →
      ∃ key earlier produced stop, call.request.key? = some key ∧
        resolver.Latest start key history earlier produced ∧
        r = { produced with fromCache := true } ∧
        resolver.stop? start earlier = some stop ∧ call.now.clock.lt stop = true) ∧
    ((call.request.own? = none ∨ (∃ e, result = .error e) ∨
        ∃ r, result = .ok r ∧ (r.warnings ≠ [] ∨ r.fromCache = true)) →
      ∀ key, stored key = caches.results.peek? key ∨
        stored key = none ∧ ∃ entry, caches.results.peek? key = some entry ∧
          entry.expiresAt.le call.now.clock = true) ∧
    (call.request.forceRefresh = true → ∀ r, result = .ok r → r.fromCache = false ∧
      ∀ key, call.request.key? = some key → r.warnings = [] →
        ∃ stop, stored key = some ⟨r, stop⟩ ∧ resolver.stop? start call = some stop) := by
  intro caches result stored
  obtain ⟨hdefault, hstored⟩ := stored_after resolver empty history
  refine ⟨fun r hr cached => ?_, fun other => (keeps_of_quiet fun key r produces => ?_).2,
    fun forced r hr => ?_⟩
  · obtain ⟨key, entry, hkey, -, there, alive, rfl⟩ := found_of_fromCache hr cached
    obtain ⟨earlier, latest, hstop⟩ := hstored key entry there
    refine ⟨key, earlier, entry.value, entry.expiresAt, hkey, latest, rfl, hstop, ?_⟩
    have hend := stop?_spec positive (finite earlier (.inl latest.mem)) hstop
    exact Number.lt_of_not_le hend (finite call (.inr rfl)).1 alive
  · rcases other with hown | ⟨e, he⟩ | ⟨r', hr', hwarned | hcached⟩
    · cases produces.key.symm.trans (ResolveRequest.key?_eq_none_iff.mpr hown)
    · cases he.symm.trans produces.result
    · obtain rfl := Except.ok.inj (hr'.symm.trans produces.result)
      exact hwarned produces.clean
    · obtain rfl := Except.ok.inj (hr'.symm.trans produces.result)
      cases hcached.symm.trans produces.fresh
  · have fresh : r.fromCache = false := by
      by_contra cached
      obtain ⟨_, _, _, unforced, _⟩ := found_of_fromCache hr (by simpa using cached)
      cases forced.symm.trans unforced
    refine ⟨fresh, fun key hkey clean => ?_⟩
    obtain ⟨stop, there, hstop⟩ := peek?_of_produces ⟨hkey, hr, fresh, clean⟩
    exact ⟨stop, there, resolver.stop?_congr hdefault call ▸ hstop⟩

def fieldsFunction : FunctionDefinition :=
  ⟨"fields", "Fields", none, ⟨1, Nat.one_pos⟩, some ⟨some ⟨60, by decide⟩, false⟩, true, .flat {
    namesEngine := false
    source := .layoutFields ⟨false, true⟩
    transforms := []
    output := ⟨.path "fieldLabel", .path "fieldId", none, none⟩ }⟩

/-- A tracker with one field and a function that lists it. -/
def fieldsContext (label : String) : OptionsContext where
  tracker := {
    tabs := []
    sections := []
    grids := []
    fields := [⟨"a", "string", some label, []⟩]
    layoutNodes := []
    validations := []
    calculations := []
    options := ⟨[("fields", fieldsFunction)], []⟩ }
  gridData := []
  runtime := .nowhere

/-- A call for the list, some seconds after the clock was started. -/
def fieldsCall (label : String) (seconds : Int) : ResolverCall where
  collaborators := {
    fetch := fun _ => .failed "timeout", secret := none, ai := none, remote := none }
  now := ⟨.int seconds, ⟨seconds * 1000000⟩⟩
  request := ⟨some "fields", fieldsContext label, [], none, false, none⟩

def fieldsResolver : Resolver :=
  ⟨.default, false, (fieldsCall "" 0).collaborators⟩

/-- The list is called for once. -/
def fieldsHistory (label : String) : List ResolverStep :=
  [.clear, .resolve (fieldsCall label 0)]

theorem eq_of_mem_fieldsHistory {label : String} {call : ResolverCall}
    (h : .resolve call ∈ fieldsHistory label) : call = fieldsCall label 0 := by
  simpa [fieldsHistory] using h

/-- What a call gives if it is the first one. -/
def fieldsList (label : String) : Resolution :=
  ⟨[.plain label (.str "a") "a"], .localCustom, "fields", false, ⟨0⟩, some ⟨60000000⟩, []⟩

/-- Within the minute that the list of the fields lives it is given again, whatever label the field
has now. -/
theorem answer_fieldsCall (label now : String)
    (first : (fieldsResolver.answer (.ofSettings .default) (fieldsCall label 0)).1.result =
      .ok (fieldsList label)) :
    (fieldsResolver.answer (fieldsResolver.after (.ofSettings .default) (fieldsHistory label))
        (fieldsCall now 59)).1.result =
      .ok { fieldsList label with fromCache := true } := by
  have own (label : String) (seconds : Int) :
    (fieldsCall label seconds).request.own? = some ("fields", fieldsFunction) := rfl
  have hkey : (fieldsCall label 0).request.cacheKey "fields" =
    (fieldsCall now 59).request.cacheKey "fields" := rfl
  have hcleared : fieldsResolver.after (.ofSettings .default) [.clear] = .ofSettings .default := by
    rfl
  have hafter : fieldsResolver.after (.ofSettings .default) (fieldsHistory label) =
      (fieldsResolver.answer (.ofSettings .default) (fieldsCall label 0)).2 := by
    rw [← hcleared]
    exact fieldsResolver.after_concat (.ofSettings .default) [.clear] (.resolve _)
  obtain ⟨stop, there, hstop⟩ := peek?_of_produces
    ⟨ResolveRequest.key?_of_own (own label 0), first, rfl, rfl⟩
  have hsixty : fieldsResolver.stop? (.ofSettings .default) (fieldsCall label 0) =
      some (.int 60) := by
    rw [fieldsResolver.stop?_of_own (own label 0)]
    change (Number.int 0).add? ((ResolverCaches.ofSettings .default).results.ttl
      (some (.int 60))) = _
    decide +kernel
  have alive : (Number.int 60).le (.int 59) = false := by decide +kernel
  obtain rfl : Number.int 60 = stop := Option.some.inj (hsixty.symm.trans hstop)
  rw [← hafter, hkey] at there
  exact answer_of_peek? fieldsResolver (own now 59) rfl there alive

theorem answer_after_fields :
    ∃ r, (fieldsResolver.answer
        (fieldsResolver.after (.ofSettings .default) (fieldsHistory "A"))
        (fieldsCall "A" 59)).1.result = .ok r ∧
      r.fromCache = true ∧
      ∃ key earlier produced stop, (fieldsCall "A" 59).request.key? = some key ∧
        fieldsResolver.Latest (.ofSettings .default) key (fieldsHistory "A") earlier produced ∧
        r = { produced with fromCache := true } ∧
        fieldsResolver.stop? (.ofSettings .default) earlier = some stop ∧
        (Number.int 59).lt stop = true := by
  have first : (fieldsResolver.answer (.ofSettings .default) (fieldsCall "A" 0)).1.result =
      .ok (fieldsList "A") := by
    decide +kernel
  have hit := answer_fieldsCall "A" "A" first
  refine ⟨_, hit, rfl, (answer_after fieldsResolver (.ofSettings .default) (fieldsHistory "A")
    (fieldsCall "A" 59) (fun _ => rfl) (by decide +kernel) ?_).1 _ hit rfl⟩
  rintro other (h | rfl)
  · obtain rfl := eq_of_mem_fieldsHistory h
    exact ⟨rfl, rfl⟩
  · exact ⟨rfl, rfl⟩

end Resolver

end GridRules
