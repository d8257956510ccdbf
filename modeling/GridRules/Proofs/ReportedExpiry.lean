import GridRules.Proofs.ExpiringRuns
import GridRules.Proofs.ServedLists
/-!
The end that a list reports and the end that its cache keeps to. They are chosen apart from each
other: the list names the time to live that its call asks for, and the cache takes that one only if
it is positive. So they are the same unless a call asks for a negative time; and then a list that is
stored is given again for less than the time between the two dates that it reports.
-/

namespace GridRules

namespace Number

/-- A reading of a clock that counts without fractions. -/
def IsWhole : Number → Prop
  | .int _ => True
  | .float _ => False

/-- A reading that doubles can show. -/
def IsDouble : Number → Prop
  | .int n => n.natAbs < 2 ^ 53
  | .float x => x.isFinite = true

theorem IsDouble.exists_double {a : Number} (h : a.IsDouble) :
    ∃ b : Binary64, b.isFinite = true ∧ (float b).isNaN = a.isNaN ∧
      (float b).place = a.place := by
  cases a with
  | float x => exact ⟨x, h, rfl, rfl⟩
  | int n =>
    have hfinite := Binary64.isFinite_ofInt h
    refine ⟨.ofInt n, hfinite, (isFinite_float.mpr hfinite).1, ?_⟩
    rw [place_float hfinite, Binary64.units_ofInt h, place]

/-- The exact time from one reading of a clock to another, in units of `2 ^ -1074` seconds. -/
def elapsed (earlier later : Number) : Int :=
  later.place.2 - earlier.place.2

/-- So many seconds in the units in which time elapses. -/
def unitsOfSeconds (seconds : Int) : Int :=
  seconds * (Binary64.one : Int)

variable {earlier later stop : Number} {seconds : Int}

/-- Whole seconds are added without rounding. -/
theorem lt_iff_elapsed (whole : earlier.IsWhole) (finite : later.IsFinite)
    (h : earlier.add? (.int seconds) = some stop) :
    later.lt stop = true ↔ elapsed earlier later < unitsOfSeconds seconds := by
  cases earlier with
  | float => cases whole
  | int n =>
    obtain rfl := Option.some.inj h
    rw [lt_iff_of_isFinite finite (isFinite_int _), elapsed, unitsOfSeconds]
    simp only [place, Int.add_mul]
    omega

/-- What is below a time to live, as the clock adds it, is exactly below it: what doubles can show
is not passed over when the end is rounded. -/
theorem elapsed_lt_of_lt (hearlier : earlier.IsFinite) (hlater : later.IsFinite)
    (shown : earlier.IsWhole ∨ later.IsDouble) (short : seconds.natAbs < 2 ^ 53)
    (h : earlier.add? (.int seconds) = some stop) (hlt : later.lt stop = true) :
    elapsed earlier later < unitsOfSeconds seconds := by
  cases earlier with
  | int n =>
    have whole : (int n).IsWhole := trivial
    exact (lt_iff_elapsed whole hlater h).mp hlt
  | float x =>
    obtain ⟨b, hb, hnan, hplace⟩ := (shown.resolve_left id).exists_double
    have hlt : (float b).lt stop = true := by
      simpa only [lt, hnan, hplace] using hlt
    obtain ⟨y, hy, rfl⟩ := add?_of_float h
    rw [toFloat?] at hy
    have hy' := isFinite_of_floatOfInt? hy
    obtain rfl := ofInt_of_floatOfInt? hy
    have hx := isFinite_float.mp hearlier
    have hsum := units_lt_of_lt_add hb hx hy' hlt
    rw [Binary64.units_ofInt short] at hsum
    rw [elapsed, ← hplace, place_float hb, place_float hx, unitsOfSeconds]
    omega

end Number

namespace Instant

theorem addSeconds?_eq_some {time moved : Instant} {seconds : Int}
    (h : time.addSeconds? seconds = some moved) :
    moved.microseconds = time.microseconds + seconds * 1000000 ∧
      first ≤ moved.microseconds ∧ moved.microseconds ≤ last := by
  unfold addSeconds? at h
  dsimp only at h
  split at h
  next hcalendar =>
    obtain rfl := Option.some.inj h
    simp only [Bool.and_eq_true, decide_eq_true_eq] at hcalendar
    exact ⟨rfl, hcalendar⟩
  next => cases h

/-- No span of the calendar is too long to be exact as a double. -/
theorem seconds_lt_of_addSeconds? {time moved : Instant} {seconds : Int}
    (dated : first ≤ time.microseconds) (h : time.addSeconds? seconds = some moved) :
    seconds < 2 ^ 53 := by
  obtain ⟨hmoved, -, hlast⟩ := addSeconds?_eq_some h
  simp only [first, last] at dated hlast
  omega

end Instant

namespace ResolveRequest

/-- The call asks for a time to live below zero. -/
def AsksNegative (request : ResolveRequest) : Prop :=
  ∃ seconds ∈ request.ttlOverride, seconds < 0

end ResolveRequest

namespace Number

theorem int_zero_lt_iff (seconds : Int) : (int 0).lt (.int seconds) = true ↔ 0 < seconds := by
  have hone : (0 : Int) < Binary64.one := Int.natCast_pos.mpr (by decide +kernel)
  rw [lt_iff_of_isFinite (isFinite_int 0) (isFinite_int seconds)]
  simp only [place, Int.zero_mul]
  exact mul_pos_iff_of_pos_right hone

end Number

/-- A cache takes the time to live that is asked for if it is positive, and then only. -/
theorem ExpiringCache.ttl_eq_iff {κ ν : Type} {cache : ExpiringCache κ ν}
    (positive : (Number.int 0).lt cache.defaultTtl = true) (seconds : Int) :
    cache.ttl (some (.int seconds)) = .int seconds ↔ 0 < seconds := by
  rw [← Number.int_zero_lt_iff]
  unfold ttl
  dsimp only
  split
  next h => exact iff_of_true rfl h
  next h => exact ⟨fun hsame => hsame ▸ positive, fun hlt => absurd hlt h⟩

/-- A list says that it ends so many seconds after it was fetched. -/
def Resolution.Reports (r : Resolution) (seconds : Int) : Prop :=
  ∃ expiresAt, r.expiresAt = some expiresAt ∧
    expiresAt.microseconds - r.fetchedAt.microseconds = seconds * 1000000

namespace Resolver

variable {resolver : Resolver} {caches start : ResolverCaches} {call : ResolverCall}

theorem ttlSeconds_eq_asked {definition : FunctionDefinition} {request : ResolveRequest}
    {seconds : Int} (h : request.ttlOverride = some seconds) (hne : seconds ≠ 0) :
    resolver.ttlSeconds definition request = seconds := by
  unfold ttlSeconds
  dsimp only
  split
  next hnone => cases hnone.symm.trans h
  next hzero => exact absurd (Option.some.inj (h.symm.trans hzero)) hne
  next hsome => exact Option.some.inj (hsome.symm.trans h)

/-- The times to live of definitions and settings are positive. -/
theorem ttlSeconds_pos {definition : FunctionDefinition} {request : ResolveRequest}
    (h : ∀ seconds ∈ request.ttlOverride, seconds = 0) :
    0 < resolver.ttlSeconds definition request := by
  unfold ttlSeconds
  dsimp only
  split
  case h_1 | h_2 =>
    split
    next seconds _ => exact Int.natCast_pos.mpr seconds.2
    next => exact Int.natCast_pos.mpr resolver.settings.cache.resultTtlSeconds.2
  case h_3 seconds hne hsome => exact absurd (h seconds hsome) hne

theorem ttlSeconds_pos_iff (resolver : Resolver) (definition : FunctionDefinition)
    (request : ResolveRequest) :
    0 < resolver.ttlSeconds definition request ↔ ¬ request.AsksNegative := by
  unfold ResolveRequest.AsksNegative
  by_cases asked : ∃ seconds ∈ request.ttlOverride, seconds ≠ 0
  · obtain ⟨seconds, hsome, hne⟩ := asked
    rw [ttlSeconds_eq_asked hsome hne]
    simp only [show request.ttlOverride = some seconds from hsome, Option.mem_some_iff,
      exists_eq_left']
    omega
  · push Not at asked
    refine iff_of_true (ttlSeconds_pos asked) ?_
    rintro ⟨seconds, hsome, hnegative⟩
    have := asked seconds hsome
    omega

theorem store_expires {results : ExpiringCache String Resolution} {key functionId : String}
    {ttl : Int} {now : Moment} {fetched : FetchedOptions} {r : Resolution}
    (h : (store results key functionId ttl now fetched).1.result = .ok r)
    (clean : r.warnings = []) :
    r.fetchedAt = now.date ∧ ∃ expiresAt, r.expiresAt = some expiresAt ∧
      now.date.addSeconds? ttl = some expiresAt := by
  obtain ⟨-, -, hwarnings⟩ := store_eq_ok h
  unfold store at h
  dsimp only at h
  rw [if_neg (by simp [← hwarnings, clean])] at h
  split at h
  next => cases h
  next expiresAt hmoved =>
    split at h
    next => cases h
    next =>
      obtain rfl := Except.ok.inj h
      exact ⟨rfl, expiresAt, rfl, hmoved⟩

/-- A list that is stored reports the time to live that its call has chosen, and it is short enough
to be exact as a double. -/
theorem reports_of_produces {key : String} {r : Resolution}
    (h : resolver.Produces caches key call r) :
    ∃ functionId definition, call.request.own? = some (functionId, definition) ∧
      r.fetchedAt = call.now.date ∧
      r.Reports (resolver.ttlSeconds definition call.request) ∧
      (Instant.first ≤ call.now.date.microseconds →
        resolver.ttlSeconds definition call.request < 2 ^ 53) := by
  obtain ⟨⟨functionId, definition⟩, own, -⟩ := Option.map_eq_some_iff.mp h.key
  obtain ⟨looked, -, hfetch⟩ := fetch_of_fresh own h.result h.fresh
  obtain ⟨_, fetched, -, -, hstore⟩ := fetch_eq_ok hfetch
  obtain ⟨hfetched, expiresAt, hexpires, hmoved⟩ := store_expires hstore h.clean
  -- the collaborators of a call do not change how long its list lives
  have hplus : expiresAt.microseconds = call.now.date.microseconds +
      resolver.ttlSeconds definition call.request * 1000000 :=
    (Instant.addSeconds?_eq_some hmoved).1
  refine ⟨functionId, definition, own, hfetched, ⟨expiresAt, hexpires, ?_⟩,
    fun dated => Instant.seconds_lt_of_addSeconds? dated hmoved⟩
  rw [hfetched]
  omega

/-- The stored list is given again up to the time that the cache has for its end. -/
theorem served_again_iff {key : String} {r : Resolution} {stop : Number}
    (h : resolver.Produces caches key call r) (hstop : resolver.stop? caches call = some stop)
    (hnan : stop.isNaN = false) {next : ResolverCall} (finite : next.now.clock.IsFinite)
    (hkey : next.request.key? = some key) (unforced : next.request.forceRefresh = false) :
    (resolver.answer (resolver.answer caches call).2 next).1.result =
        .ok { r with fromCache := true } ↔ next.now.clock.lt stop = true := by
  obtain ⟨stop', there, hstop'⟩ := peek?_of_produces h
  obtain rfl := Option.some.inj (hstop.symm.trans hstop')
  constructor
  · intro hserved
    obtain ⟨key', entry, hkey', -, there', alive, -⟩ := found_of_fromCache hserved rfl
    obtain rfl := Option.some.inj (hkey.symm.trans hkey')
    obtain rfl := Option.some.inj (there.symm.trans there')
    exact Number.lt_of_not_le hnan finite.1 alive
  · intro hlt
    obtain ⟨⟨functionId, definition⟩, own, rfl⟩ := Option.map_eq_some_iff.mp hkey
    exact answer_of_peek? resolver own unforced there (Number.not_le_of_lt hlt)

/-- The list that a call has stored is given again as long as the clock is before its reading at
that call plus so many seconds; that is as long as less time has passed, if it counts without
fractions. -/
def ServedFor (resolver : Resolver) (caches : ResolverCaches) (call : ResolverCall) (key : String)
    (r : Resolution) (seconds : Int) : Prop :=
  ∃ stop, call.now.clock.add? (.int seconds) = some stop ∧
    ∀ next : ResolverCall, next.now.clock.IsFinite → next.request.key? = some key →
      next.request.forceRefresh = false →
      ((resolver.answer (resolver.answer caches call).2 next).1.result =
          .ok { r with fromCache := true } ↔ next.now.clock.lt stop = true) ∧
      (call.now.clock.IsWhole → (next.now.clock.lt stop = true ↔
        Number.elapsed call.now.clock next.now.clock < Number.unitsOfSeconds seconds))

/-- The clock shows finite numbers, which doubles can show unless it counts without fractions; and
the calendar has begun. -/
structure Timed (history : List ResolverStep) (call : ResolverCall) : Prop where
  finite : ∀ other, .resolve other ∈ history ∨ other = call → other.now.clock.IsFinite
  shown : ∀ other, .resolve other ∈ history →
    other.now.clock.IsWhole ∨ call.now.clock.IsDouble
  dated : ∀ other, .resolve other ∈ history →
    Instant.first ≤ other.now.date.microseconds

/-- What a list says of its end and what the cache does with it. A call that stores a list reports
the time to live that the cache keeps to unless it asks for a negative one; then the list is given
again up to that time. And whenever a list is given again, less time has passed since it was stored
than it reports, unless a negative time was asked for. -/
theorem reported_expiry (resolver : Resolver) (start : ResolverCaches)
    (history : List ResolverStep) (call : ResolverCall)
    (empty : ∀ key, start.results.peek? key = none)
    (positive : (Number.int 0).lt start.results.defaultTtl = true)
    (timed : Timed history call) :
    let caches := resolver.after start history
    (∀ key r, resolver.Produces caches key call r → r.fetchedAt = call.now.date ∧
      ∃ seconds, r.Reports seconds ∧
        (caches.results.ttl (some (.int seconds)) = .int seconds ↔
          ¬ call.request.AsksNegative) ∧
        (¬ call.request.AsksNegative → resolver.ServedFor caches call key r seconds)) ∧
    ∀ r, (resolver.answer caches call).1.result = .ok r → r.fromCache = true →
      ∃ key earlier produced seconds,
        resolver.Latest start key history earlier produced ∧
        r = { produced with fromCache := true } ∧
        r.fetchedAt = earlier.now.date ∧ r.Reports seconds ∧
        (¬ earlier.request.AsksNegative →
          Number.elapsed earlier.now.clock call.now.clock < Number.unitsOfSeconds seconds) := by
  intro caches
  obtain ⟨hdefault, hstored⟩ := stored_after resolver empty history
  have positive' : (Number.int 0).lt caches.results.defaultTtl = true := hdefault ▸ positive
  constructor
  · intro key r produces
    obtain ⟨functionId, definition, own, hfetched, hreports, -⟩ := reports_of_produces produces
    obtain ⟨stop, -, hstop⟩ := peek?_of_produces produces
    have hsame := (ExpiringCache.ttl_eq_iff positive' _).trans
      (resolver.ttlSeconds_pos_iff definition call.request)
    refine ⟨hfetched, _, hreports, hsame, fun asks => ?_⟩
    have hadd := hstop
    rw [resolver.stop?_of_own own, hsame.mpr asks] at hadd
    have hnan := Number.isNaN_of_add? (timed.finite call (.inr rfl)) rfl hadd
    exact ⟨stop, hadd, fun next finite hkey unforced =>
      ⟨served_again_iff produces hstop hnan finite hkey unforced,
        fun whole => Number.lt_iff_elapsed whole finite hadd⟩⟩
  · intro r hr cached
    obtain ⟨key, entry, hkey, -, there, alive, rfl⟩ := found_of_fromCache hr cached
    obtain ⟨earlier, latest, hstop⟩ := hstored key entry there
    obtain ⟨before, later, -, produces⟩ := latest.exists_before
    obtain ⟨functionId, definition, own, hfetched, hreports, hshort⟩ :=
      reports_of_produces produces
    refine ⟨key, earlier, entry.value, _, latest, rfl, hfetched, hreports, fun asks => ?_⟩
    have hpositive := (resolver.ttlSeconds_pos_iff definition earlier.request).mpr asks
    have hshort := hshort (timed.dated earlier latest.mem)
    rw [resolver.stop?_of_own own, (ExpiringCache.ttl_eq_iff positive _).mpr hpositive] at hstop
    have hearlier := timed.finite earlier (.inl latest.mem)
    have hlater := timed.finite call (.inr rfl)
    have hlt := Number.lt_of_not_le (Number.isNaN_of_add? hearlier rfl hstop) hlater.1 alive
    exact Number.elapsed_lt_of_lt hearlier hlater (timed.shown earlier latest.mem) (by omega) hstop
      hlt

/-- The list of the fields that is given again at the end of its minute has not reached its end. -/
theorem reported_expiry_fields :
    ∃ r seconds, (fieldsResolver.answer
        (fieldsResolver.after (.ofSettings .default) (fieldsHistory "A"))
        (fieldsCall "A" 59)).1.result = .ok r ∧
      r.fromCache = true ∧ r.Reports seconds ∧
      Number.elapsed (.int 0) (.int 59) < Number.unitsOfSeconds seconds := by
  have hit := answer_fieldsCall "A" "A" (by decide +kernel)
  have timed : Timed (fieldsHistory "A") (fieldsCall "A" 59) := by
    refine ⟨fun other h => ?_, fun other h => .inr ?_, fun other h => ?_⟩
    · rcases h with h | rfl
      · obtain rfl := eq_of_mem_fieldsHistory h
        exact Number.isFinite_int 0
      · exact Number.isFinite_int 59
    · exact (by decide : Int.natAbs 59 < 2 ^ 53)
    · obtain rfl := eq_of_mem_fieldsHistory h
      decide
  obtain ⟨-, served⟩ := reported_expiry fieldsResolver (.ofSettings .default) (fieldsHistory "A")
    (fieldsCall "A" 59) (fun _ => rfl) (by decide +kernel) timed
  obtain ⟨_, earlier, _, seconds, latest, -, -, hreports, hwithin⟩ := served _ hit rfl
  obtain rfl := eq_of_mem_fieldsHistory latest.mem
  exact ⟨_, seconds, hit, rfl, hreports, hwithin (by rintro ⟨_, ⟨⟩, _⟩)⟩

/-- A call for the list that asks for a time to live of minus one minute. -/
def hurriedCall : ResolverCall :=
  let call := fieldsCall "A" 0
  { call with request := { call.request with ttlOverride := some (-60) } }

/-- The list that reports to have ended before it was fetched is given again minutes later, as long
as lists live by default. -/
theorem served_past_reported_expiry :
    ∃ r, (fieldsResolver.answer (.ofSettings .default) hurriedCall).1.result = .ok r ∧
      r.Reports (-60) ∧
      (fieldsResolver.answer (fieldsResolver.answer (.ofSettings .default) hurriedCall).2
        (fieldsCall "A" 299)).1.result = .ok { r with fromCache := true } ∧
      ¬ Number.elapsed (.int 0) (.int 299) < Number.unitsOfSeconds (-60) := by
  have first : (fieldsResolver.answer (.ofSettings .default) hurriedCall).1.result =
      .ok { fieldsList "A" with expiresAt := some ⟨-60000000⟩ } := by
    decide +kernel
  have own : hurriedCall.request.own? = some ("fields", fieldsFunction) := rfl
  have hstop : fieldsResolver.stop? (.ofSettings .default) hurriedCall = some (.int 300) := by
    rw [fieldsResolver.stop?_of_own own]
    change (Number.int 0).add? ((ResolverCaches.ofSettings .default).results.ttl
      (some (.int (-60)))) = _
    decide +kernel
  have produces : fieldsResolver.Produces (.ofSettings .default) _ hurriedCall _ :=
    ⟨ResolveRequest.key?_of_own own, first, rfl, rfl⟩
  refine ⟨_, first, ⟨_, rfl, by decide⟩, ?_, by decide +kernel⟩
  exact (served_again_iff produces hstop rfl (Number.isFinite_int 299) rfl rfl).mpr
    (by decide +kernel)

end Resolver

end GridRules
