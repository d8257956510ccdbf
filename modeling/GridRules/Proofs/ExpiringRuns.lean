import GridRules.Proofs.CacheRuns
/-!
Runs of a cache whose entries expire. A lookup gives what was put last and is still alive by the
clock, and the counters agree with that although an expired entry is found before it is dropped.
-/

namespace GridRules

namespace Number

/-- What a clock can show: a number that is not infinitely long ago. -/
def IsReading (a : Number) : Prop :=
  a.isNaN = false ∧ 0 ≤ a.place.1

theorem isReading_int (n : Int) : (int n).IsReading :=
  ⟨rfl, Int.le_refl 0⟩

/-- A positive time after a reading there is a time again. -/
theorem isNaN_of_reading_add? {a b c : Number} (ha : a.IsReading) (hb : (int 0).lt b = true)
    (h : a.add? b = some c) : c.isNaN = false := by
  obtain ⟨hnan, hplace⟩ := ha
  by_cases hfinite : a.place.1 = 0
  · exact isNaN_of_add? ⟨hnan, hfinite⟩ (isNaN_of_lt hb) h
  -- from the infinite future only the infinite past leads to no number, and it is not positive
  · obtain rfl : a = .float (.infinite false) := by
      cases a with
      | int n => exact absurd rfl hfinite
      | float x =>
        cases x with
        | nan => cases hnan
        | finite => exact absurd rfl hfinite
        | infinite negative =>
          cases negative with
          | true => simp [place] at hplace
          | false => rfl
    obtain ⟨y, hy, h⟩ := Option.bind_eq_some_iff.mp h
    obtain rfl := Option.some.inj h
    cases y with
    | nan =>
      have hb' := isNaN_of_toFloat? (isNaN_of_lt hb) hy
      cases hb'
    | finite => rfl
    | infinite negative =>
      cases negative with
      | false => rfl
      | true =>
        cases b with
        | int n =>
          rw [toFloat?] at hy
          have hinfinite := isFinite_of_floatOfInt? hy
          cases hinfinite
        | float z =>
          obtain rfl := Option.some.inj hy
          have hle := place_le_of_lt hb
          exact absurd hle (by decide)

end Number

/-- A use of an expiring cache, with what the clock shows when the cache reads it. The clock may go
on between two uses as it likes. -/
inductive ExpiringStep (κ ν : Type) where
  | get (now : Number) (key : κ)
  | put (now : Number) (key : κ) (value : ν) (asked : Option Number)
  | clear

namespace ExpiringStep

variable {κ ν : Type}

def isGet : ExpiringStep κ ν → Bool
  | .get _ _ => true
  | _ => false

def reading? : ExpiringStep κ ν → Option Number
  | .get now _ | .put now _ _ _ => some now
  | .clear => none

end ExpiringStep

namespace ExpiringCache

open BoundedCache (intOne doubleOne textOne)

variable {κ ν : Type} [BEq κ]

/-- The cache that has nothing yet. -/
def ofLimit (limit : Positive) (defaultTtl : Number) : ExpiringCache κ ν :=
  ⟨.ofLimit limit, defaultTtl, 0⟩

/-- One step; an entry whose end is no time leaves the cache as it is. -/
def step (cache : ExpiringCache κ ν) : ExpiringStep κ ν → ExpiringCache κ ν
  | .get now key => (cache.get now key).2
  | .put now key value asked => (cache.put? now key value asked).getD cache
  | .clear => cache.clear

def after (limit : Positive) (defaultTtl : Number) (steps : List (ExpiringStep κ ν)) :
    ExpiringCache κ ν :=
  steps.foldl step (ofLimit limit defaultTtl)

theorem after_concat (limit : Positive) (defaultTtl : Number) (steps : List (ExpiringStep κ ν))
    (last : ExpiringStep κ ν) :
    after limit defaultTtl (steps ++ [last]) = (after limit defaultTtl steps).step last := by
  rw [after, List.foldl_append]
  rfl

/-- Whether a step leaves what the cache has under a key in place. A lookup takes away what is dead
by then. -/
def Spares (cache : ExpiringCache κ ν) (key : κ) : ExpiringStep κ ν → Prop
  | .get now other =>
    (key == other) = true → ∀ entry, cache.peek? other = some entry → entry.expiresAt.le now = false
  | .put now other value asked =>
    (cache.put? now other value asked).isSome = true →
      (key == other) = false ∧ cache.entries.overflows other = false
  | .clear => False

/-- The value that was put last under a key, the time when it was put and the time to live that was
asked for, if it was not dropped since. -/
inductive Latest (limit : Positive) (defaultTtl : Number) (key : κ) :
    List (ExpiringStep κ ν) → Number → ν → Option Number → Prop
  | put {steps : List (ExpiringStep κ ν)} {time : Number} {other : κ} {value : ν}
    {asked : Option Number} (same : (key == other) = true)
    (stored : ((after limit defaultTtl steps).put? time other value asked).isSome = true) :
    Latest limit defaultTtl key (steps ++ [.put time other value asked]) time value asked
  | kept {steps : List (ExpiringStep κ ν)} {step : ExpiringStep κ ν} {time : Number} {value : ν}
    {asked : Option Number} (h : Latest limit defaultTtl key steps time value asked)
    (spares : (after limit defaultTtl steps).Spares key step) :
    Latest limit defaultTtl key (steps ++ [step]) time value asked

/-- One for a lookup that finds something alive. -/
def finds (cache : ExpiringCache κ ν) : ExpiringStep κ ν → Nat
  | .get now key => (cache.get now key).1.isSome.toNat
  | _ => 0

/-- One for a lookup that finds nothing alive. -/
def lacks (cache : ExpiringCache κ ν) : ExpiringStep κ ν → Nat
  | .get now key => (cache.get now key).1.isNone.toNat
  | _ => 0

/-- One for a key that is put and was not there, dead or alive. -/
def inserts (cache : ExpiringCache κ ν) : ExpiringStep κ ν → Nat
  | .put now key value asked =>
    if (cache.put? now key value asked).isSome then (if cache.entries.contains key then 0 else 1)
    else 0
  | _ => 0

def cleared (cache : ExpiringCache κ ν) : ExpiringStep κ ν → Nat
  | .clear => cache.size
  | _ => 0

section Steps

/-- A lookup finds nothing, something that is dead and goes, or something alive. -/
theorem get_cases (cache : ExpiringCache κ ν) (now : Number) (key : κ) :
    (cache.peek? key = none ∧
      cache.get now key = (none, { cache with entries := (cache.entries.get key).2 })) ∨
    (∃ entry, cache.peek? key = some entry ∧ entry.expiresAt.le now = true ∧
      cache.get now key =
        (none, { cache with
          entries := (cache.entries.get key).2.discard key, expired := cache.expired + 1 })) ∨
    ∃ entry, cache.peek? key = some entry ∧ entry.expiresAt.le now = false ∧
      cache.get now key =
        (some entry.value, { cache with entries := (cache.entries.get key).2 }) := by
  have hget : cache.entries.get key = (cache.peek? key, (cache.entries.get key).2) :=
    Prod.ext (cache.entries.get_fst key) rfl
  cases hpeek : cache.peek? key with
  | none =>
    rw [hpeek] at hget
    refine .inl ⟨rfl, ?_⟩
    rw [get, hget]
  | some entry =>
    rw [hpeek] at hget
    cases hdead : entry.expiresAt.le now with
    | true =>
      refine .inr (.inl ⟨entry, rfl, hdead, ?_⟩)
      rw [get, hget]
      simp [hdead]
    | false =>
      refine .inr (.inr ⟨entry, rfl, hdead, ?_⟩)
      rw [get, hget]
      simp [hdead]

theorem defaultTtl_step (cache : ExpiringCache κ ν) (step : ExpiringStep κ ν) :
    (cache.step step).defaultTtl = cache.defaultTtl := by
  cases step with
  | get now key =>
    obtain ⟨-, h⟩ | ⟨_, -, -, h⟩ | ⟨_, -, -, h⟩ := cache.get_cases now key <;>
      rw [ExpiringCache.step, h]
  | put now key value asked =>
    rw [ExpiringCache.step, put?]
    cases now.add? (cache.ttl asked) <;> rfl
  | clear => rfl

theorem ttl_after (limit : Positive) (defaultTtl : Number) (steps : List (ExpiringStep κ ν))
    (asked : Option Number) :
    (after limit defaultTtl steps).ttl asked =
      (ofLimit limit defaultTtl : ExpiringCache κ ν).ttl asked := by
  refine ttl_congr ?_ asked
  induction steps using List.reverseRecOn with
  | nil => rfl
  | append_singleton steps last ih => rw [after_concat, defaultTtl_step, ih]

omit [BEq κ] in
theorem ttl_pos {cache : ExpiringCache κ ν} (positive : (Number.int 0).lt cache.defaultTtl = true)
    (asked : Option Number) : (Number.int 0).lt (cache.ttl asked) = true := by
  unfold ttl
  split
  next seconds =>
    split
    next h => exact h
    next => exact positive
  next => exact positive

theorem distinct_step [EquivBEq κ] {cache : ExpiringCache κ ν}
    (distinct : BoundedCache.Distinct cache.entries.entries) (step : ExpiringStep κ ν) :
    BoundedCache.Distinct (cache.step step).entries.entries := by
  cases step with
  | get now key =>
    have hkept := BoundedCache.distinct_step distinct (.get key)
    obtain ⟨-, h⟩ | ⟨_, -, -, h⟩ | ⟨_, -, -, h⟩ := cache.get_cases now key <;>
      rw [ExpiringCache.step, h]
    · exact hkept
    · exact BoundedCache.distinct_step hkept (.discard key)
    · exact hkept
  | put now key value asked =>
    rw [ExpiringCache.step, put?]
    cases now.add? (cache.ttl asked) with
    | none => exact distinct
    | some stop => exact BoundedCache.distinct_step distinct (.put key ⟨value, stop⟩)
  | clear => exact List.Pairwise.nil

theorem distinct_after [EquivBEq κ] (limit : Positive) (defaultTtl : Number)
    (steps : List (ExpiringStep κ ν)) :
    BoundedCache.Distinct (after limit defaultTtl steps).entries.entries := by
  induction steps using List.reverseRecOn with
  | nil => exact List.Pairwise.nil
  | append_singleton steps last ih =>
    rw [after_concat]
    exact distinct_step ih last

end Steps

section Latest

variable [EquivBEq κ]

theorem peek?_step (cache : ExpiringCache κ ν) (step : ExpiringStep κ ν) (key : κ)
    (entry : Expiring ν) :
    (cache.step step).peek? key = some entry ↔
      (∃ time other asked, step = .put time other entry.value asked ∧ (key == other) = true ∧
        time.add? (cache.ttl asked) = some entry.expiresAt) ∨
      cache.peek? key = some entry ∧ cache.Spares key step := by
  cases step with
  | get now other =>
    -- a lookup takes an entry away only if it is dead and stands under the same key
    have hkept := cache.entries.find?_get other key
    obtain ⟨hpeek, h⟩ | ⟨found, hpeek, dead, h⟩ | ⟨found, hpeek, alive, h⟩ :=
      cache.get_cases now other
    · simp [ExpiringCache.step, h, peek?, hkept, Spares,
        show cache.entries.find? other = none from hpeek]
    · simp only [ExpiringCache.step, h, peek?, BoundedCache.find?_discard, hkept, Spares,
        show cache.entries.find? other = some found from hpeek]
      cases hsame : key == other with
      | true => simp [dead]
      | false => simp
    · simp [ExpiringCache.step, h, peek?, hkept, Spares,
        show cache.entries.find? other = some found from hpeek, alive]
  | put now other value asked =>
    obtain ⟨v, t⟩ := entry
    rw [ExpiringCache.step, Spares, put?]
    cases hstop : now.add? (cache.ttl asked) with
    | none => simp [hstop]
    | some stop =>
      simp only [Option.map_some, Option.getD_some, peek?, BoundedCache.find?_put]
      cases hsame : key == other with
      | true => simp [hsame, hstop]
      | false => cases hfull : cache.entries.overflows other <;> simp [hsame]
  | clear => simp [ExpiringCache.step, clear, peek?, BoundedCache.clear, BoundedCache.find?, Spares]

omit [EquivBEq κ] in
theorem latest_concat_iff {limit : Positive} {defaultTtl : Number} {key : κ}
    {steps : List (ExpiringStep κ ν)} {last : ExpiringStep κ ν} {time : Number} {value : ν}
    {asked : Option Number} :
    Latest limit defaultTtl key (steps ++ [last]) time value asked ↔
      (∃ other, last = .put time other value asked ∧ (key == other) = true ∧
        ((after limit defaultTtl steps).put? time other value asked).isSome = true) ∨
      Latest limit defaultTtl key steps time value asked ∧
        (after limit defaultTtl steps).Spares key last := by
  constructor
  · intro h
    generalize hall : steps ++ [last] = all at h
    cases h with
    | put same stored =>
      obtain ⟨rfl, hlast⟩ := List.append_inj' hall rfl
      exact .inl ⟨_, (List.cons.inj hlast).1, same, stored⟩
    | kept h spares =>
      obtain ⟨rfl, hlast⟩ := List.append_inj' hall rfl
      exact .inr ⟨h, (List.cons.inj hlast).1 ▸ spares⟩
  · rintro (⟨other, rfl, same, stored⟩ | ⟨h, spares⟩)
    · exact .put same stored
    · exact .kept h spares

/-- What the cache has under a key, dead or alive, is what was put there last. -/
theorem peek?_after_iff (limit : Positive) (defaultTtl : Number)
    (steps : List (ExpiringStep κ ν)) (key : κ) (entry : Expiring ν) :
    (after limit defaultTtl steps).peek? key = some entry ↔
      ∃ time asked, Latest limit defaultTtl key steps time entry.value asked ∧
        time.add? ((ofLimit limit defaultTtl : ExpiringCache κ ν).ttl asked) =
          some entry.expiresAt := by
  induction steps using List.reverseRecOn with
  | nil =>
    refine ⟨fun h => ?_, fun ⟨time, asked, h, _⟩ => ?_⟩
    · simp [after, ofLimit, peek?, BoundedCache.ofLimit, BoundedCache.empty,
        BoundedCache.find?] at h
    · generalize hall : ([] : List (ExpiringStep κ ν)) = all at h
      cases h <;> simp at hall
  | append_singleton steps last ih =>
    simp only [after_concat, peek?_step, ih, ttl_after, latest_concat_iff]
    constructor
    · rintro (⟨time, other, asked, rfl, same, hstop⟩ | ⟨⟨time, asked, h, hstop⟩, spares⟩)
      · refine ⟨time, asked, .inl ⟨other, rfl, same, ?_⟩, hstop⟩
        rw [put?, ttl_after, hstop]
        rfl
      · exact ⟨time, asked, .inr ⟨h, spares⟩, hstop⟩
    · rintro ⟨time, asked, ⟨other, rfl, same, -⟩ | ⟨h, spares⟩, hstop⟩
      · exact .inl ⟨time, other, asked, rfl, same, hstop⟩
      · exact .inr ⟨⟨time, asked, h, hstop⟩, spares⟩

omit [EquivBEq κ] in
/-- What was put last was put at a time that the clock showed. -/
theorem Latest.reading {limit : Positive} {defaultTtl : Number} {key : κ}
    {steps : List (ExpiringStep κ ν)} {time : Number} {value : ν} {asked : Option Number}
    (h : Latest limit defaultTtl key steps time value asked)
    (readings : ∀ step ∈ steps, ∀ now, step.reading? = some now → now.IsReading) :
    time.IsReading := by
  induction h with
  | put => exact readings _ (List.mem_append_right _ (List.mem_singleton_self _)) _ rfl
  | kept h spares ih => exact ih fun step hstep => readings step (List.mem_append_left _ hstep)

/-- What a lookup finds was put last under its key, and its time to live has not passed. -/
theorem get_after_iff {limit : Positive} {defaultTtl : Number}
    (positive : (Number.int 0).lt defaultTtl = true) {steps : List (ExpiringStep κ ν)}
    (readings : ∀ step ∈ steps, ∀ now, step.reading? = some now → now.IsReading)
    {now : Number} (reading : now.IsReading) (key : κ) (value : ν) :
    ((after limit defaultTtl steps).get now key).1 = some value ↔
      ∃ time asked stop, Latest limit defaultTtl key steps time value asked ∧
        time.add? ((ofLimit limit defaultTtl : ExpiringCache κ ν).ttl asked) = some stop ∧
          now.lt stop = true := by
  have hpeek := peek?_after_iff limit defaultTtl steps key
  constructor
  · intro h
    obtain ⟨⟨v, stop⟩, hentry, rfl, alive⟩ := get_eq_some _ now key h
    obtain ⟨time, asked, hlatest, hstop⟩ := (hpeek _).mp hentry
    -- as the end is a number, the clock is before it if it has not reached it
    have hnan : stop.isNaN = false :=
      Number.isNaN_of_reading_add? (hlatest.reading readings) (ttl_pos positive asked) hstop
    exact ⟨time, asked, stop, hlatest, hstop, Number.lt_of_not_le hnan reading.1 alive⟩
  · rintro ⟨time, asked, stop, hlatest, hstop, hlt⟩
    have hentry := (hpeek ⟨value, stop⟩).mpr ⟨time, asked, hlatest, hstop⟩
    obtain ⟨rest, hget⟩ := get_of_alive _ now key hentry (Number.not_le_of_lt hlt)
    rw [hget]

end Latest

section Counters

theorem stats_step (cache : ExpiringCache κ ν) (step : ExpiringStep κ ν) :
    (cache.step step).stats.hits = cache.stats.hits + cache.finds step ∧
      (cache.step step).stats.misses = cache.stats.misses + cache.lacks step := by
  cases step with
  | get now key =>
    obtain ⟨hhits, hmisses, -⟩ := cache.entries.get_counts key
    rw [BoundedCache.get_fst] at hhits hmisses
    rw [← peek?] at hhits hmisses
    obtain ⟨hpeek, h⟩ | ⟨entry, hpeek, -, h⟩ | ⟨entry, hpeek, -, h⟩ := cache.get_cases now key
    · simp [ExpiringCache.step, finds, lacks, stats, BoundedCache.stats, h, hhits, hmisses, hpeek]
      omega
    -- the inner cache has counted a hit, which the number of expired entries turns into a miss
    · simp [ExpiringCache.step, finds, lacks, stats, BoundedCache.stats, BoundedCache.discard, h,
        hhits, hmisses, hpeek]
      omega
    · simp [ExpiringCache.step, finds, lacks, stats, BoundedCache.stats, h, hhits, hmisses, hpeek]
      omega
  | put now key value asked =>
    rw [ExpiringCache.step, put?]
    cases now.add? (cache.ttl asked) with
    | none => simp [finds, lacks]
    | some stop =>
      obtain ⟨hhits, hmisses, -⟩ := cache.entries.put_counts key ⟨value, stop⟩
      simp [finds, lacks, stats, BoundedCache.stats, hhits, hmisses]
  | clear =>
    simp [ExpiringCache.step, finds, lacks, stats, clear, BoundedCache.stats, BoundedCache.clear]

/-- What a step adds to a cache, and what it drops; an entry that expired is among the dropped. -/
theorem size_step [EquivBEq κ] {cache : ExpiringCache κ ν}
    (distinct : BoundedCache.Distinct cache.entries.entries) (step : ExpiringStep κ ν) :
    (cache.step step).size + (cache.step step).stats.evictions + cache.cleared step =
      cache.size + cache.stats.evictions + cache.inserts step := by
  cases step with
  | get now key =>
    obtain ⟨-, -, hevictions, hentries, -⟩ := cache.entries.get_counts key
    have hsize := congrArg List.length hentries
    obtain ⟨-, h⟩ | ⟨entry, hpeek, -, h⟩ | ⟨entry, -, -, h⟩ := cache.get_cases now key
    · simp only [ExpiringCache.step, h, size, BoundedCache.size, stats, BoundedCache.stats, hsize,
        hevictions, cleared, inserts]
    · have hrest := BoundedCache.length_filter_ne distinct key
      rw [show cache.entries.entries.lookup key = some entry from hpeek] at hrest
      simp only [ExpiringCache.step, h, size, BoundedCache.size, stats, BoundedCache.stats,
        BoundedCache.discard, hentries, hevictions, cleared, inserts]
      simp only [Option.isSome_some, ↓reduceIte] at hrest
      omega
    · simp only [ExpiringCache.step, h, size, BoundedCache.size, stats, BoundedCache.stats, hsize,
        hevictions, cleared, inserts]
  | put now key value asked =>
    rw [ExpiringCache.step, inserts, put?]
    cases now.add? (cache.ttl asked) with
    | none => rfl
    | some stop =>
      have hsize := cache.entries.size_put key ⟨value, stop⟩
      obtain ⟨-, -, hevictions, -⟩ := cache.entries.put_counts key ⟨value, stop⟩
      simp only [Option.map_some, Option.getD_some, Option.isSome_some, ↓reduceIte, size, stats,
        BoundedCache.stats, hevictions, cleared]
      omega
  | clear =>
    simp only [ExpiringCache.step, clear, size, BoundedCache.size, BoundedCache.clear, stats,
      BoundedCache.stats, cleared, inserts, List.length_nil]
    omega

/-- Every entry that came into the cache is there, was evicted or was cleared. -/
theorem inserts_after [EquivBEq κ] (limit : Positive) (defaultTtl : Number)
    (steps : List (ExpiringStep κ ν)) :
    tally step inserts (ofLimit limit defaultTtl) steps =
      (after limit defaultTtl steps).size + (after limit defaultTtl steps).stats.evictions +
        tally step cleared (ofLimit limit defaultTtl) steps := by
  induction steps using List.reverseRecOn with
  | nil => rfl
  | append_singleton steps last ih =>
    have hsize := size_step (distinct_after limit defaultTtl steps) last
    simp only [tally_concat, after_concat, ih]
    rw [after] at hsize ⊢
    omega

theorem finds_add_lacks (cache : ExpiringCache κ ν) (step : ExpiringStep κ ν) :
    cache.finds step + cache.lacks step = step.isGet.toNat := by
  cases step with
  | get now key => cases h : (cache.get now key).1 <;> simp [finds, lacks, h, ExpiringStep.isGet]
  | put | clear => rfl

end Counters

/-- An expiring cache after any steps, with a positive limit and a positive time to live by default.
A lookup gives what was put last under the key, was not dropped since and has not reached its end,
and nothing else. The counters are those of the lookups that found something alive and of all
lookups, and every entry that came in is there, was evicted or was cleared. -/
theorem live_and_counted [EquivBEq κ] (limit : Positive) {defaultTtl : Number}
    (positive : (Number.int 0).lt defaultTtl = true) (steps : List (ExpiringStep κ ν))
    (readings : ∀ step ∈ steps, ∀ now, step.reading? = some now → now.IsReading) :
    let cache := after limit defaultTtl steps
    (∀ now key value, now.IsReading → ((cache.get now key).1 = some value ↔
      ∃ time asked stop, Latest limit defaultTtl key steps time value asked ∧
        time.add? (cache.ttl asked) = some stop ∧ now.lt stop = true)) ∧
    0 ≤ cache.stats.hits ∧ 0 ≤ cache.stats.misses ∧
    cache.stats.hits = tally step finds (ofLimit limit defaultTtl) steps ∧
    cache.stats.hits + cache.stats.misses = steps.countP (·.isGet) ∧
    tally step inserts (ofLimit limit defaultTtl) steps =
      cache.size + cache.stats.evictions + tally step cleared (ofLimit limit defaultTtl) steps := by
  intro cache
  have hhits : cache.stats.hits = tally step finds (ofLimit limit defaultTtl) steps := by
    have h := count_foldl step finds (·.stats.hits) (fun cache step => (stats_step cache step).1)
      (ofLimit limit defaultTtl) steps
    exact h.trans (Int.zero_add _)
  have hmisses : cache.stats.misses = tally step lacks (ofLimit limit defaultTtl) steps := by
    have h := count_foldl step lacks (·.stats.misses) (fun cache step => (stats_step cache step).2)
      (ofLimit limit defaultTtl) steps
    exact h.trans (Int.zero_add _)
  have hgets : tally step finds (ofLimit limit defaultTtl) steps +
      tally step lacks (ofLimit limit defaultTtl) steps = steps.countP (·.isGet) := by
    rw [← tally_add, ← tally_eq_countP step _ (ofLimit limit defaultTtl)]
    simp only [finds_add_lacks]
  refine ⟨fun now key value reading => ?_, by omega, by omega, hhits, by omega,
    inserts_after limit defaultTtl steps⟩
  rw [show (after limit defaultTtl steps).ttl = (ofLimit limit defaultTtl : ExpiringCache κ ν).ttl
    from funext (ttl_after limit defaultTtl steps)]
  exact get_after_iff positive readings reading key value

section ShortLived

/-- Null is put under 1 for five seconds and is gone when it is looked up at the end of these; two
more keys follow, and the second drops the first. -/
def shortLivedSteps : List (ExpiringStep ScalarKey Value) :=
  [.put (.int 0) intOne .null (some (.int 5)), .get (.int 5) doubleOne,
    .put (.int 6) intOne (.bool false) none, .put (.int 7) textOne .null (some (.int (-1)))]

theorem live_and_counted_shortLived :
    let first := after ⟨1, Nat.one_pos⟩ (.int 10) (shortLivedSteps.take 1)
    let last := after ⟨1, Nat.one_pos⟩ (.int 10) shortLivedSteps
    (first.get (.int 4) doubleOne).1 = some .null ∧ last.stats.hits + last.stats.misses = 1 ∧
      3 = last.size + last.stats.evictions := by
  have positive : (Number.int 0).lt (.int 10) = true := by decide +kernel
  have readings : ∀ step ∈ shortLivedSteps, ∀ now, step.reading? = some now → now.IsReading := by
    intro step hstep now hnow
    simp only [shortLivedSteps, List.mem_cons, List.not_mem_nil, or_false] at hstep
    rcases hstep with rfl | rfl | rfl | rfl <;> cases hnow <;> exact Number.isReading_int _
  have same : (doubleOne == intOne) = true := by decide +kernel
  have stored : Latest ⟨1, Nat.one_pos⟩ (.int 10) doubleOne
      ([] ++ [.put (.int 0) intOne .null (some (.int 5))]) (.int 0) Value.null (some (.int 5)) :=
    .put same (by decide +kernel)
  obtain ⟨hget, -⟩ := live_and_counted ⟨1, Nat.one_pos⟩ positive (shortLivedSteps.take 1)
    fun step hstep => readings step (List.mem_of_mem_take hstep)
  obtain ⟨-, -, -, -, hgets, hinserts⟩ := live_and_counted ⟨1, Nat.one_pos⟩ positive
    shortLivedSteps readings
  have hstored : tally step inserts (ofLimit ⟨1, Nat.one_pos⟩ (.int 10)) shortLivedSteps = 3 := by
    decide +kernel
  have hcleared : tally step cleared (ofLimit ⟨1, Nat.one_pos⟩ (.int 10)) shortLivedSteps = 0 := by
    decide +kernel
  have hcount : shortLivedSteps.countP (·.isGet) = 1 := by decide
  rw [hstored, hcleared, Nat.add_zero] at hinserts
  rw [hcount] at hgets
  refine ⟨(hget _ _ _ (Number.isReading_int 4)).mpr ?_, hgets, hinserts⟩
  exact ⟨.int 0, some (.int 5), .int 5, stored, by decide +kernel, by decide +kernel⟩

end ShortLived

end ExpiringCache

end GridRules
