import GridRules.Cache.Expiring
import GridRules.Proofs.Rounding

namespace GridRules

namespace BoundedCache

variable {κ ν : Type} [BEq κ]

theorem get_fst (cache : BoundedCache κ ν) (key : κ) : (cache.get key).1 = cache.find? key := by
  unfold get
  cases cache.find? key <;> rfl

/-- A lookup changes nothing that is found. -/
theorem find?_get (cache : BoundedCache κ ν) (key other : κ) :
    (cache.get key).2.find? other = cache.find? other := by
  unfold get
  cases cache.find? key <;> rfl

section Equivalence

variable [EquivBEq κ]

theorem lookup_store (entries : List (κ × ν)) (key other : κ) (value : ν) :
    (store entries key value).lookup other =
      if other == key then some value else entries.lookup other := by
  induction entries with
  | nil => cases h : other == key <;> simp [store, List.lookup_cons, h]
  | cons entry rest ih =>
    obtain ⟨k, v⟩ := entry
    rw [store]
    split
    · rename_i hk
      rw [← BEq.congr_right (a := other) hk]
      cases h : other == k <;> simp [List.lookup_cons, h]
    · rename_i hk
      rw [List.lookup_cons, List.lookup_cons, ih]
      cases h : other == k with
      | false => rfl
      | true => simp [BEq.congr_left (c := key) h, hk]

/-- A new key that finds the cache full leaves nothing else in it. -/
theorem find?_put (cache : BoundedCache κ ν) (key other : κ) (value : ν) :
    (cache.put key value).find? other =
      if other == key then some value
      else if cache.overflows key then none else cache.find? other := by
  unfold put
  split
  · rename_i h
    cases hk : other == key <;> simp [find?, List.lookup_cons, hk]
  · rename_i h
    simp only [find?, lookup_store]

theorem lookup_filter (entries : List (κ × ν)) (key other : κ) :
    (entries.filter fun entry => !(entry.1 == key)).lookup other =
      if other == key then none else entries.lookup other := by
  induction entries with
  | nil => simp
  | cons entry rest ih =>
    obtain ⟨k, v⟩ := entry
    cases hk : k == key with
    | true =>
      rw [List.filter_cons_of_neg (by simp [hk]), ih, List.lookup_cons,
        ← BEq.congr_right (a := other) hk]
      cases h : other == k <;> simp
    | false =>
      rw [List.filter_cons_of_pos (by simp [hk]), List.lookup_cons, List.lookup_cons, ih]
      cases h : other == k with
      | false => rfl
      | true => simp [BEq.congr_left (c := key) h, hk]

theorem find?_discard (cache : BoundedCache κ ν) (key other : κ) :
    (cache.discard key).find? other = if other == key then none else cache.find? other :=
  lookup_filter cache.entries key other

end Equivalence

/-- Every key in the cache has a value that goes with it. -/
def Holds (P : κ → ν → Prop) (cache : BoundedCache κ ν) : Prop :=
  ∀ key value, cache.find? key = some value → P key value

namespace Holds

variable {P : κ → ν → Prop} {cache : BoundedCache κ ν}

theorem empty (limit : Nat) (limit_pos : 0 < limit) :
    Holds P (BoundedCache.empty limit limit_pos) := nofun

theorem clear (cache : BoundedCache κ ν) : Holds P cache.clear := nofun

theorem get (holds : Holds P cache) (key : κ) : Holds P (cache.get key).2 :=
  fun other value h => holds other value (cache.find?_get key other ▸ h)

theorem put [LawfulBEq κ] (holds : Holds P cache) {key : κ} {value : ν} (h : P key value) :
    Holds P (cache.put key value) := by
  intro other found hfound
  rw [find?_put] at hfound
  split at hfound
  · rename_i hkey
    obtain rfl := eq_of_beq hkey
    obtain rfl := Option.some.inj hfound
    exact h
  · split at hfound
    · cases hfound
    · exact holds other found hfound

theorem mono {Q : κ → ν → Prop} (holds : Holds P cache)
    (h : ∀ key value, P key value → Q key value) : Holds Q cache :=
  fun key value hfound => h key value (holds key value hfound)

end Holds

section GetOr

variable {ε : Type} (cache : BoundedCache κ ν) (key : κ) (computed : Except ε ν)

/-- What a cache has under a key, or what is computed for it now; what cannot be computed is not
kept. -/
def getOr : Except ε ν × BoundedCache κ ν :=
  match cache.get key with
  | (some value, cache) => (.ok value, cache)
  | (none, cache) =>
    match computed with
    | .ok value => (.ok value, cache.put key value)
    | .error e => (.error e, cache)

theorem getOr_of_some {value : ν} (h : cache.find? key = some value) :
    cache.getOr key computed = (.ok value, (cache.get key).2) := by
  rw [← get_fst] at h
  unfold getOr
  generalize cache.get key = got at h ⊢
  obtain ⟨_, rest⟩ := got
  subst h
  rfl

theorem getOr_of_none (h : cache.find? key = none) :
    cache.getOr key computed =
      match computed with
      | .ok value => (.ok value, (cache.get key).2.put key value)
      | .error e => (.error e, (cache.get key).2) := by
  rw [← get_fst] at h
  unfold getOr
  generalize cache.get key = got at h ⊢
  obtain ⟨_, rest⟩ := got
  subst h
  rfl

variable {cache key computed}

theorem Holds.getOr [LawfulBEq κ] {P : κ → ν → Prop} (holds : Holds P cache)
    (h : ∀ value, computed = .ok value → P key value) :
    Holds P (cache.getOr key computed).2 := by
  cases hfound : cache.find? key with
  | some value =>
    rw [getOr_of_some cache key computed hfound]
    exact holds.get key
  | none =>
    rw [getOr_of_none cache key computed hfound]
    cases computed with
    | ok value => exact (holds.get key).put (h value rfl)
    | error e => exact holds.get key

theorem find?_getOr [LawfulBEq κ] {value : ν} (hnew : cache.find? key = none)
    (h : computed = .ok value) : (cache.getOr key computed).2.find? key = some value := by
  rw [getOr_of_none cache key computed hnew, h, find?_put, if_pos BEq.rfl]

theorem getOr_fst : (cache.getOr key computed).1 = ((cache.find? key).map .ok).getD computed := by
  cases hfound : cache.find? key with
  | some value => rw [getOr_of_some cache key computed hfound, Option.map_some, Option.getD_some]
  | none =>
    rw [getOr_of_none cache key computed hfound, Option.map_none, Option.getD_none]
    cases computed <;> rfl

end GetOr

end BoundedCache

namespace ExpiringCache

variable {κ ν : Type} [BEq κ]

/-- What the cache has under a key, dead or not. -/
def peek? (cache : ExpiringCache κ ν) (key : κ) : Option (Expiring ν) :=
  cache.entries.find? key

/-- The cache has what it had, but may have lost an entry that was dead by the given time. -/
def Keeps (now : Number) (before after : ExpiringCache κ ν) : Prop :=
  after.defaultTtl = before.defaultTtl ∧ ∀ key, after.peek? key = before.peek? key ∨
    after.peek? key = none ∧
      ∃ entry, before.peek? key = some entry ∧ entry.expiresAt.le now = true

theorem Keeps.refl (now : Number) (cache : ExpiringCache κ ν) : Keeps now cache cache :=
  ⟨rfl, fun _ => .inl rfl⟩

theorem Keeps.peek?_eq_some {now : Number} {before after : ExpiringCache κ ν}
    (keeps : Keeps now before after) {key : κ} {entry : Expiring ν}
    (h : after.peek? key = some entry) : before.peek? key = some entry := by
  rcases keeps.2 key with hsame | ⟨hnone, -⟩
  · exact hsame ▸ h
  · simp [hnone] at h

section Get

variable (cache : ExpiringCache κ ν) (now : Number) (key : κ)

/-- What is found is alive, and nothing has changed but a count. -/
theorem get_eq_some {value : ν} (h : (cache.get now key).1 = some value) :
    ∃ entry, cache.peek? key = some entry ∧ entry.value = value ∧
      entry.expiresAt.le now = false := by
  have hfst := cache.entries.get_fst key
  unfold get at h
  split at h
  next => cases h
  next entry _ hget =>
    split at h
    next => cases h
    next alive =>
      refine ⟨entry, ?_, Option.some.inj h, by simpa using alive⟩
      rw [peek?, ← hfst, hget]

theorem get_of_alive {entry : Expiring ν} (h : cache.peek? key = some entry)
    (alive : entry.expiresAt.le now = false) :
    ∃ after, cache.get now key = (some entry.value, after) := by
  have hfst := cache.entries.get_fst key
  rw [← peek?, h] at hfst
  unfold get
  split
  next hget => simp [hget] at hfst
  next found _ hget =>
    obtain rfl : found = entry := by simpa [hget] using hfst
    rw [if_neg (by simp [alive])]
    exact ⟨_, rfl⟩

theorem keeps_get [LawfulBEq κ] : Keeps now cache (cache.get now key).2 := by
  have hfst := cache.entries.get_fst key
  have hsnd := cache.entries.find?_get key
  unfold get
  split
  next hget =>
    rw [hget] at hsnd
    exact ⟨rfl, fun other => .inl (hsnd other)⟩
  next entry _ hget =>
    rw [hget] at hfst hsnd
    split
    next dead =>
      refine ⟨rfl, fun other => ?_⟩
      simp only [peek?, BoundedCache.find?_discard, hsnd]
      split
      next hkey =>
        obtain rfl := eq_of_beq hkey
        exact .inr ⟨rfl, entry, hfst.symm, dead⟩
      next => exact .inl rfl
    next => exact ⟨rfl, fun other => .inl (hsnd other)⟩

end Get

/-- An entry that is stored is dead a time to live later; it may be the only one left. -/
theorem peek?_put? [LawfulBEq κ] {cache after : ExpiringCache κ ν} {now : Number} {key : κ}
    {value : ν} {asked : Option Number} (h : cache.put? now key value asked = some after) :
    ∃ stop, now.add? (cache.ttl asked) = some stop ∧ after.defaultTtl = cache.defaultTtl ∧
      after.peek? key = some ⟨value, stop⟩ ∧ ∀ other entry, other ≠ key →
        after.peek? other = some entry → cache.peek? other = some entry := by
  obtain ⟨stop, hstop, rfl⟩ := Option.map_eq_some_iff.mp h
  refine ⟨stop, hstop, rfl, ?_, fun other entry hne hentry => ?_⟩
  · simp [peek?, BoundedCache.find?_put]
  · rw [peek?, BoundedCache.find?_put, if_neg (by simpa using hne)] at hentry
    split at hentry
    next => cases hentry
    next => exact hentry

omit [BEq κ] in
theorem ttl_congr {cache other : ExpiringCache κ ν} (h : cache.defaultTtl = other.defaultTtl)
    (asked : Option Number) : cache.ttl asked = other.ttl asked := by
  unfold ttl
  rw [h]

omit [BEq κ] in
/-- An entry never lives for NaN seconds. -/
theorem isNaN_ttl {cache : ExpiringCache κ ν}
    (positive : (Number.int 0).lt cache.defaultTtl = true) (asked : Option Number) :
    (cache.ttl asked).isNaN = false := by
  unfold ttl
  split
  next seconds =>
    split
    next h => exact Number.isNaN_of_lt h
    next => exact Number.isNaN_of_lt positive
  next => exact Number.isNaN_of_lt positive

end ExpiringCache

end GridRules
