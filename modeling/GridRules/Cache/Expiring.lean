import GridRules.Cache.Bounded
import GridRules.Number.Basic
/-!
A bounded cache whose entries expire. Every entry has a time at which it is dead; a lookup drops it
then and counts as a miss.
-/

namespace GridRules

structure Expiring (ν : Type) where
  value : ν
  expiresAt : Number

structure ExpiringCache (κ ν : Type) where
  entries : BoundedCache κ (Expiring ν)
  defaultTtl : Number
  expired : Nat

namespace ExpiringCache

variable {κ ν : Type} [BEq κ]

/-- The message for a default time to live that is not positive, shown as it was given. -/
def ttlMessage (ttl : String) : String :=
  "Default TTL must be positive, got " ++ ttl

/-- The entry of a key at the time `now`. -/
def get (cache : ExpiringCache κ ν) (now : Number) (key : κ) : Option ν × ExpiringCache κ ν :=
  match cache.entries.get key with
  | (none, entries) => (none, { cache with entries := entries })
  | (some entry, entries) =>
    if entry.expiresAt.le now then
      (none, { cache with entries := entries.discard key, expired := cache.expired + 1 })
    else (some entry.value, { cache with entries := entries })

/-- The time that an entry lives: what is asked for if it is positive, else the default. -/
def ttl (cache : ExpiringCache κ ν) (asked : Option Number) : Number :=
  match asked with
  | some seconds => if (Number.int 0).lt seconds then seconds else cache.defaultTtl
  | none => cache.defaultTtl

/-- Stores an entry at the time `now`; there is no result if the time of its end is beyond the
range of doubles. -/
def put? (cache : ExpiringCache κ ν) (now : Number) (key : κ) (value : ν)
    (asked : Option Number) : Option (ExpiringCache κ ν) :=
  (now.add? (cache.ttl asked)).map fun expiresAt =>
    { cache with entries := cache.entries.put key ⟨value, expiresAt⟩ }

def clear (cache : ExpiringCache κ ν) : ExpiringCache κ ν :=
  { cache with entries := cache.entries.clear }

def size (cache : ExpiringCache κ ν) : Nat :=
  cache.entries.size

/-- An expired entry was found, but counts as missed and dropped. -/
def stats (cache : ExpiringCache κ ν) : CacheStats :=
  let inner := cache.entries.stats
  ⟨inner.hits - cache.expired, inner.misses + cache.expired, inner.evictions + cache.expired,
    inner.size⟩

end ExpiringCache

end GridRules
