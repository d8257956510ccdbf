import GridRules.Number.Basic
/-!
A cache that holds at most `limit` entries. An entry that would exceed the limit drops all others
first. Lookups and dropped entries are counted.
-/

namespace GridRules

/-- What a cache has counted, and how many entries it holds. -/
structure CacheStats where
  hits : Int
  misses : Int
  evictions : Nat
  size : Nat
  deriving DecidableEq

structure BoundedCache (κ ν : Type) where
  limit : Nat
  entries : List (κ × ν)
  hits : Nat
  misses : Nat
  evictions : Nat
  limit_pos : 0 < limit

namespace BoundedCache

variable {κ ν : Type} [BEq κ]

def empty (limit : Nat) (limit_pos : 0 < limit) : BoundedCache κ ν :=
  ⟨limit, [], 0, 0, 0, limit_pos⟩

/-- The cache with a limit that has nothing yet. -/
def ofLimit (limit : Positive) : BoundedCache κ ν :=
  .empty limit.1 limit.2

/-- A cache with the given limit, if that is positive. -/
def ofLimit? (limit : Int) : Option (BoundedCache κ ν) :=
  if h : 0 < limit.toNat then some (empty limit.toNat h) else none

/-- The message for a limit that is not positive, shown as it was given. -/
def limitMessage (limit : String) : String :=
  "Cache limit must be positive, got " ++ limit

def find? (cache : BoundedCache κ ν) (key : κ) : Option ν :=
  cache.entries.lookup key

def contains (cache : BoundedCache κ ν) (key : κ) : Bool :=
  (cache.find? key).isSome

def size (cache : BoundedCache κ ν) : Nat :=
  cache.entries.length

/-- Looks a key up and counts the lookup. -/
def get (cache : BoundedCache κ ν) (key : κ) : Option ν × BoundedCache κ ν :=
  match cache.find? key with
  | some value => (some value, { cache with hits := cache.hits + 1 })
  | none => (none, { cache with misses := cache.misses + 1 })

/-- Sets a key that is there in place, and adds one that is not. -/
def store (entries : List (κ × ν)) (key : κ) (value : ν) : List (κ × ν) :=
  match entries with
  | [] => [(key, value)]
  | (k, v) :: rest => if k == key then (k, value) :: rest else (k, v) :: store rest key value

/-- Whether a new key finds the cache full. -/
def overflows (cache : BoundedCache κ ν) (key : κ) : Bool :=
  !cache.contains key && cache.limit ≤ cache.size

def put (cache : BoundedCache κ ν) (key : κ) (value : ν) : BoundedCache κ ν :=
  if cache.overflows key then
    { cache with entries := [(key, value)], evictions := cache.evictions + cache.size }
  else { cache with entries := store cache.entries key value }

def discard (cache : BoundedCache κ ν) (key : κ) : BoundedCache κ ν :=
  { cache with entries := cache.entries.filter fun entry => !(entry.1 == key) }

def clear (cache : BoundedCache κ ν) : BoundedCache κ ν :=
  { cache with entries := [] }

def resetStats (cache : BoundedCache κ ν) : BoundedCache κ ν :=
  { cache with hits := 0, misses := 0, evictions := 0 }

def stats (cache : BoundedCache κ ν) : CacheStats :=
  ⟨cache.hits, cache.misses, cache.evictions, cache.size⟩

end BoundedCache

end GridRules
