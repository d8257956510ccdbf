import GridRules.Proofs.CacheEntries
import GridRules.Value.Equality
import Mathlib.Data.List.DropRight
import Mathlib.Data.List.Induction
/-!
Runs of a bounded cache. What is found under a key is what was put there last, unless it was dropped
since; every entry that ever came into the cache is still there or was dropped once, and the
counters say how often.
-/

namespace GridRules

section Tally

variable {σ ι : Type} (step : σ → ι → σ) (amount : σ → ι → Nat)

/-- What the steps of a run add up to, each of them counted in the state that it meets. -/
def tally (start : σ) : List ι → Nat
  | [] => 0
  | i :: rest => amount start i + tally (step start i) rest

theorem tally_append (start : σ) (is js : List ι) :
    tally step amount start (is ++ js) =
      tally step amount start is + tally step amount (is.foldl step start) js := by
  induction is generalizing start with
  | nil => simp [tally]
  | cons i rest ih => simp [tally, ih, Nat.add_assoc]

theorem tally_concat (start : σ) (is : List ι) (i : ι) :
    tally step amount start (is ++ [i]) =
      tally step amount start is + amount (is.foldl step start) i := by
  rw [tally_append]
  rfl

theorem tally_eq_countP (p : ι → Bool) (start : σ) (is : List ι) :
    tally step (fun _ i => (p i).toNat) start is = is.countP p := by
  induction is generalizing start with
  | nil => rfl
  | cons i rest ih =>
    rw [tally, ih, List.countP_cons, Nat.add_comm]
    cases p i <;> rfl

theorem tally_add (other : σ → ι → Nat) (start : σ) (is : List ι) :
    tally step (fun s i => amount s i + other s i) start is =
      tally step amount start is + tally step other start is := by
  induction is generalizing start with
  | nil => rfl
  | cons i rest ih =>
    simp only [tally, ih]
    omega

/-- A count that every step raises by its amount. -/
theorem count_foldl (count : σ → Int) (counts : ∀ s i, count (step s i) = count s + amount s i)
    (start : σ) (is : List ι) :
    count (is.foldl step start) = count start + tally step amount start is := by
  induction is generalizing start with
  | nil => simp [tally]
  | cons i rest ih =>
    rw [List.foldl_cons, ih, counts, tally]
    omega

end Tally

inductive CacheStep (κ ν : Type) where
  | get (key : κ)
  | put (key : κ) (value : ν)
  | discard (key : κ)
  | clear
  | resetStats

namespace CacheStep

variable {κ ν : Type}

def isGet : CacheStep κ ν → Bool
  | .get _ => true
  | _ => false

def isReset : CacheStep κ ν → Bool
  | .resetStats => true
  | _ => false

end CacheStep

namespace BoundedCache

variable {κ ν : Type} [BEq κ]

def step (cache : BoundedCache κ ν) : CacheStep κ ν → BoundedCache κ ν
  | .get key => (cache.get key).2
  | .put key value => cache.put key value
  | .discard key => cache.discard key
  | .clear => cache.clear
  | .resetStats => cache.resetStats

/-- The cache after some steps. -/
def after (limit : Positive) (steps : List (CacheStep κ ν)) : BoundedCache κ ν :=
  steps.foldl step (.ofLimit limit)

theorem after_concat (limit : Positive) (steps : List (CacheStep κ ν)) (last : CacheStep κ ν) :
    after limit (steps ++ [last]) = (after limit steps).step last := by
  rw [after, List.foldl_append]
  rfl

/-- Whether a step leaves what the cache has under a key in place. -/
def Keeps (cache : BoundedCache κ ν) (key : κ) : CacheStep κ ν → Prop
  | .get _ | .resetStats => True
  | .put other _ => (key == other) = false ∧ cache.overflows other = false
  | .discard other => (key == other) = false
  | .clear => False

/-- The value that was put last under a key, if it was not dropped since. -/
inductive Latest (limit : Positive) (key : κ) : List (CacheStep κ ν) → ν → Prop
  | put {steps : List (CacheStep κ ν)} {other : κ} {value : ν} (same : (key == other) = true) :
    Latest limit key (steps ++ [.put other value]) value
  | kept {steps : List (CacheStep κ ν)} {step : CacheStep κ ν} {value : ν}
    (h : Latest limit key steps value) (keeps : (after limit steps).Keeps key step) :
    Latest limit key (steps ++ [step]) value

/-- One for a lookup that finds something. -/
def finds (cache : BoundedCache κ ν) : CacheStep κ ν → Nat
  | .get key => (cache.get key).1.isSome.toNat
  | _ => 0

/-- One for a lookup that finds nothing. -/
def lacks (cache : BoundedCache κ ν) : CacheStep κ ν → Nat
  | .get key => (cache.get key).1.isNone.toNat
  | _ => 0

/-- One for a key that is put and was not there. -/
def inserts (cache : BoundedCache κ ν) : CacheStep κ ν → Nat
  | .put key _ => if cache.contains key then 0 else 1
  | _ => 0

/-- How many entries a new key drops because the cache is full. -/
def overflowed (cache : BoundedCache κ ν) : CacheStep κ ν → Nat
  | .put key _ => if cache.overflows key then cache.size else 0
  | _ => 0

def discarded (cache : BoundedCache κ ν) : CacheStep κ ν → Nat
  | .discard key => if cache.contains key then 1 else 0
  | _ => 0

def cleared (cache : BoundedCache κ ν) : CacheStep κ ν → Nat
  | .clear => cache.size
  | _ => 0

/-- What the steps of a run add up to since the counters were last set back. -/
def sinceReset (limit : Positive) (amount : BoundedCache κ ν → CacheStep κ ν → Nat)
    (steps : List (CacheStep κ ν)) : Nat :=
  tally step amount (after limit (steps.rdropWhile (!·.isReset))) (steps.rtakeWhile (!·.isReset))

section Counters

theorem get_counts (cache : BoundedCache κ ν) (key : κ) :
    (cache.get key).2.hits = cache.hits + (cache.get key).1.isSome.toNat ∧
      (cache.get key).2.misses = cache.misses + (cache.get key).1.isNone.toNat ∧
      (cache.get key).2.evictions = cache.evictions ∧
      (cache.get key).2.entries = cache.entries ∧ (cache.get key).2.limit = cache.limit := by
  unfold get
  cases cache.find? key <;> exact ⟨rfl, rfl, rfl, rfl, rfl⟩

/-- What a new key does to the counters: only dropped entries are counted. -/
theorem put_counts (cache : BoundedCache κ ν) (key : κ) (value : ν) :
    (cache.put key value).hits = cache.hits ∧ (cache.put key value).misses = cache.misses ∧
      (cache.put key value).evictions =
        cache.evictions + (if cache.overflows key then cache.size else 0) ∧
      (cache.put key value).limit = cache.limit := by
  unfold put
  split <;> exact ⟨rfl, rfl, rfl, rfl⟩

variable {cache : BoundedCache κ ν} {step : CacheStep κ ν}

theorem hits_step (h : step.isReset = false) :
    (cache.step step).hits = cache.hits + cache.finds step := by
  cases step with
  | get key => exact (cache.get_counts key).1
  | put key value => exact (cache.put_counts key value).1
  | discard | clear => rfl
  | resetStats => cases h

theorem misses_step (h : step.isReset = false) :
    (cache.step step).misses = cache.misses + cache.lacks step := by
  cases step with
  | get key => exact (cache.get_counts key).2.1
  | put key value => exact (cache.put_counts key value).2.1
  | discard | clear => rfl
  | resetStats => cases h

theorem evictions_step (h : step.isReset = false) :
    (cache.step step).evictions = cache.evictions + cache.overflowed step := by
  cases step with
  | get key => exact (cache.get_counts key).2.2.1
  | put key value => exact (cache.put_counts key value).2.2.1
  | discard | clear => rfl
  | resetStats => cases h

theorem limit_step (cache : BoundedCache κ ν) (step : CacheStep κ ν) :
    (cache.step step).limit = cache.limit := by
  cases step with
  | get key => exact (cache.get_counts key).2.2.2.2
  | put key value => exact (cache.put_counts key value).2.2.2
  | discard | clear | resetStats => rfl

theorem limit_after (limit : Positive) (steps : List (CacheStep κ ν)) :
    (after limit steps).limit = limit.1 := by
  induction steps using List.reverseRecOn with
  | nil => rfl
  | append_singleton steps last ih => rw [after_concat, limit_step, ih]

/-- A counter that starts anew when the counters are set back, and that every other step raises by
its amount. -/
theorem counter_after {count : BoundedCache κ ν → Nat}
    {amount : BoundedCache κ ν → CacheStep κ ν → Nat} (limit : Positive)
    (start : count (.ofLimit limit) = 0)
    (reset : ∀ cache : BoundedCache κ ν, count cache.resetStats = 0)
    (counts : ∀ (cache : BoundedCache κ ν) (step : CacheStep κ ν), step.isReset = false →
      count (cache.step step) = count cache + amount cache step)
    (steps : List (CacheStep κ ν)) :
    count (after limit steps) = sinceReset limit amount steps := by
  induction steps using List.reverseRecOn with
  | nil => exact start
  | append_singleton steps last ih =>
    rw [after_concat, sinceReset]
    cases hlast : last.isReset with
    | true =>
      -- nothing follows the reset yet, so there is nothing to add up
      rw [List.rtakeWhile_concat_neg _ _ _ (by simp [hlast])]
      cases last with
      | resetStats => exact reset _
      | get | put | discard | clear => cases hlast
    | false =>
      rw [List.rtakeWhile_concat_pos _ _ _ (by simp [hlast]),
        List.rdropWhile_concat_pos _ _ _ (by simp [hlast]), tally_concat, counts _ _ hlast, ih]
      rw [sinceReset, after, ← List.foldl_append, List.rdropWhile_append_rtakeWhile]
      rfl

end Counters

section Sizes

variable [EquivBEq κ]

/-- No key stands in a list of entries twice. -/
def Distinct (entries : List (κ × ν)) : Prop :=
  (entries.map (·.1)).Pairwise fun k l => (k == l) = false

theorem keys_store (entries : List (κ × ν)) (key : κ) (value : ν) :
    (store entries key value).map (·.1) =
      if (entries.lookup key).isSome then entries.map (·.1) else entries.map (·.1) ++ [key] := by
  induction entries with
  | nil => rfl
  | cons entry rest ih =>
    obtain ⟨k, v⟩ := entry
    rw [store, List.lookup_cons, BEq.comm (a := key)]
    cases h : k == key with
    | true => simp
    | false =>
      simp only [Bool.false_eq_true, ↓reduceIte, List.map_cons, ih]
      split <;> simp

theorem length_store (entries : List (κ × ν)) (key : κ) (value : ν) :
    (store entries key value).length =
      entries.length + if (entries.lookup key).isSome then 0 else 1 := by
  have h := congrArg List.length (keys_store entries key value)
  rw [List.length_map] at h
  by_cases hfound : (entries.lookup key).isSome = true <;> simp [h, hfound]

theorem Distinct.store {entries : List (κ × ν)} (distinct : Distinct entries) (key : κ)
    (value : ν) : Distinct (store entries key value) := by
  rw [Distinct, keys_store]
  split
  · exact distinct
  · rename_i h
    rw [Bool.not_eq_true, Option.isSome_eq_false_iff, Option.isNone_iff_eq_none,
      List.lookup_eq_none_iff] at h
    refine List.pairwise_append.mpr ⟨distinct, List.pairwise_singleton _ _, fun k hk l hl => ?_⟩
    obtain rfl := List.mem_singleton.mp hl
    obtain ⟨entry, hentry, rfl⟩ := List.mem_map.mp hk
    exact BEq.symm_false (by simpa [bne] using h entry hentry)

theorem length_filter_ne {entries : List (κ × ν)} (distinct : Distinct entries) (key : κ) :
    (entries.filter fun entry => !(entry.1 == key)).length +
      (if (entries.lookup key).isSome then 1 else 0) = entries.length := by
  induction entries with
  | nil => rfl
  | cons entry rest ih =>
    obtain ⟨k, v⟩ := entry
    obtain ⟨hk, hrest⟩ := List.pairwise_cons.mp distinct
    rw [List.lookup_cons, BEq.comm (a := key)]
    cases h : k == key with
    | false =>
      have hcount := ih hrest
      simp only [List.filter_cons, h, Bool.not_false, ↓reduceIte, List.length_cons]
      omega
    | true =>
      -- the keys behind this one differ from it, so only this entry goes
      have hall : rest.filter (fun entry => !(entry.1 == key)) = rest := by
        refine List.filter_eq_self.mpr fun entry hentry => ?_
        have hne := hk entry.1 (List.mem_map_of_mem hentry)
        rw [BEq.congr_left h] at hne
        simpa using BEq.symm_false hne
      simp [h, hall]

theorem distinct_step {cache : BoundedCache κ ν} (distinct : Distinct cache.entries)
    (step : CacheStep κ ν) : Distinct (cache.step step).entries := by
  cases step with
  | get key => exact (cache.get_counts key).2.2.2.1 ▸ distinct
  | put key value =>
    rw [BoundedCache.step, BoundedCache.put]
    split
    · exact List.pairwise_singleton _ _
    · exact distinct.store key value
  | discard key => exact distinct.sublist (List.filter_sublist.map _)
  | clear => exact List.Pairwise.nil
  | resetStats => exact distinct

theorem distinct_after (limit : Positive) (steps : List (CacheStep κ ν)) :
    Distinct (after limit steps).entries := by
  induction steps using List.reverseRecOn with
  | nil => exact List.Pairwise.nil
  | append_singleton steps last ih =>
    rw [after_concat]
    exact distinct_step ih last

theorem size_put (cache : BoundedCache κ ν) (key : κ) (value : ν) :
    (cache.put key value).size + (if cache.overflows key then cache.size else 0) =
      cache.size + if cache.contains key then 0 else 1 := by
  unfold put
  split
  next h =>
    have hnew : cache.contains key = false := by
      simp only [overflows, Bool.and_eq_true, Bool.not_eq_true'] at h
      exact h.1
    simp [size, hnew, Nat.add_comm]
  next => exact length_store cache.entries key value

/-- A step that does not overflow the cache adds one entry at most, to a cache that has room. -/
theorem size_put_le {cache : BoundedCache κ ν} (h : cache.size ≤ cache.limit) (key : κ)
    (value : ν) : (cache.put key value).size ≤ cache.limit := by
  have hsize := cache.size_put key value
  have hpos := cache.limit_pos
  cases hnew : cache.contains key with
  | true => simp only [overflows, hnew] at hsize; simp at hsize; omega
  | false =>
    by_cases hfull : cache.limit ≤ cache.size
    · simp [overflows, hnew, hfull] at hsize
      omega
    · simp [overflows, hnew, hfull] at hsize
      omega

/-- What a step adds to a cache, and what it drops. -/
theorem size_step {cache : BoundedCache κ ν} (distinct : Distinct cache.entries)
    (step : CacheStep κ ν) :
    (cache.step step).size + cache.overflowed step + cache.discarded step + cache.cleared step =
      cache.size + cache.inserts step := by
  cases step with
  | get key =>
    simp only [BoundedCache.step, size, (cache.get_counts key).2.2.2.1]
    rfl
  | put key value => exact cache.size_put key value
  | discard key => exact length_filter_ne distinct key
  | clear => exact Nat.zero_add _
  | resetStats => rfl

theorem size_after_le (limit : Positive) (steps : List (CacheStep κ ν)) :
    (after limit steps).size ≤ limit.1 := by
  induction steps using List.reverseRecOn with
  | nil => exact Nat.zero_le _
  | append_singleton steps last ih =>
    rw [after_concat]
    have hlimit := limit_after (ν := ν) limit steps
    cases last with
    | get key =>
      simp only [BoundedCache.step, size, ((after limit steps).get_counts key).2.2.2.1]
      exact ih
    | put key value => exact hlimit ▸ size_put_le (hlimit.symm ▸ ih) key value
    | discard key => exact (List.length_filter_le _ _).trans ih
    | clear => exact Nat.zero_le _
    | resetStats => exact ih

end Sizes

section Latest

variable [EquivBEq κ]

theorem find?_step (cache : BoundedCache κ ν) (step : CacheStep κ ν) (key : κ) (value : ν) :
    (cache.step step).find? key = some value ↔
      (∃ other, step = .put other value ∧ (key == other) = true) ∨
        cache.find? key = some value ∧ cache.Keeps key step := by
  cases step with
  | get other => simp [BoundedCache.step, find?_get, Keeps]
  | put other v =>
    rw [BoundedCache.step, find?_put]
    cases hsame : key == other with
    | true => simp [Keeps, hsame]
    | false => cases hfull : cache.overflows other <;> simp [Keeps, hsame, hfull]
  | discard other =>
    rw [BoundedCache.step, find?_discard]
    cases hsame : key == other <;> simp [Keeps, hsame]
  | clear => simp [BoundedCache.step, clear, find?, Keeps]
  | resetStats => simp [BoundedCache.step, resetStats, find?, Keeps]

omit [EquivBEq κ] in
theorem latest_concat_iff {limit : Positive} {key : κ} {steps : List (CacheStep κ ν)}
    {last : CacheStep κ ν} {value : ν} :
    Latest limit key (steps ++ [last]) value ↔
      (∃ other, last = .put other value ∧ (key == other) = true) ∨
        Latest limit key steps value ∧ (after limit steps).Keeps key last := by
  constructor
  · intro h
    generalize hall : steps ++ [last] = all at h
    cases h with
    | put same =>
      obtain ⟨rfl, hlast⟩ := List.append_inj' hall rfl
      exact .inl ⟨_, (List.cons.inj hlast).1, same⟩
    | kept h keeps =>
      obtain ⟨rfl, hlast⟩ := List.append_inj' hall rfl
      exact .inr ⟨h, (List.cons.inj hlast).1 ▸ keeps⟩
  · rintro (⟨other, rfl, same⟩ | ⟨h, keeps⟩)
    · exact .put same
    · exact .kept h keeps

/-- What is found under a key is what was put there last. -/
theorem find?_after_iff (limit : Positive) (steps : List (CacheStep κ ν)) (key : κ) (value : ν) :
    (after limit steps).find? key = some value ↔ Latest limit key steps value := by
  induction steps using List.reverseRecOn with
  | nil =>
    refine ⟨fun h => by simp [after, ofLimit, empty, find?] at h, fun h => ?_⟩
    generalize hall : ([] : List (CacheStep κ ν)) = all at h
    cases h <;> simp at hall
  | append_singleton steps last ih => rw [after_concat, find?_step, ih, latest_concat_iff]

end Latest

section Balance

theorem gets_eq (limit : Positive) (steps : List (CacheStep κ ν)) :
    sinceReset limit finds steps + sinceReset limit lacks steps =
      (steps.rtakeWhile (!·.isReset)).countP (·.isGet) := by
  rw [sinceReset, sinceReset, ← tally_add, ← tally_eq_countP step]
  congr 1
  funext cache step
  cases step with
  | get key => cases h : (cache.get key).1 <;> simp [finds, lacks, h, CacheStep.isGet]
  | put | discard | clear | resetStats => rfl

/-- Without a reset the counters count from the start. -/
theorem sinceReset_of_no_reset (limit : Positive)
    (amount : BoundedCache κ ν → CacheStep κ ν → Nat) {steps : List (CacheStep κ ν)}
    (h : ∀ step ∈ steps, step.isReset = false) :
    sinceReset limit amount steps = tally step amount (.ofLimit limit) steps := by
  have hall : ∀ step ∈ steps, (!step.isReset) = true := fun step hmem => by simp [h step hmem]
  rw [sinceReset, List.rdropWhile_eq_nil_iff.mpr hall, List.rtakeWhile_eq_self_iff.mpr hall]
  rfl

/-- Every entry that came into the cache is there or was dropped in one of three ways. -/
theorem inserts_after [EquivBEq κ] (limit : Positive) (steps : List (CacheStep κ ν)) :
    tally step inserts (.ofLimit limit) steps =
      (after limit steps).size + tally step overflowed (.ofLimit limit) steps +
        tally step discarded (.ofLimit limit) steps +
          tally step cleared (.ofLimit limit) steps := by
  induction steps using List.reverseRecOn with
  | nil => rfl
  | append_singleton steps last ih =>
    have hsize := size_step (distinct_after limit steps) last
    simp only [tally_concat, after_concat, ih]
    rw [after] at hsize ⊢
    omega

end Balance

/-- A bounded cache after any steps. It never holds more than its limit; a lookup gives what was put
last under the key and not dropped since, and nothing else; and the counters add up, for the lookups
and for the entries that came and went. -/
theorem latest_within_limit [EquivBEq κ] (limit : Positive) (steps : List (CacheStep κ ν)) :
    let cache := after limit steps
    cache.size ≤ limit.1 ∧
    (∀ key value, (cache.get key).1 = some value ↔ Latest limit key steps value) ∧
    cache.hits = sinceReset limit finds steps ∧
    cache.hits + cache.misses = (steps.rtakeWhile (!·.isReset)).countP (·.isGet) ∧
    cache.evictions = sinceReset limit overflowed steps ∧
    ((∀ step ∈ steps, step.isReset = false) →
      tally step inserts (.ofLimit limit) steps =
        cache.size + cache.evictions + tally step discarded (.ofLimit limit) steps +
          tally step cleared (.ofLimit limit) steps) := by
  intro cache
  have hhits : cache.hits = sinceReset limit finds steps :=
    counter_after limit rfl (fun _ => rfl) (fun _ _ => hits_step) steps
  have hmisses : cache.misses = sinceReset limit lacks steps :=
    counter_after limit rfl (fun _ => rfl) (fun _ _ => misses_step) steps
  have hevictions : cache.evictions = sinceReset limit overflowed steps :=
    counter_after limit rfl (fun _ => rfl) (fun _ _ => evictions_step) steps
  refine ⟨size_after_le limit steps, fun key value => ?_, hhits, ?_, hevictions, fun hreset => ?_⟩
  · rw [get_fst]
    exact find?_after_iff limit steps key value
  · rw [hhits, hmisses, gets_eq]
  · rw [hevictions, sinceReset_of_no_reset limit overflowed hreset]
    exact inserts_after limit steps

end BoundedCache

namespace Value

/-- Values that can be keys: neither lists nor objects, and not NaN. -/
def isKey : Value → Bool
  | .list _ | .object _ => false
  | v => !v.isNaN

/-- What tells keys apart: a text, or a place on the number line. -/
def keyPlace : Value → Option (String ⊕ (Int × Int))
  | .str s => some (.inl s)
  | v => v.numeric?.map fun n => .inr n.place

theorem eqv_iff_keyPlace {a b : Value} (ha : a.isKey = true) (hb : b.isKey = true) :
    a.eqv b = true ↔ a.keyPlace = b.keyPlace := by
  cases a <;> cases b <;>
    simp_all [isKey, keyPlace, eqv, numeric?, Number.eqv, Number.isNaN, isNaN]

end Value

/-- A scalar as a key. Truth values are the numbers that they stand for, and a whole double is the
integer it is equal to. -/
abbrev ScalarKey := { v : Value // v.isKey = true }

namespace ScalarKey

instance : BEq ScalarKey := ⟨fun a b => a.1.eqv b.1⟩

theorem beq_iff_keyPlace (a b : ScalarKey) : (a == b) = true ↔ a.1.keyPlace = b.1.keyPlace :=
  Value.eqv_iff_keyPlace a.2 b.2

instance : EquivBEq ScalarKey where
  rfl := fun {a} => (beq_iff_keyPlace a a).mpr rfl
  symm := fun {a b} h => (beq_iff_keyPlace b a).mpr ((beq_iff_keyPlace a b).mp h).symm
  trans := fun {a b c} h h' => (beq_iff_keyPlace a c).mpr
    (((beq_iff_keyPlace a b).mp h).trans ((beq_iff_keyPlace b c).mp h'))

end ScalarKey

namespace BoundedCache

section OneKey

def intOne : ScalarKey := ⟨.int 1, rfl⟩

def doubleOne : ScalarKey := ⟨.float (.ofInt 1), by decide +kernel⟩

def textOne : ScalarKey := ⟨.str "1", rfl⟩

/-- Null is put under 1, looked up under true, and dropped for another key. -/
def oneKeySteps : List (CacheStep ScalarKey Value) :=
  [.put intOne .null, .get ⟨.bool true, rfl⟩, .put textOne (.bool false)]

theorem latest_within_limit_oneKey :
    ((after ⟨1, Nat.one_pos⟩ (oneKeySteps.take 2)).get doubleOne).1 = some .null ∧
      let cache := after ⟨1, Nat.one_pos⟩ oneKeySteps
      cache.size ≤ 1 ∧ cache.hits + cache.misses = 1 ∧ 2 = cache.size + cache.evictions := by
  obtain ⟨-, hget, -⟩ := latest_within_limit ⟨1, Nat.one_pos⟩ (oneKeySteps.take 2)
  obtain ⟨hsize, -, -, hcount, -, hbalance⟩ := latest_within_limit ⟨1, Nat.one_pos⟩ oneKeySteps
  have same : (doubleOne == intOne) = true := by decide +kernel
  have stored : Latest ⟨1, Nat.one_pos⟩ doubleOne ([] ++ [.put intOne .null]) Value.null :=
    .put same
  have latest := stored.kept (show Keeps _ _ (.get ⟨.bool true, rfl⟩) from trivial)
  have hinserts : tally step inserts (.ofLimit ⟨1, Nat.one_pos⟩) oneKeySteps = 2 := by
    decide +kernel
  have hdiscarded : tally step discarded (.ofLimit ⟨1, Nat.one_pos⟩) oneKeySteps = 0 := rfl
  have hcleared : tally step cleared (.ofLimit ⟨1, Nat.one_pos⟩) oneKeySteps = 0 := rfl
  have hall := hbalance (by decide)
  rw [hinserts, hdiscarded, hcleared, Nat.add_zero] at hall
  exact ⟨(hget _ _).mpr latest, hsize, hcount, hall⟩

end OneKey

end BoundedCache

end GridRules
