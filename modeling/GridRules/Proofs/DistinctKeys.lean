import GridRules.Assoc
import Mathlib.Data.List.Basic

namespace GridRules

namespace Assoc

variable {α β : Type}

theorem mem_keys {entries : Assoc α} {key : String} :
    key ∈ entries.keys ↔ ∃ value, (key, value) ∈ entries := by
  simp [keys]

theorem get?_eq_none_iff {entries : Assoc α} {key : String} :
    entries.get? key = none ↔ key ∉ entries.keys := by
  induction entries with
  | nil => simp [keys]
  | cons entry rest ih =>
    obtain ⟨k, v⟩ := entry
    by_cases h : key = k
    · simp [get?_cons, keys, h]
    · simpa [get?_cons, keys, h] using ih

theorem has_iff {entries : Assoc α} {key : String} :
    entries.has key = true ↔ key ∈ entries.keys := by
  rw [has, Option.isSome_iff_ne_none, ne_eq, get?_eq_none_iff, not_not]

theorem exists_get?_of_mem_keys {entries : Assoc α} {key : String} (h : key ∈ entries.keys) :
    ∃ value, entries.get? key = some value :=
  Option.isSome_iff_exists.mp (has_iff.mpr h)

theorem mem_of_get? {entries : Assoc α} {key : String} {value : α}
    (h : entries.get? key = some value) : (key, value) ∈ entries := by
  obtain ⟨front, back, rfl, _⟩ := List.lookup_eq_some_iff.mp h
  simp

theorem get?_of_mem {entries : Assoc α} (distinct : entries.keys.Nodup) {key : String} {value : α}
    (h : (key, value) ∈ entries) : entries.get? key = some value := by
  induction entries with
  | nil => simp at h
  | cons entry rest ih =>
    obtain ⟨k, v⟩ := entry
    obtain ⟨hk, hrest⟩ := List.nodup_cons.mp distinct
    rw [get?_cons]
    rcases List.mem_cons.mp h with he | hm
    · cases he
      simp
    · have hne : key ≠ k := fun he => hk (he ▸ mem_keys.mpr ⟨value, hm⟩)
      rw [if_neg hne, ih hrest hm]

theorem put_of_not_mem {entries : Assoc α} {key : String} (fresh : key ∉ entries.keys)
    (value : α) : entries.put key value = entries ++ [(key, value)] := by
  induction entries with
  | nil => rfl
  | cons entry rest ih =>
    obtain ⟨k, v⟩ := entry
    have hne : k ≠ key := fun he => fresh (by simp [keys, he])
    have hrest : key ∉ keys rest := fun hm => fresh (List.mem_cons_of_mem _ hm)
    rw [put, if_neg hne, ih hrest, List.cons_append]

theorem mem_keys_put {entries : Assoc α} {key other : String} {value : α} :
    other ∈ (entries.put key value).keys ↔ other = key ∨ other ∈ entries.keys := by
  rw [← has_iff, ← has_iff, has, has, get?_put]
  split <;> simp_all

theorem keys_put (entries : Assoc α) (key : String) (value : α) :
    (entries.put key value).keys =
      if entries.has key then entries.keys else entries.keys ++ [key] := by
  induction entries with
  | nil => rfl
  | cons entry rest ih =>
    obtain ⟨k, v⟩ := entry
    by_cases h : k = key
    · simp [put, keys, has, get?_cons, h]
    · have hhas : has ((k, v) :: rest) key = has rest key := by
        simp [has, get?_cons, Ne.symm h]
      have hput : (put ((k, v) :: rest) key value).keys = k :: (put rest key value).keys := by
        simp [put, keys, h]
      rw [hput, ih, hhas]
      split <;> rfl

/-- Writing a key leaves all entries of other keys as they are, and in their order. -/
theorem filter_put {p : String → Bool} {key : String} (hp : p key = false) (entries : Assoc α)
    (value : α) :
    (entries.put key value).filter (fun entry => p entry.1) =
      entries.filter fun entry => p entry.1 := by
  induction entries with
  | nil => simp [put, hp]
  | cons entry rest ih =>
    obtain ⟨k, v⟩ := entry
    by_cases h : k = key
    · simp [put, h, hp]
    · simp [put, h, List.filter_cons, ih]

theorem keys_put_nodup {entries : Assoc α} (distinct : entries.keys.Nodup) (key : String)
    (value : α) : (entries.put key value).keys.Nodup := by
  induction entries with
  | nil => simp [put, keys]
  | cons entry rest ih =>
    obtain ⟨k, v⟩ := entry
    obtain ⟨hk, hrest⟩ := List.nodup_cons.mp distinct
    unfold put
    split
    next h => exact h ▸ distinct
    next h =>
      refine List.nodup_cons.mpr ⟨?_, ih hrest⟩
      intro hm
      rcases mem_keys_put.mp hm with he | hm
      · exact h he
      · exact hk hm

theorem keys_putAll_nodup {entries : Assoc α} (distinct : entries.keys.Nodup) (more : Assoc α) :
    (entries.putAll more).keys.Nodup := by
  induction more generalizing entries with
  | nil => exact distinct
  | cons entry more ih => exact ih (keys_put_nodup distinct entry.1 entry.2)

theorem mem_of_get?_putAll {entries more : Assoc α} {key : String} {value : α}
    (h : (entries.putAll more).get? key = some value) :
    entries.get? key = some value ∨ (key, value) ∈ more := by
  induction more generalizing entries with
  | nil => exact Or.inl h
  | cons entry more ih =>
    rcases ih h with hput | hm
    · rw [get?_put] at hput
      split at hput
      next he =>
        obtain rfl := Option.some.inj hput
        exact Or.inr (by simp [he])
      next => exact Or.inl hput
    · exact Or.inr (List.mem_cons_of_mem entry hm)

theorem mem_keys_putAll {entries more : Assoc α} {key : String} :
    key ∈ (entries.putAll more).keys ↔ key ∈ entries.keys ∨ key ∈ more.keys := by
  induction more generalizing entries with
  | nil => simp [putAll, keys]
  | cons entry more ih =>
    have h : key ∈ ((entries.put entry.1 entry.2).putAll more).keys ↔ _ := ih
    rw [putAll, List.foldl_cons, ← putAll, h, mem_keys_put]
    simp [keys, or_left_comm, or_assoc]

/-- Where all entries of a key agree, it does not matter which of them counts. -/
theorem get?_putAll_of_agree {more : Assoc α} {key : String} {value : α}
    (hm : (key, value) ∈ more) (agree : ∀ other, (key, other) ∈ more → other = value) :
    (putAll [] more).get? key = some value := by
  obtain ⟨other, ho⟩ := exists_get?_of_mem_keys
    (mem_keys_putAll.mpr (Or.inr (mem_keys.mpr ⟨value, hm⟩)) : key ∈ (putAll [] more).keys)
  rcases mem_of_get?_putAll ho with h | h
  · simp at h
  · rw [ho, agree other h]

/-- Leaving out keys before or after entries are put together makes no difference. -/
theorem get?_putAll_filter {p : String → Bool} {entries kept : Assoc α} (more : Assoc α)
    (h : ∀ key, kept.get? key = if p key then entries.get? key else none) (key : String) :
    (kept.putAll (more.filter fun entry => p entry.1)).get? key =
      if p key then (entries.putAll more).get? key else none := by
  induction more generalizing entries kept with
  | nil => exact h key
  | cons entry more ih =>
    obtain ⟨k, v⟩ := entry
    have step : ∀ all : Assoc α, all.putAll ((k, v) :: more) = (all.put k v).putAll more :=
      fun _ => rfl
    rw [step]
    cases hp : p k with
    | true =>
      rw [List.filter_cons_of_pos (by simpa using hp)]
      have hput : ∀ other, (kept.put k v).get? other =
          if p other then (entries.put k v).get? other else none := by
        intro other
        rw [get?_put, get?_put, h other]
        split
        next he => simp [he, hp]
        next => rfl
      exact ih hput
    | false =>
      rw [List.filter_cons_of_neg (by simp [hp])]
      refine ih fun other => ?_
      rw [get?_put, h other]
      split
      next => rw [if_neg]; rintro rfl; simp_all
      next => rfl

theorem get?_map_values (entries : Assoc α) (f : String × α → β) (key : String) :
    get? (entries.map fun entry => (entry.1, f entry)) key =
      (entries.get? key).map fun value => f (key, value) := by
  induction entries with
  | nil => rfl
  | cons entry rest ih =>
    obtain ⟨k, v⟩ := entry
    by_cases h : key = k
    · simp [get?_cons, h]
    · simpa [get?_cons, h] using ih

theorem has_map_values (entries : Assoc α) (f : String × α → β) (key : String) :
    has (entries.map fun entry => (entry.1, f entry)) key = entries.has key := by
  rw [has, has, get?_map_values, Option.isSome_map]

section Mapped

variable (f : α → β)

theorem map_put (entries : Assoc α) (key : String) (value : α) :
    (entries.put key value).map (fun entry => (entry.1, f entry.2)) =
      put (entries.map fun entry => (entry.1, f entry.2)) key (f value) := by
  induction entries with
  | nil => rfl
  | cons entry rest ih =>
    obtain ⟨k, v⟩ := entry
    by_cases h : k = key
    · simp [put, h]
    · simpa [put, h] using ih

theorem map_putAll (entries more : Assoc α) :
    (entries.putAll more).map (fun entry => (entry.1, f entry.2)) =
      putAll (entries.map fun entry => (entry.1, f entry.2))
        (more.map fun entry => (entry.1, f entry.2)) := by
  induction more generalizing entries with
  | nil => rfl
  | cons entry more ih =>
    have h := ih (entries.put entry.1 entry.2)
    rw [map_put] at h
    exact h

end Mapped

section Renamed

variable {entries : Assoc α} {name : String → String}

theorem get?_foldl_put_of_ne {key : String} (h : ∀ k ∈ entries.keys, key ≠ name k)
    (base : Assoc α) :
    (entries.foldl (fun all entry => all.put (name entry.1) entry.2) base).get? key =
      base.get? key := by
  induction entries generalizing base with
  | nil => rfl
  | cons entry rest ih =>
    have hne : key ≠ name entry.1 := h entry.1 (by simp [keys])
    have hrest : ∀ k ∈ keys rest, key ≠ name k := fun k hk => h k (List.mem_cons_of_mem _ hk)
    rw [List.foldl_cons, ih hrest, get?_put, if_neg hne]

/-- Where every entry is written under another name as well, it is found there. -/
theorem get?_foldl_put_name (distinct : entries.keys.Nodup) (injective : Function.Injective name)
    {key : String} (h : key ∈ entries.keys) (base : Assoc α) :
    (entries.foldl (fun all entry => all.put (name entry.1) entry.2) base).get? (name key) =
      entries.get? key := by
  induction entries generalizing base with
  | nil => simp [keys] at h
  | cons entry rest ih =>
    obtain ⟨k, v⟩ := entry
    obtain ⟨hk, hrest⟩ := List.nodup_cons.mp distinct
    rw [List.foldl_cons, get?_cons]
    by_cases he : key = k
    · subst key
      have hne : ∀ other ∈ keys rest, name k ≠ name other := fun other ho heq =>
        hk (injective heq ▸ ho)
      rw [get?_foldl_put_of_ne hne, get?_put, if_pos rfl, if_pos rfl]
    · have hm : key ∈ keys rest := (List.mem_cons.mp h).resolve_left he
      rw [if_neg he, ih hrest hm]

end Renamed

end Assoc

end GridRules
