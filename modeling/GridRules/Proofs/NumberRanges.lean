import GridRules.Proofs.CanonicalForms
import GridRules.Value.Coerce

namespace GridRules

/-- Not an integer beyond the range of doubles. -/
def Number.InRange (n : Number) : Prop :=
  n.toFloat?.isSome = true

instance (n : Number) : Decidable n.InRange :=
  inferInstanceAs (Decidable (_ = true))

namespace Number

theorem inRange_int_iff (n : Int) :
    (Number.int n).InRange ↔ n.natAbs < (2 ^ 54 - 1) * 2 ^ 970 := by
  rw [← Binary64.isFinite_ofInt_iff, InRange, toFloat?, floatOfInt?]
  simp

theorem inRange_float (x : Binary64) : (Number.float x).InRange := rfl

theorem isSome_nanTest? (n : Number) : n.nanTest?.isSome = true ↔ n.InRange := by
  rw [nanTest?, Option.isSome_map, InRange]

end Number

namespace Value

/-- Not a number beyond the range of doubles. -/
def NumberInRange (v : Value) : Prop :=
  ∀ n ∈ v.number?, n.InRange

instance (v : Value) : Decidable v.NumberInRange :=
  inferInstanceAs (Decidable (∀ n ∈ v.number?, n.InRange))

/-- Neither a number beyond the range of doubles nor a text that spells one. -/
def InRange : Value → Prop
  | .str s => (numericText? s).isSome = true
  | v => v.NumberInRange

instance : (v : Value) → Decidable v.InRange
  | .str s => inferInstanceAs (Decidable ((numericText? s).isSome = true))
  | .null => inferInstanceAs (Decidable Value.null.NumberInRange)
  | .bool b => inferInstanceAs (Decidable (Value.bool b).NumberInRange)
  | .int n => inferInstanceAs (Decidable (Value.int n).NumberInRange)
  | .float x => inferInstanceAs (Decidable (Value.float x).NumberInRange)
  | .list items => inferInstanceAs (Decidable (Value.list items).NumberInRange)
  | .object entries => inferInstanceAs (Decidable (Value.object entries).NumberInRange)

theorem inRange_int (n : Int) : (Value.int n).InRange ↔ (Number.int n).InRange :=
  ⟨fun h => h _ rfl, fun h _ hm => Option.some.inj hm ▸ h⟩

theorem inRange_float (x : Binary64) : (Value.float x).InRange := fun _ hm =>
  Option.some.inj hm ▸ Number.inRange_float x

theorem numberInRange_of_none {v : Value} (h : v.number? = none) : v.NumberInRange := by
  simp [NumberInRange, h]

theorem isSome_truthy? (v : Value) : v.truthy?.isSome = true ↔ v.NumberInRange := by
  cases v with
  | int n =>
    have hint : (Value.int n).NumberInRange ↔ (Number.int n).InRange := inRange_int n
    rw [hint, truthy?]
    split
    next h =>
      subst h
      exact iff_of_true rfl (by decide +kernel)
    next => rw [Option.isSome_map, Number.isSome_nanTest?]
  | float x => exact iff_of_true rfl (inRange_float x)
  | null | bool | str | list | object => exact iff_of_true rfl (numberInRange_of_none rfl)

theorem isSome_parseNumber? (v : Value) :
    (v.parseNumber?.bind Number.nanTest?).isSome = true ↔ v.InRange := by
  cases v with
  | str s =>
    by_cases hblank : isBlankText s
    · simp [parseNumber?, InRange, numericText?, hblank, Number.nan, Number.nanTest?,
        Number.toFloat?]
    · cases htext : numericText? s <;>
        simp [parseNumber?, InRange, hblank, htext, Number.nanTest?, Number.toFloat?]
  | int n => rw [parseNumber?, Option.bind_some, Number.isSome_nanTest?, inRange_int]
  | float x => exact iff_of_true rfl (inRange_float x)
  | null | bool | list | object => exact iff_of_true rfl (numberInRange_of_none rfl)

end Value

end GridRules
