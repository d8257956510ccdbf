import GridRules.Proofs.StructuralEquality
import GridRules.Value.Compare
/-!
Membership in lists. A value is among the items of a list if it is loosely equal to one of them; a
list holds a value if one of its items is equal to it by value. Neither equality is finer than the
other: values with the same text are loosely equal, whatever they are, and a truth value is equal by
value to the number that it stands for.
-/

namespace GridRules

namespace Number

theorem eqv_comm (m n : Number) : m.eqv n = n.eqv m := by
  rw [eqv, eqv, Bool.and_comm (!m.isNaN), BEq.comm]

/-- A double that is equal to a whole number is that number as it is written. -/
theorem toInt?_of_eqv {n : Int} {x : Binary64} (h : (int n).eqv (float x) = true) :
    x.toInt? = some n := by
  simp only [eqv, Bool.and_eq_true, beq_iff_eq, Bool.not_eq_true'] at h
  obtain ⟨⟨-, hnan⟩, hplace⟩ := h
  have hunits := congrArg Prod.snd hplace
  cases x with
  | nan => cases hnan
  | infinite negative => cases negative <;> cases congrArg Prod.fst hplace
  | finite negative m e fits => exact Binary64.toInt?_of_units rfl hunits.symm

end Number

namespace Value

def isTruth : Value → Bool
  | .bool _ => true
  | _ => false

/-- A truth value and the number that it stands for, in either order. -/
def TruthNumber (a b : Value) : Prop :=
  a.isTruth ≠ b.isTruth ∧ a.eqv b = true

theorem looseEq_iff {a b : Value} :
    a.looseEq b = true ↔ a.sameKind b = true ∧ a.eqv b = true ∨ a.plain = b.plain := by
  rw [looseEq, Bool.or_eq_true, Bool.and_eq_true, beq_iff_eq]

/-- Values that are equal by value are loosely equal, truth values beside numbers apart. -/
theorem looseEq_of_eqv {a b : Value} (h : a.eqv b = true) (alike : a.isTruth = b.isTruth) :
    a.looseEq b = true := by
  refine looseEq_iff.mpr ?_
  cases a with
  | null | str | list | object =>
    refine .inl ⟨?_, h⟩
    cases b <;> simp_all [eqv, sameKind]
  | bool => cases b <;> simp_all [isTruth, sameKind]
  | int n =>
    cases b with
    | int => exact .inl ⟨rfl, h⟩
    | float x =>
      rw [plain, plain, Number.toInt?_of_eqv h]
      exact .inr rfl
    | _ => simp [eqv, numeric?, isTruth] at h alike
  | float x =>
    cases b with
    | float => exact .inl ⟨rfl, h⟩
    | int n =>
      rw [plain, plain, Number.toInt?_of_eqv ((Number.eqv_comm _ _).trans h)]
      exact .inr rfl
    | _ => simp [eqv, numeric?, isTruth] at h alike

theorem isAmong_list_iff {v : Value} {items : List Value} :
    v.isAmong (.list items) = true ↔ ∃ item ∈ items, item.looseEq v = true :=
  List.any_eq_true

theorem holds_list_iff {v : Value} {items : List Value} :
    (Value.list items).holds v = true ↔ ∃ item ∈ items, item.eqv v = true :=
  List.any_eq_true

theorem holds_of_isAmong_iff {v : Value} {items : List Value} :
    (v.isAmong (.list items) = true → (Value.list items).holds v = true) ↔
      ∀ item ∈ items, item.plain = v.plain → ∃ other ∈ items, other.eqv v = true := by
  rw [isAmong_list_iff, holds_list_iff]
  constructor
  · exact fun h item hm htext => h ⟨item, hm, looseEq_iff.mpr (.inr htext)⟩
  · rintro h ⟨item, hm, hloose⟩
    rcases looseEq_iff.mp hloose with ⟨-, heqv⟩ | htext
    · exact ⟨item, hm, heqv⟩
    · exact h item hm htext

theorem isAmong_of_holds_iff {v : Value} {items : List Value} :
    ((Value.list items).holds v = true → v.isAmong (.list items) = true) ↔
      ∀ item ∈ items, item.TruthNumber v → ∃ other ∈ items, other.looseEq v = true := by
  rw [isAmong_list_iff, holds_list_iff]
  constructor
  · exact fun h item hm htruth => h ⟨item, hm, htruth.2⟩
  · rintro h ⟨item, hm, heqv⟩
    by_cases alike : item.isTruth = v.isTruth
    · exact ⟨item, hm, looseEq_of_eqv heqv alike⟩
    · exact h item hm ⟨alike, heqv⟩

end Value

namespace Identity

open Value

variable (identity : Identity)

/-- Loose equality over the equality by value that asks what is one thing. -/
def looseEq (a b : Value) : Bool :=
  (a.sameKind b && identity.eqv a b) || a.plain == b.plain

/-- Whether an item is one thing with the value, or equal to it. -/
def memOf (v : Value) (items : List Value) : Bool :=
  items.any fun item => identity.same item v || identity.eqv item v

end Identity

namespace Value

/-- A value is in a list if it is loosely equal to an item, and the list contains it if an item is
equal to it by value. The two agree exactly if an item with the text of the value comes with an item
that is equal to it by value, and an item that is equal to it as a truth value is to a number comes
with an item that is loosely equal to it. It makes no difference what is one and the same thing, if
NaN does not stand both in the value and in the list. -/
theorem isIn_eq_contains_iff {v : Value} {items : List Value} (keyed : Keyed (.list items))
    (apart : ¬ (HoldsNaN v ∧ HoldsNaN (.list items))) :
    (∃ among, v.meets? .isIn (.list items) = some among ∧
      v.meets? .notIn (.list items) = some !among ∧
      (among = true ↔ ∃ item ∈ items, item.meets? .eq v = some true)) ∧
    (∃ held, (Value.list items).meets? .contains v = some held ∧
      (Value.list items).meets? .notContains v = some !held ∧
      (held = true ↔ ∃ item ∈ items, item.eqv v = true)) ∧
    (v.meets? .isIn (.list items) = (Value.list items).meets? .contains v ↔
      (∀ item ∈ items, item.plain = v.plain → ∃ other ∈ items, other.eqv v = true) ∧
      ∀ item ∈ items, item.TruthNumber v → ∃ other ∈ items, other.looseEq v = true) ∧
    ∀ identity : Identity, identity.memOf v items = v.memOf items ∧
      ∀ item ∈ items, identity.looseEq item v = item.looseEq v := by
  refine ⟨⟨_, rfl, rfl, ?_⟩, ⟨_, rfl, rfl, holds_list_iff⟩, ?_, fun identity => ?_⟩
  · simp only [isAmong_list_iff, meets?, Option.some.injEq]
  · rw [← holds_of_isAmong_iff, ← isAmong_of_holds_iff, meets?, meets?, Option.some.injEq,
      Bool.eq_iff_iff]
    exact iff_iff_implies_and_implies
  · have hkeyed : ∀ item ∈ items, Keyed item := keyed_list_iff.mp keyed
    have apart : ∀ item ∈ items, ¬ (HoldsNaN item ∧ HoldsNaN v) := fun item hm h =>
      apart ⟨h.2, .item hm h.1⟩
    have heqv : ∀ item ∈ items, identity.eqv item v = item.eqv v := fun item hm =>
      identity.eqv_eq item (hkeyed item hm) (apart item hm)
    constructor
    · rw [Identity.memOf, memOf, Bool.eq_iff_iff, List.any_eq_true, List.any_eq_true]
      refine exists_congr fun item => and_congr_right fun hm => ?_
      rw [identity.same_or_eqv (hkeyed item hm) (apart item hm) (heqv item hm)]
    · intro item hm
      rw [Identity.looseEq, looseEq, heqv item hm]

/-- A number that is in a list with NaN. -/
theorem isIn_eq_contains_iff_besideNaN :
    let items : List Value := [.float .nan, .int 2]
    Keyed (.list items) ∧ ¬ (HoldsNaN (.int 2) ∧ HoldsNaN (.list items)) ∧
      (∃ among, (Value.int 2).meets? .isIn (.list items) = some among ∧
        (Value.int 2).meets? .notIn (.list items) = some !among ∧
        (among = true ↔ ∃ item ∈ items, item.meets? .eq (.int 2) = some true)) ∧
      (∃ held, (Value.list items).meets? .contains (.int 2) = some held ∧
        (Value.list items).meets? .notContains (.int 2) = some !held ∧
        (held = true ↔ ∃ item ∈ items, item.eqv (.int 2) = true)) ∧
      ((Value.int 2).meets? .isIn (.list items) = (Value.list items).meets? .contains (.int 2) ↔
        (∀ item ∈ items, item.plain = (Value.int 2).plain →
          ∃ other ∈ items, other.eqv (.int 2) = true) ∧
        ∀ item ∈ items, item.TruthNumber (.int 2) →
          ∃ other ∈ items, other.looseEq (.int 2) = true) ∧
      ∀ identity : Identity, identity.memOf (.int 2) items = (Value.int 2).memOf items ∧
        ∀ item ∈ items, identity.looseEq item (.int 2) = item.looseEq (.int 2) := by
  intro items
  have keyed : Keyed (.list items) :=
    keyed_list_iff.mpr (by simpa [items] using ⟨.scalar rfl, .scalar rfl⟩)
  have apart : ¬ (HoldsNaN (.int 2) ∧ HoldsNaN (.list items)) := fun h => nomatch h.1
  exact ⟨keyed, apart, isIn_eq_contains_iff keyed apart⟩

/-- A number that is in the list by its text is not contained in it, and a number that is contained
in the list, as the value of a truth value, is not in it. -/
theorem isIn_ne_contains :
    (Value.str "3").meets? .isIn (.list [.int 3]) = some true ∧
      (Value.list [.int 3]).meets? .contains (.str "3") = some false ∧
      (Value.int 1).meets? .isIn (.list [.bool true]) = some false ∧
      (Value.list [.bool true]).meets? .contains (.int 1) = some true := by
  decide +kernel

end Value

end GridRules
