import GridRules.Expr.Evaluate
import GridRules.Proofs.DistinctKeys
import GridRules.Proofs.ValueTexts
import Mathlib.Data.List.Perm.Subperm
/-!
Strict equality beside structural equality. The two are the same on scalars. Lists and objects are
left to equality by value, which takes truth values for numbers, so that they are misjudged if that
makes a difference anywhere inside. It also takes whatever is one and the same thing for equal, but
that makes a difference to NaN only.
-/

namespace GridRules

/-- Equality by value and sameness of numbers differ in NaN only. -/
theorem Number.eqv_iff_same {m n : Number} :
    m.eqv n = true ↔ m.same n = true ∧ m.isNaN = false := by
  rw [same, eqv]
  cases m.isNaN <;> cases n.isNaN <;> simp

theorem Number.same_self (a : Number) : a.same a = true := by
  cases h : a.isNaN <;> simp [same, eqv, h]

namespace Value

/-- Null, truth values, numbers and texts. -/
def isScalar : Value → Bool
  | .list _ | .object _ => false
  | _ => true

/-- Lists are equal item by item and objects key by key; scalars are equal as strict equality has
it, under which a number equals numbers only, and NaN equals itself. -/
inductive Structural : Value → Value → Prop
  | scalar {a b : Value} : a.isScalar = true → b.isScalar = true → a.strictEq b = true →
      Structural a b
  | list {xs ys : List Value} : List.Forall₂ Structural xs ys → Structural (.list xs) (.list ys)
  | object {es fs : Entries} : (∀ key, key ∈ es.keys ↔ key ∈ fs.keys) →
      (∀ key v w, es.get? key = some v → fs.get? key = some w → Structural v w) →
      Structural (.object es) (.object fs)

/-- No object in the value has a key twice, at any depth. -/
inductive Keyed : Value → Prop
  | scalar {v : Value} : v.isScalar = true → Keyed v
  | list {items : List Value} : (∀ v ∈ items, Keyed v) → Keyed (.list items)
  | object {entries : Entries} : entries.keys.Nodup → (∀ e ∈ entries, Keyed e.2) →
      Keyed (.object entries)

/-- NaN stands in the value, at some depth. -/
inductive HoldsNaN : Value → Prop
  | float {x : Binary64} : x.isNaN = true → HoldsNaN (.float x)
  | item {v : Value} {items : List Value} : v ∈ items → HoldsNaN v → HoldsNaN (.list items)
  | entry {e : String × Value} {entries : Entries} : e ∈ entries → HoldsNaN e.2 →
      HoldsNaN (.object entries)

mutual

/-- The value with the number that it stands for in the place of every truth value. -/
def numbered : Value → Value
  | .bool b => .int (if b then 1 else 0)
  | .list items => .list (numberedItems items)
  | .object entries => .object (numberedEntries entries)
  | v => v

def numberedItems : List Value → List Value
  | [] => []
  | v :: rest => v.numbered :: numberedItems rest

def numberedEntries : List (String × Value) → List (String × Value)
  | [] => []
  | (key, v) :: rest => (key, v.numbered) :: numberedEntries rest

end

theorem numberedItems_eq_map (items : List Value) : numberedItems items = items.map numbered := by
  induction items with
  | nil => rfl
  | cons v rest ih => rw [numberedItems, ih, List.map_cons]

theorem numberedEntries_eq_map (entries : Entries) :
    numberedEntries entries = entries.map fun e => (e.1, e.2.numbered) := by
  induction entries with
  | nil => rfl
  | cons e rest ih => rw [numberedEntries, ih, List.map_cons]

theorem isScalar_numbered (v : Value) : v.numbered.isScalar = v.isScalar := by
  cases v <;> simp [numbered, isScalar]

theorem eqvItems_iff {xs ys : List Value} :
    eqvItems xs ys = true ↔ List.Forall₂ (fun x y => x.eqv y = true) xs ys := by
  induction xs generalizing ys with
  | nil => cases ys <;> simp [eqvItems]
  | cons x xs ih => cases ys <;> simp [eqvItems, ih]

theorem eqvEntries_iff {es : List (String × Value)} {fs : Entries} :
    eqvEntries es fs = true ↔ ∀ e ∈ es, ∃ w, fs.get? e.1 = some w ∧ e.2.eqv w = true := by
  induction es with
  | nil => simp [eqvEntries]
  | cons e es ih =>
    obtain ⟨key, v⟩ := e
    cases h : fs.get? key <;> simp [eqvEntries, ih, h]

theorem structural_scalar_iff {a b : Value} (ha : a.isScalar = true) :
    Structural a b ↔ b.isScalar = true ∧ a.strictEq b = true := by
  constructor
  · intro h
    cases h with
    | scalar _ hb he => exact ⟨hb, he⟩
    | list => simp [isScalar] at ha
    | object => simp [isScalar] at ha
  · rintro ⟨hb, he⟩
    exact .scalar ha hb he

theorem structural_list_iff {xs ys : List Value} :
    Structural (.list xs) (.list ys) ↔ List.Forall₂ Structural xs ys := by
  refine ⟨fun h => ?_, .list⟩
  cases h with
  | scalar ha => simp [isScalar] at ha
  | list h => exact h

theorem structural_object_iff {es fs : Entries} :
    Structural (.object es) (.object fs) ↔ (∀ key, key ∈ es.keys ↔ key ∈ fs.keys) ∧
      ∀ key v w, es.get? key = some v → fs.get? key = some w → Structural v w := by
  refine ⟨fun h => ?_, fun h => .object h.1 h.2⟩
  cases h with
  | scalar ha => simp [isScalar] at ha
  | object hkeys hvalues => exact ⟨hkeys, hvalues⟩

theorem holdsNaN_float_iff {x : Binary64} : HoldsNaN (.float x) ↔ x.isNaN = true := by
  refine ⟨fun h => ?_, .float⟩
  cases h with
  | float h => exact h

theorem holdsNaN_list_iff {items : List Value} :
    HoldsNaN (.list items) ↔ ∃ v ∈ items, HoldsNaN v := by
  refine ⟨fun h => ?_, fun ⟨_, hm, h⟩ => .item hm h⟩
  cases h with
  | item hm h => exact ⟨_, hm, h⟩

theorem holdsNaN_object_iff {entries : Entries} :
    HoldsNaN (.object entries) ↔ ∃ e ∈ entries, HoldsNaN e.2 := by
  refine ⟨fun h => ?_, fun ⟨_, hm, h⟩ => .entry hm h⟩
  cases h with
  | entry hm h => exact ⟨_, hm, h⟩

theorem number?_numbered (v : Value) : v.numbered.number? = v.numeric? := by
  cases v <;> rfl

theorem isScalar_of_numeric? {v : Value} {n : Number} (h : v.numeric? = some n) :
    v.isScalar = true := by
  cases v with
  | list items => cases h
  | object entries => cases h
  | _ => rfl

theorem holdsNaN_of_numeric? {v : Value} {n : Number} (h : v.numeric? = some n) :
    HoldsNaN v ↔ n.isNaN = true := by
  cases v with
  | float x =>
    obtain rfl := Option.some.inj h
    exact holdsNaN_float_iff
  | bool b =>
    obtain rfl := Option.some.inj h
    exact iff_of_false nofun nofun
  | int m =>
    obtain rfl := Option.some.inj h
    exact iff_of_false nofun nofun
  | _ => cases h

theorem not_holdsNaN_of_numeric? {v : Value} (hs : v.isScalar = true) (h : v.numeric? = none) :
    ¬ HoldsNaN v := by
  intro hn
  cases hn with
  | float => cases h
  | item => cases hs
  | entry => cases hs

/-- A truth value or a number is equal by value to what stands for an equal number. -/
theorem eqv_of_numeric? {a : Value} {m : Number} (h : a.numeric? = some m) (b : Value) :
    a.eqv b = true ↔ ∃ n, b.numeric? = some n ∧ m.eqv n = true := by
  cases a with
  | bool c =>
    obtain rfl := Option.some.inj h
    rw [eqv]
    cases b.numeric? <;> simp
  | int k =>
    obtain rfl := Option.some.inj h
    rw [eqv]
    cases b.numeric? <;> simp
  | float x =>
    obtain rfl := Option.some.inj h
    rw [eqv]
    cases b.numeric? <;> simp
  | _ => cases h

theorem strictEq_numbered_of_numeric? {a : Value} {m : Number} (h : a.numeric? = some m)
    (b : Value) :
    a.numbered.strictEq b.numbered = true ↔ ∃ n, b.numeric? = some n ∧ m.same n = true := by
  rw [strictEq, number?_numbered, number?_numbered, h]
  cases b.numeric? <;> simp

/-- On scalars, equality by value is strict equality of the numbers that they stand for, NaN
aside. -/
theorem eqv_scalar_iff {a : Value} (ha : a.isScalar = true) (b : Value) :
    a.eqv b = true ↔ Structural a.numbered b.numbered ∧ ¬ HoldsNaN a := by
  rw [structural_scalar_iff (isScalar_numbered a ▸ ha), isScalar_numbered]
  cases hm : a.numeric? with
  | some m =>
    rw [eqv_of_numeric? hm, strictEq_numbered_of_numeric? hm, holdsNaN_of_numeric? hm]
    constructor
    · rintro ⟨n, hn, he⟩
      obtain ⟨hsame, hnan⟩ := Number.eqv_iff_same.mp he
      exact ⟨⟨isScalar_of_numeric? hn, n, hn, hsame⟩, by simp [hnan]⟩
    · rintro ⟨⟨-, n, hn, hsame⟩, hnan⟩
      exact ⟨n, hn, Number.eqv_iff_same.mpr ⟨hsame, by simpa using hnan⟩⟩
  | none =>
    rw [and_iff_left (not_holdsNaN_of_numeric? ha hm)]
    cases a with
    | null => cases b <;> simp [eqv, numbered, strictEq, number?, sameKind, isScalar]
    | str s => cases b <;> simp [eqv, numbered, strictEq, number?, sameKind, isScalar]
    | list items => cases ha
    | object entries => cases ha
    | _ => cases hm

/-- Items are compared one by one, so lists are compared as their items are. -/
theorem forall₂_eqv_iff {xs ys : List Value}
    (each : ∀ x ∈ xs, ∀ y ∈ ys, x.eqv y = true ↔ Structural x.numbered y.numbered ∧ ¬ HoldsNaN x) :
    List.Forall₂ (fun x y => x.eqv y = true) xs ys ↔
      List.Forall₂ Structural (xs.map numbered) (ys.map numbered) ∧ ∀ x ∈ xs, ¬ HoldsNaN x := by
  induction xs generalizing ys with
  | nil => cases ys <;> simp
  | cons x xs ih =>
    cases ys with
    | nil => simp
    | cons y ys =>
      have hrest := ih fun z hz w hw =>
        each z (List.mem_cons_of_mem x hz) w (List.mem_cons_of_mem y hw)
      rw [List.forall₂_cons, each x List.mem_cons_self y List.mem_cons_self, hrest, List.map_cons,
        List.map_cons, List.forall₂_cons, List.forall_mem_cons]
      grind

theorem get?_numberedEntries (entries : Entries) (key : String) :
    Assoc.get? (numberedEntries entries) key = (entries.get? key).map numbered := by
  rw [numberedEntries_eq_map]
  exact Assoc.get?_map_values entries (fun e => e.2.numbered) key

theorem keys_numberedEntries (entries : Entries) :
    Assoc.keys (numberedEntries entries) = entries.keys := by
  simp [numberedEntries_eq_map, Assoc.keys]

/-- Objects of one size in which every key of the one is a key of the other have the same keys. -/
theorem keys_iff_of_subset {es fs : Entries} (hes : es.keys.Nodup) (hfs : fs.keys.Nodup) :
    (es.length = fs.length ∧ es.keys ⊆ fs.keys) ↔ ∀ key, key ∈ es.keys ↔ key ∈ fs.keys := by
  have length_keys (entries : Entries) : entries.keys.length = entries.length := List.length_map _
  constructor
  · rintro ⟨hlength, hsub⟩ key
    have perm : es.keys.Perm fs.keys := (List.subperm_of_subset hes hsub).perm_of_length_le
      (by rw [length_keys, length_keys, hlength])
    exact perm.mem_iff
  · intro same
    have perm : es.keys.Perm fs.keys := (List.perm_ext_iff_of_nodup hes hfs).mpr same
    exact ⟨by rw [← length_keys, ← length_keys, perm.length_eq], perm.subset⟩

theorem eqv_object_iff {es fs : Entries} (hes : es.keys.Nodup) (hfs : fs.keys.Nodup)
    (each : ∀ e ∈ es, ∀ w, fs.get? e.1 = some w →
      (e.2.eqv w = true ↔ Structural e.2.numbered w.numbered ∧ ¬ HoldsNaN e.2)) :
    (Value.object es).eqv (.object fs) = true ↔
      Structural (numbered (.object es)) (numbered (.object fs)) ∧ ¬ HoldsNaN (.object es) := by
  rw [eqv, Bool.and_eq_true, beq_iff_eq, eqvEntries_iff, numbered, numbered, structural_object_iff,
    keys_numberedEntries, keys_numberedEntries, holdsNaN_object_iff, ← keys_iff_of_subset hes hfs]
  constructor
  · rintro ⟨hlength, hall⟩
    refine ⟨⟨⟨hlength, ?_⟩, ?_⟩, ?_⟩
    · intro key hk
      obtain ⟨v, hv⟩ := Assoc.mem_keys.mp hk
      obtain ⟨w, hw, _⟩ := hall _ hv
      exact Assoc.mem_keys.mpr ⟨w, Assoc.mem_of_get? hw⟩
    · intro key v w hv hw
      rw [get?_numberedEntries, Option.map_eq_some_iff] at hv hw
      obtain ⟨v, hv, rfl⟩ := hv
      obtain ⟨w, hw, rfl⟩ := hw
      have hm := Assoc.mem_of_get? hv
      obtain ⟨w', hw', he⟩ := hall _ hm
      obtain rfl : w' = w := Option.some.inj (hw'.symm.trans hw)
      exact ((each _ hm _ hw).mp he).1
    · rintro ⟨e, hm, hnan⟩
      obtain ⟨w, hw, he⟩ := hall e hm
      exact ((each e hm w hw).mp he).2 hnan
  · rintro ⟨⟨⟨hlength, hsub⟩, hvalues⟩, hnan⟩
    refine ⟨hlength, fun e hm => ?_⟩
    obtain ⟨key, v⟩ := e
    obtain ⟨w, hw⟩ := Assoc.exists_get?_of_mem_keys (hsub (Assoc.mem_keys.mpr ⟨v, hm⟩))
    refine ⟨w, hw, (each _ hm w hw).mpr ⟨?_, fun h => hnan ⟨_, hm, h⟩⟩⟩
    apply hvalues key
    · rw [get?_numberedEntries, Assoc.get?_of_mem hes hm, Option.map_some]
    · rw [get?_numberedEntries, hw, Option.map_some]

theorem keyed_list_iff {items : List Value} : Keyed (.list items) ↔ ∀ v ∈ items, Keyed v := by
  refine ⟨fun h => ?_, .list⟩
  cases h with
  | scalar hs => simp [isScalar] at hs
  | list h => exact h

theorem keyed_object_iff {entries : Entries} :
    Keyed (.object entries) ↔ entries.keys.Nodup ∧ ∀ e ∈ entries, Keyed e.2 := by
  refine ⟨fun h => ?_, fun h => .object h.1 h.2⟩
  cases h with
  | scalar hs => simp [isScalar] at hs
  | object distinct h => exact ⟨distinct, h⟩

/-- Equality by value is structural equality once every truth value is taken for its number, except
that nothing with NaN in it is equal to anything. -/
theorem eqv_iff_numbered (a : Value) : ∀ {b : Value}, Keyed a → Keyed b →
    (a.eqv b = true ↔ Structural a.numbered b.numbered ∧ ¬ HoldsNaN a) := by
  induction a using Value.induct with
  | list xs ih =>
    intro b ha hb
    cases b with
    | list ys =>
      have each : ∀ x ∈ xs, ∀ y ∈ ys,
          x.eqv y = true ↔ Structural x.numbered y.numbered ∧ ¬ HoldsNaN x := fun x hx y hy =>
        ih x hx (keyed_list_iff.mp ha x hx) (keyed_list_iff.mp hb y hy)
      rw [eqv, eqvItems_iff, forall₂_eqv_iff each, numbered, numbered, structural_list_iff,
        numberedItems_eq_map, numberedItems_eq_map, holdsNaN_list_iff]
      simp
    | _ =>
      refine iff_of_false (by simp [eqv]) fun h => ?_
      cases h.1 with
      | scalar hs => simp [numbered, isScalar] at hs
  | object es ih =>
    intro b ha hb
    cases b with
    | object fs =>
      obtain ⟨hes, hbelow⟩ := keyed_object_iff.mp ha
      obtain ⟨hfs, hother⟩ := keyed_object_iff.mp hb
      exact eqv_object_iff hes hfs fun e he w hw =>
        ih e he (hbelow e he) (hother _ (Assoc.mem_of_get? hw))
    | _ =>
      refine iff_of_false (by simp [eqv]) fun h => ?_
      cases h.1 with
      | scalar hs => simp [numbered, isScalar] at hs
  | _ =>
    intro b _ _
    exact eqv_scalar_iff rfl b

/-- Values that are structurally equal are so with their truth values taken for numbers. -/
theorem Structural.numbered (a : Value) : ∀ {b : Value}, Structural a b →
    Structural a.numbered b.numbered := by
  induction a using Value.induct with
  | list xs ih =>
    intro b h
    cases h with
    | scalar hs => simp [isScalar] at hs
    | @list _ ys h =>
      rw [Value.numbered, Value.numbered, numberedItems_eq_map, numberedItems_eq_map]
      refine .list ?_
      rw [List.forall₂_map_left_iff, List.forall₂_map_right_iff, List.forall₂_iff_zip]
      obtain ⟨hlength, hpairs⟩ := List.forall₂_iff_zip.mp h
      exact ⟨hlength, fun hm => ih _ (List.of_mem_zip hm).1 (hpairs hm)⟩
  | object es ih =>
    intro b h
    cases h with
    | scalar hs => simp [isScalar] at hs
    | @object _ fs hkeys hvalues =>
      refine .object ?_ ?_
      · rw [keys_numberedEntries, keys_numberedEntries]
        exact hkeys
      · intro key v w hv hw
        rw [get?_numberedEntries, Option.map_eq_some_iff] at hv hw
        obtain ⟨v, hv, rfl⟩ := hv
        obtain ⟨w, hw, rfl⟩ := hw
        exact ih _ (Assoc.mem_of_get? hv) (hvalues key v w hv hw)
  | _ =>
    intro b h
    obtain ⟨hb, he⟩ := (structural_scalar_iff rfl).mp h
    refine .scalar rfl (by rwa [isScalar_numbered]) ?_
    cases b <;> simp_all [Value.numbered, strictEq, number?, sameKind, eqv, numeric?, Number.same]

/-- A value is structurally equal to itself. -/
theorem Structural.refl (a : Value) : Structural a a := by
  induction a using Value.induct with
  | list xs ih => exact .list (List.forall₂_same.mpr ih)
  | object es ih =>
    refine .object (fun _ => Iff.rfl) fun key v w hv hw => ?_
    obtain rfl : v = w := Option.some.inj (hv.symm.trans hw)
    exact ih _ (Assoc.mem_of_get? hv)
  | int n => exact .scalar rfl rfl (Number.same_self (.int n))
  | float x => exact .scalar rfl rfl (Number.same_self (.float x))
  | bool b =>
    exact .scalar rfl rfl
      (by simp [strictEq, number?, sameKind, eqv, numeric?, Number.eqv, Number.isNaN])
  | _ => exact .scalar rfl rfl (by simp [strictEq, number?, sameKind, eqv])

/-- A value without NaN is equal to itself by value. -/
theorem eqv_self {a : Value} (ha : Keyed a) (hnan : ¬ HoldsNaN a) : a.eqv a = true :=
  (eqv_iff_numbered a ha ha).mpr ⟨(Structural.refl a).numbered, hnan⟩

/-- What is structurally equal to a value with NaN has NaN as well. -/
theorem Structural.holdsNaN (a : Value) : ∀ {b : Value}, Keyed a → Structural a b →
    HoldsNaN a → HoldsNaN b := by
  induction a using Value.induct with
  | list xs ih =>
    intro b ha h hnan
    obtain ⟨v, hv, hnan⟩ := holdsNaN_list_iff.mp hnan
    cases h with
    | scalar hs => simp [isScalar] at hs
    | @list _ ys h =>
      obtain ⟨hlength, hpairs⟩ := List.forall₂_iff_get.mp h
      obtain ⟨i, hi, rfl⟩ := List.getElem_of_mem hv
      have hother := ih _ hv (keyed_list_iff.mp ha _ hv) (hpairs i hi (hlength ▸ hi)) hnan
      exact .item (List.getElem_mem _) hother
  | object es ih =>
    intro b ha h hnan
    obtain ⟨e, he, hnan⟩ := holdsNaN_object_iff.mp hnan
    obtain ⟨distinct, hbelow⟩ := keyed_object_iff.mp ha
    cases h with
    | scalar hs => simp [isScalar] at hs
    | @object _ fs hkeys hvalues =>
      have hv : Assoc.get? es e.1 = some e.2 := Assoc.get?_of_mem distinct he
      have hkey : e.1 ∈ fs.keys := (hkeys e.1).mp (Assoc.mem_keys.mpr ⟨e.2, he⟩)
      obtain ⟨w, hw⟩ := Assoc.exists_get?_of_mem_keys hkey
      have hother := ih e he (hbelow e he) (hvalues e.1 e.2 w hv hw) hnan
      exact .entry (Assoc.mem_of_get? hw) hother
  | float x =>
    intro b _ h hnan
    have hx : x.isNaN = true := holdsNaN_float_iff.mp hnan
    obtain ⟨-, h⟩ := (structural_scalar_iff rfl).mp h
    cases b with
    | float y =>
      have hy : y.isNaN = true := by
        simpa [strictEq, number?, Number.same, Number.isNaN, Number.eqv, hx] using h
      exact .float hy
    | int n => simp [strictEq, number?, Number.same, Number.isNaN, Number.eqv, hx] at h
    | _ => simp [strictEq, number?] at h
  | _ =>
    intro b _ _ hnan
    cases hnan

end Value

/-- Which values are one and the same thing. What is one thing has one value. -/
structure Identity where
  same : Value → Value → Bool
  eq_of_same : ∀ {a b}, same a b = true → a = b

namespace Identity

open Value

variable (identity : Identity)

mutual

/-- Equality by value where the items of lists and objects are asked first whether they are one
thing. -/
def eqv : Value → Value → Bool
  | .list xs, .list ys => eqvItems xs ys
  | .object es, .object fs => es.length == fs.length && eqvEntries es fs
  | a, b => a.eqv b

def eqvItems : List Value → List Value → Bool
  | [], [] => true
  | x :: xs, y :: ys => (identity.same x y || eqv x y) && eqvItems xs ys
  | _, _ => false

def eqvEntries : List (String × Value) → Entries → Bool
  | [], _ => true
  | (key, v) :: rest, fs =>
    (match fs.get? key with
      | some w => identity.same v w || eqv v w
      | none => false) && eqvEntries rest fs

end

/-- Strict equality over the equality by value that asks what is one thing. -/
def strictEq (a b : Value) : Bool :=
  match a.number?, b.number? with
  | some m, some n => m.same n
  | none, none => a.sameKind b && identity.eqv a b
  | _, _ => false

/-- What is one thing is equal by value, unless there is NaN in it. -/
theorem same_or_eqv {x y : Value} (hx : Keyed x) (apart : ¬ (HoldsNaN x ∧ HoldsNaN y))
    (h : identity.eqv x y = x.eqv y) : (identity.same x y || identity.eqv x y) = x.eqv y := by
  cases hsame : identity.same x y with
  | false => rw [Bool.false_or, h]
  | true =>
    obtain rfl := identity.eq_of_same hsame
    rw [Bool.true_or, eqv_self hx fun hnan => apart ⟨hnan, hnan⟩]

theorem eqvItems_eq {xs ys : List Value}
    (each : ∀ x ∈ xs, ∀ y ∈ ys, (identity.same x y || identity.eqv x y) = x.eqv y) :
    identity.eqvItems xs ys = Value.eqvItems xs ys := by
  induction xs generalizing ys with
  | nil => cases ys <;> rfl
  | cons x xs ih =>
    cases ys with
    | nil => rfl
    | cons y ys =>
      rw [eqvItems, Value.eqvItems, each x List.mem_cons_self y List.mem_cons_self,
        ih fun z hz w hw => each z (List.mem_cons_of_mem x hz) w (List.mem_cons_of_mem y hw)]

theorem eqvEntries_eq {es : List (String × Value)} {fs : Entries}
    (each : ∀ e ∈ es, ∀ w, fs.get? e.1 = some w →
      (identity.same e.2 w || identity.eqv e.2 w) = e.2.eqv w) :
    identity.eqvEntries es fs = Value.eqvEntries es fs := by
  induction es with
  | nil => rfl
  | cons e es ih =>
    obtain ⟨key, v⟩ := e
    rw [eqvEntries, Value.eqvEntries, ih fun e he => each e (List.mem_cons_of_mem _ he)]
    cases hw : fs.get? key with
    | none => rfl
    | some w =>
      dsimp only
      rw [each (key, v) List.mem_cons_self w hw]

/-- Where NaN does not stand on both sides, it makes no difference what is one thing. -/
theorem eqv_eq (a : Value) : ∀ {b : Value}, Keyed a → ¬ (HoldsNaN a ∧ HoldsNaN b) →
    identity.eqv a b = a.eqv b := by
  induction a using Value.induct with
  | list xs ih =>
    intro b ha apart
    cases b with
    | list ys =>
      rw [eqv, Value.eqv]
      refine identity.eqvItems_eq fun x hx y hy => ?_
      have hkeyed : Keyed x := keyed_list_iff.mp ha x hx
      have apart : ¬ (HoldsNaN x ∧ HoldsNaN y) := fun h => apart ⟨.item hx h.1, .item hy h.2⟩
      exact identity.same_or_eqv hkeyed apart (ih x hx hkeyed apart)
    | _ => rfl
  | object es ih =>
    intro b ha apart
    cases b with
    | object fs =>
      rw [eqv, Value.eqv, identity.eqvEntries_eq fun e he w hw => ?_]
      have hkeyed : Keyed e.2 := (keyed_object_iff.mp ha).2 e he
      have apart : ¬ (HoldsNaN e.2 ∧ HoldsNaN w) := fun h =>
        apart ⟨.entry he h.1, .entry (Assoc.mem_of_get? hw) h.2⟩
      exact identity.same_or_eqv hkeyed apart (ih e he hkeyed apart)
    | _ => rfl
  | _ =>
    intro b _ _
    cases b <;> rfl

end Identity

namespace Value

theorem strictEq_of_not_scalar {a : Value} (ha : a.isScalar = false) (b : Value) :
    a.strictEq b = a.eqv b := by
  cases a with
  | list xs => cases b <;> simp [strictEq, number?, sameKind, eqv]
  | object es => cases b <;> simp [strictEq, number?, sameKind, eqv]
  | _ => simp [isScalar] at ha

theorem strictEq_scalar_iff {a : Value} (ha : a.isScalar = true) (b : Value) :
    a.strictEq b = true ↔ Structural a b := by
  rw [structural_scalar_iff ha]
  refine (and_iff_right_of_imp fun h => ?_).symm
  cases b with
  | list ys => cases a <;> simp [isScalar, strictEq, number?, sameKind] at ha h
  | object fs => cases a <;> simp [isScalar, strictEq, number?, sameKind] at ha h
  | _ => rfl

/-- Two lists or objects that strict equality misjudges: it takes them for equal though they are not
structurally equal, for all that is different are truth values in the place of their numbers. -/
structure Misjudged (a b : Value) : Prop where
  container : a.isScalar = false
  different : ¬ Structural a b
  numbered : Structural a.numbered b.numbered
  noNaN : ¬ HoldsNaN a

/-- Strict equality is structural equality, but for lists and objects that it misjudges: those that
would be equal if truth values were the numbers that they stand for. That is so whatever is one and
the same thing, unless lists or objects are compared that both hold NaN. -/
theorem strictEq_structural_iff {a b : Value} (ha : Keyed a) (hb : Keyed b)
    (apart : a.isScalar = true ∨ ¬ (HoldsNaN a ∧ HoldsNaN b)) :
    ((a.strictEq b = true ↔ Structural a b) ↔ ¬ Misjudged a b) ∧
      ∀ identity : Identity, identity.strictEq a b = a.strictEq b := by
  cases hs : a.isScalar with
  | true =>
    refine ⟨iff_of_true (strictEq_scalar_iff hs b) fun h => ?_, fun identity => ?_⟩
    · exact absurd h.container (by simp [hs])
    · cases a with
      | list => cases hs
      | object => cases hs
      | _ => rfl
  | false =>
    have apart : ¬ (HoldsNaN a ∧ HoldsNaN b) := apart.resolve_left (by simp [hs])
    have judged : a.strictEq b = true ↔ Structural a.numbered b.numbered ∧ ¬ HoldsNaN a := by
      rw [strictEq_of_not_scalar hs, eqv_iff_numbered a ha hb]
    refine ⟨?_, fun identity => ?_⟩
    · rw [judged]
      by_cases hequal : Structural a b
      · have hnan : ¬ HoldsNaN a := fun h => apart ⟨h, hequal.holdsNaN a ha h⟩
        exact iff_of_true (iff_of_true ⟨hequal.numbered, hnan⟩ hequal) fun h => h.different hequal
      · rw [iff_false_right hequal]
        exact not_congr ⟨fun h => ⟨hs, hequal, h.1, h.2⟩, fun h => ⟨h.numbered, h.noNaN⟩⟩
    · have heqv := identity.eqv_eq a ha apart
      unfold Identity.strictEq strictEq
      cases a.number? with
      | some m => cases b.number? <;> rfl
      | none =>
        cases b.number? with
        | some n => rfl
        | none => exact congrArg (a.sameKind b && ·) heqv

/-- A size with its mark, and no note. -/
def sizes : Value :=
  .object [("sizes", .list [.int 1, .bool true]), ("note", .null)]

/-- The same with the keys in the other order. -/
def reorderedSizes : Value :=
  .object [("note", .null), ("sizes", .list [.int 1, .bool true])]

theorem strictEq_structural_iff_sizes :
    Keyed sizes ∧ Keyed reorderedSizes ∧ ¬ (HoldsNaN sizes ∧ HoldsNaN reorderedSizes) ∧
      sizes.strictEq reorderedSizes = true ∧
      ((sizes.strictEq reorderedSizes = true ↔ Structural sizes reorderedSizes) ↔
        ¬ Misjudged sizes reorderedSizes) ∧
      ∀ identity : Identity,
        identity.strictEq sizes reorderedSizes = sizes.strictEq reorderedSizes := by
  have list : Keyed (.list [.int 1, .bool true]) :=
    keyed_list_iff.mpr (by simpa using ⟨.scalar rfl, .scalar rfl⟩)
  have left : Keyed sizes :=
    keyed_object_iff.mpr ⟨by decide, by simpa using ⟨list, .scalar rfl⟩⟩
  have right : Keyed reorderedSizes :=
    keyed_object_iff.mpr ⟨by decide, by simpa using ⟨.scalar rfl, list⟩⟩
  have noNaN : ¬ HoldsNaN sizes := by
    have plain : ¬ HoldsNaN .null ∧ ¬ HoldsNaN (.int 1) ∧ ¬ HoldsNaN (.bool true) :=
      ⟨nofun, nofun, nofun⟩
    simp [sizes, holdsNaN_object_iff, holdsNaN_list_iff, plain]
  have apart : ¬ (HoldsNaN sizes ∧ HoldsNaN reorderedSizes) := fun h => noNaN h.1
  exact ⟨left, right, apart, by decide +kernel, strictEq_structural_iff left right (.inr apart)⟩

/-- A list with a truth value in the place of a number passes for the list with the number, though
the one does not pass for the other. -/
theorem strictEq_not_structural :
    (Value.bool true).strictEq (.int 1) = false ∧
      (Value.list [.bool true]).strictEq (.list [.int 1]) = true ∧
      evaluate? (.object [("op", .str "eq"),
        ("left", .object [("op", .str "const"), ("value", .list [.bool true])]),
        ("right", .object [("op", .str "const"), ("value", .list [.int 1])])]) [] =
          .ok (.bool true) ∧
      ¬ Structural (.list [.bool true]) (.list [.int 1]) := by
  have differ : (Value.bool true).strictEq (.int 1) = false := rfl
  have apart : ¬ Structural (.list [.bool true]) (.list [.int 1]) := by
    rw [structural_list_iff, List.forall₂_cons, structural_scalar_iff rfl, differ]
    simp
  exact ⟨differ, by decide +kernel, by decide +kernel, apart⟩

end Value

end GridRules
