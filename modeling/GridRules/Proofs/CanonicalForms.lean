import GridRules.Decode.Basic
import GridRules.Proofs.NodeShape
import GridRules.Proofs.Signatures
import Mathlib.Data.List.Lex

namespace GridRules

namespace Canonical

theorem keyLe_iff (a b : String) :
    keyLe a b = true ↔ units16 a.toList ≤ units16 b.toList := by
  have hlex : (units16 b.toList).lex (units16 a.toList) = true ↔
      units16 b.toList < units16 a.toList := by
    rw [List.lex_eq_true_iff_lex]
    simp only [decide_eq_true_eq]
    exact Iff.rfl
  rw [keyLe, Bool.not_eq_true', ← Bool.not_eq_true, hlex, not_lt]

theorem keyLe_refl (a : String) : keyLe a a = true :=
  (keyLe_iff a a).mpr le_rfl

theorem keyLe_trans (a b c : String) (hab : keyLe a b = true) (hbc : keyLe b c = true) :
    keyLe a c = true :=
  (keyLe_iff a c).mpr (((keyLe_iff a b).mp hab).trans ((keyLe_iff b c).mp hbc))

theorem keyLe_total (a b : String) : (keyLe a b || keyLe b a) = true := by
  rw [Bool.or_eq_true, keyLe_iff, keyLe_iff]
  exact le_total _ _

/-- Putting entries in the order of their keys leaves those of one key in their order. -/
theorem filter_inKeyOrder {α : Type} (entries : List (String × α)) (key : String) :
    (inKeyOrder entries).filter (·.1 == key) = entries.filter (·.1 == key) := by
  have hperm : ((inKeyOrder entries).filter (·.1 == key)).Perm (entries.filter (·.1 == key)) :=
    (List.mergeSort_perm entries _).filter _
  have hpairwise : (entries.filter (·.1 == key)).Pairwise fun a b => keyLe a.1 b.1 = true :=
    List.pairwise_of_forall_mem_list fun a ha b hb => by
      have ha : a.1 = key := by simpa using (List.mem_filter.mp ha).2
      have hb : b.1 = key := by simpa using (List.mem_filter.mp hb).2
      rw [ha, hb]
      exact keyLe_refl key
  have htrans (a b c : String × α) := keyLe_trans a.1 b.1 c.1
  have htotal (a b : String × α) := keyLe_total a.1 b.1
  have hsub : (entries.filter (·.1 == key)).Sublist (inKeyOrder entries) :=
    List.sublist_mergeSort htrans htotal hpairwise List.filter_sublist
  have hsub := hsub.filter (·.1 == key)
  rw [List.filter_filter] at hsub
  simp only [Bool.and_self] at hsub
  exact (hsub.eq_of_length hperm.length_eq.symm).symm

theorem get?_eq_filter {α : Type} (entries : Assoc α) (key : String) :
    entries.get? key = ((entries.filter (·.1 == key)).head?).map (·.2) := by
  induction entries with
  | nil => rfl
  | cons e rest ih =>
    obtain ⟨k, v⟩ := e
    by_cases h : key = k
    · simp [Assoc.get?_cons, h]
    · have hk : (k == key) = false := beq_false_of_ne (Ne.symm h)
      rw [Assoc.get?_cons, if_neg h, ih, List.filter_cons_of_neg (by simp [hk])]

theorem get?_inKeyOrder {α : Type} (entries : Assoc α) (key : String) :
    Assoc.get? (inKeyOrder entries) key = entries.get? key := by
  rw [get?_eq_filter, get?_eq_filter, filter_inKeyOrder]

theorem get?_mapped {α β : Type} (f : α → β) (entries : Assoc α) (key : String) :
    Assoc.get? (entries.map fun e => (e.1, f e.2)) key = (entries.get? key).map f := by
  induction entries with
  | nil => rfl
  | cons e rest ih =>
    obtain ⟨k, v⟩ := e
    rw [List.map_cons, Assoc.get?_cons, Assoc.get?_cons, ih]
    split <;> rfl

section Alike

variable {a b : Entries} {v w : Value}

/-- The form of an object has the forms of its values under the keys that it has. -/
theorem get?_form (entries : Entries) (key : String) :
    Assoc.get? ((inKeyOrder entries).map fun e => (e.1, form e.2)) key =
      (entries.get? key).map form := by
  rw [get?_mapped, get?_inKeyOrder]

theorem get?_alike (h : form (.object a) = form (.object b)) (key : String) :
    (a.get? key).map form = (b.get? key).map form := by
  rw [form_object, form_object, Value.object.injEq] at h
  rw [← get?_form, ← get?_form, h]

theorem getD_alike (h : form (.object a) = form (.object b)) (key : String) :
    form (a.getD key) = form (b.getD key) := by
  have hget := get?_alike h key
  unfold Entries.getD
  cases ha : a.get? key with
  | none =>
    cases hb : b.get? key with
    | none => rfl
    | some w => simp [ha, hb] at hget
  | some v =>
    cases hb : b.get? key with
    | none => simp [ha, hb] at hget
    | some w => simpa [ha, hb] using hget

theorem form_eq_float_or_int (x : Binary64) :
    form (.float x) = .float x ∨ ∃ n, x.toInt? = some n ∧ n.natAbs < 2 ^ 53 ∧
      form (.float x) = .int n := by
  cases hx : x.toInt? with
  | none => exact .inl (by simp only [form, hx])
  | some n =>
    by_cases hn : n.natAbs < 2 ^ 53
    · exact .inr ⟨n, rfl, hn, form_float_of_toInt? hx hn⟩
    · refine .inl ?_
      simp only [form, hx, Nat.pow_eq]
      rw [if_neg hn]

/-- What makes no difference between kinds of numbers makes none between a double and its form. -/
theorem read_form_float {β : Type} (read : Value → β)
    (h : ∀ x n, read (.float x) = read (.int n)) (x : Binary64) :
    read (form (.float x)) = read (.float x) := by
  rcases form_eq_float_or_int x with hx | ⟨n, -, -, hx⟩
  · rw [hx]
  · rw [hx, h x n]

theorem string?_form (v : Value) : (form v).string? = v.string? := by
  cases v with
  | float x => exact read_form_float Value.string? (fun _ _ => rfl) x
  | null | bool | int | str | list | object => rfl

theorem isNull_form (v : Value) : (form v).isNull = v.isNull := by
  cases v with
  | float x => exact read_form_float Value.isNull (fun _ _ => rfl) x
  | null | bool | int | str | list | object => rfl

theorem list?_form (v : Value) : (form v).list? = v.list?.map (·.map form) := by
  cases v with
  | float x => exact read_form_float Value.list? (fun _ _ => rfl) x
  | list items =>
    rw [form_list]
    rfl
  | null | bool | int | str | object => rfl

theorem object?_form (v : Value) :
    (form v).object? = v.object?.map fun entries =>
      (inKeyOrder entries).map fun e => (e.1, form e.2) := by
  cases v with
  | float x => exact read_form_float Value.object? (fun _ _ => rfl) x
  | object entries =>
    rw [form_object]
    rfl
  | null | bool | int | str | list => rfl

theorem string?_alike (h : form v = form w) : v.string? = w.string? := by
  rw [← string?_form, h, string?_form]

theorem isNull_alike (h : form v = form w) : v.isNull = w.isNull := by
  rw [← isNull_form, h, isNull_form]

theorem list?_alike (h : form v = form w) :
    v.list?.map (·.map form) = w.list?.map (·.map form) := by
  rw [← list?_form, h, list?_form]

theorem list?_cases_alike {v w : Value} (h : form v = form w) :
    (v.list? = none ∧ w.list? = none) ∨
      ∃ xs ys, v = .list xs ∧ w = .list ys ∧ xs.map form = ys.map form := by
  have hlist := list?_alike h
  cases hv : v.list? with
  | none =>
    cases hw : w.list? with
    | none => exact .inl ⟨rfl, rfl⟩
    | some ys => simp [hv, hw] at hlist
  | some xs =>
    cases hw : w.list? with
    | none => simp [hv, hw] at hlist
    | some ys =>
      exact .inr ⟨xs, ys, Value.eq_list_of_list? hv, Value.eq_list_of_list? hw,
        by simpa [hv, hw] using hlist⟩

theorem object_alike {v : Value} {a : Entries} (h : form (.object a) = form v) :
    ∃ b : Entries, v = .object b := by
  have hobject := congrArg Value.object? h
  rw [object?_form, object?_form] at hobject
  cases v with
  | object b => exact ⟨b, rfl⟩
  | null | bool | int | float | str | list => simp [Value.object?] at hobject

theorem eq_bool_alike (h : form v = form w) (c : Bool) : v = .bool c ↔ w = .bool c := by
  have hbool (v : Value) : form v = .bool c ↔ v = .bool c := by
    cases v with
    | float x => rcases form_eq_float_or_int x with h | ⟨n, -, -, h⟩ <;> simp [h]
    | list => simp [form_list]
    | object => simp [form_object]
    | null | bool | int | str => simp [form]
  rw [← hbool v, h, hbool w]

theorem str_alike {s t : String} (h : form (.str s) = form (.str t)) : s = t := by
  simpa [form] using h

theorem map_alike {α β : Type} {items items' : List α} {write : α → Value} {f : α → β}
    (hf : ∀ a b, form (write a) = form (write b) → f a = f b)
    (h : form (.list (items.map write)) = form (.list (items'.map write))) :
    items.map f = items'.map f := by
  rw [form_list, form_list, Value.list.injEq, List.map_map, List.map_map] at h
  rw [map_eq_map_iff_forall₂] at h ⊢
  exact h.imp hf

/-- The fields of models that are written back alike in full. -/
theorem field_alike {fields fields' : Entries} (key : String)
    (h : form (modelValue true fields) = form (modelValue true fields')) :
    form (fields.getD key) = form (fields'.getD key) :=
  getD_alike h key

end Alike

end Canonical

namespace Binary64

theorem units_of_toInt? {x : Binary64} {n : Int} (h : x.toInt? = some n) :
    x.units = n * (one : Int) := by
  cases x with
  | nan | infinite => cases h
  | finite neg m e fits =>
    rw [toInt?] at h
    split at h
    · rename_i hdvd
      obtain rfl := Option.some.inj h
      refine (Int.ediv_mul_cancel ?_).symm
      have hmag : (one : Int) ∣ ((finite neg m e fits).magnitude : Int) :=
        Int.natCast_dvd_natCast.mpr (Nat.dvd_of_mod_eq_zero hdvd)
      unfold units
      split
      · exact (Int.dvd_neg).mpr hmag
      · exact hmag
    · cases h

end Binary64

namespace Number

/-- Numbers that no comparison and no test tells apart. -/
structure Alike (m n : Number) : Prop where
  place : m.place = n.place
  isNaN : m.isNaN = n.isNaN
  nanTest : m.nanTest? = n.nanTest?

namespace Alike

variable {m n k : Number}

theorem refl (n : Number) : Alike n n := ⟨rfl, rfl, rfl⟩

theorem symm (h : Alike m n) : Alike n m := ⟨h.place.symm, h.isNaN.symm, h.nanTest.symm⟩

theorem trans (h : Alike m n) (h' : Alike n k) : Alike m k :=
  ⟨h.place.trans h'.place, h.isNaN.trans h'.isNaN, h.nanTest.trans h'.nanTest⟩

theorem lt_left (h : Alike m n) (k : Number) : m.lt k = n.lt k := by
  rw [lt, lt, h.place, h.isNaN]

theorem lt_right (h : Alike m n) (k : Number) : k.lt m = k.lt n := by
  rw [lt, lt, h.place, h.isNaN]

/-- A whole double below `2 ^ 53` is like the integer that it is. -/
theorem float_int {x : Binary64} {n : Int} (hx : x.toInt? = some n) (hn : n.natAbs < 2 ^ 53) :
    Alike (.float x) (.int n) := by
  cases x with
  | nan | infinite => cases hx
  | finite neg m e fits =>
    have hunits := Binary64.units_of_toInt? hx
    have hfinite := Binary64.isFinite_ofInt hn
    refine ⟨?_, rfl, ?_⟩
    · simp only [Number.place, hunits]
    · have hnan := Binary64.isNaN_of_isFinite hfinite
      simp only [nanTest?, toFloat?, floatOfInt?, hfinite, if_true, Option.map_some, hnan]
      rfl

end Alike

end Number

namespace Canonical

variable {v w : Value}

theorem number?_form (v : Value) :
    (v.number? = none ∧ (form v).number? = none) ∨
      ∃ m n, v.number? = some m ∧ (form v).number? = some n ∧ m.Alike n := by
  cases v with
  | int n => exact .inr ⟨_, _, rfl, rfl, .refl _⟩
  | float x =>
    rcases form_eq_float_or_int x with h | ⟨n, hx, hn, h⟩
    · exact .inr ⟨_, _, rfl, by rw [h]; rfl, .refl _⟩
    · exact .inr ⟨_, _, rfl, by rw [h]; rfl, .float_int hx hn⟩
  | list items => exact .inl ⟨rfl, by rw [form_list]; rfl⟩
  | object entries => exact .inl ⟨rfl, by rw [form_object]; rfl⟩
  | null | bool | str => exact .inl ⟨rfl, rfl⟩

/-- Values of one form are numbers alike, or no numbers. -/
theorem number?_alike (h : form v = form w) :
    (v.number? = none ∧ w.number? = none) ∨
      ∃ m n, v.number? = some m ∧ w.number? = some n ∧ m.Alike n := by
  rcases number?_form v with ⟨hv, hfv⟩ | ⟨m, m', hv, hfv, hm⟩
  · rcases number?_form w with ⟨hw, -⟩ | ⟨n, n', -, hfw, -⟩
    · exact .inl ⟨hv, hw⟩
    · rw [h, hfw] at hfv
      cases hfv
  · rcases number?_form w with ⟨-, hfw⟩ | ⟨n, n', hw, hfw, hn⟩
    · rw [h, hfw] at hfv
      cases hfv
    · rw [h, hfw] at hfv
      obtain rfl := Option.some.inj hfv
      exact .inr ⟨m, n, hv, hw, hm.trans hn.symm⟩

theorem boundText_form (hv : v.isNumber = true) : (form v).boundText = v.boundText := by
  cases v with
  | int => rfl
  | float x =>
    rcases form_eq_float_or_int x with h | ⟨n, hx, hn, h⟩
    · rw [h]
    · rw [h]
      simp only [Value.boundText, hx]
      rfl
  | null | bool | str | list | object => cases hv

theorem boundText_alike (h : form v = form w) (hv : v.isNumber = true) :
    v.boundText = w.boundText := by
  have hw : w.isNumber = true := by
    rcases number?_alike h with ⟨hn, -⟩ | ⟨m, n, -, hn, -⟩
    · rw [Value.isNumber, hn] at hv
      cases hv
    · rw [Value.isNumber, hn]
      rfl
  rw [← boundText_form hv, h, boundText_form hw]

end Canonical

end GridRules
