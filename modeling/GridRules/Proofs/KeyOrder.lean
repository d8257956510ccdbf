import GridRules.Json.Write
import GridRules.Proofs.CanonicalForms
import GridRules.Proofs.StructuralEquality
import Mathlib.Data.String.Basic
/-!
Values that differ in the order of keys only. What is written with the keys of objects in one order,
whatever order they came in, is the same for them; and the canonical text tells all other values
apart that have no doubles in them.
-/

namespace GridRules

section Units

variable {c d : Char} {cs ds : List Char}

theorem units16_cons_of_lt (h : c.toNat < 0x10000) : units16 (c :: cs) = c.toNat :: units16 cs := by
  simp [units16, h]

theorem units16_cons_of_not_lt (h : ¬ c.toNat < 0x10000) :
    units16 (c :: cs) =
      (surrogates c.toNat).1 :: (surrogates c.toNat).2 :: units16 cs := by
  simp [units16, h]

/-- Where a character ends is seen from its first unit. -/
theorem units16_cons_inj (h : units16 (c :: cs) = units16 (d :: ds)) :
    c = d ∧ units16 cs = units16 ds := by
  have hc : c.toNat < 0xD800 ∨ 0xDFFF < c.toNat ∧ c.toNat < 0x110000 := c.valid
  have hd : d.toNat < 0xD800 ∨ 0xDFFF < d.toNat ∧ d.toNat < 0x110000 := d.valid
  by_cases hcl : c.toNat < 0x10000
  · rw [units16_cons_of_lt hcl] at h
    by_cases hdl : d.toNat < 0x10000
    · rw [units16_cons_of_lt hdl] at h
      obtain ⟨hunit, hrest⟩ := List.cons.inj h
      exact ⟨Char.toNat_inj.mp hunit, hrest⟩
    · rw [units16_cons_of_not_lt hdl] at h
      have hunit := (List.cons.inj h).1
      simp only [surrogates] at hunit
      omega
  · rw [units16_cons_of_not_lt hcl] at h
    by_cases hdl : d.toNat < 0x10000
    · rw [units16_cons_of_lt hdl] at h
      have hunit := (List.cons.inj h).1
      simp only [surrogates] at hunit
      omega
    · rw [units16_cons_of_not_lt hdl] at h
      obtain ⟨hhigh, htail⟩ := List.cons.inj h
      obtain ⟨hlow, hrest⟩ := List.cons.inj htail
      simp only [surrogates] at hhigh hlow
      exact ⟨Char.toNat_inj.mp (by omega), hrest⟩

theorem units16_injective : Function.Injective units16 := by
  intro cs
  induction cs with
  | nil =>
    intro ds h
    cases ds with
    | nil => rfl
    | cons d ds => by_cases hd : d.toNat < 0x10000 <;> simp [units16, hd] at h
  | cons c cs ih =>
    intro ds h
    cases ds with
    | nil => by_cases hc : c.toNat < 0x10000 <;> simp [units16, hc] at h
    | cons d ds =>
      obtain ⟨rfl, hrest⟩ := units16_cons_inj h
      rw [ih hrest]

end Units

/-- An order of keys in which each has its place. -/
structure KeyOrder (le : String → String → Bool) : Prop where
  trans : ∀ a b c, le a b = true → le b c = true → le a c = true
  total : ∀ a b, (le a b || le b a) = true
  antisymm : ∀ a b, le a b = true → le b a = true → a = b

theorem Canonical.keyOrder : KeyOrder Canonical.keyLe where
  trans := keyLe_trans
  total := keyLe_total
  antisymm a b hab hba := by
    rw [keyLe_iff] at hab hba
    exact String.toList_injective (units16_injective (le_antisymm hab hba))

theorem Json.keyOrder : KeyOrder fun a b => decide (a ≤ b) where
  trans a b c hab hbc := decide_eq_true (le_trans (of_decide_eq_true hab) (of_decide_eq_true hbc))
  total a b := by
    rw [Bool.or_eq_true, decide_eq_true_eq, decide_eq_true_eq]
    exact le_total a b
  antisymm a b hab hba := le_antisymm (of_decide_eq_true hab) (of_decide_eq_true hba)

namespace KeyOrder

variable {α β γ : Type} {le : String → String → Bool}

/-- Entries in an order of their keys. -/
def sort (le : String → String → Bool) (entries : Assoc α) : Assoc α :=
  entries.mergeSort fun a b => le a.1 b.1

theorem mem_sort {entries : Assoc α} {e : String × α} : e ∈ sort le entries ↔ e ∈ entries :=
  List.mem_mergeSort

theorem keys_sort (entries : Assoc α) :
    Assoc.keys (sort le entries) = entries.keys.mergeSort le :=
  List.map_mergeSort fun _ _ _ _ => rfl

theorem map_sort (f : α → β) (entries : Assoc α) :
    (sort le entries).map (fun e => (e.1, f e.2)) = sort le (entries.map fun e => (e.1, f e.2)) :=
  List.map_mergeSort fun _ _ _ _ => rfl

variable (order : KeyOrder le)
include order

theorem mergeSort_eq_of_perm {keys keys' : List String} (h : keys.Perm keys') :
    keys.mergeSort le = keys'.mergeSort le := by
  have sorted (keys : List String) : (keys.mergeSort le).Pairwise fun a b => le a b = true :=
    List.pairwise_mergeSort order.trans order.total keys
  have perm : (keys.mergeSort le).Perm (keys'.mergeSort le) :=
    (List.mergeSort_perm keys le).trans (h.trans (List.mergeSort_perm keys' le).symm)
  exact perm.eq_of_pairwise (fun a b _ _ => order.antisymm a b) (sorted keys) (sorted keys')

/-- Two objects with the same keys, in whatever order, are gone through key by key alike. -/
theorem map_sort_eq {es : Assoc α} {fs : Assoc β} (hes : es.keys.Nodup) (hfs : fs.keys.Nodup)
    (same : ∀ key, key ∈ es.keys ↔ key ∈ fs.keys) {f : String × α → γ} {g : String × β → γ}
    (alike : ∀ key v w, es.get? key = some v → fs.get? key = some w → f (key, v) = g (key, w)) :
    (sort le es).map f = (sort le fs).map g := by
  have perm : es.keys.Perm fs.keys := (List.perm_ext_iff_of_nodup hes hfs).mpr same
  have hkeys : Assoc.keys (sort le es) = Assoc.keys (sort le fs) := by
    rw [keys_sort, keys_sort, order.mergeSort_eq_of_perm perm]
  rw [Assoc.keys, Assoc.keys] at hkeys
  rw [map_eq_map_iff_forall₂, List.forall₂_iff_zip] at hkeys ⊢
  refine ⟨hkeys.1, fun {e e'} hm => ?_⟩
  have hkey : e.1 = e'.1 := hkeys.2 hm
  have he : e ∈ es := mem_sort.mp (List.of_mem_zip hm).1
  have he' : e' ∈ fs := mem_sort.mp (List.of_mem_zip hm).2
  obtain ⟨key, v⟩ := e
  obtain ⟨key', w⟩ := e'
  obtain rfl : key = key' := hkey
  exact alike key v w (Assoc.get?_of_mem hes he) (Assoc.get?_of_mem hfs he')

end KeyOrder

namespace Value

/-- The values are the same but for the order of keys, at any depth: scalars are the same, lists
item by item, and objects key by key. -/
inductive Reordered : Value → Value → Prop
  | scalar {v : Value} : v.isScalar = true → Reordered v v
  | list {xs ys : List Value} : List.Forall₂ Reordered xs ys → Reordered (.list xs) (.list ys)
  | object {es fs : Entries} : (∀ key, key ∈ es.keys ↔ key ∈ fs.keys) →
      (∀ key v w, es.get? key = some v → fs.get? key = some w → Reordered v w) →
      Reordered (.object es) (.object fs)

/-- Two entries that change places. -/
theorem Reordered.swap {k l : String} {v w v' w' : Value} (hne : k ≠ l) (hv : Reordered v v')
    (hw : Reordered w w') : Reordered (.object [(k, v), (l, w)]) (.object [(l, w'), (k, v')]) := by
  refine .object (fun key => by simp [Assoc.keys, or_comm]) fun key x y hx hy => ?_
  rw [Assoc.get?_cons, Assoc.get?_cons] at hx hy
  by_cases hk : key = k
  · subst hk
    rw [if_pos rfl] at hx
    rw [if_neg hne, if_pos rfl] at hy
    exact Option.some.inj hx ▸ Option.some.inj hy ▸ hv
  · by_cases hl : key = l
    · subst hl
      rw [if_neg hk, if_pos rfl] at hx
      rw [if_pos rfl] at hy
      exact Option.some.inj hx ▸ Option.some.inj hy ▸ hw
    · simp [hk, hl] at hx

/-- What is written for values comes from what is written for their parts, and for the entries of
an object in an order of the keys. -/
structure WrittenInOrder {γ : Type} (le : String → String → Bool) (write : Value → γ) : Prop where
  list : ∀ {xs ys : List Value}, xs.map write = ys.map write →
    write (.list xs) = write (.list ys)
  object : ∀ {es fs : Entries},
    (KeyOrder.sort le es).map (fun e => (e.1, write e.2)) =
      (KeyOrder.sort le fs).map (fun e => (e.1, write e.2)) →
    write (.object es) = write (.object fs)

/-- What is written in an order of the keys does not tell the order in which they came. -/
theorem WrittenInOrder.eq_of_reordered {γ : Type} {le : String → String → Bool} {write : Value → γ}
    (written : WrittenInOrder le write) (order : KeyOrder le) (a : Value) :
    ∀ {b : Value}, Keyed a → Keyed b → Reordered a b → write a = write b := by
  induction a using Value.induct with
  | list xs ih =>
    intro b ha hb h
    cases h with
    | scalar hs => rfl
    | @list _ ys h =>
      refine written.list ?_
      rw [map_eq_map_iff_forall₂, List.forall₂_iff_zip]
      obtain ⟨hlength, hpairs⟩ := List.forall₂_iff_zip.mp h
      refine ⟨hlength, fun {x y} hm => ?_⟩
      have hx := (List.of_mem_zip hm).1
      have hy := (List.of_mem_zip hm).2
      exact ih x hx (keyed_list_iff.mp ha x hx) (keyed_list_iff.mp hb y hy) (hpairs hm)
  | object es ih =>
    intro b ha hb h
    cases h with
    | scalar hs => rfl
    | @object _ fs hkeys hvalues =>
      obtain ⟨hes, hbelow⟩ := keyed_object_iff.mp ha
      obtain ⟨hfs, hother⟩ := keyed_object_iff.mp hb
      refine written.object (order.map_sort_eq hes hfs hkeys fun key v w hv hw => ?_)
      have hm := Assoc.mem_of_get? hv
      have hsame : write v = write w := ih (key, v) hm (hbelow _ hm)
        (hother _ (Assoc.mem_of_get? hw)) (hvalues key v w hv hw)
      rw [hsame]
  | _ =>
    intro b _ _ h
    cases h with
    | scalar => rfl

end Value

theorem Canonical.writtenInOrder_write : Value.WrittenInOrder keyLe write where
  list h := by rw [write, write, writeItems_eq_map, writeItems_eq_map, h]
  object {es fs} h := by
    have entries (es : Entries) : (inKeyOrder es).map writeEntry =
        ((KeyOrder.sort keyLe es).map fun e => (e.1, write e.2)).map
          fun e => e.2.map fun text => string e.1 ++ ":" ++ text := by
      rw [List.map_map]
      rfl
    rw [write_object_eq, write_object_eq, entries es, entries fs, h]

namespace Json

theorem writeItems_eq_map (sorted : Bool) (items : List Value) :
    writeItems sorted items = items.map (write sorted) := by
  induction items with
  | nil => rfl
  | cons v rest ih => rw [writeItems, ih, List.map_cons]

theorem writeEntries_eq_map (sorted : Bool) (entries : Entries) :
    writeEntries sorted entries = entries.map fun e => (e.1, write sorted e.2) := by
  induction entries with
  | nil => rfl
  | cons e rest ih => rw [writeEntries, ih, List.map_cons]

theorem writtenInOrder_write : Value.WrittenInOrder (fun a b => decide (a ≤ b)) (write true) where
  list h := by rw [write, write, writeItems_eq_map, writeItems_eq_map, h]
  object {es fs} h := by
    have entries (es : Entries) : (writeEntries true es).mergeSort keyLe =
        (KeyOrder.sort (fun a b => decide (a ≤ b)) es).map fun e => (e.1, write true e.2) := by
      rw [writeEntries_eq_map, KeyOrder.map_sort]
      rfl
    simp only [write, if_true, entries es, entries fs, h]

end Json

namespace Value

/-- Values that differ in the order of keys only are recognised as equal. -/
theorem stableKey_eq_of_reordered {a b : Value} (ha : Keyed a) (hb : Keyed b)
    (h : Reordered a b) : a.stableKey = b.stableKey := by
  have hwrite := Json.writtenInOrder_write.eq_of_reordered Json.keyOrder a ha hb h
  cases h with
  | scalar => rfl
  | list => exact hwrite
  | object => exact hwrite

/-- No double stands in the value, nor an integer beyond `2 ^ 53 - 1` in size, at any depth. -/
inductive Exact : Value → Prop
  | plain {v : Value} : v.isScalar = true → v.number? = none → Exact v
  | int {n : Int} : n.natAbs ≤ 2 ^ 53 - 1 → Exact (.int n)
  | list {items : List Value} : (∀ v ∈ items, Exact v) → Exact (.list items)
  | object {entries : Entries} : (∀ e ∈ entries, Exact e.2) → Exact (.object entries)

theorem exact_list_iff {items : List Value} : Exact (.list items) ↔ ∀ v ∈ items, Exact v := by
  refine ⟨fun h => ?_, .list⟩
  cases h with
  | plain hs => simp [isScalar] at hs
  | list h => exact h

theorem exact_object_iff {entries : Entries} :
    Exact (.object entries) ↔ ∀ e ∈ entries, Exact e.2 := by
  refine ⟨fun h => ?_, .object⟩
  cases h with
  | plain hs => simp [isScalar] at hs
  | object h => exact h

theorem not_exact_float (x : Binary64) : ¬ Exact (.float x) := by
  intro h
  cases h with
  | plain hs hn => cases hn

open Canonical (form writable)

theorem Exact.writable (v : Value) : Exact v → writable v = true := by
  induction v using Value.induct with
  | float x => exact fun h => absurd h (not_exact_float x)
  | int n =>
    intro h
    cases h with
    | plain hs hn => cases hn
    | int hn =>
      rw [Canonical.writable, decide_eq_true_eq, Nat.pow_eq]
      omega
  | list items ih =>
    intro h
    exact Canonical.allWritable_iff.mpr fun v hv => ih v hv (exact_list_iff.mp h v hv)
  | object entries ih =>
    intro h
    exact Canonical.allEntriesWritable_iff.mpr fun e he => ih e he (exact_object_iff.mp h e he)
  | _ => exact fun _ => rfl

theorem form_of_scalar {v : Value} (hs : v.isScalar = true) (h : Exact v) : form v = v := by
  cases v with
  | float x => exact absurd h (not_exact_float x)
  | list => cases hs
  | object => cases hs
  | _ => rfl

theorem isScalar_form (v : Value) : (form v).isScalar = v.isScalar := by
  cases v with
  | float x => exact Canonical.read_form_float isScalar (fun _ _ => rfl) x
  | list items => rw [Canonical.form_list]; rfl
  | object entries => rw [Canonical.form_object]; rfl
  | _ => rfl

/-- The form of a value without doubles tells all of it but the order of keys. -/
theorem reordered_of_form_eq (a : Value) :
    ∀ {b : Value}, Exact a → Exact b → form a = form b → Reordered a b := by
  induction a using Value.induct with
  | list xs ih =>
    intro b ha hb h
    rcases Canonical.list?_cases_alike h with ⟨hnone, -⟩ | ⟨_, ys, hxs, rfl, hforms⟩
    · cases hnone
    obtain rfl := Value.list.inj hxs
    refine .list ?_
    rw [map_eq_map_iff_forall₂, List.forall₂_iff_zip] at hforms
    refine List.forall₂_iff_zip.mpr ⟨hforms.1, fun {x y} hm => ?_⟩
    have hx := (List.of_mem_zip hm).1
    have hy := (List.of_mem_zip hm).2
    exact ih x hx (exact_list_iff.mp ha x hx) (exact_list_iff.mp hb y hy) (hforms.2 hm)
  | object es ih =>
    intro b ha hb h
    obtain ⟨fs, rfl⟩ := Canonical.object_alike h
    have hget (key : String) : (Assoc.get? es key).map form = (fs.get? key).map form :=
      Canonical.get?_alike h key
    refine .object (fun key => ?_) fun key v w hv hw => ?_
    · have hsome := congrArg Option.isSome (hget key)
      rw [Option.isSome_map, Option.isSome_map] at hsome
      rw [← Assoc.has_iff, ← Assoc.has_iff, Assoc.has, Assoc.has, hsome]
    · have hforms : form v = form w := by simpa [hv, hw] using hget key
      have hvm := Assoc.mem_of_get? hv
      exact ih _ hvm (exact_object_iff.mp ha _ hvm)
        (exact_object_iff.mp hb _ (Assoc.mem_of_get? hw)) hforms
  | _ =>
    intro b ha hb h
    have hb' : b.isScalar = true := by
      rw [← isScalar_form, ← h, isScalar_form]
      rfl
    rw [form_of_scalar rfl ha, form_of_scalar hb' hb] at h
    exact h ▸ .scalar rfl

end Value

/-- Values without doubles and with integers that are not too large have a canonical text each, and
it is the same exactly if they are the same but for the order of keys. -/
theorem Datum.canonicalJson_eq_iff_reordered {a b : Value} (ha : a.Exact) (hb : b.Exact)
    (keyed : a.Keyed) (keyed' : b.Keyed) :
    ∃ s t, (Datum.value a).canonicalJson = .ok s ∧ (Datum.value b).canonicalJson = .ok t ∧
      (s = t ↔ a.Reordered b) := by
  obtain ⟨s, hs⟩ := Canonical.exists_write (ha.writable a)
  obtain ⟨t, ht⟩ := Canonical.exists_write (hb.writable b)
  refine ⟨s, t, hs, ht, fun h => ?_, fun h => ?_⟩
  · have hforms : Canonical.form a = Canonical.form b :=
      Canonical.form_eq_of_write_eq hs (h ▸ ht)
    exact Value.reordered_of_form_eq a ha hb hforms
  · have hwrite : Canonical.write a = Canonical.write b :=
      Canonical.writtenInOrder_write.eq_of_reordered Canonical.keyOrder a keyed keyed' h
    exact Except.ok.inj (hs.symm.trans (hwrite.trans ht))

/-- Marks under keys that 16-bit units order otherwise than code points do. -/
def marks : Value :=
  .object [("\uff61", .list [.object [("b", .bool true), ("", .str "a\"\\\n")]]),
    ("😀", .int (-9007199254740991))]

/-- The same with the keys in another order. -/
def reorderedMarks : Value :=
  .object [("😀", .int (-9007199254740991)),
    ("\uff61", .list [.object [("", .str "a\"\\\n"), ("b", .bool true)]])]

theorem canonicalJson_eq_iff_reordered_marks :
    marks.Exact ∧ reorderedMarks.Exact ∧ marks.Keyed ∧ reorderedMarks.Keyed ∧
      marks.Reordered reorderedMarks ∧
      ∃ s, (Datum.value marks).canonicalJson = .ok s ∧
        (Datum.value reorderedMarks).canonicalJson = .ok s := by
  have hexact (v : Value) (h : v = marks ∨ v = reorderedMarks) : v.Exact := by
    have truth : (Value.bool true).Exact := .plain rfl rfl
    have text : (Value.str "a\"\\\n").Exact := .plain rfl rfl
    have least : (Value.int (-9007199254740991)).Exact := .int (by decide)
    rcases h with rfl | rfl <;>
      simp [marks, reorderedMarks, Value.exact_object_iff, Value.exact_list_iff, truth, text, least]
  have hkeyed (v : Value) (h : v = marks ∨ v = reorderedMarks) : v.Keyed := by
    have truth : (Value.bool true).Keyed := .scalar rfl
    have text : (Value.str "a\"\\\n").Keyed := .scalar rfl
    have least : (Value.int (-9007199254740991)).Keyed := .scalar rfl
    rcases h with rfl | rfl <;>
      simp [marks, reorderedMarks, Value.keyed_object_iff, Value.keyed_list_iff, Assoc.keys, truth,
        text, least]
  have reordered : marks.Reordered reorderedMarks :=
    .swap (by decide) (.list (.cons (.swap (by decide) (.scalar rfl) (.scalar rfl)) .nil))
      (.scalar rfl)
  obtain ⟨s, t, hs, ht, h⟩ := Datum.canonicalJson_eq_iff_reordered (hexact marks (.inl rfl))
    (hexact reorderedMarks (.inr rfl)) (hkeyed marks (.inl rfl)) (hkeyed reorderedMarks (.inr rfl))
  exact ⟨hexact _ (.inl rfl), hexact _ (.inr rfl), hkeyed _ (.inl rfl), hkeyed _ (.inr rfl),
    reordered, s, hs, h.mpr reordered ▸ ht⟩

end GridRules
