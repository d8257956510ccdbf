import GridRules.Proofs.Results
import GridRules.Proofs.ValueTexts

namespace GridRules

namespace Canonical

mutual

/-- What the canonical text tells of a value: whole doubles are integers as far as integers are
written, and the entries of objects are in order. -/
def form : Value → Value
  | .float x =>
    match x.toInt? with
    | some n => if n.natAbs < Nat.pow 2 53 then .int n else .float x
    | none => .float x
  | .list items => .list (formItems items)
  | .object entries => .object ((formEntries entries).mergeSort fun a b => keyLe a.1 b.1)
  | v => v

def formItems : List Value → List Value
  | [] => []
  | v :: rest => form v :: formItems rest

def formEntries : List (String × Value) → List (String × Value)
  | [] => []
  | (key, v) :: rest => (key, form v) :: formEntries rest

end

theorem formItems_eq_map (items : List Value) : formItems items = items.map form := by
  induction items with
  | nil => rfl
  | cons v rest ih => rw [formItems, ih, List.map_cons]

theorem formEntries_eq_map (entries : List (String × Value)) :
    formEntries entries = entries.map fun e => (e.1, form e.2) := by
  induction entries with
  | nil => rfl
  | cons e rest ih => rw [formEntries, ih, List.map_cons]

theorem writeItems_eq_map (items : List Value) : writeItems items = items.map write := by
  induction items with
  | nil => rfl
  | cons v rest ih => rw [writeItems, ih, List.map_cons]

theorem writeEntries_eq_map (entries : List (String × Value)) :
    writeEntries entries = entries.map fun e => (e.1, write e.2) := by
  induction entries with
  | nil => rfl
  | cons e rest ih => rw [writeEntries, ih, List.map_cons]

/-- Entries in the order of their keys. -/
def inKeyOrder {α : Type} (entries : List (String × α)) : List (String × α) :=
  entries.mergeSort fun a b => keyLe a.1 b.1

theorem map_inKeyOrder {α β : Type} (f : α → β) (entries : List (String × α)) :
    (inKeyOrder entries).map (fun e => (e.1, f e.2)) =
      inKeyOrder (entries.map fun e => (e.1, f e.2)) :=
  List.map_mergeSort fun _ _ _ _ => rfl

theorem form_object (entries : List (String × Value)) :
    form (.object entries) = .object ((inKeyOrder entries).map fun e => (e.1, form e.2)) := by
  rw [form, formEntries_eq_map, map_inKeyOrder]
  rfl

theorem form_list (items : List Value) : form (.list items) = .list (items.map form) := by
  rw [form, formItems_eq_map]

theorem forall₂_of_allOk {α β : Type} {f : α → Except CanonicalError β} {items : List α}
    {parts : List β} (h : allOk (items.map f) = .ok parts) :
    List.Forall₂ (fun v p => f v = .ok p) items parts := by
  induction items generalizing parts with
  | nil =>
    cases h
    exact .nil
  | cons v rest ih =>
    rw [List.map_cons] at h
    cases hv : f v with
    | error e =>
      rw [hv] at h
      cases h
    | ok p =>
      rw [hv] at h
      obtain ⟨ps, hrest, rfl⟩ := map_eq_ok_iff.mp h
      exact .cons hv (ih hrest)

/-- The canonical text of an entry. -/
def writeEntry (e : String × Value) : Except CanonicalError String :=
  (write e.2).map fun text => string e.1 ++ ":" ++ text

theorem writeEntry_eq_ok {e : String × Value} {p : String} (h : writeEntry e = .ok p) :
    ∃ t, write e.2 = .ok t ∧ p = string e.1 ++ ":" ++ t := by
  obtain ⟨t, ht, rfl⟩ := map_eq_ok_iff.mp h
  exact ⟨t, ht, rfl⟩

theorem write_list {items : List Value} {s : String} (h : write (.list items) = .ok s) :
    ∃ parts, List.Forall₂ (fun v p => write v = .ok p) items parts ∧
      s = "[" ++ String.intercalate "," parts ++ "]" := by
  rw [write, writeItems_eq_map] at h
  obtain ⟨parts, hparts, hs⟩ := bind_eq_ok_iff.mp h
  obtain rfl := pure_eq_ok_iff.mp hs
  exact ⟨parts, forall₂_of_allOk hparts, rfl⟩

theorem write_object_eq (entries : List (String × Value)) :
    write (.object entries) = (allOk ((inKeyOrder entries).map writeEntry)).map fun parts =>
      "\x7b" ++ String.intercalate "," parts ++ "\x7d" := by
  have hmap : (inKeyOrder entries).map (fun e => (e.1, write e.2)) =
      inKeyOrder (writeEntries entries) := by
    rw [writeEntries_eq_map, map_inKeyOrder]
  have hsorted : ((writeEntries entries).mergeSort fun a b => keyLe a.1 b.1).map
        (fun e => e.2.map fun text => string e.1 ++ ":" ++ text) =
      (inKeyOrder entries).map writeEntry := by
    change (inKeyOrder (writeEntries entries)).map _ = _
    rw [← hmap, List.map_map]
    rfl
  rw [write, hsorted]
  cases allOk ((inKeyOrder entries).map writeEntry) <;> rfl

theorem write_object {entries : List (String × Value)} {s : String}
    (h : write (.object entries) = .ok s) :
    ∃ parts, List.Forall₂ (fun e p => ∃ t, write e.2 = .ok t ∧ p = string e.1 ++ ":" ++ t)
        (inKeyOrder entries) parts ∧
      s = "\x7b" ++ String.intercalate "," parts ++ "\x7d" := by
  rw [write_object_eq] at h
  obtain ⟨parts, hparts, rfl⟩ := map_eq_ok_iff.mp h
  exact ⟨parts, (forall₂_of_allOk hparts).imp fun _ _ => writeEntry_eq_ok, rfl⟩

theorem exists_allOk {α β : Type} {f : α → Except CanonicalError β} {items : List α}
    (h : ∀ v ∈ items, ∃ p, f v = .ok p) : ∃ parts, allOk (items.map f) = .ok parts := by
  induction items with
  | nil => exact ⟨[], rfl⟩
  | cons v rest ih =>
    obtain ⟨p, hp⟩ := h v List.mem_cons_self
    obtain ⟨parts, hparts⟩ := ih fun w hw => h w (List.mem_cons_of_mem v hw)
    exact ⟨p :: parts, by rw [List.map_cons, hp, allOk, hparts]; rfl⟩

mutual

/-- Whether all numbers in a value can be written. -/
def writable : Value → Bool
  | .int n => n.natAbs < Nat.pow 2 53
  | .float x => x.isFinite
  | .list items => allWritable items
  | .object entries => allEntriesWritable entries
  | _ => true

def allWritable : List Value → Bool
  | [] => true
  | v :: rest => writable v && allWritable rest

def allEntriesWritable : List (String × Value) → Bool
  | [] => true
  | (_, v) :: rest => writable v && allEntriesWritable rest

end

theorem allWritable_iff {items : List Value} :
    allWritable items = true ↔ ∀ v ∈ items, writable v = true := by
  induction items with
  | nil => simp [allWritable]
  | cons v rest ih => simp [allWritable, ih]

theorem allEntriesWritable_iff {entries : List (String × Value)} :
    allEntriesWritable entries = true ↔ ∀ e ∈ entries, writable e.2 = true := by
  induction entries with
  | nil => simp [allEntriesWritable]
  | cons e rest ih => simp [allEntriesWritable, ih]

/-- Values have a canonical text if all numbers in them can be written. -/
theorem exists_write {v : Value} (h : writable v = true) : ∃ s, write v = .ok s := by
  induction v using Value.induct with
  | null | bool | str => exact ⟨_, rfl⟩
  | int n =>
    have hn : n.natAbs < Nat.pow 2 53 := by simpa [writable] using h
    exact ⟨_, by rw [write, if_pos hn]⟩
  | float x =>
    have hx : x.isFinite = true := h
    exact ⟨_, by rw [write, if_pos hx]⟩
  | list items ih =>
    obtain ⟨parts, hparts⟩ := exists_allOk fun v hv => ih v hv (allWritable_iff.mp h v hv)
    exact ⟨_, by rw [write, writeItems_eq_map, hparts]; rfl⟩
  | object entries ih =>
    have each (e : String × Value) (he : e ∈ inKeyOrder entries) :
        ∃ p, writeEntry e = .ok p := by
      have he := List.mem_mergeSort.mp he
      obtain ⟨t, ht⟩ := ih e he (allEntriesWritable_iff.mp h e he)
      exact ⟨_, by rw [writeEntry, ht]; rfl⟩
    obtain ⟨parts, hparts⟩ := exists_allOk each
    exact ⟨_, by rw [write_object_eq, hparts]; rfl⟩

theorem write_int {n : Int} {s : String} (h : write (.int n) = .ok s) :
    n.natAbs < 2 ^ 53 ∧ s = toString n := by
  rw [write] at h
  split at h
  · cases h
    exact ⟨by assumption, rfl⟩
  · cases h

theorem write_float {x : Binary64} {s : String} (h : write (.float x) = .ok s) :
    x.isFinite = true ∧ s = numberLayout.text x := by
  rw [write] at h
  split at h
  · cases h
    exact ⟨by assumption, rfl⟩
  · cases h

theorem numberChars_write {v : Value} {s : String} (h : write v = .ok s)
    (hv : v.opening = .word) : s.toList ≠ [] ∧ s.toList.all isNumberChar = true := by
  cases v with
  | null =>
    cases h
    exact ⟨by simp, by decide⟩
  | bool b =>
    cases h
    cases b <;> exact ⟨by simp, by decide⟩
  | int n =>
    obtain ⟨-, rfl⟩ := write_int h
    exact ⟨(Numeral.shows_int n).ne_nil, all_isNumberChar_int n⟩
  | float x =>
    obtain ⟨hfinite, rfl⟩ := write_float h
    refine ⟨?_, numberLayout.all_isNumberChar_text (by decide) (by decide) x⟩
    cases x with
    | nan | infinite => cases hfinite
    | finite neg m e fits =>
      obtain ⟨q, hq, -⟩ := numberLayout.text_shows neg fits
      exact hq.ne_nil
  | str | list | object => cases hv

theorem write_opening {v : Value} {s : String} (h : write v = .ok s) :
    ∃ c rest, s.toList = c :: rest ∧ Value.Opening.ofChar? c = some v.opening := by
  have hword (hv : v.opening = .word) :
      ∃ c rest, s.toList = c :: rest ∧ Value.Opening.ofChar? c = some v.opening := by
    obtain ⟨hne, hall⟩ := numberChars_write h hv
    exact hv ▸ Value.Opening.exists_word hne hall
  cases v with
  | null | bool | int | float => exact hword rfl
  | str t =>
    cases h
    exact ⟨_, _, string_toList t, rfl⟩
  | list items =>
    obtain ⟨parts, -, rfl⟩ := write_list h
    exact ⟨'[', (String.intercalate "," parts ++ "]").toList, by simp, rfl⟩
  | object entries =>
    obtain ⟨parts, -, rfl⟩ := write_object h
    exact ⟨'\x7b', (String.intercalate "," parts ++ "\x7d").toList, by simp, rfl⟩

theorem shows_write {v : Value} {s : String} (h : write v = .ok s) (hv : v.isNumber = true) :
    ∃ neg q, Numeral.Shows s.toList neg q := by
  cases v with
  | int n =>
    obtain ⟨-, rfl⟩ := write_int h
    exact ⟨_, _, Numeral.shows_int n⟩
  | float x =>
    obtain ⟨hfinite, rfl⟩ := write_float h
    cases x with
    | nan | infinite => cases hfinite
    | finite neg m e fits =>
      obtain ⟨q, hq, -⟩ := numberLayout.text_shows neg fits
      exact ⟨_, _, hq⟩
  | null | bool | str | list | object => cases hv

theorem form_float_of_toInt? {x : Binary64} {n : Int} (h : x.toInt? = some n)
    (hn : n.natAbs < 2 ^ 53) : form (.float x) = .int n := by
  simp only [form, h, Nat.pow_eq]
  rw [if_pos hn]

theorem form_float_of_isZero {x : Binary64} (h : x.isZero = true) : form (.float x) = .int 0 := by
  refine form_float_of_toInt? ?_ (by decide)
  cases x with
  | nan | infinite => cases h
  | finite neg m e fits =>
    obtain rfl : m = 0 := beq_iff_eq.mp h
    refine Binary64.toInt?_of_magnitude rfl ?_ (.inr rfl)
    rw [Binary64.magnitude, Int.natAbs_zero, Nat.zero_mul, Nat.zero_mul]

/-- Numbers with the same canonical text have the same form. -/
theorem form_eq_of_number {a b : Value} {s : String} (ha : write a = .ok s) (hb : write b = .ok s)
    (hna : a.isNumber = true) (hnb : b.isNumber = true) : form a = form b := by
  cases a with
  | int n =>
    obtain ⟨hn, rfl⟩ := write_int ha
    cases b with
    | int m =>
      obtain ⟨-, hm⟩ := write_int hb
      rw [Numeral.toString_int_inj hm]
    | float y =>
      obtain ⟨hy, ht⟩ := write_float hb
      rw [form_float_of_toInt? (numberLayout.toInt?_of_text_eq hy hn ht.symm) hn]
      rfl
    | null | bool | str | list | object => cases hnb
  | float x =>
    obtain ⟨hx, rfl⟩ := write_float ha
    cases b with
    | int m =>
      obtain ⟨hm, ht⟩ := write_int hb
      rw [form_float_of_toInt? (numberLayout.toInt?_of_text_eq hx hm ht) hm]
      rfl
    | float y =>
      obtain ⟨hy, ht⟩ := write_float hb
      rcases numberLayout.text_inj hx hy ht with rfl | ⟨-, hzx, hzy⟩
      · rfl
      · rw [form_float_of_isZero hzx, form_float_of_isZero hzy]
    | null | bool | str | list | object => cases hnb
  | null | bool | str | list | object => cases hna

theorem not_shows_of_word {cs : List Char} {neg : Bool} {q : ℚ}
    (h : cs = "null".toList ∨ cs = "true".toList ∨ cs = "false".toList) :
    ¬ Numeral.Shows cs neg q := by
  rintro ⟨rest, hs, n, e, hd, -⟩
  rcases h with rfl | rfl | rfl <;> cases hs <;> cases hd

theorem word_of_write {v : Value} {s : String} (h : write v = .ok s) (hv : v.opening = .word)
    (hn : v.isNumber = false) :
    s.toList = "null".toList ∨ s.toList = "true".toList ∨ s.toList = "false".toList := by
  cases v with
  | null =>
    cases h
    exact .inl rfl
  | bool b =>
    cases h
    cases b
    · exact .inr (.inr rfl)
    · exact .inr (.inl rfl)
  | int | float => cases hn
  | str | list | object => cases hv

/-- Words and numbers with the same canonical text have the same form. -/
theorem form_eq_of_word {a b : Value} {s : String} (ha : write a = .ok s) (hb : write b = .ok s)
    (hwa : a.opening = .word) (hwb : b.opening = .word) : form a = form b := by
  cases hna : a.isNumber with
  | true =>
    cases hnb : b.isNumber with
    | true => exact form_eq_of_number ha hb hna hnb
    | false =>
      obtain ⟨neg, q, hq⟩ := shows_write ha hna
      exact absurd hq (not_shows_of_word (word_of_write hb hwb hnb))
  | false =>
    cases hnb : b.isNumber with
    | true =>
      obtain ⟨neg, q, hq⟩ := shows_write hb hnb
      exact absurd hq (not_shows_of_word (word_of_write ha hwa hna))
    | false =>
      have h : write a = write b := ha.trans hb.symm
      cases a with
      | null =>
        cases b with
        | null => rfl
        | bool c => cases c <;> simp [write] at h
        | int | float => cases hnb
        | str | list | object => cases hwb
      | bool c =>
        cases b with
        | null => cases c <;> simp [write] at h
        | bool d => cases c <;> cases d <;> simp [write] at h <;> rfl
        | int | float => cases hnb
        | str | list | object => cases hwb
      | int | float => cases hna
      | str | list | object => cases hwa

theorem legible_write : Legible (fun v p => write v = .ok p) form "," ":" string inKeyOrder where
  comma_eq := ⟨[], rfl⟩
  begins := write_opening
  wordChars h hv := (numberChars_write h hv).2
  wordForm := form_eq_of_word
  strText h := (Except.ok.inj h).symm
  quoteHead t := ⟨_, _, string_toList t, by decide⟩
  quoteInj := string_inj
  listText := write_list
  listForm h := by rw [form_list, form_list, h]
  objectText := write_object
  objectForm h := by rw [form_object, form_object, h]
  orderSubset := List.mem_mergeSort.mp

/-- Values with the same canonical text have the same form. -/
theorem form_eq_of_write_eq {a b : Value} {s : String} (ha : write a = .ok s)
    (hb : write b = .ok s) : form a = form b :=
  legible_write.form_eq ha hb

end Canonical

end GridRules
