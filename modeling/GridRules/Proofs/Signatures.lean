import GridRules.Proofs.CanonicalTexts

namespace GridRules

namespace Value

theorem literals_eq_map (items : List Value) : literals items = items.map literal := by
  induction items with
  | nil => rfl
  | cons v rest ih => rw [literals, ih, List.map_cons]

/-- The display form of an entry of an object. -/
def entryLiteral (e : String × Value) : String :=
  quoted e.1 ++ ": " ++ literal e.2

theorem entryLiterals_eq_map (entries : List (String × Value)) :
    entryLiterals entries = entries.map entryLiteral := by
  induction entries with
  | nil => rfl
  | cons e rest ih => rw [entryLiterals, ih, List.map_cons, entryLiteral]

theorem literal_list (items : List Value) :
    (literal (.list items)).toList =
      '[' :: ((String.intercalate ", " (items.map literal)).toList ++ [']']) := by
  rw [literal, literals_eq_map, bracketed]
  simp

theorem literal_object (entries : List (String × Value)) :
    (literal (.object entries)).toList =
      '\x7b' :: ((String.intercalate ", " (entries.map entryLiteral)).toList ++ ['\x7d']) := by
  rw [literal, entryLiterals_eq_map, bracketed]
  simp

/-- The finite numbers. -/
def isFiniteNumber : Value → Bool
  | .int _ => true
  | .float x => x.isFinite
  | _ => false

theorem shows_literal {v : Value} (h : v.isFiniteNumber = true) :
    ∃ neg q, Numeral.Shows v.literal.toList neg q := by
  cases v with
  | int n => exact ⟨_, _, Numeral.shows_int n⟩
  | float x =>
    cases x with
    | nan | infinite => cases h
    | finite neg m e fits =>
      obtain ⟨q, hq, -⟩ := displayLayout.text_shows neg fits
      exact ⟨_, _, hq⟩
  | null | bool | str | list | object => cases h

theorem numberChars_literal {v : Value} (hv : v.opening = .word) :
    v.literal.toList ≠ [] ∧ v.literal.toList.all isNumberChar = true := by
  have hshown (h : v.isFiniteNumber = true) : v.literal.toList ≠ [] := by
    obtain ⟨neg, q, hq⟩ := shows_literal h
    exact hq.ne_nil
  cases v with
  | null => exact ⟨by simp [literal], by decide⟩
  | bool b => cases b <;> exact ⟨by simp [literal], by decide⟩
  | int n => exact ⟨hshown rfl, all_isNumberChar_int n⟩
  | float x =>
    refine ⟨?_, displayLayout.all_isNumberChar_text (by decide) (by decide) x⟩
    cases x with
    | nan => decide
    | infinite negative => cases negative <;> decide
    | finite => exact hshown rfl
  | str | list | object => cases hv

theorem eq_of_finiteNumber {a b : Value} (h : a.literal = b.literal)
    (ha : a.isFiniteNumber = true) (hb : b.isFiniteNumber = true) : a = b := by
  cases a with
  | int n =>
    cases b with
    | int m => rw [Numeral.toString_int_inj h]
    | float y => exact absurd h.symm (displayLayout.text_ne_int rfl hb n)
    | null | bool | str | list | object => cases hb
  | float x =>
    cases b with
    | int m => exact absurd h (displayLayout.text_ne_int rfl ha m)
    | float y =>
      rcases displayLayout.text_inj ha hb h with rfl | ⟨hsigned, -⟩
      · rfl
      · cases hsigned
    | null | bool | str | list | object => cases hb
  | null | bool | str | list | object => cases ha

/-- The values whose display forms are words for what is no finite number. -/
def worded : List Value :=
  [.null, .bool true, .bool false, .float .nan, .float (.infinite false), .float (.infinite true)]

theorem mem_worded {v : Value} (hv : v.opening = .word) (h : v.isFiniteNumber = false) :
    v ∈ worded := by
  cases v with
  | null => decide
  | bool b => cases b <;> decide
  | int => cases h
  | float x =>
    cases x with
    | nan => decide
    | infinite negative => cases negative <;> decide
    | finite => cases h
  | str | list | object => cases hv

theorem eq_of_mem_worded : ∀ a ∈ worded, ∀ b ∈ worded, a.literal = b.literal → a = b := by
  decide

theorem not_shows_literal {v : Value} (hv : v ∈ worded) {neg : Bool} {q : ℚ} :
    ¬ Numeral.Shows v.literal.toList neg q := by
  rintro ⟨rest, hs, n, e, hd, -⟩
  simp only [worded, List.mem_cons, List.not_mem_nil, or_false] at hv
  rcases hv with rfl | rfl | rfl | rfl | rfl | rfl <;> cases hs <;> cases hd

theorem eq_of_word {a b : Value} (h : a.literal = b.literal) (ha : a.opening = .word)
    (hb : b.opening = .word) : a = b := by
  cases hfa : a.isFiniteNumber with
  | true =>
    cases hfb : b.isFiniteNumber with
    | true => exact eq_of_finiteNumber h hfa hfb
    | false =>
      obtain ⟨neg, q, hq⟩ := shows_literal hfa
      rw [h] at hq
      exact absurd hq (not_shows_literal (mem_worded hb hfb))
  | false =>
    cases hfb : b.isFiniteNumber with
    | true =>
      obtain ⟨neg, q, hq⟩ := shows_literal hfb
      rw [← h] at hq
      exact absurd hq (not_shows_literal (mem_worded ha hfa))
    | false => exact eq_of_mem_worded a (mem_worded ha hfa) b (mem_worded hb hfb) h

theorem literal_begins (v : Value) :
    ∃ c rest, v.literal.toList = c :: rest ∧ Opening.ofChar? c = some v.opening := by
  have hword (hv : v.opening = .word) :
      ∃ c rest, v.literal.toList = c :: rest ∧ Opening.ofChar? c = some v.opening := by
    obtain ⟨hne, hall⟩ := numberChars_literal hv
    exact hv ▸ Opening.exists_word hne hall
  cases v with
  | null | bool | int | float => exact hword rfl
  | str t =>
    refine ⟨_, _, quoted_toList t, ?_⟩
    unfold quoteOf
    split <;> rfl
  | list items => exact ⟨_, _, literal_list items, rfl⟩
  | object entries => exact ⟨_, _, literal_object entries, rfl⟩

theorem legible_literal : Legible (fun v p => v.literal = p) id ", " ": " quoted id where
  comma_eq := ⟨[' '], rfl⟩
  begins := by
    rintro v p rfl
    exact literal_begins v
  wordChars := by
    rintro v p rfl hv
    exact (numberChars_literal hv).2
  wordForm := by
    rintro a b p ha rfl hwa hwb
    exact eq_of_word ha hwa hwb
  strText h := h.symm
  quoteHead t := ⟨_, _, quoted_toList t, by unfold quoteOf; split <;> decide⟩
  quoteInj := quoted_inj
  listText := by
    rintro items p rfl
    exact ⟨items.map literal, List.forall₂_map_right_iff.mpr (List.forall₂_same.mpr fun _ _ => rfl),
      by rw [literal, literals_eq_map, bracketed]⟩
  listForm h := by simpa using h
  objectText := by
    rintro entries p rfl
    exact ⟨entries.map entryLiteral,
      List.forall₂_map_right_iff.mpr (List.forall₂_same.mpr fun e _ => ⟨e.2.literal, rfl, rfl⟩),
      by rw [literal, entryLiterals_eq_map, bracketed]⟩
  objectForm h := by simpa using h
  orderSubset := id

/-- The display form tells all values apart. -/
theorem literal_injective {a b : Value} (h : a.literal = b.literal) : a = b :=
  legible_literal.form_eq h rfl

end Value

/-- The digests of some texts do not collide. -/
def Sha256.TellsApart (texts : String → Prop) : Prop :=
  ∀ s t, texts s → texts t → ofText s = ofText t → s = t

namespace Canonical

/-- The text whose digest is the signature. -/
def signedText (v : Value) : String :=
  match write v with
  | .ok text => text
  | .error _ => v.literal

theorem signature_eq (v : Value) : signature v = Sha256.ofText (signedText v) := by
  unfold signature hash signedText displayHash
  cases write v <;> rfl

theorem signedText_eq_of_write {a b : Value} (ha : writable a = true) (h : write a = write b) :
    signedText a = signedText b := by
  obtain ⟨s, hs⟩ := exists_write ha
  rw [signedText, signedText, ← h, hs]

/-- Where no display form is taken for a canonical text, values with the same signed text have the
same form. -/
theorem form_eq_of_signedText {a b : Value} (apart : ∀ s, write a = .ok s → b.literal ≠ s)
    (apart' : ∀ s, write b = .ok s → a.literal ≠ s) (h : signedText a = signedText b) :
    form a = form b := by
  unfold signedText at h
  cases ha : write a with
  | ok s =>
    cases hb : write b with
    | ok t =>
      rw [ha, hb] at h
      obtain rfl : s = t := h
      exact form_eq_of_write_eq ha hb
    | error e =>
      rw [ha, hb] at h
      exact absurd h.symm (apart s ha)
  | error e =>
    cases hb : write b with
    | ok t =>
      rw [ha, hb] at h
      exact absurd h (apart' t hb)
    | error e' =>
      rw [ha, hb] at h
      rw [Value.literal_injective h]

/-- Behind the first text of a list, canonical JSON goes on at once and the display form after a
space. -/
theorem literal_ne_write_list {a b : String} {u v : Value} {us vs : List Value} {s : String}
    (h : write (.list (.str a :: u :: us)) = .ok s) :
    (Value.list (.str b :: v :: vs)).literal ≠ s := by
  intro heq
  obtain ⟨parts, hparts, rfl⟩ := write_list h
  cases hparts with
  | cons hp hrest =>
    cases hrest with
    | @cons _ q _ _ hq _ =>
      cases hp
      obtain ⟨c, rest, hc, hopening⟩ := write_opening hq
      have heq := congrArg String.toList heq
      rw [Value.literal_list, List.map_cons, intercalate_cons_toList, Value.literal] at heq
      simp only [String.toList_append, intercalate_cons_toList, List.map_cons, List.flatMap_cons,
        List.append_assoc, hc] at heq
      have hbehind := string_quoted_inj (List.cons.inj heq.symm).2
      have hspace : c = ' ' := by
        simp at hbehind
        exact hbehind.1
      rw [hspace] at hopening
      cases hopening

/-- The keys of an object are in double quotes in canonical JSON. -/
theorem literal_ne_write_object {key : String} {v : Value} {rest entries : List (String × Value)}
    {s : String} (hkey : quoteOf key = Char.ofNat 0x27) (hne : entries ≠ [])
    (h : write (.object entries) = .ok s) : (Value.object ((key, v) :: rest)).literal ≠ s := by
  intro heq
  obtain ⟨parts, hparts, rfl⟩ := write_object h
  cases hsorted : inKeyOrder entries with
  | nil => exact hne (List.perm_nil.mp (hsorted ▸ (List.mergeSort_perm _ _).symm))
  | cons e es =>
    rw [hsorted] at hparts
    cases hparts with
    | cons hp _ =>
      obtain ⟨t, -, rfl⟩ := hp
      have heq := congrArg String.toList heq
      rw [Value.literal_object, List.map_cons, intercalate_cons_toList, Value.entryLiteral] at heq
      simp only [String.toList_append, intercalate_cons_toList, List.append_assoc, quoted_toList,
        string_toList, hkey] at heq
      exact absurd heq (by simp)

/-- Lists that begin with a text and go on have the same form if their signed texts are equal. -/
theorem form_eq_of_signedText_list {a b : String} {u v : Value} {us vs : List Value}
    (h : signedText (.list (.str a :: u :: us)) = signedText (.list (.str b :: v :: vs))) :
    form (.list (.str a :: u :: us)) = form (.list (.str b :: v :: vs)) :=
  form_eq_of_signedText (fun _ => literal_ne_write_list) (fun _ => literal_ne_write_list) h

/-- Objects have the same form if their signed texts are equal. -/
theorem form_eq_of_signedText_object {key key' : String} {v v' : Value}
    {rest rest' : List (String × Value)} (hkey : quoteOf key = Char.ofNat 0x27)
    (hkey' : quoteOf key' = Char.ofNat 0x27)
    (h : signedText (.object ((key, v) :: rest)) = signedText (.object ((key', v') :: rest'))) :
    form (.object ((key, v) :: rest)) = form (.object ((key', v') :: rest')) :=
  form_eq_of_signedText (fun _ => literal_ne_write_object hkey' (List.cons_ne_nil _ _))
    (fun _ => literal_ne_write_object hkey (List.cons_ne_nil _ _)) h

end Canonical

end GridRules
