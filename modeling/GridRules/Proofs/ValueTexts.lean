import GridRules.Proofs.NumberTexts
import GridRules.Proofs.QuotedTexts
import Mathlib.Data.List.Forall2

namespace GridRules

/-- A rest of a text that no number can go on into. -/
def Delimited (rest : List Char) : Prop :=
  ∀ c ∈ rest.head?, isNumberChar c = false

theorem delimited_nil : Delimited [] := nofun

theorem delimited_cons {c : Char} (h : isNumberChar c = false) (rest : List Char) :
    Delimited (c :: rest) := by
  rintro d hd
  cases hd
  exact h

/-- Where a number ends is seen from what follows it. -/
theorem numberChars_inj {xs ys r s : List Char} (hx : xs.all isNumberChar = true)
    (hy : ys.all isNumberChar = true) (hr : Delimited r) (hs : Delimited s)
    (h : xs ++ r = ys ++ s) : xs = ys ∧ r = s := by
  have htake := congrArg (List.takeWhile isNumberChar) h
  rw [takeWhile_run (List.all_eq_true.mp hx) hr, takeWhile_run (List.all_eq_true.mp hy) hs] at htake
  subst htake
  exact ⟨rfl, List.append_cancel_left h⟩

section Joined

variable {α β : Type} {Shows : α → String → Prop} {f : α → β}

/-- A thing is read off the front of a text that shows it, as far as `f` tells things apart. -/
def ReadOff (Shows : α → String → Prop) (f : α → β) (x : α) : Prop :=
  ∀ y p q r s, Shows x p → Shows y q → Delimited r → Delimited s →
    p.toList ++ r = q.toList ++ s → f x = f y ∧ r = s

variable {separator : String} {comma close : Char} {space r s : List Char} {xs ys : List α}
  {ps qs : List String}

/-- What stands behind the first of several parts, up to the closing bracket and beyond. -/
def behindFirst (separator : String) (close : Char) (ps : List String) (rest : List Char) :
    List Char :=
  ps.flatMap (fun p => separator.toList ++ p.toList) ++ close :: rest

theorem intercalate_cons_toList (separator p : String) (ps : List String) :
    (String.intercalate separator (p :: ps)).toList =
      p.toList ++ ps.flatMap (fun p => separator.toList ++ p.toList) := by
  rw [String.toList_intercalate, List.map_cons]
  induction ps generalizing p with
  | nil => simp [List.intercalate]
  | cons q ps ih =>
    rw [List.map_cons, List.intercalate_cons_cons, ih]
    simp

variable (hseparator : separator.toList = comma :: space)
  (hcomma : isNumberChar comma = false) (hbracket : isNumberChar close = false)
include hseparator hcomma hbracket

theorem delimited_behindFirst (ps : List String) (rest : List Char) :
    Delimited (behindFirst separator close ps rest) := by
  cases ps with
  | nil => exact delimited_cons hbracket rest
  | cons p ps =>
    rw [behindFirst, List.flatMap_cons, hseparator]
    exact delimited_cons hcomma _

variable (hclose : comma ≠ close)
include hclose

theorem behindFirst_inj (read : ∀ x ∈ xs, ReadOff Shows f x) (hx : List.Forall₂ Shows xs ps)
    (hy : List.Forall₂ Shows ys qs)
    (h : behindFirst separator close ps r = behindFirst separator close qs s) :
    xs.map f = ys.map f ∧ r = s := by
  have hdelimited := delimited_behindFirst hseparator hcomma hbracket
  induction hx generalizing ys qs with
  | nil =>
    cases hy with
    | nil => exact ⟨rfl, by simpa [behindFirst] using h⟩
    | cons => simp [behindFirst, hseparator, hclose.symm] at h
  | @cons x p xs ps hp _ ih =>
    cases hy with
    | nil => simp [behindFirst, hseparator, hclose] at h
    | @cons y q ys qs hq hys =>
      have h : p.toList ++ behindFirst separator close ps r =
          q.toList ++ behindFirst separator close qs s := by
        simpa [behindFirst] using h
      obtain ⟨hxy, hrest⟩ := read x List.mem_cons_self y p q _ _ hp hq
        (hdelimited ps r) (hdelimited qs s) h
      obtain ⟨hmap, hrs⟩ := ih (fun z hz => read z (List.mem_cons_of_mem x hz)) hys hrest
      exact ⟨by rw [List.map_cons, List.map_cons, hxy, hmap], hrs⟩

/-- The parts between brackets are read off one by one. -/
theorem intercalate_inj (starts : ∀ x p, Shows x p → ∃ c rest, p.toList = c :: rest ∧ c ≠ close)
    (read : ∀ x ∈ xs, ReadOff Shows f x) (hx : List.Forall₂ Shows xs ps)
    (hy : List.Forall₂ Shows ys qs)
    (h : (String.intercalate separator ps).toList ++ close :: r =
      (String.intercalate separator qs).toList ++ close :: s) :
    xs.map f = ys.map f ∧ r = s := by
  have hdelimited := delimited_behindFirst hseparator hcomma hbracket
  cases hx with
  | nil =>
    cases hy with
    | nil => exact ⟨rfl, by simpa using h⟩
    | cons hq _ =>
      obtain ⟨c, rest, hc, hne⟩ := starts _ _ hq
      rw [intercalate_cons_toList, hc] at h
      simp [hne.symm] at h
  | @cons x p xs ps hp hxs =>
    cases hy with
    | nil =>
      obtain ⟨c, rest, hc, hne⟩ := starts _ _ hp
      rw [intercalate_cons_toList, hc] at h
      simp [hne] at h
    | @cons y q ys qs hq hys =>
      rw [intercalate_cons_toList, intercalate_cons_toList, List.append_assoc,
        List.append_assoc] at h
      obtain ⟨hxy, hrest⟩ := read x List.mem_cons_self y p q _ _ hp hq
        (hdelimited ps r) (hdelimited qs s) h
      obtain ⟨hmap, hrs⟩ := behindFirst_inj hseparator hcomma hbracket hclose
        (fun z hz => read z (List.mem_cons_of_mem x hz)) hxs hys hrest
      exact ⟨by rw [List.map_cons, List.map_cons, hxy, hmap], hrs⟩

end Joined

namespace Value

/-- Induction over the parts of a value. -/
theorem induct {motive : Value → Prop} (null : motive .null) (bool : ∀ b, motive (.bool b))
    (int : ∀ n, motive (.int n)) (float : ∀ x, motive (.float x)) (str : ∀ s, motive (.str s))
    (list : ∀ items, (∀ v ∈ items, motive v) → motive (.list items))
    (object : ∀ entries : List (String × Value), (∀ e ∈ entries, motive e.2) →
      motive (.object entries)) (v : Value) : motive v :=
  Value.rec (motive_1 := motive) (motive_2 := fun items => ∀ v ∈ items, motive v)
    (motive_3 := fun entries => ∀ e ∈ entries, motive e.2) (motive_4 := fun e => motive e.2)
    null bool int float str list object nofun
    (fun _ _ head tail => List.forall_mem_cons.mpr ⟨head, tail⟩) nofun
    (fun _ _ head tail => List.forall_mem_cons.mpr ⟨head, tail⟩) (fun _ _ h => h) v

/-- What a value begins with when it is written. -/
inductive Opening where
  | word
  | quote
  | bracket
  | brace

def Opening.ofChar? (c : Char) : Option Opening :=
  if isNumberChar c then some .word
  else if c = '[' then some .bracket
  else if c = '\x7b' then some .brace
  else if c = '"' ∨ c = Char.ofNat 0x27 then some .quote
  else none

theorem Opening.exists_word {cs : List Char} (hne : cs ≠ []) (hall : cs.all isNumberChar = true) :
    ∃ c rest, cs = c :: rest ∧ ofChar? c = some .word := by
  obtain ⟨c, rest, rfl⟩ := List.exists_cons_of_ne_nil hne
  rw [List.all_cons, Bool.and_eq_true] at hall
  exact ⟨c, rest, rfl, by rw [ofChar?, if_pos hall.1]⟩

def opening : Value → Opening
  | .null | .bool _ | .int _ | .float _ => .word
  | .str _ => .quote
  | .list _ => .bracket
  | .object _ => .brace

end Value

/-- Texts show values, from which the values can be told as far as `form` keeps them apart. Lists
and objects are written part by part, the entries of an object in some order. -/
structure Legible (Shows : Value → String → Prop) (form : Value → Value) (comma colon : String)
    (quote : String → String) (order : List (String × Value) → List (String × Value)) : Prop where
  comma_eq : ∃ space, comma.toList = ',' :: space
  begins : ∀ {v p}, Shows v p →
    ∃ c rest, p.toList = c :: rest ∧ Value.Opening.ofChar? c = some v.opening
  wordChars : ∀ {v p}, Shows v p → v.opening = .word → p.toList.all isNumberChar = true
  wordForm : ∀ {a b p}, Shows a p → Shows b p → a.opening = .word → b.opening = .word →
    form a = form b
  strText : ∀ {t p}, Shows (.str t) p → p = quote t
  quoteHead : ∀ t, ∃ c rest, (quote t).toList = c :: rest ∧ c ≠ '\x7d'
  quoteInj : ∀ {a b r s}, (quote a).toList ++ r = (quote b).toList ++ s → a = b ∧ r = s
  listText : ∀ {items p}, Shows (.list items) p → ∃ parts, List.Forall₂ Shows items parts ∧
    p = "[" ++ String.intercalate comma parts ++ "]"
  listForm : ∀ {items items' : List Value}, items.map form = items'.map form →
    form (.list items) = form (.list items')
  objectText : ∀ {entries p}, Shows (.object entries) p →
    ∃ parts, List.Forall₂ (fun e p => ∃ t, Shows e.2 t ∧ p = quote e.1 ++ colon ++ t)
        (order entries) parts ∧
      p = "\x7b" ++ String.intercalate comma parts ++ "\x7d"
  objectForm : ∀ {entries entries' : List (String × Value)},
    (order entries).map (fun e => (e.1, form e.2)) =
      (order entries').map (fun e => (e.1, form e.2)) →
    form (.object entries) = form (.object entries')
  orderSubset : ∀ {entries e}, e ∈ order entries → e ∈ entries

namespace Legible

variable {Shows : Value → String → Prop} {form : Value → Value} {comma colon : String}
  {quote : String → String} {order : List (String × Value) → List (String × Value)}
  (legible : Legible Shows form comma colon quote order)
include legible

/-- Texts that begin alike are of values of one kind. -/
theorem opening_eq {a b : Value} {p q : String} {r s : List Char} (ha : Shows a p)
    (hb : Shows b q) (h : p.toList ++ r = q.toList ++ s) : a.opening = b.opening := by
  obtain ⟨c, rest, hp, hc⟩ := legible.begins ha
  obtain ⟨d, rest', hq, hd⟩ := legible.begins hb
  rw [hp, hq] at h
  obtain rfl : c = d := by simpa using congrArg List.head? h
  exact Option.some.inj (hc.symm.trans hd)

theorem readOff_word {a : Value} (ha : a.opening = .word) : ReadOff Shows form a := by
  intro b p q r s hp hq hr hs h
  have hb : b.opening = .word := (legible.opening_eq hp hq h).symm.trans ha
  obtain ⟨hpq, hrs⟩ := numberChars_inj (legible.wordChars hp ha) (legible.wordChars hq hb) hr hs h
  obtain rfl := String.toList_inj.mp hpq
  exact ⟨legible.wordForm hp hq ha hb, hrs⟩

theorem readOff_str (t : String) : ReadOff Shows form (.str t) := by
  intro b p q r s hp hq _ _ h
  have hb := legible.opening_eq hp hq h
  cases b with
  | null | bool | int | float | list | object => cases hb
  | str u =>
    obtain rfl := legible.strText hp
    obtain rfl := legible.strText hq
    obtain ⟨rfl, hrs⟩ := legible.quoteInj h
    exact ⟨rfl, hrs⟩

theorem readOff_list {items : List Value} (read : ∀ v ∈ items, ReadOff Shows form v) :
    ReadOff Shows form (.list items) := by
  intro b p q r s hp hq _ _ h
  have hb := legible.opening_eq hp hq h
  cases b with
  | null | bool | int | float | str | object => cases hb
  | list items' =>
    obtain ⟨ps, hps, rfl⟩ := legible.listText hp
    obtain ⟨qs, hqs, rfl⟩ := legible.listText hq
    have starts (v : Value) (p : String) (hv : Shows v p) :
        ∃ c rest, p.toList = c :: rest ∧ c ≠ ']' := by
      obtain ⟨c, rest, hc, hopening⟩ := legible.begins hv
      refine ⟨c, rest, hc, ?_⟩
      rintro rfl
      cases hopening
    obtain ⟨space, hcomma⟩ := legible.comma_eq
    obtain ⟨hmap, hrs⟩ := intercalate_inj hcomma (by decide) (by decide) (by decide)
      starts read hps hqs (by simpa using h)
    exact ⟨legible.listForm hmap, hrs⟩

theorem readOff_entry {e : String × Value} (read : ReadOff Shows form e.2) :
    ReadOff (fun e p => ∃ t, Shows e.2 t ∧ p = quote e.1 ++ colon ++ t)
      (fun e => (e.1, form e.2)) e := by
  rintro e' p q r s ⟨t, ht, rfl⟩ ⟨t', ht', rfl⟩ hr hs h
  simp only [String.toList_append, List.append_assoc] at h
  obtain ⟨hkey, hrest⟩ := legible.quoteInj h
  obtain ⟨hform, hrs⟩ := read e'.2 t t' r s ht ht' hr hs (List.append_cancel_left hrest)
  exact ⟨Prod.ext hkey hform, hrs⟩

theorem readOff_object {entries : List (String × Value)}
    (read : ∀ e ∈ entries, ReadOff Shows form e.2) : ReadOff Shows form (.object entries) := by
  intro b p q r s hp hq _ _ h
  have hb := legible.opening_eq hp hq h
  cases b with
  | null | bool | int | float | str | list => cases hb
  | object entries' =>
    obtain ⟨ps, hps, rfl⟩ := legible.objectText hp
    obtain ⟨qs, hqs, rfl⟩ := legible.objectText hq
    have starts (e : String × Value) (p : String)
        (he : ∃ t, Shows e.2 t ∧ p = quote e.1 ++ colon ++ t) :
        ∃ c rest, p.toList = c :: rest ∧ c ≠ '\x7d' := by
      obtain ⟨t, -, rfl⟩ := he
      obtain ⟨c, rest, hc, hne⟩ := legible.quoteHead e.1
      rw [String.toList_append, String.toList_append, hc]
      exact ⟨c, _, rfl, hne⟩
    obtain ⟨space, hcomma⟩ := legible.comma_eq
    obtain ⟨hmap, hrs⟩ := intercalate_inj hcomma (by decide) (by decide)
      (by decide) starts (fun e he => legible.readOff_entry (read e (legible.orderSubset he)))
      hps hqs (by simpa using h)
    exact ⟨legible.objectForm hmap, hrs⟩

/-- A value is read off the front of a text that begins with one that shows it. -/
theorem readOff (v : Value) : ReadOff Shows form v := by
  induction v using Value.induct with
  | null => exact legible.readOff_word rfl
  | bool b => exact legible.readOff_word rfl
  | int n => exact legible.readOff_word rfl
  | float x => exact legible.readOff_word rfl
  | str s => exact legible.readOff_str s
  | list items ih => exact legible.readOff_list ih
  | object entries ih => exact legible.readOff_object ih

theorem form_eq {a b : Value} {p : String} (ha : Shows a p) (hb : Shows b p) :
    form a = form b :=
  (legible.readOff a b p p [] [] ha hb delimited_nil delimited_nil rfl).1

end Legible

end GridRules
