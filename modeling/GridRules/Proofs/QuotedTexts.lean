import GridRules.Json.Canonical
import Mathlib.Algebra.Group.Nat.Defs
import Mathlib.Tactic.SplitIfs

namespace GridRules

/-- The value of a hexadecimal digit in lower case; what is none counts as zero. -/
def hexDigitValue (c : Char) : Nat :=
  ((List.range 16).find? fun d => Nat.digitChar d == c).getD 0

def hexValue (cs : List Char) : Nat :=
  cs.foldl (fun n c => 16 * n + hexDigitValue c) 0

theorem hexDigitValue_digitChar {d : Nat} (h : d < 16) : hexDigitValue (Nat.digitChar d) = d := by
  revert d
  decide

theorem length_hexDigits (width n : Nat) : (hexDigits width n).length = width := by
  induction width generalizing n with
  | zero => rfl
  | succ width ih => simp [hexDigits, ih]

theorem hexValue_hexDigits {width n : Nat} (h : n < 16 ^ width) :
    hexValue (hexDigits width n) = n := by
  induction width generalizing n with
  | zero => simp_all [hexDigits, hexValue]
  | succ width ih =>
    have hdiv : n / 16 < 16 ^ width := by
      rw [Nat.pow_succ] at h
      exact Nat.div_lt_of_lt_mul (by omega)
    have := ih hdiv
    simp only [hexValue] at this
    rw [hexDigits, hexValue, List.foldl_append, this]
    simp only [List.foldl_cons, List.foldl_nil, hexDigitValue_digitChar (Nat.mod_lt n (by decide))]
    omega

/-- The character that a text begins with, read back from its escape, and the rest. -/
def takeEscaped : List Char → Option (Char × List Char)
  | '\\' :: 'b' :: rest => some (Char.ofNat 0x08, rest)
  | '\\' :: 'f' :: rest => some (Char.ofNat 0x0C, rest)
  | '\\' :: 'n' :: rest => some ('\n', rest)
  | '\\' :: 'r' :: rest => some ('\r', rest)
  | '\\' :: 't' :: rest => some ('\t', rest)
  | '\\' :: 'x' :: rest => some (Char.ofNat (hexValue (rest.take 2)), rest.drop 2)
  | '\\' :: 'u' :: rest => some (Char.ofNat (hexValue (rest.take 4)), rest.drop 4)
  | '\\' :: 'U' :: rest => some (Char.ofNat (hexValue (rest.take 8)), rest.drop 8)
  | '\\' :: c :: rest => some (c, rest)
  | c :: rest => some (c, rest)
  | [] => none

theorem take_drop_hexDigits {c : Char} (width : Nat) (h : c.toNat < 16 ^ width)
    (rest : List Char) :
    (Char.ofNat (hexValue ((hexDigits width c.toNat ++ rest).take width)),
      (hexDigits width c.toNat ++ rest).drop width) = (c, rest) := by
  rw [List.take_left' (length_hexDigits _ _), List.drop_left' (length_hexDigits _ _),
    hexValue_hexDigits h, Char.ofNat_toNat]

theorem takeEscaped_plain {c : Char} (h : c ≠ '\\') (rest : List Char) :
    takeEscaped (c :: rest) = some (c, rest) := by
  unfold takeEscaped
  split <;> simp_all

/-- A way to write characters between quotes: each is read back, and none begins with the quote. -/
structure EscapesFor (quote : Char) (code : Char → List Char) : Prop where
  read : ∀ c rest, takeEscaped (code c ++ rest) = some (c, rest)
  opens : ∀ c rest, (code c ++ rest).head? ≠ some quote

/-- The closing quote is found, and what stands before it is read back, however it is written. -/
theorem EscapesFor.flatMap_inj {quote : Char} {code code' : Char → List Char}
    (escapes : EscapesFor quote code) (escapes' : EscapesFor quote code') {xs ys r s : List Char}
    (h : xs.flatMap code ++ quote :: r = ys.flatMap code' ++ quote :: s) : xs = ys ∧ r = s := by
  induction xs generalizing ys with
  | nil =>
    cases ys with
    | nil => exact ⟨rfl, by simpa using h⟩
    | cons y ys =>
      rw [List.flatMap_cons, List.append_assoc] at h
      exact absurd (congrArg List.head? h).symm (escapes'.opens y _)
  | cons x xs ih =>
    cases ys with
    | nil =>
      rw [List.flatMap_cons, List.append_assoc] at h
      exact absurd (congrArg List.head? h) (escapes.opens x _)
    | cons y ys =>
      rw [List.flatMap_cons, List.flatMap_cons, List.append_assoc, List.append_assoc] at h
      have hread := congrArg takeEscaped h
      rw [escapes.read, escapes'.read, Option.some.injEq, Prod.mk.injEq] at hread
      obtain ⟨rfl, hrest⟩ := hread
      obtain ⟨rfl, hr⟩ := ih hrest
      exact ⟨rfl, hr⟩

namespace Canonical

theorem escapesFor_escape : EscapesFor '"' escape where
  read c rest := by
    have hofNat (n : Nat) (h : c.toNat = n) : c = Char.ofNat n := by rw [← h, Char.ofNat_toNat]
    unfold escape
    simp only [beq_iff_eq, Bool.or_eq_true]
    split_ifs with h₁ h₂ h₃ h₄ h₅ h₆ h₇
    · rcases h₁ with h | h <;> rw [hofNat _ h] <;> rfl
    · rw [hofNat _ h₂]; rfl
    · rw [hofNat _ h₃]; rfl
    · rw [hofNat _ h₄]; rfl
    · rw [hofNat _ h₅]; rfl
    · rw [hofNat _ h₆]; rfl
    · exact congrArg some (take_drop_hexDigits 4 (by omega) rest)
    · exact takeEscaped_plain (fun h => h₁ (.inr (by rw [h]; rfl))) rest
  opens c rest := by
    unfold escape
    simp only [beq_iff_eq, Bool.or_eq_true]
    split_ifs with h₁ <;> simp
    rintro rfl
    exact h₁ (.inl rfl)

end Canonical

theorem escapesFor_quotedChar {quote : Char} (hquote : quote = '"' ∨ quote = Char.ofNat 0x27) :
    EscapesFor quote (quotedChar quote) where
  read c rest := by
    have hofNat (n : Nat) (h : c.toNat = n) : c = Char.ofNat n := by rw [← h, Char.ofNat_toNat]
    unfold quotedChar
    simp only [beq_iff_eq, Bool.or_eq_true]
    split_ifs with h₁ h₂ h₃ h₄ h₅ h₆ h₇
    · rcases h₁ with rfl | h
      · rcases hquote with rfl | rfl <;> rfl
      · rw [hofNat _ h]
        rfl
    · rw [hofNat _ h₂]; rfl
    · rw [hofNat _ h₃]; rfl
    · rw [hofNat _ h₄]; rfl
    · exact takeEscaped_plain (fun h => h₁ (.inr (by rw [h]; rfl))) rest
    · exact congrArg some (take_drop_hexDigits 2 (by omega) rest)
    · exact congrArg some (take_drop_hexDigits 4 (by omega) rest)
    · have : c.toNat < 16 ^ 8 := by
        have : c.toNat < 0xD800 ∨ 0xDFFF < c.toNat ∧ c.toNat < 0x110000 := c.valid
        omega
      exact congrArg some (take_drop_hexDigits 8 this rest)
  opens c rest := by
    have hne : quote ≠ '\\' := by rcases hquote with rfl | rfl <;> decide
    unfold quotedChar
    simp only [beq_iff_eq, Bool.or_eq_true]
    split_ifs with h₁ <;> simp [hne.symm]
    rintro rfl
    exact h₁ (.inl rfl)

theorem Canonical.string_toList (s : String) :
    (Canonical.string s).toList = '"' :: (s.toList.flatMap Canonical.escape ++ ['"']) := by
  simp [Canonical.string]

/-- The quote that a text is put in. -/
def quoteOf (s : String) : Char :=
  if s.toList.contains (Char.ofNat 0x27) && !s.toList.contains '"' then '"' else Char.ofNat 0x27

theorem quoted_toList (s : String) :
    (quoted s).toList =
      quoteOf s :: (s.toList.flatMap (quotedChar (quoteOf s)) ++ [quoteOf s]) := by
  simp [quoted, quoteOf]

theorem escapesFor_quoteOf (s : String) : EscapesFor (quoteOf s) (quotedChar (quoteOf s)) := by
  refine escapesFor_quotedChar ?_
  unfold quoteOf
  split
  · exact .inl rfl
  · exact .inr rfl

section Strings

variable {a b : String} {r s : List Char}

theorem Canonical.string_inj
    (h : (Canonical.string a).toList ++ r = (Canonical.string b).toList ++ s) : a = b ∧ r = s := by
  rw [string_toList, string_toList] at h
  simp only [List.cons_append, List.append_assoc, List.cons.injEq, true_and] at h
  exact (escapesFor_escape.flatMap_inj escapesFor_escape h).imp_left String.toList_inj.mp

theorem quoted_inj (h : (quoted a).toList ++ r = (quoted b).toList ++ s) : a = b ∧ r = s := by
  rw [quoted_toList, quoted_toList] at h
  simp only [List.cons_append, List.append_assoc, List.cons.injEq] at h
  obtain ⟨hquote, h⟩ := h
  rw [← hquote] at h
  exact ((escapesFor_quoteOf a).flatMap_inj (escapesFor_quoteOf a) h).imp_left String.toList_inj.mp

/-- A text in canonical JSON and a quoted text that begin alike end alike. -/
theorem string_quoted_inj (h : (Canonical.string a).toList ++ r = (quoted b).toList ++ s) :
    r = s := by
  rw [Canonical.string_toList, quoted_toList] at h
  simp only [List.cons_append, List.append_assoc, List.cons.injEq] at h
  obtain ⟨hquote, h⟩ := h
  have escapes := escapesFor_quoteOf b
  rw [← hquote] at h escapes
  exact (Canonical.escapesFor_escape.flatMap_inj escapes h).2

end Strings

end GridRules
