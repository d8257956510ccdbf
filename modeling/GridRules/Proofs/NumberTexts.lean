import GridRules.Number.Numeral
import GridRules.Proofs.Lists
import GridRules.Proofs.Rounding

namespace GridRules

namespace Numeral

variable {cs whole fraction tail : List Char} {q : ℚ}

/-- An unsigned decimal that stands for a number. -/
def Reads (cs : List Char) (q : ℚ) : Prop :=
  ∃ n s, decimal? cs = some (n, s) ∧ (n : ℚ) * 10 ^ s = q

/-- A decimal that stands for a size under a sign. -/
def Shows (cs : List Char) (negative : Bool) (q : ℚ) : Prop :=
  ∃ rest, takeSign cs = (negative, rest) ∧ Reads rest q

theorem Reads.unique {r : ℚ} (h : Reads cs q) (h' : Reads cs r) : q = r := by
  obtain ⟨n, s, hd, rfl⟩ := h
  obtain ⟨n', s', hd', rfl⟩ := h'
  rw [hd] at hd'
  cases hd'
  rfl

theorem Shows.unique {neg neg' : Bool} {r : ℚ} (h : Shows cs neg q) (h' : Shows cs neg' r) :
    neg = neg' ∧ q = r := by
  obtain ⟨rest, hs, hr⟩ := h
  obtain ⟨rest', hs', hr'⟩ := h'
  rw [hs] at hs'
  cases hs'
  exact ⟨rfl, hr.unique hr'⟩

theorem not_reads_nil : ¬ Reads [] q := by
  rintro ⟨n, s, h, -⟩
  cases h

theorem Shows.ne_nil {neg : Bool} (h : Shows cs neg q) : cs ≠ [] := by
  rintro rfl
  obtain ⟨rest, hs, hr⟩ := h
  cases hs
  exact not_reads_nil hr

theorem Reads.takeSign_eq (h : Reads cs q) : takeSign cs = (false, cs) := by
  unfold takeSign
  split
  · obtain ⟨n, s, h, -⟩ := h
    simp [decimal?, show Char.isDigit '-' = false from rfl] at h
  · obtain ⟨n, s, h, -⟩ := h
    simp [decimal?, show Char.isDigit '+' = false from rfl] at h
  · rfl

theorem Reads.shows (h : Reads cs q) : Shows cs false q :=
  ⟨cs, h.takeSign_eq, h⟩

theorem Reads.shows_neg (h : Reads cs q) : Shows ('-' :: cs) true q :=
  ⟨cs, rfl, h⟩

section Reading

variable (digits : ∀ c ∈ whole, c.isDigit) (hne : whole ≠ [])
include digits hne

/-- A decimal without a fraction, up to what is no digit and no point. -/
theorem decimal?_whole (htail : ∀ c ∈ tail.head?, ¬ c.isDigit ∧ c ≠ '.') :
    decimal? (whole ++ tail) =
      (exponent? tail).map fun e : Int => (Nat.ofDigitChars 10 whole 0, e) := by
  unfold decimal?
  rw [List.takeWhile_append_of_pos digits, List.dropWhile_append_of_pos digits]
  cases tail with
  | nil => simp [hne]
  | cons c rest =>
    obtain ⟨hc, hpoint⟩ := htail c rfl
    simp [hc, hpoint, hne]

/-- A decimal with a fraction, up to what is no digit. -/
theorem decimal?_point (digits' : ∀ c ∈ fraction, c.isDigit)
    (htail : ∀ c ∈ tail.head?, ¬ c.isDigit) :
    decimal? (whole ++ '.' :: (fraction ++ tail)) =
      (exponent? tail).map fun e : Int =>
        (Nat.ofDigitChars 10 (whole ++ fraction) 0, e - fraction.length) := by
  have hfraction : (fraction ++ tail).takeWhile Char.isDigit = fraction :=
    takeWhile_run digits' (by simpa using htail)
  unfold decimal?
  rw [List.takeWhile_append_of_pos digits, List.dropWhile_append_of_pos digits]
  simp [show Char.isDigit '.' = false from rfl, hfraction, hne]

theorem reads_whole (tail : List Char) {e : Int} (htail : ∀ c ∈ tail.head?, ¬ c.isDigit ∧ c ≠ '.')
    (he : exponent? tail = some e) :
    Reads (whole ++ tail) (Nat.ofDigitChars 10 whole 0 * 10 ^ e) :=
  ⟨_, _, by rw [decimal?_whole digits hne htail, he]; rfl, rfl⟩

theorem reads_point (tail : List Char) {e : Int} (digits' : ∀ c ∈ fraction, c.isDigit)
    (htail : ∀ c ∈ tail.head?, ¬ c.isDigit) (he : exponent? tail = some e) :
    Reads (whole ++ '.' :: (fraction ++ tail))
      (Nat.ofDigitChars 10 (whole ++ fraction) 0 * 10 ^ (e - fraction.length)) :=
  ⟨_, _, by rw [decimal?_point digits hne digits' htail, he]; rfl, rfl⟩

theorem reads_whole_end : Reads whole (Nat.ofDigitChars 10 whole 0) := by
  simpa using reads_whole digits hne [] (e := 0) (by simp) rfl

theorem reads_point_end (digits' : ∀ c ∈ fraction, c.isDigit) :
    Reads (whole ++ '.' :: fraction)
      (Nat.ofDigitChars 10 (whole ++ fraction) 0 * 10 ^ (-(fraction.length : ℤ))) := by
  simpa using reads_point digits hne [] (e := 0) digits' (by simp) rfl

end Reading

theorem ofDigitChars_append_zeros (cs : List Char) (k : Nat) :
    Nat.ofDigitChars 10 (cs ++ List.replicate k '0') 0 = Nat.ofDigitChars 10 cs 0 * 10 ^ k := by
  rw [Nat.ofDigitChars_append, Nat.ofDigitChars_replicate_zero, Nat.mul_comm]

theorem ofDigitChars_zeros_append (k : Nat) (cs : List Char) :
    Nat.ofDigitChars 10 (List.replicate k '0' ++ cs) 0 = Nat.ofDigitChars 10 cs 0 := by
  rw [Nat.ofDigitChars_append, Nat.ofDigitChars_replicate_zero, Nat.mul_zero]

theorem reads_toDigits (n : Nat) : Reads (Nat.toDigits 10 n) n := by
  have digits : ∀ c ∈ Nat.toDigits 10 n, c.isDigit := fun _ =>
    Nat.isDigit_of_mem_toDigits (by decide) (by decide)
  simpa [Nat.ofDigitChars_ten_toDigits] using reads_whole_end digits Nat.toDigits_ne_nil

theorem toString_int_toList (n : Int) :
    (toString n).toList =
      if n < 0 then '-' :: Nat.toDigits 10 n.natAbs else Nat.toDigits 10 n.natAbs := by
  cases n with
  | ofNat k =>
    rw [show toString (Int.ofNat k) = toString k from rfl, Nat.toString_eq_ofList_toDigits,
      String.toList_ofList,
      if_neg (show ¬ Int.ofNat k < 0 from Int.not_lt.mpr (Int.natCast_nonneg k))]
    rfl
  | negSucc k =>
    rw [show toString (Int.negSucc k) = "-" ++ toString (k + 1) from rfl,
      Nat.toString_eq_ofList_toDigits, String.toList_append, if_pos (Int.negSucc_lt_zero k)]
    simp

/-- The text of an integer stands for its size under its sign. -/
theorem shows_int (n : Int) : Shows (toString n).toList (decide (n < 0)) n.natAbs := by
  rw [toString_int_toList]
  split
  · rename_i h
    rw [decide_eq_true h]
    exact (reads_toDigits _).shows_neg
  · rename_i h
    rw [decide_eq_false h]
    exact (reads_toDigits _).shows

theorem toString_int_inj {n m : Int} (h : toString n = toString m) : n = m := by
  have hn := shows_int n
  rw [h] at hn
  obtain ⟨hsign, hsize⟩ := hn.unique (shows_int m)
  have hsize : n.natAbs = m.natAbs := Nat.cast_injective hsize
  have hsign : n < 0 ↔ m < 0 := by simpa using hsign
  omega

end Numeral

namespace DecimalLayout

open Numeral (Reads Shows)

variable (layout : DecimalLayout) {digits : List Char}

theorem exponent?_scientific (width : Nat) (e : Int) :
    Numeral.exponent? ('e' :: (if e < 0 then '-' else '+') ::
      padLeft width (Nat.toDigits 10 e.natAbs)) = some e := by
  have hdigits : (padLeft width (Nat.toDigits 10 e.natAbs)).all Char.isDigit = true := by
    rw [List.all_eq_true]
    intro c hc
    rcases List.mem_append.mp hc with h | h
    · rw [List.eq_of_mem_replicate h]
      rfl
    · exact Nat.isDigit_of_mem_toDigits (by decide) (by decide) h
  have hne : (padLeft width (Nat.toDigits 10 e.natAbs)).isEmpty = false := by
    simp [padLeft, Nat.toDigits_ne_nil]
  have hvalue : Nat.ofDigitChars 10 (padLeft width (Nat.toDigits 10 e.natAbs)) 0 = e.natAbs := by
    rw [padLeft, Numeral.ofDigitChars_zeros_append, Nat.ofDigitChars_ten_toDigits]
  by_cases he : e < 0
  · simp [Numeral.exponent?, Numeral.takeSign, he, hdigits, hne, hvalue, abs_of_neg he]
  · simp [Numeral.exponent?, Numeral.takeSign, he, hdigits, hne, hvalue,
      abs_of_nonneg (Int.not_lt.mp he)]

/-- The number `0.digits * 10 ^ point`. -/
def placed (digits : List Char) (point : Int) : ℚ :=
  Nat.ofDigitChars 10 digits 0 * 10 ^ (point - digits.length)

theorem isDigit_of_mem_zeros {k : Nat} : ∀ c ∈ List.replicate k '0', c.isDigit := fun c hc => by
  rw [List.eq_of_mem_replicate hc]
  rfl

section Placed

variable (hdigits : ∀ c ∈ digits, c.isDigit)
include hdigits

theorem reads_belowOne (k : Nat) :
    Reads ('0' :: '.' :: (List.replicate k '0' ++ digits)) (placed digits (-k)) := by
  have hfraction : ∀ c ∈ List.replicate k '0' ++ digits, c.isDigit := fun c hc =>
    (List.mem_append.mp hc).elim (isDigit_of_mem_zeros c) (hdigits c)
  have h := Numeral.reads_point_end (isDigit_of_mem_zeros (k := 1)) (by simp) hfraction
  have hvalue : Nat.ofDigitChars 10 (List.replicate 1 '0' ++ (List.replicate k '0' ++ digits)) 0 =
      Nat.ofDigitChars 10 digits 0 := by
    rw [← List.append_assoc, List.replicate_append_replicate, Numeral.ofDigitChars_zeros_append]
  rw [hvalue] at h
  convert h using 1
  · rfl
  · rw [placed]
    congr 2
    simp
    omega

variable (hne : digits ≠ [])
include hne

theorem reads_whole (k : Nat) (keepsFraction : Bool) :
    Reads (digits ++ List.replicate k '0' ++ if keepsFraction then ['.', '0'] else [])
      (placed digits (digits.length + k)) := by
  have hall : ∀ c ∈ digits ++ List.replicate k '0', c.isDigit := fun c hc =>
    (List.mem_append.mp hc).elim (hdigits c) (isDigit_of_mem_zeros c)
  have hne : digits ++ List.replicate k '0' ≠ [] := by simp [hne]
  have hplaced : placed digits (digits.length + k) =
      Nat.ofDigitChars 10 (digits ++ List.replicate k '0') 0 := by
    rw [placed, Numeral.ofDigitChars_append_zeros]
    simp
  rw [hplaced]
  cases keepsFraction with
  | false =>
    simpa using Numeral.reads_whole_end hall hne
  | true =>
    have h := Numeral.reads_point_end hall hne (isDigit_of_mem_zeros (k := 1))
    rw [Numeral.ofDigitChars_append_zeros] at h
    simpa using h

theorem reads_split {k : Nat} (hk : 0 < k) (hle : k ≤ digits.length) :
    Reads (digits.take k ++ '.' :: digits.drop k) (placed digits k) := by
  have hwhole : ∀ c ∈ digits.take k, c.isDigit := fun c hc => hdigits c (List.mem_of_mem_take hc)
  have hfraction : ∀ c ∈ digits.drop k, c.isDigit := fun c hc => hdigits c (List.mem_of_mem_drop hc)
  have h := Numeral.reads_point_end hwhole (by simp [hne, hk.ne']) hfraction
  rw [List.take_append_drop] at h
  convert h using 1
  rw [placed, List.length_drop]
  congr 2
  omega

theorem reads_scientific (width : Nat) (e : Int) :
    Reads (digits.take 1 ++ (if (digits.drop 1).isEmpty then [] else '.' :: digits.drop 1) ++
      'e' :: (if e < 0 then '-' else '+') :: padLeft width (Nat.toDigits 10 e.natAbs))
      (placed digits (e + 1)) := by
  have he := exponent?_scientific width e
  have hwhole : ∀ c ∈ digits.take 1, c.isDigit := fun c hc => hdigits c (List.mem_of_mem_take hc)
  cases hrest : digits.drop 1 with
  | nil =>
    have hlen : digits.length = 1 := by
      have := List.length_pos_iff.mpr hne
      have := congrArg List.length hrest
      simp only [List.length_drop, List.length_nil] at this
      omega
    have h := Numeral.reads_whole hwhole (by simp [hne]) _ (by simp) he
    rw [List.take_of_length_le hlen.le] at h ⊢
    simpa [placed, hlen] using h
  | cons c rest =>
    have hfraction : ∀ d ∈ c :: rest, d.isDigit := fun d hd =>
      hdigits d (List.mem_of_mem_drop (hrest ▸ hd))
    have h := Numeral.reads_point hwhole (by simp [hne]) _ hfraction (by simp) he
    have hsplit : digits.take 1 ++ c :: rest = digits := by rw [← hrest, List.take_append_drop]
    have hlen : digits.length = (c :: rest).length + 1 := by
      rw [← hrest, List.length_drop]
      have := List.length_pos_iff.mpr hne
      omega
    rw [hsplit] at h
    convert h using 1
    · simp
    · rw [placed]
      congr 2
      omega

/-- The text of `0.digits * 10 ^ point` stands for that number. -/
theorem place_reads (point : Int) : Reads (layout.place digits point) (placed digits point) := by
  unfold place
  simp only
  split
  · split
    · rename_i hpoint
      have h := reads_belowOne hdigits (-point).toNat
      rwa [show (-((-point).toNat : Int)) = point by omega] at h
    · split
      · rename_i hpoint hlen
        have h := reads_whole hdigits hne (point.toNat - digits.length) layout.keepsFraction
        rwa [show (digits.length : Int) + (point.toNat - digits.length : Nat) = point by omega] at h
      · rename_i hpoint hlen
        have h := reads_split hdigits hne (k := point.toNat) (by omega) (by omega)
        rwa [show (point.toNat : Int) = point by omega] at h
  · have h := reads_scientific hdigits hne layout.exponentDigits (point - 1)
    rwa [Int.sub_add_cancel] at h

end Placed

/-- Trailing zeros do not count as digits, but for the place of the point they do. -/
theorem dropTrailingZeros_append (digits : List Char) :
    ∃ k, digits = dropTrailingZeros digits ++ List.replicate k '0' := by
  refine ⟨(digits.reverse.takeWhile (· == '0')).length, ?_⟩
  have hzeros : digits.reverse.takeWhile (· == '0') =
      List.replicate (digits.reverse.takeWhile (· == '0')).length '0' :=
    List.eq_replicate_iff.mpr ⟨rfl, fun c hc => by
      simpa using List.all_eq_true.mp List.all_takeWhile c hc⟩
  have h := congrArg List.reverse (List.takeWhile_append_dropWhile (p := (· == '0'))
    (l := digits.reverse))
  rw [List.reverse_append, List.reverse_reverse, hzeros, List.reverse_replicate] at h
  exact h.symm

theorem placed_dropTrailingZeros (digits : List Char) (point : Int) :
    placed (dropTrailingZeros digits) point = placed digits point := by
  obtain ⟨k, hk⟩ := dropTrailingZeros_append digits
  rw [placed, placed]
  conv_rhs => rw [hk, Numeral.ofDigitChars_append_zeros, List.length_append, List.length_replicate]
  rw [Nat.cast_mul, mul_assoc]
  congr 1
  rw [Nat.cast_pow, Nat.cast_ofNat, ← zpow_natCast, ← zpow_add₀ (by norm_num)]
  congr 1
  push_cast
  ring

variable (neg : Bool) {m e : Nat} (fits : Binary64.Fits m e)

/-- The digits of a finite double without its sign. -/
theorem text_body : ∃ (body : List Char) (q : ℚ),
    layout.text (.finite neg m e fits) = String.ofList
      (if neg && (layout.signedZero || decide (m ≠ 0)) then '-' :: body else body) ∧
    Reads body q ∧ (Binary64.finite neg m e fits).InReach (q * Binary64.one) := by
  by_cases hm : m = 0
  · subst hm
    refine ⟨'0' :: (if layout.keepsFraction then ['.', '0'] else []), 0, ?_, ?_, ?_⟩
    · simp [text, Binary64.isZero]
    · have h := reads_whole (isDigit_of_mem_zeros (k := 1)) (by simp) 0 layout.keepsFraction
      simpa [placed, show Nat.ofDigitChars 10 ['0'] 0 = 0 from rfl] using h
    · have h := Binary64.inReach_magnitude neg fits
      rw [Binary64.magnitude, Nat.zero_mul, Nat.cast_zero] at h
      rwa [zero_mul]
  · obtain ⟨c, s, hs, hc, hreach⟩ := Binary64.shortest_inReach neg fits hm
    have hdigits : ∀ d ∈ dropTrailingZeros (Nat.toDigits 10 c), d.isDigit := fun d hd => by
      obtain ⟨k, hk⟩ := dropTrailingZeros_append (Nat.toDigits 10 c)
      refine Nat.isDigit_of_mem_toDigits (b := 10) (n := c) (by decide) (by decide) ?_
      rw [hk]
      exact List.mem_append_left _ hd
    have hne : dropTrailingZeros (Nat.toDigits 10 c) ≠ [] := fun h => by
      obtain ⟨k, hk⟩ := dropTrailingZeros_append (Nat.toDigits 10 c)
      rw [h] at hk
      have := Nat.ofDigitChars_ten_toDigits (n := c)
      rw [hk, Numeral.ofDigitChars_append_zeros, Nat.ofDigitChars_nil, Nat.zero_mul] at this
      exact hc this.symm
    refine ⟨layout.place (dropTrailingZeros (Nat.toDigits 10 c)) ((Nat.toDigits 10 c).length + s),
      c * 10 ^ s, ?_, ?_, hreach⟩
    · simp [text, Binary64.isZero, hm, hs]
    · have h := place_reads layout hdigits hne ((Nat.toDigits 10 c).length + s)
      rw [placed_dropTrailingZeros, placed, Nat.ofDigitChars_ten_toDigits] at h
      simpa using h

/-- The text of a finite double stands for a number that rounds to the double. -/
theorem text_shows : ∃ q : ℚ,
    Shows (layout.text (.finite neg m e fits)).toList
      (neg && (layout.signedZero || decide (m ≠ 0))) q ∧
    (Binary64.finite neg m e fits).InReach (q * Binary64.one) := by
  obtain ⟨body, q, htext, hreads, hreach⟩ := text_body layout neg fits
  refine ⟨q, ?_, hreach⟩
  rw [htext, String.toList_ofList]
  cases neg && (layout.signedZero || decide (m ≠ 0)) with
  | false => exact hreads.shows
  | true => exact hreads.shows_neg

variable {x y : Binary64}

/-- A text names one double only, but for zeros where they have no sign. -/
theorem text_inj (hx : x.isFinite = true) (hy : y.isFinite = true)
    (h : layout.text x = layout.text y) :
    x = y ∨ layout.signedZero = false ∧ x.isZero = true ∧ y.isZero = true := by
  cases x with
  | nan | infinite => cases hx
  | finite neg m e fits =>
    cases y with
    | nan | infinite => cases hy
    | finite neg' m' e' fits' =>
      obtain ⟨q, hq, reach⟩ := text_shows layout neg fits
      obtain ⟨q', hq', reach'⟩ := text_shows layout neg' fits'
      rw [← h] at hq'
      obtain ⟨hsign, rfl⟩ := hq.unique hq'
      have hmag := reach.magnitude_unique reach'
      obtain ⟨rfl, rfl⟩ := Binary64.fits_unique fits fits' hmag
      by_cases hm : m = 0 ∧ layout.signedZero = false
      · exact .inr ⟨hm.2, beq_iff_eq.mpr hm.1, beq_iff_eq.mpr hm.1⟩
      · have signed : (layout.signedZero || decide (m ≠ 0)) = true := by
          rcases not_and_or.mp hm with h | h
          · rw [decide_eq_true h, Bool.or_true]
          · rw [Bool.eq_true_of_not_eq_false h, Bool.true_or]
        rw [signed, Bool.and_true, Bool.and_true] at hsign
        rw [hsign]
        exact .inl rfl

end DecimalLayout

namespace Binary64

theorem toInt?_of_units {x : Binary64} {n : Int} (hx : x.isFinite = true)
    (hunits : x.units = n * (one : Int)) : x.toInt? = some n := by
  have hone : (one : Int) ≠ 0 := Int.natCast_ne_zero.mpr one_pos.ne'
  have hmag : x.magnitude = n.natAbs * one := by
    rw [← natAbs_units, hunits, Int.natAbs_mul, Int.natAbs_natCast]
  cases x with
  | nan | infinite => cases hx
  | finite neg m e fits =>
    rw [toInt?, hmag, Nat.mul_mod_left, if_pos rfl, hunits, Int.mul_ediv_cancel _ hone]

theorem toInt?_of_magnitude {x : Binary64} {n : Int} (hx : x.isFinite = true)
    (hmag : x.magnitude = n.natAbs * one) (hsign : x.isNegative = decide (n < 0) ∨ n = 0) :
    x.toInt? = some n :=
  toInt?_of_units hx (units_of_magnitude hmag hsign)

end Binary64

namespace DecimalLayout

variable (layout : DecimalLayout) {x : Binary64}

/-- A double whose text is that of a whole number is that number. -/
theorem toInt?_of_text_eq {n : Int} (hx : x.isFinite = true) (hn : n.natAbs < 2 ^ 53)
    (h : layout.text x = toString n) : x.toInt? = some n := by
  cases x with
  | nan | infinite => cases hx
  | finite neg m e fits =>
    obtain ⟨q, hq, reach⟩ := text_shows layout neg fits
    rw [h] at hq
    obtain ⟨hsign, rfl⟩ := hq.unique (Numeral.shows_int n)
    have hwhole := Binary64.magnitude_ofInt hn
    have reach' := Binary64.inReach_self (Binary64.isFinite_ofInt hn)
    rw [hwhole, Nat.cast_mul] at reach'
    have hmag := (reach.magnitude_unique reach').trans hwhole
    refine Binary64.toInt?_of_magnitude rfl hmag ?_
    cases neg with
    | false => exact .inl hsign
    | true =>
      by_cases hneg : n < 0
      · exact .inl (decide_eq_true hneg).symm
      · -- the sign of a zero may be left out
        rw [decide_eq_false hneg, Bool.true_and, Bool.or_eq_false_iff, decide_eq_false_iff_not,
          not_not] at hsign
        rw [Binary64.magnitude, hsign.2, Nat.zero_mul] at hmag
        exact .inr (Int.natAbs_eq_zero.mp
          ((Nat.mul_eq_zero.mp hmag.symm).resolve_right Binary64.one_pos.ne'))

end DecimalLayout

/-- The characters of numbers and of the words for truth values and the like. -/
def isNumberChar (c : Char) : Bool :=
  c.isAlphanum || c == '.' || c == '+' || c == '-'

theorem isNumberChar_of_isDigit {c : Char} (h : c.isDigit) : isNumberChar c := by
  simp [isNumberChar, Char.isAlphanum, h]

theorem all_isNumberChar_toDigits (n : Nat) : (Nat.toDigits 10 n).all isNumberChar = true :=
  List.all_eq_true.mpr fun _ hc =>
    isNumberChar_of_isDigit (Nat.isDigit_of_mem_toDigits (by decide) (by decide) hc)

theorem all_isNumberChar_int (n : Int) : (toString n).toList.all isNumberChar = true := by
  have hminus : isNumberChar '-' = true := rfl
  rw [Numeral.toString_int_toList]
  split <;> simp [-List.all_eq_true, hminus, all_isNumberChar_toDigits]

namespace DecimalLayout

variable (layout : DecimalLayout) {digits : List Char}

theorem all_isNumberChar_place (hdigits : digits.all isNumberChar = true) (point : Int) :
    (layout.place digits point).all isNumberChar = true := by
  have htake (k : Nat) : (digits.take k).all isNumberChar = true :=
    List.all_eq_true.mpr fun c hc => List.all_eq_true.mp hdigits c (List.mem_of_mem_take hc)
  have hdrop (k : Nat) : (digits.drop k).all isNumberChar = true :=
    List.all_eq_true.mpr fun c hc => List.all_eq_true.mp hdigits c (List.mem_of_mem_drop hc)
  have hzeros (k : Nat) : (List.replicate k '0').all isNumberChar = true :=
    List.all_eq_true.mpr fun c hc => by rw [List.eq_of_mem_replicate hc]; rfl
  have hpoint : isNumberChar '.' = true := rfl
  have hzero : isNumberChar '0' = true := rfl
  have hmark : isNumberChar 'e' = true := rfl
  have hplus : isNumberChar '+' = true := rfl
  have hminus : isNumberChar '-' = true := rfl
  unfold place padLeft
  simp only
  split_ifs <;> simp only [List.all_append, List.all_cons, List.all_nil, hdigits, htake, hdrop,
    hzeros, hpoint, hzero, hmark, hplus, hminus, all_isNumberChar_toDigits, Bool.and_self]

theorem all_isNumberChar_text (hnan : layout.nan.toList.all isNumberChar = true)
    (hinf : layout.infinity.toList.all isNumberChar = true) (x : Binary64) :
    (layout.text x).toList.all isNumberChar = true := by
  have hminus : isNumberChar '-' = true := rfl
  cases x with
  | nan => exact hnan
  | infinite negative => cases negative <;> simp_all [text, -List.all_eq_true]
  | finite neg m e fits =>
    have hdigits (n : Nat) : (dropTrailingZeros (Nat.toDigits 10 n)).all isNumberChar = true := by
      obtain ⟨k, hk⟩ := dropTrailingZeros_append (Nat.toDigits 10 n)
      have := all_isNumberChar_toDigits n
      rw [hk, List.all_append, Bool.and_eq_true] at this
      exact this.1
    have hplace := fun n => layout.all_isNumberChar_place (hdigits n)
    have hzero : isNumberChar '0' = true := rfl
    have hpoint : isNumberChar '.' = true := rfl
    simp only [text, String.toList_ofList]
    split_ifs <;> simp only [List.all_cons, List.all_nil, hplace, hminus, hzero, hpoint,
      Bool.and_self]

theorem place_of_keepsFraction (digits : List Char) (keeps : layout.keepsFraction = true)
    (point : Int) :
    '.' ∈ layout.place digits point ∨ 'e' ∈ layout.place digits point := by
  unfold place
  simp only [keeps]
  split_ifs <;> simp

/-- A text that keeps the fraction of whole numbers is not that of an integer. -/
theorem text_ne_int (keeps : layout.keepsFraction = true) {x : Binary64} (hx : x.isFinite = true)
    (n : Int) : layout.text x ≠ toString n := by
  intro h
  have hmark : '.' ∈ (layout.text x).toList ∨ 'e' ∈ (layout.text x).toList := by
    cases x with
    | nan | infinite => cases hx
    | finite neg m e fits =>
      have hplace (n : Nat) :=
        layout.place_of_keepsFraction (dropTrailingZeros (Nat.toDigits 10 n)) keeps
      simp only [text, keeps, String.toList_ofList]
      split_ifs <;> simp [hplace]
  have hint (c : Char) (hc : c ∈ (toString n).toList) : c = '-' ∨ c.isDigit := by
    rw [Numeral.toString_int_toList] at hc
    have hdigits := fun h => Nat.isDigit_of_mem_toDigits (c := c) (n := n.natAbs)
      (b := 10) (by decide) (by decide) h
    split at hc
    · exact (List.mem_cons.mp hc).imp_right hdigits
    · exact .inr (hdigits hc)
  rw [h] at hmark
  rcases hmark with hmark | hmark
  · rcases hint _ hmark with h | h <;> cases h
  · rcases hint _ hmark with h | h <;> cases h

end DecimalLayout

end GridRules
