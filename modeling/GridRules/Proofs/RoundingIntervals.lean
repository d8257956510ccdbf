import GridRules.Number.Shortest
import Mathlib.Tactic.Linarith
import Mathlib.Tactic.Ring
import Mathlib.Data.Nat.Cast.Order.Field
import Mathlib.Algebra.Order.Field.Rat

namespace GridRules

namespace Binary64

/-- The quarter of a unit where the interval that rounds to a double begins. -/
def reachLow (x : Binary64) : Nat :=
  4 * x.magnitude - x.reachBelow

/-- The quarter of a unit where the interval that rounds to a double ends. -/
def reachHigh (x : Binary64) : Nat :=
  4 * x.magnitude + x.reachAbove

/-- A size in units rounds to a double; the ends of the interval do if the significand is even. -/
def InReach (x : Binary64) (q : ℚ) : Prop :=
  ((x.reachLow : ℚ) < 4 * q ∨ x.evenSignificand = true ∧ (x.reachLow : ℚ) = 4 * q) ∧
    (4 * q < x.reachHigh ∨ x.evenSignificand = true ∧ 4 * q = x.reachHigh)

theorem roundsFrom_iff (x : Binary64) (n : Nat) {d : Nat} (hd : 0 < d) :
    x.roundsFrom n d = true ↔ x.InReach ((n : ℚ) / d) := by
  have hq : (0 : ℚ) < d := Nat.cast_pos.mpr hd
  have scaled : 4 * ((n : ℚ) / d) = (4 * n : ℚ) / d := by ring
  have low_lt : (x.reachLow : ℚ) < 4 * ((n : ℚ) / d) ↔ x.reachLow * d < 4 * n := by
    rw [scaled, lt_div_iff₀ hq]
    exact_mod_cast Iff.rfl
  have low_eq : (x.reachLow : ℚ) = 4 * ((n : ℚ) / d) ↔ x.reachLow * d = 4 * n := by
    rw [scaled, eq_div_iff hq.ne']
    exact_mod_cast Iff.rfl
  have lt_high : 4 * ((n : ℚ) / d) < x.reachHigh ↔ 4 * n < x.reachHigh * d := by
    rw [scaled, div_lt_iff₀ hq]
    exact_mod_cast Iff.rfl
  have eq_high : 4 * ((n : ℚ) / d) = x.reachHigh ↔ 4 * n = x.reachHigh * d := by
    rw [scaled, div_eq_iff hq.ne']
    exact_mod_cast Iff.rfl
  rw [InReach, low_lt, low_eq, lt_high, eq_high]
  cases he : x.evenSignificand with
  | false => simp [roundsFrom, he, reachLow, reachHigh]
  | true => simp [roundsFrom, he, reachLow, reachHigh, le_iff_lt_or_eq]

section Gaps

variable {m e m' e' : Nat}

theorem pow_split (h : e < e') : ∃ k, 2 ^ e' = 2 ^ e * (2 * 2 ^ k) := by
  obtain ⟨k, rfl⟩ := Nat.exists_eq_add_of_lt h
  exact ⟨k, by ring⟩

/-- A double is below the power of two at which any greater exponent begins. -/
theorem lt_of_lt_exponent (fits : Fits m e) (h : e < e') : m * 2 ^ e < 2 ^ 52 * 2 ^ e' := by
  obtain ⟨k, hk⟩ := pow_split h
  calc m * 2 ^ e < 2 ^ 53 * 2 ^ e := Nat.mul_lt_mul_of_pos_right fits.1 (by positivity)
    _ = 2 ^ 52 * (2 ^ e * (2 * 1)) := by ring
    _ ≤ 2 ^ 52 * (2 ^ e * (2 * 2 ^ k)) := by
      have : 1 ≤ 2 ^ k := Nat.one_le_two_pow
      gcongr
    _ = 2 ^ 52 * 2 ^ e' := by rw [hk]

/-- A double with a greater exponent is greater. -/
theorem lt_of_exponent_lt (fits : Fits m e) (fits' : Fits m' e') (h : e < e') :
    m * 2 ^ e < m' * 2 ^ e' := by
  have hm' : 2 ^ 52 ≤ m' := fits'.2.2.resolve_right (by omega)
  exact (lt_of_lt_exponent fits h).trans_le (Nat.mul_le_mul_right _ hm')

theorem fits_unique (fits : Fits m e) (fits' : Fits m' e') (h : m * 2 ^ e = m' * 2 ^ e') :
    m = m' ∧ e = e' := by
  rcases lt_trichotomy e e' with he | rfl | he
  · exact absurd h (lt_of_exponent_lt fits fits' he).ne
  · exact ⟨Nat.eq_of_mul_eq_mul_right (by positivity) h, rfl⟩
  · exact absurd h (lt_of_exponent_lt fits' fits he).ne'

variable (neg neg' : Bool)

theorem reachHigh_finite (fits : Fits m e) :
    (finite neg m e fits).reachHigh = (4 * m + 2) * 2 ^ e := by
  simp only [reachHigh, magnitude, reachAbove, Nat.pow_eq]
  ring

theorem reachLow_finite (fits : Fits m e) :
    (finite neg m e fits).reachLow =
      (4 * m - if m = 2 ^ 52 ∧ e ≠ 0 then 1 else 2) * 2 ^ e := by
  simp only [reachLow, magnitude, reachBelow, Nat.pow_eq, Nat.sub_mul]
  split <;> simp [Nat.mul_assoc]

theorem inReach_magnitude (fits : Fits m e) :
    (finite neg m e fits).InReach ((finite neg m e fits).magnitude : Nat) := by
  have hp : 0 < 2 ^ e := by positivity
  have hmag : 4 * (finite neg m e fits).magnitude = 4 * m * 2 ^ e := by
    simp only [magnitude, Nat.pow_eq, Nat.mul_assoc]
  constructor
  · rcases Nat.eq_zero_or_pos m with rfl | hm
    · right
      simp [evenSignificand, reachLow_finite, magnitude]
    · left
      have : (finite neg m e fits).reachLow < 4 * (finite neg m e fits).magnitude := by
        rw [reachLow_finite, hmag]
        exact Nat.mul_lt_mul_of_pos_right (by split <;> omega) hp
      exact_mod_cast this
  · left
    have : 4 * (finite neg m e fits).magnitude < (finite neg m e fits).reachHigh := by
      rw [reachHigh_finite, hmag]
      exact Nat.mul_lt_mul_of_pos_right (by omega) hp
    exact_mod_cast this

/-- A double rounds to itself. -/
theorem inReach_self {x : Binary64} (h : x.isFinite = true) : x.InReach (x.magnitude : Nat) := by
  cases x with
  | nan | infinite => cases h
  | finite neg m e fits => exact inReach_magnitude neg fits

/-- What rounds to a double lies below what rounds to a greater one; the intervals share an end only
if one of the significands is odd. -/
theorem reachHigh_le_reachLow (fits : Fits m e) (fits' : Fits m' e')
    (h : m * 2 ^ e < m' * 2 ^ e') :
    (finite neg m e fits).reachHigh ≤ (finite neg' m' e' fits').reachLow ∧
      (m % 2 = 0 → m' % 2 = 0 →
        (finite neg m e fits).reachHigh < (finite neg' m' e' fits').reachLow) := by
  have hp : 0 < 2 ^ e := by positivity
  have hm : m < 2 ^ 53 := fits.1
  rw [reachHigh_finite, reachLow_finite]
  rcases lt_trichotomy e e' with he | rfl | he
  · -- the greater double is not below the power of two at which its exponent begins
    have hm' : 2 ^ 52 ≤ m' := fits'.2.2.resolve_right (by omega)
    obtain ⟨k, hk⟩ := pow_split he
    have hk1 : 1 ≤ 2 ^ k := Nat.one_le_two_pow
    have low : (8 * 2 ^ 52 - 2) * 2 ^ e ≤
        (4 * m' - if m' = 2 ^ 52 ∧ e' ≠ 0 then 1 else 2) * 2 ^ e' := by
      calc (8 * 2 ^ 52 - 2) * 2 ^ e = (4 * 2 ^ 52 - 1) * (2 ^ e * (2 * 1)) := by ring
        _ ≤ (4 * 2 ^ 52 - 1) * (2 ^ e * (2 * 2 ^ k)) := by gcongr
        _ = (4 * 2 ^ 52 - 1) * 2 ^ e' := by rw [hk]
        _ ≤ _ := Nat.mul_le_mul_right _ (by split <;> omega)
    constructor
    · exact (Nat.mul_le_mul_right _ (by omega)).trans low
    · intro hm2 _
      exact (Nat.mul_lt_mul_of_pos_right (by omega) hp).trans_le low
  · -- with one exponent the significands are apart by one at least
    have hlt : m < m' := Nat.lt_of_mul_lt_mul_right h
    have low : ¬ (m' = 2 ^ 52 ∧ e ≠ 0) := fun hc => by
      have := fits.2.2
      simp only [Nat.pow_eq] at this
      omega
    rw [if_neg low]
    constructor
    · exact Nat.mul_le_mul_right _ (by omega)
    · intro hm2 hm2'
      exact Nat.mul_lt_mul_of_pos_right (by omega) hp
  · exact absurd h (lt_of_exponent_lt fits' fits he).not_gt

end Gaps

section Unique

variable {x y : Binary64} {q : ℚ}

theorem InReach.exists_finite (h : x.InReach q) :
    ∃ neg m e fits, x = .finite neg m e fits := by
  cases x with
  | nan =>
    obtain ⟨hl, hh⟩ := h
    simp [reachLow, reachHigh, magnitude, reachAbove, reachBelow, evenSignificand] at hl hh
    linarith
  | infinite neg =>
    obtain ⟨hl, hh⟩ := h
    simp [reachLow, reachHigh, magnitude, reachAbove, reachBelow, evenSignificand] at hl hh
    linarith
  | finite neg m e fits => exact ⟨neg, m, e, fits, rfl⟩

theorem not_inReach_of_magnitude_lt (hx : x.InReach q) (h : x.magnitude < y.magnitude) :
    ¬ y.InReach q := by
  intro hy
  obtain ⟨neg, m, e, fits, rfl⟩ := hx.exists_finite
  obtain ⟨neg', m', e', fits', rfl⟩ := hy.exists_finite
  obtain ⟨hle, hlt⟩ := reachHigh_le_reachLow neg neg' fits fits' h
  have hle' : ((finite neg m e fits).reachHigh : ℚ) ≤ (finite neg' m' e' fits').reachLow := by
    exact_mod_cast hle
  rcases hx.2 with hx | ⟨heven, hx⟩ <;> rcases hy.1 with hy | ⟨heven', hy⟩
  · linarith
  · linarith
  · linarith
  · have := hlt (by simpa [evenSignificand] using heven) (by simpa [evenSignificand] using heven')
    have : ((finite neg m e fits).reachHigh : ℚ) < (finite neg' m' e' fits').reachLow := by
      exact_mod_cast this
    linarith

/-- A size rounds to one double only, signs aside. -/
theorem InReach.magnitude_unique (hx : x.InReach q) (hy : y.InReach q) :
    x.magnitude = y.magnitude := by
  rcases lt_trichotomy x.magnitude y.magnitude with h | h | h
  · exact absurd hy (not_inReach_of_magnitude_lt hx h)
  · exact h
  · exact absurd hx (not_inReach_of_magnitude_lt hy h)

end Unique

end Binary64

end GridRules
