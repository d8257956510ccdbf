import GridRules.Number.Basic
import GridRules.Proofs.ShortestDecimals
/-!
Rounding of exact sizes to doubles: which sizes stay finite, which are kept, and that rounding keeps
to the order. A double that is below a rounded sum is therefore below the sum itself.
-/

namespace GridRules

namespace Binary64

theorem le_nearestQuotient (n d : Nat) : n / d ≤ nearestQuotient n d := by
  rcases nearestQuotient_eq_or n d with h | h <;> omega

theorem nearestQuotient_le (n d : Nat) : nearestQuotient n d ≤ n / d + 1 := by
  rcases nearestQuotient_eq_or n d with h | h <;> omega

/-- Rounding to whole numbers keeps to the order. -/
theorem nearestQuotient_mono {n n' : Nat} (d : Nat) (h : n ≤ n') :
    nearestQuotient n d ≤ nearestQuotient n' d := by
  rcases (Nat.div_le_div_right (c := d) h).lt_or_eq with hlt | heq
  · exact (nearestQuotient_le n d).trans ((Nat.succ_le_of_lt hlt).trans (le_nearestQuotient n' d))
  · have hn := Nat.div_add_mod n d
    have hn' := Nat.div_add_mod n' d
    rw [heq] at hn
    have hrest : n % d ≤ n' % d := by omega
    unfold nearestQuotient
    simp only [heq]
    split <;> split <;> omega

/-- What is not above a whole number is not rounded beyond it. -/
theorem nearestQuotient_le_of_le {n d k : Nat} (hd : 0 < d) (h : n ≤ k * d) :
    nearestQuotient n d ≤ k := by
  have hdiv := Nat.div_add_mod n d
  have hmod := Nat.mod_lt n hd
  rcases Nat.lt_or_ge (n / d) k with hlt | hge
  · exact (nearestQuotient_le n d).trans hlt
  · -- then it is that number, and nothing is left to be rounded
    have hk : d * k ≤ d * (n / d) := Nat.mul_le_mul_left d hge
    rw [Nat.mul_comm k d] at h
    have hrest : n % d = 0 := by omega
    have hsame : d * (n / d) = d * k := by omega
    rw [nearestQuotient]
    simp only [hrest]
    rw [if_neg (by omega)]
    exact (Nat.eq_of_mul_eq_mul_left hd hsame).le

/-- A quotient rounds to less than an even `k` if it is not half way there: a half goes up to `k`,
as the number below `k` is odd. -/
theorem nearestQuotient_lt_iff {n d k : Nat} (hd : 0 < d) (hk : k % 2 = 0) :
    nearestQuotient n d < k ↔ 2 * n + d < 2 * k * d := by
  obtain ⟨q, hq⟩ : ∃ q, n / d = q := ⟨_, rfl⟩
  obtain ⟨r, hr⟩ : ∃ r, n % d = r := ⟨_, rfl⟩
  have hlt : r < d := hr ▸ Nat.mod_lt n hd
  have hn : n = d * q + r := by rw [← hq, ← hr, Nat.div_add_mod]
  unfold nearestQuotient
  simp only [hq, hr]
  rw [hn]
  rcases Nat.lt_trichotomy (q + 1) k with h | rfl | h
  · obtain ⟨j, rfl⟩ := Nat.exists_eq_add_of_lt h
    have hright : 2 * (q + 1 + j + 1) * d = 2 * (d * q) + 4 * d + 2 * (j * d) := by ring
    rw [hright]
    split <;> omega
  · have hright : 2 * (q + 1) * d = 2 * (d * q) + 2 * d := by ring
    rw [hright]
    split <;> omega
  · obtain ⟨j, rfl⟩ := Nat.exists_eq_add_of_le (Nat.lt_succ_iff.mp h)
    have hright : 2 * k * d ≤ 2 * (d * (k + j)) := by
      calc 2 * k * d = 2 * (d * k) := by ring
        _ ≤ 2 * (d * (k + j)) := by gcongr; omega
    split <;> omega

theorem isFinite_pack_iff (negative : Bool) (significand exponent : Nat) :
    (pack negative significand exponent).isFinite = true ↔ Fits significand exponent := by
  unfold pack
  split
  next fits => exact iff_of_true rfl fits
  next hfits => exact iff_of_false Bool.false_ne_true hfits

theorem magnitude_pack {negative : Bool} {m e : Nat}
    (h : (pack negative m e).isFinite = true) : (pack negative m e).magnitude = m * 2 ^ e := by
  rw [pack, dif_pos ((isFinite_pack_iff _ _ _).mp h)]
  rfl

/-- The least number of units of `2 ^ -1074` that rounds to an infinity: half a step beyond the
greatest finite double. -/
def overflow : Nat :=
  (2 ^ 54 - 1) * 2 ^ 2044

/-- The exponent is named, so that the power is not computed. -/
theorem overflow_eq : ∃ top, top = 2044 ∧ overflow = (2 ^ 54 - 1) * 2 ^ top :=
  ⟨_, rfl, rfl⟩

theorem one_eq : ∃ k, k = 1074 ∧ one = Nat.pow 2 k :=
  ⟨_, rfl, by decide +kernel⟩

section Rounding

variable {negative : Bool} {n m e : Nat}

/-- The exponent to which so many units are rounded. -/
def roundingExponent (n : Nat) : Nat :=
  n.log2 - 52

theorem lt_of_roundingExponent (n : Nat) : n < 2 ^ 53 * 2 ^ roundingExponent n :=
  calc n < 2 ^ (n.log2 + 1) := Nat.lt_log2_self
    _ ≤ 2 ^ (53 + roundingExponent n) :=
      Nat.pow_le_pow_right (by decide) (by unfold roundingExponent; omega)
    _ = 2 ^ 53 * 2 ^ roundingExponent n := pow_add ..

/-- Beyond the smallest exponent a significand has its full width. -/
theorem le_of_roundingExponent (h : 0 < roundingExponent n) :
    2 ^ 52 * 2 ^ roundingExponent n ≤ n := by
  unfold roundingExponent at h ⊢
  have hzero : n ≠ 0 := by
    rintro rfl
    simp at h
  calc 2 ^ 52 * 2 ^ (n.log2 - 52) = 2 ^ n.log2 := by
        rw [← pow_add]
        congr 1
        omega
    _ ≤ n := Nat.log2_self_le hzero

/-- At the exponent of the rounding; a significand that is rounded up to one bit more is halved. -/
theorem ofUnits_eq (negative : Bool) (n : Nat) :
    ofUnits negative n 1 =
      if nearestQuotient n (2 ^ roundingExponent n) < 2 ^ 53 then
        pack negative (nearestQuotient n (2 ^ roundingExponent n)) (roundingExponent n)
      else pack negative (nearestQuotient n (2 ^ roundingExponent n) / 2)
        (roundingExponent n + 1) := by
  unfold ofUnits roundingExponent
  simp only [Nat.pow_eq, Nat.div_one, one_mul]

/-- A rounded significand has at most the bits of a double, but where it is the next power of two;
and it has as many, but at the smallest exponent. -/
theorem rounded_width (n : Nat) :
    nearestQuotient n (2 ^ roundingExponent n) ≤ 2 ^ 53 ∧
      (2 ^ 52 ≤ nearestQuotient n (2 ^ roundingExponent n) ∨ roundingExponent n = 0) := by
  have hbelow : n / 2 ^ roundingExponent n < 2 ^ 53 :=
    Nat.div_lt_of_lt_mul (Nat.mul_comm _ _ ▸ lt_of_roundingExponent n)
  refine ⟨(nearestQuotient_le n _).trans hbelow, ?_⟩
  rcases Nat.eq_zero_or_pos (roundingExponent n) with hzero | hpos
  · exact .inr hzero
  · have hwide := (Nat.le_div_iff_mul_le (Nat.two_pow_pos _)).mpr (le_of_roundingExponent hpos)
    exact .inl (hwide.trans (le_nearestQuotient n _))

/-- What so many units are rounded to. -/
def roundedSize (n : Nat) : Nat :=
  nearestQuotient n (2 ^ roundingExponent n) * 2 ^ roundingExponent n

theorem roundedSize_mono {n n' : Nat} (h : n ≤ n') : roundedSize n ≤ roundedSize n' := by
  have hexponent : roundingExponent n ≤ roundingExponent n' := by
    unfold roundingExponent
    rcases Nat.eq_zero_or_pos n with rfl | hpos
    · simp
    · have hlog := (Nat.le_log2 (by omega)).mpr ((Nat.log2_self_le hpos.ne').trans h)
      omega
  unfold roundedSize
  rcases hexponent.eq_or_lt with heq | hlt
  · rw [heq]
    exact Nat.mul_le_mul_right _ (nearestQuotient_mono _ h)
  · have hwide := (rounded_width n').2.resolve_right (by omega)
    calc nearestQuotient n (2 ^ roundingExponent n) * 2 ^ roundingExponent n
        ≤ 2 ^ 53 * 2 ^ roundingExponent n := Nat.mul_le_mul_right _ (rounded_width n).1
      _ = 2 ^ 52 * 2 ^ (roundingExponent n + 1) := by ring
      _ ≤ 2 ^ 52 * 2 ^ roundingExponent n' :=
        Nat.mul_le_mul_left _ (Nat.pow_le_pow_right (by decide) hlt)
      _ ≤ nearestQuotient n' (2 ^ roundingExponent n') * 2 ^ roundingExponent n' :=
        Nat.mul_le_mul_right _ hwide

/-- A whole number of rounding steps is not rounded at all. -/
theorem roundedSize_of_dvd (hdvd : 2 ^ roundingExponent n ∣ n) : roundedSize n = n := by
  obtain ⟨k, hk⟩ := hdvd
  have hstep := Nat.two_pow_pos (roundingExponent n)
  have hround : nearestQuotient n (2 ^ roundingExponent n) = k := by
    apply le_antisymm
    · exact nearestQuotient_le_of_le hstep (by rw [Nat.mul_comm, ← hk])
    · refine le_trans ?_ (le_nearestQuotient _ _)
      exact (Nat.le_div_iff_mul_le hstep).mpr (by rw [Nat.mul_comm, ← hk])
  rw [roundedSize, hround, Nat.mul_comm, ← hk]

/-- A significand of the width of a double leaves nothing to be rounded. -/
theorem roundedSize_whole {n : Nat} (h : n < 2 ^ 53) (k : Nat) :
    roundedSize (n * 2 ^ k) = n * 2 ^ k := by
  have hexponent : roundingExponent (n * 2 ^ k) ≤ k := by
    rcases Nat.eq_zero_or_pos n with rfl | hpos
    · simp [roundingExponent]
    · have hlog : (n * 2 ^ k).log2 < 53 + k := by
        refine (Nat.log2_lt (Nat.mul_pos hpos (Nat.two_pow_pos k)).ne').mpr ?_
        rw [pow_add]
        exact Nat.mul_lt_mul_of_pos_right h (Nat.two_pow_pos k)
      unfold roundingExponent
      omega
  exact roundedSize_of_dvd ((Nat.pow_dvd_pow 2 hexponent).trans (Nat.dvd_mul_left _ _))

theorem isFinite_ofUnits_iff_exponent (negative : Bool) (n : Nat) :
    (ofUnits negative n 1).isFinite = true ↔ roundingExponent n < 2045 ∨
      roundingExponent n = 2045 ∧ nearestQuotient n (2 ^ roundingExponent n) < 2 ^ 53 := by
  obtain ⟨hhigh, hwide⟩ := rounded_width n
  rw [ofUnits_eq]
  split
  next hs =>
    rw [isFinite_pack_iff]
    refine ⟨fun fits => ?_, fun h => ⟨hs, by omega, hwide⟩⟩
    have hlast := fits.2.1
    omega
  next hs =>
    rw [isFinite_pack_iff]
    refine ⟨fun fits => ?_, fun h => ⟨?_, by omega, .inl ?_⟩⟩
    · have hlast := fits.2.1
      omega
    · simp only [Nat.pow_eq]
      omega
    · simp only [Nat.pow_eq]
      omega

theorem isFinite_ofUnits_iff (negative : Bool) (n : Nat) :
    (ofUnits negative n 1).isFinite = true ↔ n < overflow := by
  obtain ⟨top, htop, hoverflow⟩ := overflow_eq
  rw [isFinite_ofUnits_iff_exponent, hoverflow]
  rcases Nat.lt_trichotomy (roundingExponent n) 2045 with hlt | heq | hgt
  · refine iff_of_true (.inl hlt) ?_
    calc n < 2 ^ 53 * 2 ^ roundingExponent n := lt_of_roundingExponent n
      _ ≤ 2 ^ 53 * 2 ^ top :=
        Nat.mul_le_mul_left _ (Nat.pow_le_pow_right (by decide) (by omega))
      _ ≤ (2 ^ 54 - 1) * 2 ^ top := Nat.mul_le_mul_right _ (by decide)
  · -- the greatest exponent that there is: what does not round up has it
    have hpow : 2 ^ roundingExponent n = 2 * 2 ^ top := by
      rw [← pow_succ', heq, htop]
    have hround := nearestQuotient_lt_iff (n := n) (k := 2 ^ 53)
      (Nat.two_pow_pos (roundingExponent n)) (by decide)
    rw [hround, hpow]
    omega
  · refine iff_of_false (by omega) ?_
    have hpow : 2 * (2 * 2 ^ top) ≤ 2 ^ roundingExponent n := by
      rw [← pow_succ', ← pow_succ']
      exact Nat.pow_le_pow_right (by decide) (by omega)
    have hlow := le_of_roundingExponent (n := n) (by omega)
    omega

/-- A significand that is wide enough for an integer stays below the infinities. -/
theorem isFinite_whole {n k : Nat} (h : n < 2 ^ 53) (hk : 53 + k ≤ 2097) :
    (ofUnits negative (n * Nat.pow 2 k) 1).isFinite = true := by
  obtain ⟨top, htop, hoverflow⟩ := overflow_eq
  rw [isFinite_ofUnits_iff, hoverflow, Nat.pow_eq]
  calc n * 2 ^ k < 2 ^ 53 * 2 ^ k := Nat.mul_lt_mul_of_pos_right h (Nat.two_pow_pos k)
    _ ≤ 2 ^ 53 * 2 ^ top := Nat.mul_le_mul_left _ (Nat.pow_le_pow_right (by decide) (by omega))
    _ ≤ (2 ^ 54 - 1) * 2 ^ top := Nat.mul_le_mul_right _ (by decide)

/-- What a finite rounded size is in units. -/
theorem magnitude_ofUnits (h : (ofUnits negative n 1).isFinite = true) :
    (ofUnits negative n 1).magnitude = roundedSize n := by
  rw [ofUnits_eq] at h ⊢
  rw [roundedSize]
  split at h
  next hs =>
    rw [if_pos hs]
    exact magnitude_pack h
  next hs =>
    have htop : nearestQuotient n (2 ^ roundingExponent n) = 2 ^ 53 :=
      (rounded_width n).1.antisymm (Nat.le_of_not_lt hs)
    rw [if_neg hs, magnitude_pack h, htop]
    ring

theorem isNegative_ofUnits (negative : Bool) (n d : Nat) :
    (ofUnits negative n d).isNegative = negative := by
  unfold ofUnits pack
  dsimp only
  split <;> split <;> rfl

theorem units_ofUnits (negative : Bool) (n d : Nat) :
    (ofUnits negative n d).units =
      if negative then -((ofUnits negative n d).magnitude : Int)
      else (ofUnits negative n d).magnitude := by
  rw [units, isNegative_ofUnits]

/-- No double is as great as an infinity. -/
theorem magnitude_lt_overflow (fits : Fits m e) : m * 2 ^ e < overflow := by
  obtain ⟨top, htop, hoverflow⟩ := overflow_eq
  have hm : m < 2 ^ 53 := fits.1
  have he : e ≤ 2045 := fits.2.1
  have hpow : 2 ^ e ≤ 2 * 2 ^ top := by
    rw [← pow_succ']
    exact Nat.pow_le_pow_right (by decide) (by omega)
  have hpositive : 0 < 2 ^ top := Nat.two_pow_pos top
  have hle : m * 2 ^ e ≤ (2 ^ 53 - 1) * (2 * 2 ^ top) := Nat.mul_le_mul (by omega) hpow
  omega

theorem exists_of_isFinite {b : Binary64} (h : b.isFinite = true) :
    ∃ m e, Fits m e ∧ b.magnitude = m * 2 ^ e := by
  cases b with
  | nan | infinite => cases h
  | finite _ m e fits => exact ⟨m, e, fits, rfl⟩

theorem roundedSize_magnitude {b : Binary64} (hb : b.isFinite = true) :
    roundedSize b.magnitude = b.magnitude := by
  obtain ⟨m, e, fits, hsize⟩ := exists_of_isFinite hb
  rw [hsize, roundedSize_whole fits.1]

/-- A size that is not above a double does not round to more. -/
theorem ofUnits_le {b : Binary64} (hb : b.isFinite = true) (h : n ≤ b.magnitude) :
    (ofUnits negative n 1).isFinite = true ∧
      (ofUnits negative n 1).magnitude ≤ b.magnitude := by
  have hbelow : b.magnitude < overflow := by
    obtain ⟨m, e, fits, hsize⟩ := exists_of_isFinite hb
    exact hsize ▸ magnitude_lt_overflow fits
  have hfinite := (isFinite_ofUnits_iff negative n).mpr (h.trans_lt hbelow)
  refine ⟨hfinite, ?_⟩
  rw [magnitude_ofUnits hfinite, ← roundedSize_magnitude hb]
  exact roundedSize_mono h

/-- A size that is not below a double does not round to less. -/
theorem le_ofUnits {b : Binary64} (hb : b.isFinite = true) (h : b.magnitude ≤ n)
    (hfinite : (ofUnits negative n 1).isFinite = true) :
    b.magnitude ≤ (ofUnits negative n 1).magnitude := by
  rw [magnitude_ofUnits hfinite, ← roundedSize_magnitude hb]
  exact roundedSize_mono h

/-- A significand that is wide enough for an integer leaves nothing to be rounded. -/
theorem magnitude_whole {n k : Nat} (h : n < 2 ^ 53) (hk : 53 + k ≤ 2097) :
    (ofUnits negative (n * Nat.pow 2 k) 1).magnitude = n * Nat.pow 2 k := by
  rw [magnitude_ofUnits (isFinite_whole h hk), Nat.pow_eq, roundedSize_whole h]

end Rounding

theorem natAbs_units (x : Binary64) : x.units.natAbs = x.magnitude := by
  unfold units
  split <;> simp

section Integers

variable {n : Int}

/-- The integers that are not beyond the range of doubles. -/
theorem isFinite_ofInt_iff (n : Int) :
    (ofInt n).isFinite = true ↔ n.natAbs < (2 ^ 54 - 1) * 2 ^ 970 := by
  have hunits : overflow = (2 ^ 54 - 1) * 2 ^ 970 * one := by decide +kernel
  rw [ofInt, ofRatio, isFinite_ofUnits_iff, hunits]
  exact Nat.mul_lt_mul_right one_pos

theorem isFinite_ofInt (h : n.natAbs < 2 ^ 53) : (ofInt n).isFinite = true := by
  obtain ⟨k, hk, hone⟩ := one_eq
  rw [ofInt, ofRatio, hone]
  exact isFinite_whole h (by omega)

theorem isNegative_ofInt (n : Int) : (ofInt n).isNegative = decide (n < 0) := by
  rw [ofInt, ofRatio, isNegative_ofUnits]

/-- Integers of up to 53 bits are doubles. -/
theorem magnitude_ofInt (h : n.natAbs < 2 ^ 53) : (ofInt n).magnitude = n.natAbs * one := by
  obtain ⟨k, hk, hone⟩ := one_eq
  rw [ofInt, ofRatio, hone]
  exact magnitude_whole h (by omega)

/-- A double with the amount and the sign of an integer; the sign of a zero does not matter. -/
theorem units_of_magnitude {x : Binary64} (hmag : x.magnitude = n.natAbs * one)
    (hsign : x.isNegative = decide (n < 0) ∨ n = 0) : x.units = n * (one : Int) := by
  rw [units, hmag, Nat.cast_mul]
  rcases hsign with hsign | rfl
  · rw [hsign]
    by_cases hneg : n < 0
    · rw [decide_eq_true hneg, if_pos rfl, Int.ofNat_natAbs_of_nonpos hneg.le, neg_mul, neg_neg]
    · rw [decide_eq_false hneg, if_neg Bool.false_ne_true,
        Int.natAbs_of_nonneg (Int.not_lt.mp hneg)]
  · rw [Int.natAbs_zero, Nat.cast_zero, zero_mul, neg_zero, ite_self]

theorem units_ofInt (h : n.natAbs < 2 ^ 53) : (ofInt n).units = n * (one : Int) :=
  units_of_magnitude (magnitude_ofInt h) (.inl (isNegative_ofInt n))

end Integers

section Sums

theorem isNaN_of_isFinite {x : Binary64} (h : x.isFinite = true) : x.isNaN = false := by
  cases x with
  | nan => cases h
  | infinite | finite => rfl

theorem isNaN_ofUnits (neg : Bool) (n d : Nat) : (ofUnits neg n d).isNaN = false := by
  unfold ofUnits pack
  dsimp only
  split <;> split <;> rfl

theorem isNaN_add {x y : Binary64} (hx : x.isFinite = true) (hy : y.isNaN = false) :
    (x.add y).isNaN = false := by
  cases x with
  | nan | infinite => cases hx
  | finite =>
    cases y with
    | nan => cases hy
    | infinite => rfl
    | finite =>
      unfold add
      dsimp only
      split <;> exact isNaN_ofUnits _ _ _

end Sums

section Units

/-- What so many units, with their sign, are rounded to. -/
def roundedUnits (u : Int) : Int :=
  if u < 0 then -(roundedSize u.natAbs : Int) else roundedSize u.natAbs

theorem roundedUnits_mono {u v : Int} (h : u ≤ v) : roundedUnits u ≤ roundedUnits v := by
  unfold roundedUnits
  split
  next hu =>
    split
    next hv =>
      have := roundedSize_mono (show v.natAbs ≤ u.natAbs by omega)
      omega
    next => omega
  next hu =>
    have := roundedSize_mono (show u.natAbs ≤ v.natAbs by omega)
    rw [if_neg (by omega)]
    omega

theorem roundedUnits_zero : roundedUnits 0 = 0 := by decide

theorem roundedUnits_units {x : Binary64} (hx : x.isFinite = true) :
    roundedUnits x.units = x.units := by
  rw [roundedUnits, natAbs_units, roundedSize_magnitude hx]
  unfold units
  cases x.isNegative <;> simp

theorem roundedUnits_ofInt {n : Int} (h : (ofInt n).isFinite = true) :
    (ofInt n).units = roundedUnits (n * (one : Int)) := by
  have hone : (0 : Int) < one := Int.natCast_pos.mpr one_pos
  have hsign : n * (one : Int) < 0 ↔ n < 0 :=
    ⟨fun hneg => lt_of_not_ge fun hn => (Int.mul_nonneg hn hone.le).not_gt hneg,
      fun hn => Int.mul_neg_of_neg_of_pos hn hone⟩
  rw [ofInt, ofRatio] at h ⊢
  rw [units_ofUnits, magnitude_ofUnits h, roundedUnits, Int.natAbs_mul, Int.natAbs_natCast]
  simp only [decide_eq_true_eq, hsign]

end Units

end Binary64

namespace Number

/-- A number that is neither NaN nor infinite. -/
def IsFinite (a : Number) : Prop :=
  a.isNaN = false ∧ a.place.1 = 0

theorem lt_of_not_le {a b : Number} (ha : a.isNaN = false) (hb : b.isNaN = false)
    (h : a.le b = false) : b.lt a = true := by
  simp only [le, lt, eqv, ha, hb, Bool.not_false, Bool.true_and, Bool.or_eq_false_iff,
    Bool.and_eq_false_iff, decide_eq_false_iff_not, beq_eq_false_iff_ne, ne_eq, Bool.or_eq_true,
    decide_eq_true_eq, Bool.and_eq_true, beq_iff_eq, Prod.ext_iff] at h ⊢
  omega

theorem not_le_of_lt {a b : Number} (h : a.lt b = true) : b.le a = false := by
  simp only [lt, le, eqv, Bool.and_eq_true, Bool.not_eq_true', Bool.or_eq_true, decide_eq_true_eq,
    beq_iff_eq, Bool.or_eq_false_iff, Bool.and_eq_false_iff, decide_eq_false_iff_not,
    beq_eq_false_iff_ne, ne_eq, Prod.ext_iff] at h ⊢
  omega

theorem isNaN_of_lt {a b : Number} (h : a.lt b = true) : b.isNaN = false := by
  simp only [lt, Bool.and_eq_true, Bool.not_eq_true'] at h
  exact h.1.2

theorem place_le_of_lt {a b : Number} (h : a.lt b = true) : a.place.1 ≤ b.place.1 := by
  simp only [lt, Bool.and_eq_true, Bool.or_eq_true, decide_eq_true_eq, beq_iff_eq] at h
  omega

theorem isFinite_of_floatOfInt? {n : Int} {x : Binary64} (h : floatOfInt? n = some x) :
    x.isFinite = true := by
  unfold floatOfInt? at h
  dsimp only at h
  split at h
  next hx => exact Option.some.inj h ▸ hx
  next => cases h

theorem ofInt_of_floatOfInt? {n : Int} {x : Binary64} (h : floatOfInt? n = some x) :
    Binary64.ofInt n = x := by
  unfold floatOfInt? at h
  dsimp only at h
  split at h
  next => exact Option.some.inj h
  next => cases h

theorem isFinite_of_toFloat? {a : Number} {x : Binary64} (ha : a.IsFinite)
    (h : a.toFloat? = some x) : x.isFinite = true := by
  cases a with
  | int n =>
    rw [toFloat?] at h
    exact isFinite_of_floatOfInt? h
  | float y =>
    obtain rfl := Option.some.inj h
    obtain ⟨hnan, hplace⟩ := ha
    cases y with
    | nan => cases hnan
    | infinite neg => cases neg <;> simp [place] at hplace
    | finite => rfl

theorem isNaN_of_toFloat? {a : Number} {x : Binary64} (ha : a.isNaN = false)
    (h : a.toFloat? = some x) : x.isNaN = false := by
  cases a with
  | int n =>
    rw [toFloat?] at h
    exact Binary64.isNaN_of_isFinite (isFinite_of_floatOfInt? h)
  | float y =>
    obtain rfl := Option.some.inj h
    exact ha

/-- Behind a finite time there is a time, however long the span. -/
theorem isNaN_of_add? {a b c : Number} (ha : a.IsFinite) (hb : b.isNaN = false)
    (h : a.add? b = some c) : c.isNaN = false := by
  unfold add? arith? at h
  split at h
  next =>
    obtain rfl := Option.some.inj h
    rfl
  next =>
    obtain ⟨x, hx, h⟩ := Option.bind_eq_some_iff.mp h
    obtain ⟨y, hy, h⟩ := Option.bind_eq_some_iff.mp h
    obtain rfl := Option.some.inj h
    exact Binary64.isNaN_add (isFinite_of_toFloat? ha hx) (isNaN_of_toFloat? hb hy)

theorem place_float {x : Binary64} (h : x.isFinite = true) : (float x).place = (0, x.units) := by
  cases x with
  | nan | infinite => cases h
  | finite => rfl

theorem lt_iff_of_isFinite {a b : Number} (ha : a.IsFinite) (hb : b.IsFinite) :
    a.lt b = true ↔ a.place.2 < b.place.2 := by
  obtain ⟨hanan, haplace⟩ := ha
  obtain ⟨hbnan, hbplace⟩ := hb
  simp [lt, hanan, hbnan, haplace, hbplace]

theorem isFinite_float {x : Binary64} : (float x).IsFinite ↔ x.isFinite = true := by
  cases x with
  | nan => exact iff_of_false (fun h => nomatch h.1) nofun
  | infinite negative =>
    refine iff_of_false (fun h => ?_) nofun
    cases negative <;> simp [IsFinite, place] at h
  | finite => exact iff_of_true ⟨rfl, rfl⟩ rfl

theorem isFinite_int (n : Int) : (int n).IsFinite :=
  ⟨rfl, rfl⟩

section Signed

variable {b : Binary64} {n : Nat} (hb : b.isFinite = true)

include hb

theorem units_lt_of_isFinite {x : Binary64} (hx : x.isFinite = true)
    (h : (float b).lt (.float x) = true) : b.units < x.units := by
  rw [lt_iff_of_isFinite (isFinite_float.mpr hb) (isFinite_float.mpr hx)] at h
  simpa only [place_float hb, place_float hx] using h

/-- A positive size that is not above a double does not round to more. -/
theorem units_lt_of_lt_rounded (h : (float b).lt (.float (.ofUnits false n 1)) = true) :
    b.units < n := by
  by_contra hnot
  have hunits : b.units = b.magnitude := by
    rw [Binary64.units] at hnot ⊢
    split
    next hsign =>
      rw [if_pos hsign] at hnot
      omega
    next => rfl
  have hle : n ≤ b.magnitude := by omega
  obtain ⟨hfinite, hround⟩ : (Binary64.ofUnits false n 1).isFinite = true ∧
      (Binary64.ofUnits false n 1).magnitude ≤ b.magnitude := Binary64.ofUnits_le hb hle
  have hlt := units_lt_of_isFinite hb hfinite h
  rw [Binary64.units_ofUnits] at hlt
  simp only [Bool.false_eq_true, ↓reduceIte] at hlt
  omega

/-- A negative size that is not above a double does not round to more: its amount is rounded to no
less, and beyond all doubles it is the negative infinity, which no double is below. -/
theorem units_lt_of_lt_rounded_neg (h : (float b).lt (.float (.ofUnits true n 1)) = true) :
    b.units < -(n : Int) := by
  cases hfinite : (Binary64.ofUnits true n 1).isFinite with
  | true =>
    have hlt := units_lt_of_isFinite hb hfinite h
    rw [Binary64.units_ofUnits, if_pos rfl] at hlt
    have hunits : b.units = -(b.magnitude : Int) := by
      rw [Binary64.units] at hlt ⊢
      split
      next => rfl
      next hsign =>
        rw [if_neg hsign] at hlt
        omega
    by_contra hnot
    have hround := Binary64.le_ofUnits hb (by omega) hfinite
    omega
  | false =>
    have hsign := Binary64.isNegative_ofUnits true n 1
    have hnan := Binary64.isNaN_ofUnits true n 1
    generalize Binary64.ofUnits true n 1 = rounded at h hfinite hsign hnan
    cases rounded with
    | nan => cases hnan
    | finite => cases hfinite
    | infinite sign =>
      obtain rfl : sign = true := hsign
      have hle := place_le_of_lt h
      rw [place_float hb] at hle
      exact absurd (show (0 : Int) ≤ -1 from hle) (by decide)

end Signed

theorem add?_of_float {x : Binary64} {b c : Number} (h : (float x).add? b = some c) :
    ∃ y, b.toFloat? = some y ∧ c = .float (x.add y) := by
  unfold add? arith? at h
  split at h
  next hx => cases hx
  next =>
    obtain ⟨_, hx, h⟩ := Option.bind_eq_some_iff.mp h
    obtain ⟨y, hy, h⟩ := Option.bind_eq_some_iff.mp h
    obtain rfl := Option.some.inj hx
    exact ⟨y, hy, (Option.some.inj h).symm⟩

/-- A double below a rounded sum is below the sum. -/
theorem units_lt_of_lt_add {b x y : Binary64} (hb : b.isFinite = true) (hx : x.isFinite = true)
    (hy : y.isFinite = true) (h : (float b).lt (.float (x.add y)) = true) :
    b.units < x.units + y.units := by
  have hadd : ∃ negative n, x.add y = .ofUnits negative n 1 ∧
      (if negative then -(n : Int) else n) = x.units + y.units := by
    cases x with
    | nan | infinite => cases hx
    | finite =>
      cases y with
      | nan | infinite => cases hy
      | finite =>
        unfold Binary64.add
        dsimp only
        split
        next hzero => exact ⟨_, 0, rfl, by simp [hzero]⟩
        next hne =>
          refine ⟨_, _, rfl, ?_⟩
          simp only [decide_eq_true_eq]
          split <;> omega
  obtain ⟨negative, n, hsum, htotal⟩ := hadd
  rw [hsum] at h
  rw [← htotal]
  cases negative with
  | false => exact units_lt_of_lt_rounded hb h
  | true => exact units_lt_of_lt_rounded_neg hb h

end Number

end GridRules
