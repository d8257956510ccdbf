import GridRules.Proofs.RoundingIntervals
import Mathlib.Tactic.FieldSimp

namespace GridRules

namespace Binary64

section Points

variable {n d : Nat}

theorem nearestQuotient_eq_or (n d : Nat) :
    nearestQuotient n d = n / d ∨ nearestQuotient n d = n / d + 1 := by
  simp only [nearestQuotient]
  split
  · exact .inr rfl
  · exact .inl rfl

theorem lt_succ_div_mul (n : Nat) (hd : 0 < d) : n < (n / d + 1) * d :=
  Nat.mul_comm d _ ▸ Nat.lt_mul_div_succ n hd

/-- The decimal point of a quotient that is not below `10 ^ -400` is where its first digit is. -/
theorem decimalPoint_spec (hd : 0 < d) (h : d ≤ n * 10 ^ 400) :
    ∃ places : Nat, decimalPoint n d = (places : Int) + 1 - 400 ∧
      10 ^ places * d ≤ n * 10 ^ 400 := by
  have hpos : 1 ≤ n * 10 ^ 400 / d := (Nat.le_div_iff_mul_le hd).mpr (by rwa [Nat.one_mul])
  obtain ⟨places, hp⟩ := Nat.exists_eq_succ_of_ne_zero (Nat.ne_of_gt
    (List.length_pos_iff.mpr (Nat.toDigits_ne_nil (n := n * 10 ^ 400 / d) (b := 10))))
  refine ⟨places, by simp [decimalPoint, Nat.pow_eq, hp], ?_⟩
  refine (Nat.le_div_iff_mul_le hd).mp ?_
  by_contra hlt
  rcases Nat.eq_zero_or_pos places with rfl | hplaces
  · exact hlt hpos
  · have := (Nat.length_toDigits_le_iff (by norm_num) hplaces).mpr (Nat.lt_of_not_le hlt)
    omega

end Points

section Grid

variable {m e : Nat} {x : Binary64} {scale : Int}

theorem ten_zpow (scale : Int) :
    (10 : ℚ) ^ scale = 10 ^ scale.toNat / 10 ^ (-scale).toNat := by
  rcases Int.le_total 0 scale with h | h
  · lift scale to Nat using h
    simp
  · obtain ⟨k, rfl⟩ := Int.exists_eq_neg_ofNat h
    simp

theorem roundsFrom_of_near {n d : Nat} (low : x.reachLow * d < 4 * n)
    (high : 4 * n < x.reachHigh * d) : x.roundsFrom n d = true := by
  simp only [reachLow, reachHigh] at low high
  simp only [roundsFrom]
  split <;> simp <;> omega

theorem onGrid?_eq_some {c : Nat} (h : x.onGrid? scale = some c) :
    x.roundsFrom (c * 10 ^ scale.toNat * one) (10 ^ (-scale).toNat) = true := by
  unfold onGrid? at h
  simp only [Nat.pow_eq] at h
  split at h
  · rename_i below above
    obtain rfl := Option.some.inj h
    rcases nearestQuotient_eq_or (x.magnitude * 10 ^ (-scale).toNat)
      (one * 10 ^ scale.toNat) with nearest | nearest
    · rw [nearest, below]
    · rw [nearest, above]
  · rename_i below _
    obtain rfl := Option.some.inj h
    exact below
  · rename_i _ above
    obtain rfl := Option.some.inj h
    exact above
  · cases h

theorem onGrid?_inReach {c : Nat} (h : x.onGrid? scale = some c) :
    x.InReach (c * 10 ^ scale * one) := by
  have hreads := onGrid?_eq_some h
  rw [roundsFrom_iff x _ (by positivity)] at hreads
  have (unit : Nat) : ((c * 10 ^ scale.toNat * unit : Nat) : ℚ) /
      ((10 ^ (-scale).toNat : Nat) : ℚ) = c * 10 ^ scale * unit := by
    rw [ten_zpow]
    push_cast
    ring
  rwa [this] at hreads

/-- On a grid of at least seventeen digits one of the neighbours of a double reads back as it. -/
theorem neighbour_reads (neg : Bool) (fits : Fits m e) {b u v : Nat} (hu : 0 < u) (hv : 0 < v)
    (below : b * u ≤ m * 2 ^ e * v) (above : m * 2 ^ e * v < (b + 1) * u)
    (fine : 10 ^ 16 * u ≤ m * 2 ^ e * v) :
    (finite neg m e fits).roundsFrom (b * u) v = true ∨
      (finite neg m e fits).roundsFrom ((b + 1) * u) v = true := by
  have hm : m < 2 ^ 53 := fits.1
  have hp : 0 < 2 ^ e * v := by positivity
  -- distances are compared in the atoms `gap`, `size` and `grid`
  obtain ⟨gap, hgap⟩ : ∃ gap, gap = 2 ^ e * v := ⟨_, rfl⟩
  obtain ⟨size, hsize⟩ : ∃ size, size = m * gap := ⟨_, rfl⟩
  obtain ⟨grid, hgrid⟩ : ∃ grid, grid = b * u := ⟨_, rfl⟩
  have hmv : m * 2 ^ e * v = size := by rw [hsize, hgap]; ring
  have hsucc : (b + 1) * u = grid + u := by rw [hgrid]; ring
  have hle : size ≤ 2 ^ 53 * gap := hsize ▸ Nat.mul_le_mul_right _ hm.le
  have high : (finite neg m e fits).reachHigh * v = 4 * size + 2 * gap := by
    rw [reachHigh_finite, hsize, hgap]; ring
  have low (k : Nat) : (4 * m - k) * 2 ^ e * v = 4 * size - k * gap := by
    rw [hsize, hgap, Nat.sub_mul, Nat.sub_mul]
    congr 1 <;> ring
  rw [hmv] at below above fine
  rw [hsucc] at above ⊢
  rw [← hgrid] at below ⊢
  rw [← hgap] at hp
  by_cases hpow : m = 2 ^ 52 ∧ e ≠ 0
  · -- below a power of two the interval is short: the upper neighbour is the one that reads
    right
    have : size = 2 ^ 52 * gap := by rw [hsize, hpow.1]
    refine roundsFrom_of_near ?_ ?_
    · rw [reachLow_finite, if_pos hpow, low]
      omega
    · rw [high]
      omega
  · by_cases near : 2 * (size - grid) < u
    · left
      refine roundsFrom_of_near ?_ ?_
      · rw [reachLow_finite, if_neg hpow, low]
        omega
      · rw [high]
        omega
    · right
      refine roundsFrom_of_near ?_ ?_
      · rw [reachLow_finite, if_neg hpow, low]
        omega
      · rw [high]
        omega

theorem one_pos : 0 < one :=
  Nat.pow_pos (by decide)

theorem onGrid?_isSome (neg : Bool) (fits : Fits m e)
    (fine : 10 ^ 16 * (10 ^ scale.toNat * one) ≤ m * 2 ^ e * 10 ^ (-scale).toNat) :
    ∃ c, (finite neg m e fits).onGrid? scale = some c := by
  have hu : 0 < 10 ^ scale.toNat * one := Nat.mul_pos (by positivity) one_pos
  have hv : 0 < 10 ^ (-scale).toNat := by positivity
  have reads := neighbour_reads neg fits hu hv
    (b := m * 2 ^ e * 10 ^ (-scale).toNat / (10 ^ scale.toNat * one))
    (Nat.div_mul_le_self _ _) (lt_succ_div_mul _ hu) fine
  unfold onGrid?
  simp only [magnitude, Nat.pow_eq, mul_comm one, mul_assoc] at reads ⊢
  split
  · exact ⟨_, rfl⟩
  · exact ⟨_, rfl⟩
  · exact ⟨_, rfl⟩
  · rename_i h h'
    rcases reads with r | r
    · rw [r] at h
      cases h
    · rw [r] at h'
      cases h'

/-- The grid sixteen places below the first digit is a `10 ^ 16`th of the size at most. -/
theorem seventeenth_place {places size unit top : Nat}
    (h : 10 ^ places * unit ≤ size * 10 ^ top) (hscale : scale = places - (top + 16)) :
    10 ^ 16 * (10 ^ scale.toNat * unit) ≤ size * 10 ^ (-scale).toNat := by
  rcases Nat.le_total (top + 16) places with hp | hp
  · obtain ⟨k, rfl⟩ := Nat.exists_eq_add_of_le hp
    obtain rfl : scale = k := by omega
    refine Nat.le_of_mul_le_mul_right ?_ (show 0 < 10 ^ top by positivity)
    calc 10 ^ 16 * (10 ^ (k : Int).toNat * unit) * 10 ^ top
        = 10 ^ (top + 16 + k) * unit := by rw [Int.toNat_natCast, pow_add, pow_add]; ring
      _ ≤ size * 10 ^ top := h
      _ = size * 10 ^ (-(k : Int)).toNat * 10 ^ top := by simp
  · obtain ⟨k, hk⟩ := Nat.exists_eq_add_of_le hp
    obtain rfl : scale = -(k : Int) := by omega
    refine Nat.le_of_mul_le_mul_right ?_ (show 0 < 10 ^ places by positivity)
    calc 10 ^ 16 * (10 ^ (-(k : Int)).toNat * unit) * 10 ^ places
        = 10 ^ 16 * (10 ^ places * unit) := by simp; ring
      _ ≤ 10 ^ 16 * (size * 10 ^ top) := Nat.mul_le_mul_left _ h
      _ = size * 10 ^ (top + 16) := by rw [pow_add]; ring
      _ = size * 10 ^ (- -(k : Int)).toNat * 10 ^ places := by
        rw [hk, pow_add, Int.neg_neg, Int.toNat_natCast]; ring

theorem one_le_ten_pow : one ≤ 10 ^ 400 :=
  calc one ≤ (2 ^ 3) ^ 400 := by
        rw [← pow_mul]
        exact Nat.pow_le_pow_right (by decide) (by decide)
    _ ≤ 10 ^ 400 := Nat.pow_le_pow_left (by decide) _

variable (neg : Bool) (fits : Fits m e) (hm : m ≠ 0)
include hm

theorem not_inReach_zero : ¬ (finite neg m e fits).InReach 0 := by
  intro h
  have hlow : 0 < (finite neg m e fits).reachLow := by
    rw [reachLow_finite]
    exact Nat.mul_pos (by split <;> omega) (by positivity)
  have hlow : (0 : ℚ) < (finite neg m e fits).reachLow := Nat.cast_pos.mpr hlow
  rcases h.1 with h | ⟨-, h⟩ <;> linarith

theorem shortest_onGrid? :
    ∃ c s, (finite neg m e fits).shortest = (c, s) ∧
      (finite neg m e fits).onGrid? s = some c := by
  have hmag : (finite neg m e fits).magnitude = m * 2 ^ e := by simp [magnitude]
  have hpos : 0 < m * 2 ^ e := Nat.mul_pos (Nat.pos_of_ne_zero hm) (by positivity)
  obtain ⟨places, hpoint, hle⟩ := decimalPoint_spec one_pos
    (one_le_ten_pow.trans (Nat.le_mul_of_pos_left _ hpos))
  let tried (k : Nat) : Option (Nat × Int) :=
    let scale : Int := (places : Int) + 1 - 400 - (k + 1 : Int)
    ((finite neg m e fits).onGrid? scale).map (·, scale)
  have hshortest : (finite neg m e fits).shortest =
      ((List.range 17).findSome? tried).getD (0, 0) := by
    unfold shortest
    rw [if_neg (by rw [hmag]; exact hpos.ne'), hmag, hpoint]
  obtain ⟨found, hfound⟩ : ∃ found, (List.range 17).findSome? tried = some found := by
    rw [← Option.isSome_iff_exists, List.findSome?_isSome_iff]
    have hscale : (places : Int) + 1 - 400 - ((16 : Nat) + 1) = places - ((400 : Nat) + 16) := by
      omega
    obtain ⟨c, hc⟩ := onGrid?_isSome neg fits (seventeenth_place hle hscale)
    exact ⟨16, List.mem_range.mpr (by decide), by simp only [tried, hc]; rfl⟩
  obtain ⟨k, -, hk⟩ := List.exists_of_findSome?_eq_some hfound
  obtain ⟨c, hc, rfl⟩ := Option.map_eq_some_iff.mp hk
  exact ⟨c, _, by rw [hshortest, hfound]; rfl, hc⟩

/-- The shortest decimal of a double that is not zero rounds to the double. -/
theorem shortest_inReach :
    ∃ c s, (finite neg m e fits).shortest = (c, s) ∧ c ≠ 0 ∧
      (finite neg m e fits).InReach (c * 10 ^ s * one) := by
  obtain ⟨c, s, hs, hc⟩ := shortest_onGrid? neg fits hm
  have reach := onGrid?_inReach hc
  refine ⟨c, s, hs, ?_, reach⟩
  rintro rfl
  rw [Nat.cast_zero, zero_mul, zero_mul] at reach
  exact not_inReach_zero neg fits hm reach

end Grid

end Binary64

end GridRules
