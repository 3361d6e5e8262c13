import Mathlib.Tactic.Linarith
import Mathlib.Tactic.Ring
import RequestParams.Decimal.Binary64

set_option autoImplicit false
set_option relaxedAutoImplicit false

/-!
Which quotients round to the magnitude of a code.  A code is a scale and a significand; a quotient
between the midpoints to the neighbouring magnitudes rounds to the code, on a midpoint if the code
is even.
-/

namespace RequestParams.Binary64

theorem pow_eq (base exponent : Nat) : Nat.pow base exponent = base ^ exponent := rfl

theorem pow_two_52 : Nat.pow 2 52 = 4503599627370496 := rfl

/-- A scale and a significand whose leading bit is set, unless the scale is the least. -/
structure Scaled (scale significand : Nat) : Prop where
  bounded : significand ≤ 9007199254740992
  leading : scale = 0 ∨ 4503599627370496 ≤ significand

theorem units_scaled {scale significand : Nat} (scaled : Scaled scale significand) :
    units (scale * Nat.pow 2 52 + significand) = significand * 2 ^ scale := by
  obtain ⟨bounded, leading⟩ := scaled
  unfold units Binary64.significand Binary64.scale
  rw [pow_two_52]
  by_cases top : significand = 9007199254740992
  · subst top
    have exponent : (scale * 4503599627370496 + 9007199254740992) / 4503599627370496 - 1 =
        scale + 1 := by omega
    have fraction : (scale * 4503599627370496 + 9007199254740992) % 4503599627370496 = 0 := by
      omega
    rw [exponent, fraction, if_neg (by omega), pow_eq, Nat.pow_succ]
    ring
  · have exponent : (scale * 4503599627370496 + significand) / 4503599627370496 - 1 = scale := by
      omega
    rw [exponent, pow_eq]
    split_ifs with low
    · obtain rfl : scale = 0 := by omega
      simp
    · congr 1
      omega

theorem exists_scaled (code : Nat) :
    ∃ scale significand, code = scale * Nat.pow 2 52 + significand ∧
      significand < 9007199254740992 ∧ (scale = 0 ∨ 4503599627370496 ≤ significand) := by
  rw [pow_two_52]
  by_cases low : code < 4503599627370496
  · exact ⟨0, code, by omega, by omega, .inl rfl⟩
  · exact ⟨code / 4503599627370496 - 1, 4503599627370496 + code % 4503599627370496, by omega,
      by omega, .inr (by omega)⟩

theorem roundToEven_eq {numerator denominator nearest : Nat} (positive : 0 < denominator)
    (low : 2 * (nearest * denominator) ≤ 2 * numerator + denominator)
    (high : 2 * numerator ≤ 2 * (nearest * denominator) + denominator)
    (odd : nearest % 2 = 1 → 2 * (nearest * denominator) < 2 * numerator + denominator ∧
      2 * numerator < 2 * (nearest * denominator) + denominator) :
    roundToEven numerator denominator = nearest := by
  have whole := Nat.div_add_mod numerator denominator
  have rest := Nat.mod_lt numerator positive
  unfold roundToEven
  simp only
  generalize numerator / denominator = quotient at whole ⊢
  generalize numerator % denominator = remainder at whole rest ⊢
  have below : quotient ≤ nearest := by
    by_contra above
    have step := Nat.mul_le_mul_right denominator (show nearest + 1 ≤ quotient by omega)
    rw [Nat.add_mul, Nat.one_mul, Nat.mul_comm quotient] at step
    omega
  have near : nearest ≤ quotient + 1 := by
    by_contra far
    have step := Nat.mul_le_mul_right denominator (show quotient + 2 ≤ nearest by omega)
    rw [Nat.add_mul, Nat.mul_comm quotient] at step
    omega
  rcases (show nearest = quotient ∨ nearest = quotient + 1 by omega) with rfl | rfl
  · rw [Nat.mul_comm] at whole
    split_ifs <;> omega
  · rw [Nat.add_mul, Nat.one_mul, Nat.mul_comm quotient] at low high odd
    split_ifs <;> omega

/-- Whether a quotient of units is nearer to the magnitude of a code than to any other, or on the
way to a neighbour no farther than half if the code is even. -/
structure Nearest (code numerator denominator : Nat) : Prop where
  low : (units (code - 1) + units code) * denominator ≤ 2 * numerator
  high : 2 * numerator ≤ (units code + units (code + 1)) * denominator
  odd : code % 2 = 1 → (units (code - 1) + units code) * denominator < 2 * numerator ∧
    2 * numerator < (units code + units (code + 1)) * denominator

theorem Nearest.of_eq {code numerator denominator numerator' denominator' : Nat}
    (nearest : Nearest code numerator denominator) (positive : 0 < denominator)
    (positive' : 0 < denominator')
    (same : numerator * denominator' = numerator' * denominator) :
    Nearest code numerator' denominator' := by
  obtain ⟨low, high, odd⟩ := nearest
  have swap (count : Nat) :
      count * denominator * denominator' = count * denominator' * denominator := by
    ring
  have twice : 2 * numerator * denominator' = 2 * numerator' * denominator := by
    rw [Nat.mul_assoc, same, Nat.mul_assoc]
  constructor
  · have scaled := Nat.mul_le_mul_right denominator' low
    rw [swap, twice] at scaled
    exact Nat.le_of_mul_le_mul_right scaled positive
  · have scaled := Nat.mul_le_mul_right denominator' high
    rw [swap, twice] at scaled
    exact Nat.le_of_mul_le_mul_right scaled positive
  · intro uneven
    have below := Nat.mul_lt_mul_of_pos_right (odd uneven).1 positive'
    have above := Nat.mul_lt_mul_of_pos_right (odd uneven).2 positive'
    rw [swap, twice] at below above
    exact ⟨Nat.lt_of_mul_lt_mul_right below, Nat.lt_of_mul_lt_mul_right above⟩

private theorem scale_eq {numerator denominator scale : Nat} (positive : 0 < denominator)
    (low : scale = 0 ∨ 4503599627370496 * (denominator * 2 ^ scale) ≤ numerator)
    (high : numerator < 9007199254740992 * (denominator * 2 ^ scale)) :
    (numerator / denominator).log2 - 52 = scale := by
  have above : numerator / denominator < 2 ^ (53 + scale) := by
    rw [Nat.div_lt_iff_lt_mul positive, Nat.pow_add]
    calc numerator < 9007199254740992 * (denominator * 2 ^ scale) := high
      _ = 2 ^ 53 * 2 ^ scale * denominator := by ring
  rcases low with rfl | low
  · by_cases empty : numerator / denominator = 0
    · simp [empty]
    · have bound := (Nat.log2_lt empty).mpr above
      omega
  · have below : 2 ^ (52 + scale) ≤ numerator / denominator := by
      rw [Nat.le_div_iff_mul_le positive, Nat.pow_add]
      calc 2 ^ 52 * 2 ^ scale * denominator
          = 4503599627370496 * (denominator * 2 ^ scale) := by ring
        _ ≤ numerator := low
    have present : numerator / denominator ≠ 0 := by
      have := Nat.two_pow_pos (52 + scale)
      omega
    have upper := (Nat.log2_lt present).mpr above
    have lower := (Nat.le_log2 present).mpr below
    omega

private theorem nearestCode_eq {numerator denominator scale significand : Nat}
    (exponent : (numerator / denominator).log2 - 52 = scale)
    (rounded : roundToEven numerator (denominator * 2 ^ scale) = significand) :
    nearestCode numerator denominator = min (scale * Nat.pow 2 52 + significand) infinityCode := by
  unfold nearestCode
  simp only [exponent, pow_eq] at rounded ⊢
  rw [rounded]

private theorem lower_midpoint {numerator denominator scale significand : Nat}
    (small : significand < 9007199254740992)
    (leading : scale = 0 ∨ 4503599627370496 ≤ significand)
    (inner : scale = 0 ∨ 4503599627370496 * (denominator * 2 ^ scale) ≤ numerator) :
    significand * (denominator * 2 ^ scale) ≤ numerator ∨
      (units (scale * Nat.pow 2 52 + significand - 1) +
        units (scale * Nat.pow 2 52 + significand)) * denominator + denominator * 2 ^ scale =
          2 * (significand * (denominator * 2 ^ scale)) := by
  by_cases least : significand = 0 ∨ (scale ≠ 0 ∧ significand = 4503599627370496)
  · left
    rcases least with rfl | ⟨positive, rfl⟩
    · simp
    · exact inner.resolve_left positive
  · right
    obtain ⟨smaller, rfl⟩ := Nat.exists_eq_succ_of_ne_zero (not_or.mp least).1
    have below := units_scaled (show Scaled scale smaller from ⟨by omega, by omega⟩)
    have here := units_scaled (show Scaled scale (smaller + 1) from ⟨by omega, leading⟩)
    rw [Nat.succ_eq_add_one, ← Nat.add_assoc, Nat.add_sub_cancel, Nat.add_assoc, below, here]
    ring

/-- The midpoint below the least magnitude of a scale is half a step of the next smaller scale away,
and the midpoint below any other magnitude of the scale is not below the scale. -/
private theorem crossing_midpoint {numerator denominator smaller significand : Nat}
    (positive : 0 < denominator) (small : significand < 9007199254740992)
    (leading : 4503599627370496 ≤ significand)
    (below : numerator < 9007199254740992 * (denominator * 2 ^ smaller))
    (low : (units ((smaller + 1) * Nat.pow 2 52 + significand - 1) +
      units ((smaller + 1) * Nat.pow 2 52 + significand)) * denominator ≤ 2 * numerator) :
    significand = 4503599627370496 ∧
      18014398509481983 * (denominator * 2 ^ smaller) ≤ 2 * numerator := by
  have here := units_scaled
    (show Scaled (smaller + 1) significand from ⟨Nat.le_of_lt small, .inr leading⟩)
  rcases Nat.eq_or_lt_of_le leading with rfl | above
  · have before : (smaller + 1) * Nat.pow 2 52 + 4503599627370496 - 1 =
        smaller * Nat.pow 2 52 + 9007199254740991 := by
      rw [pow_two_52]
      omega
    rw [here, before, units_scaled ⟨by omega, by omega⟩] at low
    refine ⟨rfl, Nat.le_trans (Nat.le_of_eq ?_) low⟩
    ring
  · exfalso
    obtain ⟨less, rfl⟩ := Nat.exists_eq_succ_of_ne_zero (show significand ≠ 0 by omega)
    rw [here, Nat.succ_eq_add_one, ← Nat.add_assoc, Nat.add_sub_cancel,
      units_scaled ⟨by omega, by omega⟩] at low
    have step : 0 < denominator * 2 ^ smaller := Nat.mul_pos positive (Nat.two_pow_pos smaller)
    have far : 4503599627370496 * (denominator * 2 ^ smaller) ≤
        less * (denominator * 2 ^ smaller) := Nat.mul_le_mul_right _ (by omega)
    have spread : (less * 2 ^ (smaller + 1) + (less + 1) * 2 ^ (smaller + 1)) * denominator =
        4 * (less * (denominator * 2 ^ smaller)) + 2 * (denominator * 2 ^ smaller) := by ring
    omega

/-- A quotient rounds to the code that it is nearest to, and to infinity where that is not finite. -/
theorem nearestCode_eq_min {code numerator denominator : Nat} (positive : 0 < denominator)
    (nearest : Nearest code numerator denominator) :
    nearestCode numerator denominator = min code infinityCode := by
  obtain ⟨scale, significand, rfl, small, leading⟩ := exists_scaled code
  obtain ⟨low, high, odd⟩ := nearest
  have here := units_scaled ⟨Nat.le_of_lt small, leading⟩
  have next : units (scale * Nat.pow 2 52 + significand + 1) = (significand + 1) * 2 ^ scale := by
    rw [Nat.add_assoc]
    exact units_scaled ⟨small, leading.imp_right fun set => Nat.le_succ_of_le set⟩
  have step : 0 < denominator * 2 ^ scale := Nat.mul_pos positive (Nat.two_pow_pos scale)
  have parity : (scale * Nat.pow 2 52 + significand) % 2 = significand % 2 := by
    rw [pow_two_52]
    omega
  have upper : (units (scale * Nat.pow 2 52 + significand) +
      units (scale * Nat.pow 2 52 + significand + 1)) * denominator =
        2 * (significand * (denominator * 2 ^ scale)) + denominator * 2 ^ scale := by
    rw [here, next]
    ring
  have ceiling : (significand + 1) * (denominator * 2 ^ scale) ≤
      9007199254740992 * (denominator * 2 ^ scale) := Nat.mul_le_mul_right _ small
  rw [upper] at high odd
  rw [parity] at odd
  by_cases inner : scale = 0 ∨ 4503599627370496 * (denominator * 2 ^ scale) ≤ numerator
  · have exponent := scale_eq positive inner (by
      rw [Nat.add_mul] at ceiling
      omega)
    have midpoint := lower_midpoint small leading inner
    refine nearestCode_eq exponent (roundToEven_eq step ?_ high fun uneven => ⟨?_, ?_⟩)
    · omega
    · have strict := (odd uneven).1
      omega
    · exact (odd uneven).2
  · -- The quotient lies below the least magnitude of its scale, so that it is rounded at the next
    -- smaller scale, up to the greatest significand and one more.
    obtain ⟨positiveScale, below⟩ := not_or.mp inner
    obtain ⟨smaller, rfl⟩ := Nat.exists_eq_succ_of_ne_zero positiveScale
    have half : denominator * 2 ^ (smaller + 1) = 2 * (denominator * 2 ^ smaller) := by ring
    rw [Nat.succ_eq_add_one, half] at below
    obtain ⟨rfl, near⟩ := crossing_midpoint positive small (leading.resolve_left positiveScale)
      (by omega) low
    have exponent : (numerator / denominator).log2 - 52 = smaller :=
      scale_eq positive (.inr (by omega)) (by omega)
    have rounded : roundToEven numerator (denominator * 2 ^ smaller) = 9007199254740992 :=
      roundToEven_eq (Nat.mul_pos positive (Nat.two_pow_pos smaller)) (by omega) (by omega)
        (by omega)
    have code : (smaller + 1) * Nat.pow 2 52 + 4503599627370496 =
        smaller * Nat.pow 2 52 + 9007199254740992 := by
      rw [pow_two_52]
      omega
    rw [Nat.succ_eq_add_one, code]
    exact nearestCode_eq exponent rounded

theorem nearestCode_of_nearest {code numerator denominator : Nat} (positive : 0 < denominator)
    (finite : code ≤ infinityCode) (nearest : Nearest code numerator denominator) :
    nearestCode numerator denominator = code := by
  rw [nearestCode_eq_min positive nearest, Nat.min_eq_left finite]

end RequestParams.Binary64
