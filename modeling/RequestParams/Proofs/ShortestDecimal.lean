import Mathlib.Tactic.Linarith
import Mathlib.Tactic.Ring
import RequestParams.Decimal.Shortest
import RequestParams.Proofs.NearestMagnitude

set_option autoImplicit false
set_option relaxedAutoImplicit false

/-!
The shortest decimal number of a finite number rounds to it.  A grid of seventeen digits is finer
than the distance between two magnitudes, so that one of its points rounds to the magnitude between
them, and every point that is found does.
-/

namespace RequestParams

theorem Decimal.lt_pow_digitCount (n : Nat) : n < 10 ^ digitCount n :=
  (Nat.length_toDigits_le_iff (by decide) Nat.length_toDigits_pos).mp (Nat.le_refl _)

theorem Decimal.pow_le_of_lt_digitCount {n k : Nat} (positive : 0 < n) (more : k < digitCount n) :
    10 ^ k ≤ n := by
  rcases Nat.eq_zero_or_pos k with rfl | some
  · exact positive
  · by_contra below
    have few := (Nat.length_toDigits_le_iff (by decide) some).mpr (Nat.lt_of_not_le below)
    exact absurd few (Nat.not_le_of_lt more)

namespace Binary64

theorem units_lt_succ (code : Nat) : units code < units (code + 1) := by
  obtain ⟨scale, significand, rfl, small, leading⟩ := exists_scaled code
  rw [Nat.add_assoc, units_scaled ⟨Nat.le_of_lt small, leading⟩,
    units_scaled ⟨small, leading.imp_right fun set => Nat.le_succ_of_le set⟩]
  exact Nat.mul_lt_mul_of_pos_right (Nat.lt_succ_self _) (Nat.two_pow_pos scale)

theorem units_pos {code : Nat} (positive : 0 < code) : 0 < units code := by
  obtain ⟨before, rfl⟩ := Nat.exists_eq_succ_of_ne_zero (Nat.ne_of_gt positive)
  exact Nat.lt_of_le_of_lt (Nat.zero_le _) (units_lt_succ before)

theorem units_succ_le {code : Nat} (finite : code < infinityCode) :
    units (code + 1) ≤ 2 ^ 2098 := by
  obtain ⟨scale, significand, rfl, small, leading⟩ := exists_scaled code
  have bound : scale ≤ 2045 := by
    rw [infinityCode, pow_two_52] at finite
    omega
  rw [Nat.add_assoc, units_scaled ⟨small, leading.imp_right fun set => Nat.le_succ_of_le set⟩]
  calc (significand + 1) * 2 ^ scale ≤ 2 ^ 53 * 2 ^ 2045 :=
        Nat.mul_le_mul small (pow_le_pow_right₀ one_le_two bound)
    _ = 2 ^ 2098 := by rw [← pow_add]

theorem roundsTo_iff (code scaled : Nat) :
    roundsTo code scaled = true ↔ Nearest code scaled (2 * 10 ^ headroom) := by
  have double (count : Nat) : count * (2 * 10 ^ headroom) = 2 * (count * 10 ^ headroom) := by ring
  unfold roundsTo
  simp only [pow_eq]
  split_ifs with even
  · simp only [Bool.and_eq_true, decide_eq_true_eq]
    constructor
    · rintro ⟨low, high⟩
      exact ⟨by rw [double]; omega, by rw [double]; omega, by omega⟩
    · rintro ⟨low, high, -⟩
      rw [double] at low high
      omega
  · simp only [Bool.and_eq_true, decide_eq_true_eq]
    constructor
    · rintro ⟨low, high⟩
      exact ⟨by rw [double]; omega, by rw [double]; omega, by rw [double, double]; omega⟩
    · rintro ⟨-, -, odd⟩
      rw [double, double] at odd
      omega

private theorem le_position {code coefficient shift unit room : Nat} (positive : 0 < code)
    (low : (units (code - 1) + units code) * (2 * room) ≤ 2 * (coefficient * 10 ^ shift * unit))
    (wide : 10 ^ 69 * unit < room) : 70 ≤ Decimal.digitCount coefficient + shift := by
  by_contra below
  have digits : coefficient * 10 ^ shift ≤ 10 ^ 69 := by
    calc coefficient * 10 ^ shift ≤ 10 ^ Decimal.digitCount coefficient * 10 ^ shift :=
          Nat.mul_le_mul_right _ (Nat.le_of_lt (Decimal.lt_pow_digitCount coefficient))
      _ = 10 ^ (Decimal.digitCount coefficient + shift) := (pow_add ..).symm
      _ ≤ 10 ^ 69 := pow_le_pow_right₀ (by decide) (by omega)
  have least := units_pos positive
  have scaled := Nat.mul_le_mul_right unit digits
  have spread := Nat.mul_le_mul_right (2 * room)
    (show 1 ≤ units (code - 1) + units code by omega)
  omega

private theorem position_le {code coefficient shift unit room top : Nat}
    (finite : units (code + 1) ≤ top) (present : 0 < coefficient)
    (high : 2 * (coefficient * 10 ^ shift * unit) ≤ (units code + units (code + 1)) * (2 * room))
    (wide : 2 * top * (2 * room) < 2 * (10 ^ 710 * unit)) :
    Decimal.digitCount coefficient + shift ≤ 710 := by
  by_contra above
  have some : 0 < Decimal.digitCount coefficient := Nat.length_toDigits_pos
  have digits : 10 ^ 710 ≤ coefficient * 10 ^ shift := by
    calc 10 ^ 710 ≤ 10 ^ (Decimal.digitCount coefficient - 1 + shift) :=
          pow_le_pow_right₀ (by decide) (by omega)
      _ = 10 ^ (Decimal.digitCount coefficient - 1) * 10 ^ shift := pow_add ..
      _ ≤ coefficient * 10 ^ shift := Nat.mul_le_mul_right _
          (Decimal.pow_le_of_lt_digitCount present (Nat.sub_lt some Nat.one_pos))
  have next := units_lt_succ code
  have scaled := Nat.mul_le_mul_right unit digits
  have spread := Nat.mul_le_mul_right (2 * room)
    (show units code + units (code + 1) ≤ 2 * top by omega)
  omega

private theorem Nearest.of_whole {code coefficient tens unit room : Nat} (positive : 0 < room)
    (nearest : Nearest code (coefficient * (room * tens) * (2 * unit)) (2 * room)) :
    Nearest code (coefficient * tens * unit) 1 :=
  nearest.of_eq (by omega) Nat.one_pos (by ring)

private theorem Nearest.of_fraction {code coefficient tens unit rest : Nat} (positive : 0 < rest)
    (split : 0 < tens)
    (nearest : Nearest code (coefficient * rest * (2 * unit)) (2 * (rest * tens))) :
    Nearest code (coefficient * unit) tens :=
  nearest.of_eq (by positivity) split (by ring)

theorem codeOfDecimal_of_roundsTo {code : Nat} {x : Decimal} (positive : 0 < code)
    (finite : code < infinityCode) (room : 0 ≤ headroom + x.exponent)
    (rounds : roundsTo code (x.coefficient * 10 ^ (headroom + x.exponent).toNat *
      Nat.pow 2 1075) = true) :
    codeOfDecimal x = code := by
  have nearest := (roundsTo_iff ..).mp rounds
  have present : 0 < x.coefficient := by
    by_contra absent
    have low := nearest.low
    have least := Nat.mul_pos (units_pos positive) (show 0 < 2 * 10 ^ headroom by positivity)
    rw [Nat.eq_zero_of_not_pos absent, Nat.add_mul] at low
    omega
  have low := le_position positive nearest.low (by decide +kernel)
  have high := position_le (units_succ_le finite) present nearest.high (by decide +kernel)
  have digits : (headroom : Int) = 400 := rfl
  -- The power of two is kept from being computed.
  obtain ⟨unit, named⟩ : ∃ unit, unit = Nat.pow 2 1074 := ⟨_, rfl⟩
  rw [show Nat.pow 2 1075 = 2 * Nat.pow 2 1074 by decide +kernel, ← named] at nearest
  unfold codeOfDecimal
  rw [if_neg (by omega), if_neg (by omega), if_neg (by omega), ← named]
  simp only [pow_eq]
  split_ifs with whole
  · have shift : 10 ^ (headroom + x.exponent).toNat = 10 ^ headroom * 10 ^ x.exponent.toNat := by
      rw [← pow_add]
      congr 1
      omega
    rw [shift] at nearest
    exact nearestCode_of_nearest Nat.one_pos (Nat.le_of_lt finite)
      (nearest.of_whole (by positivity))
  · have shift : 10 ^ headroom = 10 ^ (headroom + x.exponent).toNat * 10 ^ (-x.exponent).toNat := by
      rw [← pow_add]
      congr 1
      omega
    rw [shift] at nearest
    exact nearestCode_of_nearest (by positivity) (Nat.le_of_lt finite)
      (nearest.of_fraction (by positivity) (by positivity))

theorem roundsTo_of_onGrid {code step steps : Nat} (found : onGrid code step = some steps) :
    roundsTo code (steps * step) = true := by
  unfold onGrid at found
  simp only at found
  split at found
  · obtain rfl := Option.some.inj found
    split_ifs <;> assumption
  · obtain rfl := Option.some.inj found
    assumption
  · obtain rfl := Option.some.inj found
    assumption
  · exact absurd found (by simp)

/-- The midpoints around a magnitude are farther apart than a step of which the magnitude has ten to
the sixteenth. -/
private theorem units_spread {code : Nat} (positive : 0 < code) :
    2 * units code + 10000000000000000 * units (code - 1) <
      10000000000000000 * units (code + 1) := by
  obtain ⟨scale, significand, rfl, small, leading⟩ := exists_scaled code
  have step := Nat.two_pow_pos scale
  have here := units_scaled (show Scaled scale significand from ⟨Nat.le_of_lt small, leading⟩)
  have next := units_scaled (show Scaled scale (significand + 1) from
    ⟨small, leading.imp_right fun set => Nat.le_succ_of_le set⟩)
  have bound := Nat.mul_lt_mul_of_pos_right small step
  rw [← Nat.add_assoc, Nat.add_mul, Nat.one_mul] at next
  rw [here, next]
  by_cases least : scale ≠ 0 ∧ significand = 4503599627370496
  · have below := units_lt_succ (scale * Nat.pow 2 52 + significand - 1)
    rw [Nat.sub_add_cancel positive, here] at below
    rw [least.2] at below ⊢
    omega
  · obtain ⟨less, rfl⟩ := Nat.exists_eq_succ_of_ne_zero (show significand ≠ 0 by
      rw [pow_two_52] at positive
      omega)
    have below := units_scaled (show Scaled scale less from ⟨by omega, by omega⟩)
    rw [Nat.succ_eq_add_one, ← Nat.add_assoc, Nat.add_sub_cancel, below]
    rw [Nat.succ_eq_add_one, Nat.add_mul, Nat.one_mul] at bound
    rw [Nat.add_mul, Nat.one_mul]
    omega

private theorem roundsTo_of_between {code scaled : Nat}
    (low : (units (code - 1) + units code) * 10 ^ headroom < scaled)
    (high : scaled < (units code + units (code + 1)) * 10 ^ headroom) :
    roundsTo code scaled = true := by
  unfold roundsTo
  simp only [pow_eq]
  split_ifs <;> simp only [Bool.and_eq_true, decide_eq_true_eq] <;> omega

theorem onGrid_isSome {code step : Nat} (positive : 0 < code) (some : 0 < step)
    (fine : step * 10000000000000000 ≤ scaledDouble (units code)) :
    (onGrid code step).isSome = true := by
  have whole := Nat.div_add_mod (scaledDouble (units code)) step
  have rest := Nat.mod_lt (scaledDouble (units code)) some
  have spread := Nat.mul_lt_mul_of_pos_right (units_spread positive)
    (show 0 < 10 ^ headroom by positivity)
  have before := units_lt_succ (code - 1)
  rw [Nat.sub_add_cancel positive] at before
  have previous := Nat.mul_lt_mul_of_pos_right before (show 0 < 10 ^ headroom by positivity)
  have next := Nat.mul_lt_mul_of_pos_right (units_lt_succ code)
    (show 0 < 10 ^ headroom by positivity)
  have found : roundsTo code (scaledDouble (units code) / step * step) = true ∨
      roundsTo code ((scaledDouble (units code) / step + 1) * step) = true := by
    have exact : scaledDouble (units code) = 2 * (units code * 10 ^ headroom) := by
      rw [scaledDouble, pow_eq, Nat.mul_assoc]
    rw [Nat.mul_comm] at whole
    by_cases inside : (units (code - 1) + units code) * 10 ^ headroom <
        scaledDouble (units code) / step * step
    · refine .inl (roundsTo_of_between inside ?_)
      rw [Nat.add_mul]
      omega
    · refine .inr (roundsTo_of_between ?_ ?_)
      · rw [Nat.add_mul, Nat.add_mul]
        omega
      · rw [Nat.add_mul] at inside ⊢
        rw [Nat.add_mul]
        simp only [Nat.add_mul, Nat.mul_assoc] at spread
        omega
  unfold onGrid
  simp only
  rcases found with below | above
  · rw [below]
    cases roundsTo code ((scaledDouble (units code) / step + 1) * step) <;> rfl
  · rw [above]
    cases roundsTo code (scaledDouble (units code) / step * step) <;> rfl

private theorem position_bound {code : Nat} (positive : 0 < code) :
    77 ≤ Decimal.digitCount (scaledDouble (units code) / Nat.pow 2 1075) ∧
      10 ^ (Decimal.digitCount (scaledDouble (units code) / Nat.pow 2 1075) - 1) *
        Nat.pow 2 1075 ≤ scaledDouble (units code) := by
  have unit : 0 < Nat.pow 2 1075 := by decide +kernel
  have least : 10 ^ 76 * Nat.pow 2 1075 ≤ scaledDouble (units code) := by
    calc 10 ^ 76 * Nat.pow 2 1075 ≤ 2 * 1 * Nat.pow 10 headroom := by decide +kernel
      _ ≤ 2 * units code * Nat.pow 10 headroom :=
        Nat.mul_le_mul_right _ (Nat.mul_le_mul_left 2 (units_pos positive))
  have quotient := (Nat.le_div_iff_mul_le unit).mpr least
  have digits := Nat.lt_of_le_of_lt quotient (Decimal.lt_pow_digitCount _)
  have count := (Nat.pow_lt_pow_iff_right (by decide)).mp digits
  refine ⟨count, (Nat.le_div_iff_mul_le unit).mp (Decimal.pow_le_of_lt_digitCount ?_ ?_)⟩
  · exact Nat.lt_of_lt_of_le (by positivity) quotient
  · omega

theorem onGrid_seventeen {code : Nat} (positive : 0 < code) :
    (onGrid code (gridStep (position code) 17)).isSome = true := by
  obtain ⟨count, digits⟩ := position_bound positive
  have unit : 0 < Nat.pow 2 1075 := by decide +kernel
  unfold gridStep position
  generalize Decimal.digitCount (scaledDouble (units code) / Nat.pow 2 1075) = size at *
  have shift : ((headroom : Int) + ((size : Int) - headroom) - (17 : Nat)).toNat = size - 17 := by
    omega
  have split : 10 ^ (size - 1) = 10 ^ (size - 17) * 10000000000000000 := by
    rw [show size - 1 = size - 17 + 16 by omega, pow_add]
    norm_num
  rw [shift, pow_eq]
  rw [split, Nat.mul_right_comm] at digits
  exact onGrid_isSome positive (Nat.mul_pos (by positivity) unit) digits

private theorem exists_grid (negative : Bool) {code : Nat} (positive : 0 < code) :
    ∃ digits steps, digits ≤ 17 ∧ onGrid code (gridStep (position code) digits) = some steps ∧
      shortestOfCode negative code =
        if steps = Nat.pow 10 digits then ⟨negative, 1, position code⟩
        else ⟨negative, steps, position code - digits⟩ := by
  unfold shortestOfCode
  simp only
  cases found : (List.range 17).findSome? fun index =>
      (onGrid code (gridStep (position code) (index + 1))).map fun steps => (index + 1, steps) with
  | none =>
    have none := List.findSome?_eq_none_iff.mp found 16 (by simp)
    have some := onGrid_seventeen positive
    rw [Option.map_eq_none_iff] at none
    simp [none] at some
  | some answer =>
    obtain ⟨index, mem, hit⟩ := List.exists_of_findSome?_eq_some found
    obtain ⟨steps, point, rfl⟩ := Option.map_eq_some_iff.mp hit
    exact ⟨index + 1, steps, List.mem_range.mp mem, point, rfl⟩

theorem codeOfDecimal_shortestOfCode {negative : Bool} {code : Nat} (positive : 0 < code)
    (finite : code < infinityCode) : codeOfDecimal (shortestOfCode negative code) = code := by
  obtain ⟨digits, steps, few, hit, shortest⟩ := exists_grid negative positive
  have rounds := roundsTo_of_onGrid hit
  have room : 77 ≤ (headroom : Int) + position code := by
    have count := (position_bound positive).1
    unfold position
    omega
  rw [shortest]
  rw [gridStep, pow_eq 10, ← Nat.mul_assoc] at rounds
  rw [pow_eq]
  split_ifs with whole
  · refine codeOfDecimal_of_roundsTo positive finite (by simp only; omega) ?_
    have shift : 10 ^ digits * 10 ^ (headroom + position code - digits).toNat =
        1 * 10 ^ (headroom + position code).toNat := by
      rw [← pow_add, Nat.one_mul]
      congr 1
      omega
    rwa [whole, shift] at rounds
  · refine codeOfDecimal_of_roundsTo positive finite (by simp only; omega) ?_
    rwa [Int.add_sub_assoc] at rounds

theorem ofDecimal_shortest {x : Binary64} (finite : x.isFinite = true) :
    ofDecimal x.shortest = x := by
  obtain ⟨negative, ⟨code, bound⟩⟩ := x
  have below : code < infinityCode := by simpa [isFinite] using finite
  have least : min code infinityCode = code := Nat.min_eq_left (Nat.le_of_lt below)
  unfold shortest ofDecimal
  by_cases zero : code = 0
  · subst zero
    rfl
  · have positive := Nat.pos_of_ne_zero zero
    have sign : (shortestOfCode negative code).negative = negative := by
      obtain ⟨digits, steps, -, -, shortest⟩ := exists_grid negative positive
      rw [shortest]
      split_ifs <;> rfl
    simp only [if_neg zero, sign, codeOfDecimal_shortestOfCode positive below,
      ofCode, least]

end Binary64

end RequestParams
