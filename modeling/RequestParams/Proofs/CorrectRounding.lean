import Mathlib.Algebra.Order.Archimedean.Basic
import Mathlib.Algebra.Order.Field.Power
import Mathlib.Data.Rat.Cast.Order
import Mathlib.Tactic.FieldSimp
import Mathlib.Tactic.Positivity
import RequestParams.Proofs.ShortestDecimal

set_option autoImplicit false
set_option relaxedAutoImplicit false

/-!
Decimal numbers are rounded correctly.  Every rational number lies between the midpoints around the
magnitude of one code; that code is what a decimal number of this value is read as, no finite number
is nearer, and it is finite up to half a step above the greatest finite magnitude.
-/

namespace RequestParams

def signum (negative : Bool) : ℚ := if negative then -1 else 1

theorem signum_mul_signum (negative : Bool) : signum negative * signum negative = 1 := by
  cases negative <;> norm_num [signum]

theorem abs_signum (negative : Bool) : |signum negative| = 1 := by
  cases negative <;> norm_num [signum]

namespace Decimal

def size (x : Decimal) : ℚ := x.coefficient * 10 ^ x.exponent

def value (x : Decimal) : ℚ := signum x.negative * x.size

end Decimal

namespace Binary64

/-- The least positive magnitude, of which all magnitudes are multiples. -/
def unit : ℚ := 1 / 2 ^ 1074

def value (x : Binary64) : ℚ := signum x.negative * (units x.magnitude.val * unit)

/-- Whether a finite number is the nearest to a rational number: none is nearer, and where another
is equally near its last bit is zero. -/
structure IsNearest (x : Binary64) (exact : ℚ) : Prop where
  finite : x.isFinite = true
  nearest : ∀ y : Binary64, y.isFinite = true → |x.value - exact| ≤ |y.value - exact|
  even : ∀ y : Binary64, y.isFinite = true → y.value ≠ x.value →
    |y.value - exact| = |x.value - exact| → x.magnitude.val % 2 = 0

/-- Whether a number of units lies between the midpoints around the magnitude of a code, and on one
of them only if the code is even. -/
structure Around (code : Nat) (count : ℚ) : Prop where
  low : (units (code - 1) + units code : ℚ) ≤ 2 * count
  high : 2 * count ≤ units code + units (code + 1)
  odd : code % 2 = 1 → (units (code - 1) + units code : ℚ) < 2 * count ∧
    2 * count < units code + units (code + 1)

theorem unit_pos : 0 < unit := by
  unfold unit
  positivity

theorem units_strictMono : StrictMono units := strictMono_nat_of_lt_succ units_lt_succ

theorem units_zero : units 0 = 0 := by decide

variable {code : Nat} {count : ℚ}

private theorem cast_units_lt {less more : Nat} (before : less < more) :
    (units less : ℚ) < units more := by
  exact_mod_cast units_strictMono before

private theorem cast_units_pred_le (code : Nat) : (units (code - 1) : ℚ) ≤ units code := by
  exact_mod_cast units_strictMono.monotone (Nat.sub_le code 1)

private theorem around_below (low : (units code : ℚ) ≤ count)
    (high : 2 * count ≤ units code + units (code + 1))
    (odd : code % 2 = 1 → 2 * count < units code + units (code + 1)) : Around code count := by
  have previous := cast_units_pred_le code
  refine ⟨by linarith, high, fun uneven => ⟨?_, odd uneven⟩⟩
  have strict := cast_units_lt (Nat.sub_lt (show 0 < code by omega) Nat.one_pos)
  linarith

private theorem around_above (low : (units code + units (code + 1) : ℚ) ≤ 2 * count)
    (high : count < units (code + 1))
    (odd : (code + 1) % 2 = 1 → (units code + units (code + 1) : ℚ) < 2 * count) :
    Around (code + 1) count := by
  have next := cast_units_lt (Nat.lt_succ_self (code + 1))
  refine ⟨low, by linarith, fun uneven => ⟨odd uneven, by linarith⟩⟩

/-- Every number of units lies around some magnitude. -/
theorem exists_around (positive : 0 ≤ count) : ∃ code, Around code count := by
  have above : ∃ code, count < units code := by
    obtain ⟨code, more⟩ := exists_nat_gt count
    exact ⟨code, lt_of_lt_of_le more (by exact_mod_cast units_strictMono.le_apply)⟩
  obtain ⟨code, least⟩ : ∃ code, Nat.find above = code + 1 := by
    refine Nat.exists_eq_succ_of_ne_zero fun none => ?_
    have more := Nat.find_spec above
    rw [none, units_zero] at more
    exact absurd more (not_lt.mpr (by exact_mod_cast positive))
  have high : count < units (code + 1) := least ▸ Nat.find_spec above
  have low : (units code : ℚ) ≤ count := not_lt.mp (Nat.find_min above (by omega))
  rcases lt_trichotomy (2 * count) (units code + units (code + 1)) with below | middle | beyond
  · exact ⟨code, around_below low below.le fun _ => below⟩
  · -- Halfway between two magnitudes the even code is taken.
    rcases Nat.mod_two_eq_zero_or_one code with even | odd
    · exact ⟨code, around_below low middle.le (by omega)⟩
    · exact ⟨code + 1, around_above middle.ge high (by omega)⟩
  · exact ⟨code + 1, around_above beyond.le high fun _ => beyond⟩

theorem Around.nearest {numerator denominator : Nat} (around : Around code count)
    (positive : 0 < denominator) (exact : count * denominator = numerator) :
    Nearest code numerator denominator := by
  have scaled : (0 : ℚ) < denominator := by exact_mod_cast positive
  have twice : (2 : ℚ) * numerator = 2 * count * denominator := by rw [← exact]; ring
  obtain ⟨low, high, odd⟩ := around
  constructor
  · have bound := mul_le_mul_of_nonneg_right low scaled.le
    rw [← twice] at bound
    exact_mod_cast bound
  · have bound := mul_le_mul_of_nonneg_right high scaled.le
    rw [← twice] at bound
    exact_mod_cast bound
  · intro uneven
    have below := mul_lt_mul_of_pos_right (odd uneven).1 scaled
    have above := mul_lt_mul_of_pos_right (odd uneven).2 scaled
    rw [← twice] at below above
    exact ⟨by exact_mod_cast below, by exact_mod_cast above⟩

theorem Around.eq_zero (around : Around code count) (small : 2 * count < 1) : code = 0 := by
  by_contra some
  have least : (1 : ℚ) ≤ units code := by exact_mod_cast units_pos (Nat.pos_of_ne_zero some)
  have previous : (0 : ℚ) ≤ units (code - 1) := by positivity
  have low := around.low
  linarith

/-- The value at which infinity begins, half a step above the greatest finite magnitude. -/
def overflow : ℚ := 2 ^ 1024 - 2 ^ 970

section Powers

-- The exponents are variables here, so that no power is computed where it is rewritten.
variable {exponent high low : Nat}

private theorem cast_two_pow (exponent : Nat) :
    ((Nat.pow 2 exponent : Nat) : ℚ) = 2 ^ exponent := by
  rw [pow_eq, Nat.cast_pow, Nat.cast_ofNat]

private theorem unit_eq (named : exponent = 1074) : unit = 1 / (Nat.pow 2 exponent : Nat) := by
  rw [cast_two_pow, named, unit]

private theorem overflow_eq (top : high = 1024) (half : low = 970) :
    overflow = (Nat.pow 2 high : Nat) - (Nat.pow 2 low : Nat) := by
  rw [cast_two_pow, cast_two_pow, top, half, overflow]

private theorem units_infinityCode (named : exponent = 1074) (top : high = 1024)
    (half : low = 970) :
    units (infinityCode - 1) + units infinityCode + 2 * Nat.pow 2 low * Nat.pow 2 exponent =
      2 * Nat.pow 2 high * Nat.pow 2 exponent := by
  subst named top half
  decide +kernel

private theorem two_units_le (named : exponent = 1074) : 2 * Nat.pow 2 exponent ≤ 10 ^ 331 := by
  subst named
  decide +kernel

private theorem units_overflow :
    (units (infinityCode - 1) + units infinityCode : ℚ) = 2 * (overflow / unit) := by
  obtain ⟨exponent, named⟩ : ∃ exponent, exponent = 1074 := ⟨_, rfl⟩
  obtain ⟨high, top⟩ : ∃ high, high = 1024 := ⟨_, rfl⟩
  obtain ⟨low, half⟩ : ∃ low, low = 970 := ⟨_, rfl⟩
  have sum : (units (infinityCode - 1) + units infinityCode +
      2 * (Nat.pow 2 low : Nat) * (Nat.pow 2 exponent : Nat) : ℚ) =
        2 * (Nat.pow 2 high : Nat) * (Nat.pow 2 exponent : Nat) := by
    exact_mod_cast units_infinityCode named top half
  rw [overflow_eq top half, unit_eq named, div_div_eq_mul_div, div_one]
  linarith

end Powers

theorem Around.lt_infinityCode_iff {exact : ℚ} (around : Around code (exact / unit)) :
    code < infinityCode ↔ exact < overflow := by
  have edge := units_overflow
  have last : infinityCode - 1 + 1 = infinityCode := by decide
  obtain ⟨low, high, odd⟩ := around
  rw [← div_lt_div_iff_of_pos_right unit_pos]
  constructor
  · intro finite
    rcases Nat.eq_or_lt_of_le (Nat.le_sub_one_of_lt finite) with rfl | before
    · have below := (odd (by decide)).2
      rw [last] at below
      linarith
    · have here := cast_units_lt before
      have next := cast_units_lt (show code + 1 < infinityCode by omega)
      linarith
  · intro below
    by_contra infinite
    have here : (units infinityCode : ℚ) ≤ units code := by
      exact_mod_cast units_strictMono.monotone (not_lt.mp infinite)
    have previous : (units (infinityCode - 1) : ℚ) ≤ units (code - 1) := by
      exact_mod_cast units_strictMono.monotone (Nat.sub_le_sub_right (not_lt.mp infinite) 1)
    linarith

end Binary64

namespace Decimal

variable {x : Decimal}

theorem size_nonneg (x : Decimal) : 0 ≤ x.size := by
  unfold size
  positivity

theorem abs_value (x : Decimal) : |x.value| = x.size := by
  rw [value, abs_mul, abs_signum, one_mul, abs_of_nonneg x.size_nonneg]

private theorem size_lt (x : Decimal) : x.size < 10 ^ (digitCount x.coefficient + x.exponent) := by
  have digits : (x.coefficient : ℚ) < 10 ^ digitCount x.coefficient := by
    exact_mod_cast lt_pow_digitCount x.coefficient
  rw [zpow_add₀ (by norm_num), zpow_natCast]
  exact mul_lt_mul_of_pos_right digits (by positivity)

private theorem le_size (present : 0 < x.coefficient) :
    10 ^ (digitCount x.coefficient + x.exponent - 1) ≤ x.size := by
  have some : 0 < digitCount x.coefficient := Nat.length_toDigits_pos
  have digits : (10 : ℚ) ^ (digitCount x.coefficient - 1) ≤ x.coefficient := by
    exact_mod_cast pow_le_of_lt_digitCount present (Nat.sub_lt some Nat.one_pos)
  have position : (digitCount x.coefficient + x.exponent - 1 : ℤ) =
      (digitCount x.coefficient - 1 : Nat) + x.exponent := by omega
  rw [position, zpow_add₀ (by norm_num), zpow_natCast]
  exact mul_le_mul_of_nonneg_right digits (by positivity)

theorem overflow_le_size (present : 0 < x.coefficient)
    (above : 310 < (digitCount x.coefficient + x.exponent : ℤ)) : Binary64.overflow ≤ x.size := by
  have power : (2 : ℚ) ^ 1024 ≤ 10 ^ 310 := by
    exact_mod_cast (by decide +kernel : 2 ^ 1024 ≤ 10 ^ 310)
  calc Binary64.overflow ≤ 2 ^ 1024 := sub_le_self _ (by positivity)
    _ ≤ 10 ^ (310 : ℤ) := by exact_mod_cast power
    _ ≤ 10 ^ (digitCount x.coefficient + x.exponent - 1) :=
      zpow_le_zpow_right₀ (by norm_num) (by omega)
    _ ≤ x.size := le_size present

theorem size_lt_half_unit (below : (digitCount x.coefficient + x.exponent : ℤ) < -330) :
    2 * x.size < Binary64.unit := by
  obtain ⟨exponent, named⟩ : ∃ exponent, exponent = 1074 := ⟨_, rfl⟩
  have power : (2 : ℚ) * (Nat.pow 2 exponent : Nat) ≤ 10 ^ 331 := by
    exact_mod_cast Binary64.two_units_le named
  have some : (0 : ℚ) < (Nat.pow 2 exponent : Nat) := by
    rw [Binary64.cast_two_pow]
    positivity
  have bound : x.size < 10 ^ (-331 : ℤ) :=
    lt_of_lt_of_le x.size_lt (zpow_le_zpow_right₀ (by norm_num) (by omega))
  rw [Binary64.unit_eq named, lt_div_iff₀ some]
  calc 2 * x.size * (Nat.pow 2 exponent : Nat) = x.size * (2 * (Nat.pow 2 exponent : Nat)) := by
        ring
    _ < 10 ^ (-331 : ℤ) * (2 * (Nat.pow 2 exponent : Nat)) :=
      mul_lt_mul_of_pos_right bound (mul_pos two_pos some)
    _ ≤ 10 ^ (-331 : ℤ) * 10 ^ 331 := mul_le_mul_of_nonneg_left power (by positivity)
    _ = 1 := by
      rw [zpow_neg]
      exact inv_mul_cancel₀ (by positivity)

end Decimal

namespace Binary64

variable {code : Nat} {count : ℚ} {x : Decimal}

/-- A decimal number is read as the code that its value lies around, or as infinity. -/
theorem codeOfDecimal_of_around (around : Around code (x.size / unit)) :
    codeOfDecimal x = min code infinityCode := by
  have zero (small : 2 * (x.size / unit) < 1) : min code infinityCode = 0 := by
    rw [around.eq_zero small, Nat.zero_min]
  obtain ⟨power, named⟩ : ∃ power, power = 1074 := ⟨_, rfl⟩
  unfold codeOfDecimal
  simp only [← named]
  split_ifs with absent above below whole
  · refine (zero ?_).symm
    simp [Decimal.size, absent]
  · have infinite := around.lt_infinityCode_iff.not.mpr
      (not_lt.mpr (Decimal.overflow_le_size (Nat.pos_of_ne_zero absent) above))
    omega
  · refine (zero ?_).symm
    rw [← mul_div_assoc, div_lt_one unit_pos]
    exact Decimal.size_lt_half_unit below
  · obtain ⟨shift, exponent⟩ := Int.eq_ofNat_of_zero_le whole
    refine nearestCode_eq_min Nat.one_pos (around.nearest Nat.one_pos ?_)
    rw [unit_eq named, Decimal.size, exponent]
    generalize Nat.pow 2 power = scale
    simp only [pow_eq, zpow_natCast, Int.toNat_natCast]
    push_cast
    field_simp
  · obtain ⟨shift, exponent⟩ := Int.exists_eq_neg_ofNat (le_of_not_ge whole)
    have some : 0 < Nat.pow 10 (-x.exponent).toNat := Nat.pow_pos (by decide)
    refine nearestCode_eq_min some (around.nearest some ?_)
    rw [unit_eq named, Decimal.size, exponent]
    generalize Nat.pow 2 power = scale
    simp only [pow_eq, zpow_neg, zpow_natCast, neg_neg, Int.toNat_natCast]
    push_cast
    field_simp

theorem Around.closer (around : Around code count) {other : Nat} (apart : other ≠ code) :
    |units code - count| ≤ |units other - count| ∧
      (code % 2 = 1 → |units code - count| < |units other - count|) := by
  obtain ⟨low, high, odd⟩ := around
  rcases Nat.lt_or_gt_of_ne apart with below | above
  · have before := cast_units_lt below
    have previous : (units other : ℚ) ≤ units (code - 1) := by
      exact_mod_cast units_strictMono.monotone (Nat.le_sub_one_of_lt below)
    have far := neg_le_abs (units other - count)
    refine ⟨(abs_le.mpr ⟨by linarith, by linarith⟩).trans far, fun uneven => ?_⟩
    have strict := (odd uneven).1
    exact (abs_lt.mpr ⟨by linarith, by linarith⟩).trans_le far
  · have behind := cast_units_lt above
    have next : (units (code + 1) : ℚ) ≤ units other := by
      exact_mod_cast units_strictMono.monotone above
    have far := le_abs_self (units other - count)
    refine ⟨(abs_le.mpr ⟨by linarith, by linarith⟩).trans far, fun uneven => ?_⟩
    have strict := (odd uneven).2
    exact (abs_lt.mpr ⟨by linarith, by linarith⟩).trans_le far

section Signed

variable {negative : Bool} {exact : ℚ}

private theorem abs_sub_signum_mul (negative : Bool) (left right : ℚ) :
    |left - signum negative * right| = |signum negative * left - right| := by
  have flipped : signum negative * (left - signum negative * right) =
      signum negative * left - right := by
    rw [mul_sub, ← mul_assoc, signum_mul_signum, one_mul]
  rw [← flipped, abs_mul, abs_signum, one_mul]

private theorem abs_signum_mul_value (negative : Bool) (y : Binary64) :
    |signum negative * y.value| = units y.magnitude.val * unit := by
  rw [abs_mul, abs_signum, one_mul, value, abs_mul, abs_signum, one_mul]
  exact abs_of_nonneg (mul_nonneg (Nat.cast_nonneg _) unit_pos.le)

private theorem abs_value_sub (x : Binary64) :
    |x.value - exact| = |units x.magnitude.val * unit - signum x.negative * exact| := by
  rw [abs_sub_comm, value, abs_sub_signum_mul, abs_sub_comm]

private theorem abs_units_sub (code : Nat) (exact : ℚ) :
    |units code * unit - exact| = |units code - exact / unit| * unit := by
  have scaled : units code * unit - exact = (units code - exact / unit) * unit := by
    rw [sub_mul, div_mul_cancel₀ _ unit_pos.ne']
  rw [scaled, abs_mul, abs_of_pos unit_pos]

theorem value_ofCode (finite : code < infinityCode) :
    (ofCode negative code).value = signum negative * (units code * unit) := by
  have code : (ofCode negative code).magnitude.val = code := Nat.min_eq_left finite.le
  rw [value, code]
  rfl

private theorem abs_ofCode_sub (finite : code < infinityCode) :
    |(ofCode negative code).value - signum negative * exact| =
      |units code - exact / unit| * unit := by
  rw [abs_sub_signum_mul, value_ofCode finite, ← mul_assoc, signum_mul_signum, one_mul,
    abs_units_sub]

private theorem abs_units_sub_le (positive : 0 ≤ exact) (negative : Bool) (y : Binary64) :
    |units y.magnitude.val - exact / unit| * unit ≤ |y.value - signum negative * exact| := by
  have sizes := abs_abs_sub_abs_le (signum negative * y.value) exact
  rwa [abs_signum_mul_value, abs_of_nonneg positive, abs_units_sub,
    ← abs_sub_signum_mul] at sizes

private theorem opposite_of_ne {y : Binary64} (finite : code < infinityCode)
    (same : y.magnitude.val = code) (apart : y.value ≠ (ofCode negative code).value) :
    signum negative * y.value = -(units code * unit) := by
  have size : (0 : ℚ) ≤ units code * unit := mul_nonneg (Nat.cast_nonneg _) unit_pos.le
  refine ((abs_eq size).mp (same ▸ abs_signum_mul_value negative y)).resolve_left fun agreed => ?_
  refine apart ?_
  rw [value_ofCode finite, ← agreed, ← mul_assoc, signum_mul_signum, one_mul]

theorem Around.isNearest (around : Around code (exact / unit)) (positive : 0 ≤ exact)
    (finite : code < infinityCode) :
    (ofCode negative code).IsNearest (signum negative * exact) := by
  have magnitude : (ofCode negative code).magnitude.val = code := Nat.min_eq_left finite.le
  refine ⟨by simpa [isFinite, magnitude] using finite, fun y _ => ?_, fun y _ apart tied => ?_⟩
  · rw [abs_ofCode_sub finite]
    refine le_trans (mul_le_mul_of_nonneg_right ?_ unit_pos.le)
      (abs_units_sub_le positive negative y)
    by_cases same : y.magnitude.val = code
    · rw [same]
    · exact (around.closer same).1
  · rw [magnitude]
    by_contra even
    have odd : code % 2 = 1 := Nat.mod_two_ne_zero.mp even
    by_cases same : y.magnitude.val = code
    · -- A number and its opposite are equally near only to zero, which lies around an even code.
      have size : 0 < (units code : ℚ) * unit :=
        mul_pos (by exact_mod_cast units_pos (show 0 < code by omega)) unit_pos
      rw [abs_ofCode_sub finite, abs_sub_signum_mul, opposite_of_ne finite same apart,
        ← abs_units_sub] at tied
      have none : exact = 0 := by
        rcases abs_eq_abs.mp tied with equal | mirrored <;> linarith
      have first : code = 0 := around.eq_zero (by rw [none]; norm_num)
      omega
    · have closer := mul_lt_mul_of_pos_right ((around.closer same).2 odd) unit_pos
      have bound := abs_units_sub_le positive negative y
      rw [tied, abs_ofCode_sub finite] at bound
      exact absurd bound (not_le.mpr closer)

private theorem abs_sub_lt_of_between {less middle more : ℚ} (low : less < middle)
    (high : middle < more) (tied : |less - exact| = |more - exact|) :
    |middle - exact| < |less - exact| := by
  rcases abs_eq_abs.mp tied with same | mirrored
  · linarith
  · have inside : |middle - exact| < exact - less := abs_lt.mpr ⟨by linarith, by linarith⟩
    have outside := neg_le_abs (less - exact)
    linarith

/-- Only one number of a sign is the nearest to a value. -/
theorem IsNearest.unique {x y : Binary64} (first : x.IsNearest exact) (second : y.IsNearest exact)
    (sign : x.negative = y.negative) : x = y := by
  by_contra apart
  have magnitudes : x.magnitude.val ≠ y.magnitude.val := by
    obtain ⟨_, _⟩ := x
    obtain ⟨_, _⟩ := y
    exact fun same => apart (by rw [mk.injEq]; exact ⟨sign, Fin.ext same⟩)
  wlog below : x.magnitude.val < y.magnitude.val generalizing x y
  · exact this second first sign.symm (Ne.symm apart) magnitudes.symm (by omega)
  have finite : y.magnitude.val < infinityCode := by simpa [isFinite] using second.finite
  have farther : (units x.magnitude.val * unit : ℚ) < units y.magnitude.val * unit :=
    mul_lt_mul_of_pos_right (cast_units_lt below) unit_pos
  have values : y.value ≠ x.value := by
    intro same
    have sizes := abs_signum_mul_value false y
    rw [same, abs_signum_mul_value] at sizes
    exact absurd sizes farther.ne
  have tied : |y.value - exact| = |x.value - exact| :=
    le_antisymm (second.nearest x first.finite) (first.nearest y second.finite)
  -- Both codes are even, so that another magnitude lies between them, and nearer than either.
  have even := first.even y second.finite values tied
  have even' := second.even x first.finite values.symm tied.symm
  have between : x.magnitude.val + 1 < y.magnitude.val := by omega
  let middle := ofCode x.negative (x.magnitude.val + 1)
  have magnitude : middle.magnitude.val = x.magnitude.val + 1 :=
    Nat.min_eq_left (between.trans finite).le
  have closest := first.nearest middle (by simpa [isFinite, magnitude] using between.trans finite)
  have low : (units x.magnitude.val * unit : ℚ) < units middle.magnitude.val * unit :=
    mul_lt_mul_of_pos_right (cast_units_lt (by omega)) unit_pos
  have high : (units middle.magnitude.val * unit : ℚ) < units y.magnitude.val * unit :=
    mul_lt_mul_of_pos_right (cast_units_lt (by omega)) unit_pos
  rw [abs_value_sub x, abs_value_sub y, ← sign] at tied
  rw [abs_value_sub x, abs_value_sub middle] at closest
  exact absurd closest (not_le.mpr (abs_sub_lt_of_between low high tied.symm))

end Signed

variable {x : Decimal}

theorem isFinite_ofDecimal_iff : (ofDecimal x).isFinite = true ↔ x.size < overflow := by
  obtain ⟨code, around⟩ := exists_around (div_nonneg x.size_nonneg unit_pos.le)
  rw [← around.lt_infinityCode_iff, ofDecimal, codeOfDecimal_of_around around]
  unfold isFinite ofCode
  rw [decide_eq_true_iff]
  show min (min code infinityCode) infinityCode < infinityCode ↔ code < infinityCode
  omega

theorem isNearest_ofDecimal (finite : (ofDecimal x).isFinite = true) :
    (ofDecimal x).IsNearest x.value := by
  obtain ⟨code, around⟩ := exists_around (div_nonneg x.size_nonneg unit_pos.le)
  have below : code < infinityCode :=
    around.lt_infinityCode_iff.mpr (isFinite_ofDecimal_iff.mp finite)
  rw [ofDecimal, codeOfDecimal_of_around around, Nat.min_eq_left below.le]
  exact around.isNearest x.size_nonneg below

end Binary64

end RequestParams
