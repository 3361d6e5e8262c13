import RequestParams.Proofs.JsonGrammar
import RequestParams.Proofs.ShortestDecimal

set_option autoImplicit false
set_option relaxedAutoImplicit false

/-!
The text of a finite floating-point number is a JSON number, and a reader that rounds to the nearest
number reads it as that number.
-/

namespace RequestParams

namespace Binary64

def nearest? : DigitReader := fun negative whole fraction exponent =>
  let nearest := ofDecimal
    ⟨negative, Nat.ofDigitChars 10 (whole ++ fraction) 0, exponent - fraction.length⟩
  if nearest.isFinite then some nearest else none

/-- Whether a reader takes digits for the number nearest to them. -/
def DigitReader.RoundsToNearest (digits : DigitReader) : Prop :=
  ∀ negative whole fraction exponent, (∀ c ∈ whole ++ fraction, c.isDigit = true) →
    digits negative whole fraction exponent = nearest? negative whole fraction exponent

example : ofDigits? false ['7'] [] 83 ≠ nearest? false ['7'] [] 83 := by decide +kernel

private theorem digitCount_shift {coefficient : Nat} (present : 0 < coefficient) (zeros : Nat) :
    Decimal.digitCount (coefficient * 10 ^ zeros) = Decimal.digitCount coefficient + zeros := by
  induction zeros with
  | zero => simp
  | succ zeros ih =>
    have longer := Nat.toDigits_append_toDigits (b := 10) (d := 0) (by decide)
      (Nat.mul_pos present (show 0 < 10 ^ zeros by positivity)) (by decide)
    have shifted : coefficient * 10 ^ (zeros + 1) = 10 * (coefficient * 10 ^ zeros) + 0 := by ring
    unfold Decimal.digitCount at ih ⊢
    rw [shifted, ← longer, List.length_append, ih, Nat.toDigits_zero, List.length_singleton,
      Nat.add_assoc]

private theorem roundToEven_expand (numerator denominator : Nat) {factor : Nat}
    (positive : 0 < factor) :
    roundToEven (numerator * factor) (denominator * factor) =
      roundToEven numerator denominator := by
  have assoc (rest : Nat) : 2 * (rest * factor) = 2 * rest * factor := (Nat.mul_assoc ..).symm
  unfold roundToEven
  simp only [Nat.mul_div_mul_right _ _ positive, Nat.mul_mod_mul_right, assoc,
    Nat.mul_lt_mul_right positive]

theorem nearestCode_expand (numerator denominator : Nat) {factor : Nat} (positive : 0 < factor) :
    nearestCode (numerator * factor) (denominator * factor) =
      nearestCode numerator denominator := by
  unfold nearestCode
  simp only [Nat.mul_div_mul_right _ _ positive, Nat.mul_right_comm denominator factor,
    roundToEven_expand _ _ positive]

private theorem nearestCode_shift (coefficient unit zeros : Nat) (exponent : Int) :
    (if 0 ≤ exponent - zeros then
        nearestCode (coefficient * 10 ^ zeros * Nat.pow 10 (exponent - zeros).toNat * unit) 1
      else nearestCode (coefficient * 10 ^ zeros * unit) (Nat.pow 10 (-(exponent - zeros)).toNat)) =
      if 0 ≤ exponent then nearestCode (coefficient * Nat.pow 10 exponent.toNat * unit) 1
      else nearestCode (coefficient * unit) (Nat.pow 10 (-exponent).toNat) := by
  simp only [pow_eq]
  split_ifs with both front
  · have split : 10 ^ exponent.toNat = 10 ^ zeros * 10 ^ (exponent - zeros).toNat := by
      rw [← pow_add]
      congr 1
      omega
    rw [split, Nat.mul_assoc coefficient]
  · omega
  · have split : 10 ^ zeros = 10 ^ exponent.toNat * 10 ^ (-(exponent - zeros)).toNat := by
      rw [← pow_add]
      congr 1
      omega
    have expanded := nearestCode_expand (coefficient * 10 ^ exponent.toNat * unit) 1
      (show 0 < 10 ^ (-(exponent - zeros)).toNat by positivity)
    rw [Nat.one_mul] at expanded
    rw [← expanded, split]
    congr 1
    ring
  · have split : 10 ^ (-(exponent - zeros)).toNat = 10 ^ (-exponent).toNat * 10 ^ zeros := by
      rw [← pow_add]
      congr 1
      omega
    have expanded := nearestCode_expand (coefficient * unit) (10 ^ (-exponent).toNat)
      (show 0 < 10 ^ zeros by positivity)
    rw [← expanded, split]
    congr 1
    ring

theorem codeOfDecimal_shift (x : Decimal) (zeros : Nat) :
    codeOfDecimal ⟨x.negative, x.coefficient * 10 ^ zeros, x.exponent - zeros⟩ =
      codeOfDecimal x := by
  by_cases absent : x.coefficient = 0
  · simp [codeOfDecimal, absent]
  · have present := Nat.pos_of_ne_zero absent
    have shifted : x.coefficient * 10 ^ zeros ≠ 0 :=
      Nat.ne_of_gt (Nat.mul_pos present (by positivity))
    have position : ((Decimal.digitCount x.coefficient + zeros : Nat) : Int) +
        (x.exponent - zeros) = Decimal.digitCount x.coefficient + x.exponent := by
      omega
    unfold codeOfDecimal
    simp only [digitCount_shift present, position]
    rw [if_neg absent, if_neg shifted, nearestCode_shift]

end Binary64

namespace Decimal

def written (x : Decimal) : WrittenNumber :=
  let digits := Nat.toDigits 10 x.coefficient
  let position : Int := digits.length + x.exponent
  if x.coefficient = 0 then ⟨x.negative, ['0'], ['0'], none⟩
  else if -4 ≤ position ∧ position ≤ 0 then
    ⟨x.negative, ['0'], List.replicate (-position).toNat '0' ++ digits, none⟩
  else if 0 < position ∧ position ≤ 16 then
    let fraction := digits.drop position.toNat
    ⟨x.negative, digits.take position.toNat ++ List.replicate x.exponent.toNat '0',
      if fraction.isEmpty then ['0'] else fraction, none⟩
  else ⟨x.negative, digits.take 1, digits.drop 1, some (position - 1)⟩

theorem leading_digit {n : Nat} (positive : 0 < n) :
    ∃ first rest, Nat.toDigits 10 n = first :: rest ∧ first ≠ '0' := by
  induction n using Nat.strongRecOn with
  | ind n ih =>
    by_cases small : n < 10
    · refine ⟨_, [], Nat.toDigits_of_lt_base small, ?_⟩
      rw [ne_eq, Nat.digitChar_eq_zero]
      omega
    · obtain ⟨first, rest, digits, nonzero⟩ := ih (n / 10) (by omega) (by omega)
      rw [Nat.toDigits_of_base_le (by decide) (by omega), digits]
      exact ⟨first, _, rfl, nonzero⟩

private theorem spellsFraction_digits {digits : List Char} (row : ∀ c ∈ digits, c.isDigit = true) :
    SpellsFraction digits (if digits.isEmpty then [] else '.' :: digits) := by
  split_ifs with none
  · rw [List.isEmpty_iff.mp none]
    exact .absent
  · exact .present ⟨row, by simpa using none⟩

private theorem spellsExponent_signed (exponent : Int) :
    SpellsExponent (some exponent)
      ('e' :: ((if exponent < 0 then ['-'] else ['+']) ++ Nat.toDigits 10 exponent.natAbs)) := by
  have row : IsDigits (Nat.toDigits 10 exponent.natAbs) :=
    ⟨fun c mem => Nat.isDigit_of_mem_toDigits (by decide) (by decide) mem, Nat.toDigits_ne_nil⟩
  split_ifs with negative
  · have value : -((exponent.natAbs : Nat) : Int) = exponent := by omega
    have spelled := SpellsExponent.minus (.inl (Eq.refl 'e')) row
    rwa [Nat.ofDigitChars_ten_toDigits, value] at spelled
  · have value : ((exponent.natAbs : Nat) : Int) = exponent := by omega
    have spelled := SpellsExponent.plus (.inl (Eq.refl 'e')) row
    rwa [Nat.ofDigitChars_ten_toDigits, value] at spelled

theorem spells_magnitudeText (x : Decimal) : SpellsMagnitude x.written x.magnitudeText := by
  have digit : ∀ c ∈ Nat.toDigits 10 x.coefficient, c.isDigit = true := fun c mem =>
    Nat.isDigit_of_mem_toDigits (by decide) (by decide) mem
  unfold written magnitudeText
  by_cases zero : x.coefficient = 0
  · simp only [if_pos zero]
    exact .mk .zero (.present ⟨by simp, by simp⟩) .absent
  obtain ⟨first, rest, digits, leading⟩ := leading_digit (Nat.pos_of_ne_zero zero)
  simp only [if_neg zero]
  rw [digits] at digit ⊢
  by_cases small : -4 ≤ ((first :: rest).length : Int) + x.exponent ∧
      ((first :: rest).length : Int) + x.exponent ≤ 0
  · simp only [if_pos small]
    have row : IsDigits
        (List.replicate (-(((first :: rest).length : Int) + x.exponent)).toNat '0' ++
          first :: rest) := by
      refine ⟨fun c mem => ?_, by simp⟩
      rcases List.mem_append.mp mem with zeros | mem
      · rw [List.eq_of_mem_replicate zeros]
        decide
      · exact digit c mem
    have spelled : SpellsMagnitude ⟨x.negative, _, _, _⟩ _ := .mk .zero (.present row) .absent
    simpa using spelled
  simp only [if_neg small]
  by_cases positional : 0 < ((first :: rest).length : Int) + x.exponent ∧
      ((first :: rest).length : Int) + x.exponent ≤ 16
  · simp only [if_pos positional]
    obtain ⟨before, position⟩ := Nat.exists_eq_add_of_le'
      (show 1 ≤ (((first :: rest).length : Int) + x.exponent).toNat by omega)
    rw [position]
    have whole : SpellsWhole ((first :: rest).take (before + 1) ++
        List.replicate x.exponent.toNat '0') := by
      refine .digits leading fun c mem => ?_
      rcases List.mem_append.mp (List.cons_append ▸ mem) with mem | zeros
      · exact digit c (List.mem_of_mem_take (List.take_succ_cons ▸ mem))
      · rw [List.eq_of_mem_replicate zeros]
        decide
    have fraction : IsDigits (if ((first :: rest).drop (before + 1)).isEmpty then ['0']
        else (first :: rest).drop (before + 1)) := by
      split_ifs with none
      · exact ⟨by simp, by simp⟩
      · exact ⟨fun c mem => digit c (List.mem_of_mem_drop mem), by simpa using none⟩
    have spelled : SpellsMagnitude ⟨x.negative, _, _, _⟩ _ := .mk whole (.present fraction) .absent
    simpa using spelled
  · simp only [if_neg positional]
    have whole : SpellsWhole ((first :: rest).take 1) :=
      .digits leading fun c mem => digit c (List.mem_of_mem_take (List.take_succ_cons ▸ mem))
    have fraction : SpellsFraction ((first :: rest).drop 1) _ :=
      spellsFraction_digits fun c mem => digit c (List.mem_of_mem_drop mem)
    have spelled : SpellsMagnitude ⟨x.negative, _, _, _⟩ _ :=
      .mk whole fraction (spellsExponent_signed (((first :: rest).length : Int) + x.exponent - 1))
    simpa using spelled

theorem spells_floatText (x : Decimal) : SpellsNumber x.written x.floatText := by
  have sign : x.written.negative = x.negative := by
    unfold written
    simp only
    split_ifs <;> rfl
  unfold floatText
  split_ifs with negative
  · exact .negative (by rw [sign, negative]) x.spells_magnitudeText
  · exact .positive (by simpa [sign] using negative) x.spells_magnitudeText

private theorem ofDigitChars_zeros (count : Nat) (digits : List Char) :
    Nat.ofDigitChars 10 (List.replicate count '0' ++ digits) 0 = Nat.ofDigitChars 10 digits 0 := by
  simp [Nat.ofDigitChars_append, Nat.ofDigitChars_replicate_zero]

/-- The digits of a text stand for the decimal number that is written. -/
theorem ofDecimal_written (x : Decimal) :
    Binary64.ofDecimal ⟨x.written.negative,
      Nat.ofDigitChars 10 (x.written.whole ++ x.written.fraction) 0,
      x.written.exponent.getD 0 - x.written.fraction.length⟩ = Binary64.ofDecimal x := by
  have value := Nat.ofDigitChars_ten_toDigits (n := x.coefficient)
  have some : 0 < (Nat.toDigits 10 x.coefficient).length := Nat.length_toDigits_pos
  unfold written
  generalize Nat.toDigits 10 x.coefficient = digits at value some
  by_cases zero : x.coefficient = 0
  · simp only [if_pos zero]
    unfold Binary64.ofDecimal Binary64.codeOfDecimal
    rw [if_pos zero]
    rfl
  simp only [if_neg zero]
  by_cases small : -4 ≤ (digits.length : Int) + x.exponent ∧ (digits.length : Int) + x.exponent ≤ 0
  · simp only [if_pos small]
    have digitsValue : Nat.ofDigitChars 10
        (['0'] ++ (List.replicate (-((digits.length : Int) + x.exponent)).toNat '0' ++ digits)) 0 =
          x.coefficient := by
      rw [← List.append_assoc, ← List.replicate_one, List.replicate_append_replicate,
        ofDigitChars_zeros, value]
    have exponent : (none : Option Int).getD 0 -
        ((List.replicate (-((digits.length : Int) + x.exponent)).toNat '0' ++ digits).length :
          Int) = x.exponent := by
      rw [List.length_append, List.length_replicate, Option.getD_none]
      omega
    rw [digitsValue, exponent]
  simp only [if_neg small]
  by_cases positional : 0 < (digits.length : Int) + x.exponent ∧
      (digits.length : Int) + x.exponent ≤ 16
  · simp only [if_pos positional, Option.getD_none]
    by_cases behind : (digits.drop ((digits.length : Int) + x.exponent).toNat).isEmpty = true
    · -- The zeros in front of the point and the one behind it are digits of their own.
      have long : digits.length ≤ ((digits.length : Int) + x.exponent).toNat :=
        List.drop_eq_nil_iff.mp (List.isEmpty_iff.mp behind)
      have digitsValue : Nat.ofDigitChars 10
          (digits ++ List.replicate x.exponent.toNat '0' ++ ['0']) 0 =
            x.coefficient * 10 ^ (x.exponent.toNat + 1) := by
        rw [List.append_assoc, ← List.replicate_one, List.replicate_append_replicate,
          Nat.ofDigitChars_append, Nat.ofDigitChars_replicate_zero, value, Nat.mul_comm]
      have exponent : (0 : Int) - ((['0'].length : Nat) : Int) =
          x.exponent - ((x.exponent.toNat + 1 : Nat) : Int) := by
        rw [List.length_singleton]
        omega
      rw [if_pos behind, List.take_of_length_le long, digitsValue, exponent]
      unfold Binary64.ofDecimal
      rw [Binary64.codeOfDecimal_shift]
    · rw [if_neg behind]
      have short : ((digits.length : Int) + x.exponent).toNat < digits.length := by
        simpa [List.isEmpty_iff] using behind
      have exponent : (0 : Int) -
          ((digits.drop ((digits.length : Int) + x.exponent).toNat).length : Int) = x.exponent := by
        rw [List.length_drop]
        omega
      rw [show x.exponent.toNat = 0 by omega, List.replicate_zero, List.append_nil,
        List.take_append_drop, value, exponent]
  · simp only [if_neg positional, List.take_append_drop, value, Option.getD_some, List.length_drop]
    have exponent : (digits.length : Int) + x.exponent - 1 - ((digits.length - 1 : Nat) : Int) =
        x.exponent := by
      omega
    rw [exponent]

end Decimal

namespace WrittenNumber

theorem isDigit_of_spells {written : WrittenNumber} {text : List Char}
    (spelled : SpellsMagnitude written text) :
    ∀ c ∈ written.whole ++ written.fraction, c.isDigit = true := by
  obtain ⟨front, middle, -⟩ := spelled
  intro c mem
  rcases List.mem_append.mp mem with mem | mem
  · exact front.row.digits c mem
  · cases middle with
    | absent => simp at mem
    | present row => exact row.digits c mem

end WrittenNumber

/-- Whether a number is finite and a reader takes its text for it. -/
structure Binary64.DigitReader.ReadsBack (digits : DigitReader) (x : Binary64) : Prop where
  finite : x.isFinite = true
  read : x.shortest.written.float? digits = some x

theorem Binary64.DigitReader.RoundsToNearest.readsBack {digits : DigitReader}
    (nearest : digits.RoundsToNearest) {x : Binary64} (finite : x.isFinite = true) :
    digits.ReadsBack x := by
  have row := WrittenNumber.isDigit_of_spells x.shortest.spells_magnitudeText
  refine ⟨finite, ?_⟩
  rw [WrittenNumber.float?, nearest _ _ _ _ row, Binary64.nearest?]
  simp only [Decimal.ofDecimal_written, Binary64.ofDecimal_shortest finite, finite, if_true]

end RequestParams
