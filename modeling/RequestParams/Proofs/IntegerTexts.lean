import Mathlib.Tactic.Ring
import RequestParams.Proofs.RecordWrites

set_option autoImplicit false
set_option relaxedAutoImplicit false

/-!
The texts of integers.  A text stands for an integer when it is at most one sign before at least one
digit and the number that it spells fits 64 bits; there may be any number of digits.  Every other
text is refused as it is.
-/

namespace RequestParams

/-! ### The plain text of a value -/

theorem Decimal.readSign_of_digits {digits : List Char}
    (all : ∀ c ∈ digits, c.isDigit = true) : Decimal.readSign digits = (false, digits) := by
  unfold Decimal.readSign
  split
  · exact absurd (all '+' List.mem_cons_self) (by decide)
  · exact absurd (all '-' List.mem_cons_self) (by decide)
  · rfl

theorem Decimal.readSign_integerText (n : Int) :
    Decimal.readSign (Decimal.integerText n) = (decide (n < 0), Nat.toDigits 10 n.natAbs) := by
  unfold Decimal.integerText
  by_cases negative : n < 0
  · simp [negative, Decimal.readSign]
  · have digits : ∀ c ∈ Nat.toDigits 10 n.natAbs, c.isDigit = true := fun c mem =>
      Nat.isDigit_of_mem_toDigits (by decide) (by decide) mem
    simp [negative, Decimal.readSign_of_digits digits]

theorem readInt_integerText (n : Int64) : readInt (Decimal.integerText n.toInt) = some n := by
  have digits : (Nat.toDigits 10 n.toInt.natAbs).all Char.isDigit = true :=
    List.all_eq_true.mpr fun c mem => Nat.isDigit_of_mem_toDigits (by decide) (by decide) mem
  have size : (if n.toInt < 0 then -(n.toInt.natAbs : Int) else n.toInt.natAbs) = n.toInt := by
    omega
  have low := n.minValue_le_toInt
  have high := n.toInt_le
  simp only [readInt, Decimal.readSign_integerText, decide_eq_true_eq,
    Nat.ofDigitChars_ten_toDigits, size]
  rw [if_pos ⟨Nat.toDigits_ne_nil, digits⟩, if_pos ⟨low, high⟩, Int64.ofInt_toInt]

theorem readValue_plainText (value : Value) :
    value.type.readValue value.plainText = some value := by
  cases value with
  | int n => simp [Value.type, Value.plainText, FieldType.readValue, readInt_integerText]
  | bool b => cases b <;> decide
  | string text => rfl

/-! ### Spelled numbers -/

/-- What a row of digits is worth: each digit counts for its power of ten. -/
def placeValue : List Char → Nat
  | [] => 0
  | digit :: rest => (digit.toNat - '0'.toNat) * 10 ^ rest.length + placeValue rest

structure SpellsNatural (text : List Char) (value : Nat) : Prop where
  present : text ≠ []
  digits : ∀ c ∈ text, '0' ≤ c ∧ c ≤ '9'
  worth : placeValue text = value

/-- How an integer is written: a row of digits, with or without a sign in front. -/
inductive SpellsInteger : List Char → Int → Prop
  | bare {text : List Char} {value : Nat} (row : SpellsNatural text value) :
      SpellsInteger text value
  | plus {text : List Char} {value : Nat} (row : SpellsNatural text value) :
      SpellsInteger ('+' :: text) value
  | minus {text : List Char} {value : Nat} (row : SpellsNatural text value) :
      SpellsInteger ('-' :: text) (-value)

theorem isDigit_iff_between {c : Char} : c.isDigit = true ↔ '0' ≤ c ∧ c ≤ '9' := by
  rw [Char.isDigit_iff_toNat]
  exact Iff.rfl

theorem ofDigitChars_eq_placeValue (text : List Char) :
    Nat.ofDigitChars 10 text 0 = placeValue text := by
  induction text with
  | nil => rfl
  | cons digit rest ih =>
    rw [Nat.ofDigitChars_cons, Nat.ofDigitChars_eq_ofDigitChars_zero, ih, placeValue]
    ring

theorem spellsNatural_iff {text : List Char} {value : Nat} :
    SpellsNatural text value ↔
      (text ≠ [] ∧ text.all Char.isDigit = true) ∧ Nat.ofDigitChars 10 text 0 = value := by
  rw [ofDigitChars_eq_placeValue, List.all_eq_true]
  constructor
  · intro row
    exact ⟨⟨row.present, fun c mem => isDigit_iff_between.mpr (row.digits c mem)⟩, row.worth⟩
  · rintro ⟨⟨present, digits⟩, worth⟩
    exact ⟨present, fun c mem => isDigit_iff_between.mp (digits c mem), worth⟩

theorem spellsInteger_iff {text : List Char} {n : Int} :
    SpellsInteger text n ↔
      ∃ size : Nat, SpellsNatural (Decimal.readSign text).2 size ∧
        n = if (Decimal.readSign text).1 then -(size : Int) else size := by
  constructor
  · intro spelled
    cases spelled with
    | plus row => exact ⟨_, row, rfl⟩
    | minus row => exact ⟨_, row, rfl⟩
    | @bare text size row =>
      have unsigned : Decimal.readSign text = (false, text) :=
        Decimal.readSign_of_digits fun c mem => isDigit_iff_between.mpr (row.digits c mem)
      rw [unsigned]
      exact ⟨size, row, rfl⟩
  · rintro ⟨size, row, rfl⟩
    unfold Decimal.readSign at row ⊢
    split at row
    · exact .plus row
    · exact .minus row
    · exact .bare row

theorem exists_toInt_eq_iff {n : Int} :
    (∃ value : Int64, value.toInt = n) ↔ -2 ^ 63 ≤ n ∧ n ≤ 2 ^ 63 - 1 := by
  constructor
  · rintro ⟨value, rfl⟩
    have low := value.le_toInt
    have high := value.toInt_lt
    omega
  · rintro ⟨low, high⟩
    exact ⟨Int64.ofInt n, Int64.toInt_ofInt_of_le low (by omega)⟩

theorem readInt_eq_some_iff {text : List Char} {value : Int64} :
    readInt text = some value ↔ SpellsInteger text value.toInt := by
  have low := value.le_toInt
  have high := value.toInt_lt
  rw [spellsInteger_iff]
  simp only [readInt, spellsNatural_iff, Int64.toInt_minValue, Int64.toInt_maxValue]
  generalize Decimal.readSign text = signed
  obtain ⟨negative, digits⟩ := signed
  by_cases row : digits ≠ [] ∧ digits.all Char.isDigit = true
  · simp only [row, if_true, true_and, exists_eq_left', ne_eq, not_false_eq_true]
    generalize (if negative = true then -(Nat.ofDigitChars 10 digits 0 : Int)
      else Nat.ofDigitChars 10 digits 0) = spelled
    split_ifs with fits
    · rw [Option.some.injEq, ← Int64.toInt_inj,
        Int64.toInt_ofInt_of_le fits.1 (by omega), eq_comm]
    · refine iff_of_false (by simp) ?_
      rintro rfl
      exact fits ⟨low, by omega⟩
  · rw [if_neg row]
    simp only [row, false_and, exists_false, reduceCtorEq]

theorem coerce_int_eq (field raw : String) :
    coerce field .int raw =
      match readInt raw.toList with
      | some value => .ok (.int value)
      | none => .error (.typeMismatch field raw .int) := by
  unfold coerce FieldType.readValue
  cases readInt raw.toList <;> rfl

/-- A text is coerced to an integer of 64 bits exactly when it spells the integer, and is otherwise
refused with the text as it is.  The plain text of an integer is coerced to it, so that to coerce a
text, write the value plainly and coerce again gives what the text gave. -/
theorem coerce_int_iff_spells (field raw : String) :
    (∀ n : Int, (∃ value : Int64, value.toInt = n ∧ coerce field .int raw = .ok (.int value)) ↔
      SpellsInteger raw.toList n ∧ -2 ^ 63 ≤ n ∧ n ≤ 2 ^ 63 - 1) ∧
    (coerce field .int raw = .error (.typeMismatch field raw .int) ↔
      ¬∃ n : Int, SpellsInteger raw.toList n ∧ -2 ^ 63 ≤ n ∧ n ≤ 2 ^ 63 - 1) ∧
    (∀ value : Int64, coerce field .int (Value.int value).plainText = .ok (.int value)) ∧
    (coerce field .int raw >>= fun value => coerce field .int value.plainText) =
      coerce field .int raw := by
  have spelled (n : Int) :
      (∃ value : Int64, value.toInt = n ∧ coerce field .int raw = .ok (.int value)) ↔
        SpellsInteger raw.toList n ∧ -2 ^ 63 ≤ n ∧ n ≤ 2 ^ 63 - 1 := by
    rw [← exists_toInt_eq_iff]
    constructor
    · rintro ⟨value, rfl, coerced⟩
      rw [coerce_eq_ok_iff] at coerced
      obtain ⟨read, found, same⟩ := Option.map_eq_some_iff.mp coerced
      obtain rfl := Value.int.inj same
      exact ⟨readInt_eq_some_iff.mp found, read, rfl⟩
    · rintro ⟨spells, value, rfl⟩
      exact ⟨value, rfl, by rw [coerce_int_eq, readInt_eq_some_iff.mpr spells]⟩
  have plain (value : Int64) :
      coerce field .int (Value.int value).plainText = .ok (.int value) :=
    coerce_eq_ok_iff.mpr (readValue_plainText (.int value))
  refine ⟨spelled, ?_, plain, ?_⟩
  · simp only [← spelled]
    rw [coerce_int_eq]
    cases readInt raw.toList <;> simp
  · rw [coerce_int_eq]
    cases readInt raw.toList with
    | none => rfl
    | some value => exact plain value

example : (["-9223372036854775808", "+0009223372036854775807", "9223372036854775808", "", "-",
    " 5", "+-5", "٣"].map fun raw => (readInt raw.toList).map Int64.toInt) =
    [some (-2 ^ 63), some (2 ^ 63 - 1), none, none, none, none, none, none] := by
  decide +kernel

end RequestParams
