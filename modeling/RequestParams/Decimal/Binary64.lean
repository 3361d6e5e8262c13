set_option autoImplicit false
set_option relaxedAutoImplicit false

/-!
Binary floating-point numbers of 64 bits, and the decimal numbers that are rounded to them.  A
number is a sign and a magnitude code; codes are ordered as the magnitudes they stand for.  All
finite magnitudes are whole multiples of the least positive one, so rounding is exact arithmetic
on natural numbers.
-/

namespace RequestParams

/-! ### Numbers in base ten -/

/-- The number `±coefficient · 10 ^ exponent`; zero keeps its sign. -/
structure Decimal where
  negative : Bool
  /-- The digits, read as a whole number. -/
  coefficient : Nat
  exponent : Int
deriving DecidableEq

namespace Decimal

def digitCount (n : Nat) : Nat := (Nat.toDigits 10 n).length

def integerText (n : Int) : List Char :=
  if n < 0 then '-' :: Nat.toDigits 10 n.natAbs else Nat.toDigits 10 n.natAbs

/-- The sign of a literal and the text behind it; at most one sign is read. -/
def readSign : List Char → Bool × List Char
  | '+' :: rest => (false, rest)
  | '-' :: rest => (true, rest)
  | text => (false, text)

def ofInt (n : Int) : Decimal := ⟨decide (n < 0), n.natAbs, 0⟩

example : integerText (-120) = ['-', '1', '2', '0'] := by decide

example : readSign ['+', '-', '1'] = (false, ['-', '1']) := rfl

end Decimal

/-! ### Binary numbers -/

/-- A binary floating-point number: its sign bit and the remaining 63 bits. -/
structure Binary64 where
  negative : Bool
  /-- The bits of the magnitude: eleven of exponent above fifty-two of fraction. -/
  magnitude : Fin (Nat.pow 2 63)
deriving DecidableEq

namespace Binary64

/-- The code of infinity; the codes below it are the finite magnitudes, those above it are not
numbers. -/
def infinityCode : Nat := 2047 * Nat.pow 2 52

def significand (code : Nat) : Nat :=
  if code < Nat.pow 2 52 then code else Nat.pow 2 52 + code % Nat.pow 2 52

def scale (code : Nat) : Nat := code / Nat.pow 2 52 - 1

/-- The magnitude of a code as a multiple of the least positive magnitude, `2 ^ -1074`. -/
def units (code : Nat) : Nat := significand code * Nat.pow 2 (scale code)

def isFinite (x : Binary64) : Bool := x.magnitude.val < infinityCode

/-- The whole number nearest to a quotient; a half goes to the even neighbour. -/
def roundToEven (numerator denominator : Nat) : Nat :=
  let quotient := numerator / denominator
  let rest := numerator % denominator
  if 2 * rest < denominator then quotient
  else if denominator < 2 * rest then quotient + 1
  else quotient + quotient % 2

/-- The code of the magnitude nearest to a quotient of units, infinity where it exceeds every
finite magnitude by half a step or more. -/
def nearestCode (numerator denominator : Nat) : Nat :=
  let scale := (numerator / denominator).log2 - 52
  min (scale * Nat.pow 2 52 + roundToEven numerator (denominator * Nat.pow 2 scale)) infinityCode

def ofCode (negative : Bool) (code : Nat) : Binary64 :=
  ⟨negative, ⟨min code infinityCode, Nat.lt_of_le_of_lt (Nat.min_le_right ..) (by decide)⟩⟩

/-- The code of the magnitude nearest to a decimal number.  Digits that lie wholly above the
greatest or below the least magnitude are decided by their position alone. -/
def codeOfDecimal (x : Decimal) : Nat :=
  let position : Int := Decimal.digitCount x.coefficient + x.exponent
  if x.coefficient = 0 then 0
  else if 310 < position then infinityCode
  else if position < -330 then 0
  else if 0 ≤ x.exponent then
    nearestCode (x.coefficient * Nat.pow 10 x.exponent.toNat * Nat.pow 2 1074) 1
  else nearestCode (x.coefficient * Nat.pow 2 1074) (Nat.pow 10 (-x.exponent).toNat)

def ofDecimal (x : Decimal) : Binary64 := ofCode x.negative (codeOfDecimal x)

def mulCode (left right : Nat) : Nat := nearestCode (units left * units right) (Nat.pow 2 1074)

def divCode (left right : Nat) : Nat := nearestCode (units left * Nat.pow 2 1074) (units right)

def toBits (x : Binary64) : Nat := (if x.negative then Nat.pow 2 63 else 0) + x.magnitude.val

def ofBits (bits : Nat) : Binary64 :=
  ⟨decide (Nat.pow 2 63 ≤ bits % UInt64.size), ⟨bits % Nat.pow 2 63, Nat.mod_lt _ (by decide)⟩⟩

example : toBits (ofDecimal ⟨false, 1, -1⟩) = 0x3fb999999999999a := by decide +kernel

example : toBits (ofDecimal ⟨true, 0, 5⟩) = 0x8000000000000000 := by decide +kernel

example : toBits (ofDecimal ⟨false, 24703282292062327, -340⟩) = 0 := by decide +kernel

example : toBits (ofDecimal ⟨false, 24703282292062328, -340⟩) = 1 := by decide +kernel

example : (ofDecimal ⟨false, 17976931348623159, 292⟩).isFinite = false := by decide +kernel

end Binary64

end RequestParams
