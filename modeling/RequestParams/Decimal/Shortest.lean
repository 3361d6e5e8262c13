import RequestParams.Decimal.Binary64

set_option autoImplicit false
set_option relaxedAutoImplicit false

/-!
The shortest decimal text of a binary floating-point number.  Among the decimal numbers that
round to the given one, those with the fewest digits are sought, and of these the nearest.
-/

namespace RequestParams.Binary64

/-- A power of ten by which all magnitudes are multiplied, so that every grid of up to seventeen
digits consists of whole numbers. -/
def headroom : Nat := 400

def scaledDouble (units : Nat) : Nat := 2 * units * Nat.pow 10 headroom

/-- The position of the first digit of a positive magnitude: the magnitude lies below the power
of ten with this exponent and not below a tenth of it. -/
def position (code : Nat) : Int :=
  (Decimal.digitCount (scaledDouble (units code) / Nat.pow 2 1075) : Int) - headroom

/-- Whether a scaled magnitude rounds to the magnitude of a code: it lies between the midpoints
to both neighbours, the midpoints included if the code is even. -/
def roundsTo (code scaled : Nat) : Bool :=
  let low := (units (code - 1) + units code) * Nat.pow 10 headroom
  let high := (units code + units (code + 1)) * Nat.pow 10 headroom
  if code % 2 = 0 then low ≤ scaled && scaled ≤ high else low < scaled && scaled < high

/-- The number of steps of a decimal grid that rounds to the magnitude of a code: the nearer of
the two grid points around the magnitude, the even one of two equally near. -/
def onGrid (code step : Nat) : Option Nat :=
  let exact := scaledDouble (units code)
  let below := exact / step
  let above := below + 1
  let rest := exact % step
  let aboveIsNearer := step < 2 * rest || (step = 2 * rest && below % 2 = 1)
  match roundsTo code (below * step), roundsTo code (above * step) with
  | true, true => some (if aboveIsNearer then above else below)
  | true, false => some below
  | false, true => some above
  | false, false => none

def gridStep (position : Int) (digits : Nat) : Nat :=
  Nat.pow 10 (headroom + position - digits).toNat * Nat.pow 2 1075

/-- The decimal number with the fewest digits, and the nearest of these, that rounds to the
magnitude of a code. -/
def shortestOfCode (negative : Bool) (code : Nat) : Decimal :=
  let position := position code
  let found := (List.range 17).findSome? fun index =>
    (onGrid code (gridStep position (index + 1))).map fun steps => (index + 1, steps)
  match found with
  | none => ⟨negative, 0, 0⟩
  | some (digits, steps) =>
    if steps = Nat.pow 10 digits then ⟨negative, 1, position⟩
    else ⟨negative, steps, position - digits⟩

def shortest (x : Binary64) : Decimal :=
  if x.magnitude.val = 0 then ⟨x.negative, 0, 0⟩
  else shortestOfCode x.negative x.magnitude.val

end RequestParams.Binary64

namespace RequestParams.Decimal

/-- The digits of a decimal number with their point: positional from a hundred-thousandth up to
below ten to the sixteenth, always with a digit behind the point, and otherwise with one digit
before the point and a signed exponent. -/
def magnitudeText (x : Decimal) : List Char :=
  let digits := Nat.toDigits 10 x.coefficient
  let position : Int := digits.length + x.exponent
  if x.coefficient = 0 then ['0', '.', '0']
  else if -4 ≤ position ∧ position ≤ 0 then
    ['0', '.'] ++ List.replicate (-position).toNat '0' ++ digits
  else if 0 < position ∧ position ≤ 16 then
    let whole := digits.take position.toNat
    let fraction := digits.drop position.toNat
    whole ++ List.replicate x.exponent.toNat '0' ++ ['.'] ++
      (if fraction.isEmpty then ['0'] else fraction)
  else
    let exponent := position - 1
    let fraction := digits.drop 1
    digits.take 1 ++ (if fraction.isEmpty then [] else '.' :: fraction) ++ ['e'] ++
      (if exponent < 0 then ['-'] else ['+']) ++ Nat.toDigits 10 exponent.natAbs

def floatText (x : Decimal) : List Char :=
  if x.negative then '-' :: magnitudeText x else magnitudeText x

private def shown (bits : Nat) : String :=
  String.ofList (floatText (Binary64.shortest (Binary64.ofBits bits)))

example : shown 0x3fd3333333333334 = "0.30000000000000004" := by decide +kernel

example : shown 0x8000000000000000 = "-0.0" := by decide +kernel

example : shown 1 = "5e-324" := by decide +kernel

example : shown 0x7fefffffffffffff = "1.7976931348623157e+308" := by decide +kernel

example : shown 0x4341c37937e08000 = "1e+16" := by decide +kernel

example : shown 0x3ee4f8b588e368f1 = "0.00001" := by decide +kernel

end RequestParams.Decimal
