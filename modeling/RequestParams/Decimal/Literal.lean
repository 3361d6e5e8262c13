import RequestParams.Decimal.Binary64

set_option autoImplicit false
set_option relaxedAutoImplicit false

/-!
Floating-point literals: an optional sign, digits with an optional point and an optional
exponent, or the name of infinity or of not-a-number in any case.
-/

namespace RequestParams

inductive FloatLiteral where
  | number (value : Decimal)
  | infinity (negative : Bool)
  | notANumber
deriving DecidableEq

namespace FloatLiteral

def readExponent : List Char → Option Int
  | [] => some 0
  | mark :: rest =>
    if mark = 'e' || mark = 'E' then
      let (negative, digits) := Decimal.readSign rest
      if digits ≠ [] ∧ digits.all Char.isDigit then
        let size : Nat := Nat.ofDigitChars 10 digits 0
        some (if negative then -size else size)
      else none
    else none

/-- The whole digits of an unsigned number, and the digits of its fraction and the text behind
them. -/
def readFraction (text : List Char) : List Char × List Char :=
  match text with
  | '.' :: rest => (rest.takeWhile Char.isDigit, rest.dropWhile Char.isDigit)
  | _ => ([], text)

def readNumber (negative : Bool) (text : List Char) : Option Decimal :=
  let whole := text.takeWhile Char.isDigit
  let (fraction, behind) := readFraction (text.dropWhile Char.isDigit)
  if whole.isEmpty && fraction.isEmpty then none
  else
    (readExponent behind).map fun exponent =>
      ⟨negative, Nat.ofDigitChars 10 (whole ++ fraction) 0, exponent - fraction.length⟩

def read (text : String) : Option FloatLiteral :=
  let (negative, unsigned) := Decimal.readSign text.toList
  let name := String.ofList (unsigned.map Char.toLower)
  if name = "inf" ∨ name = "infinity" then some (.infinity negative)
  else if name = "nan" then some .notANumber
  else (readNumber negative unsigned).map .number

example : read "-1.5e+3" = some (.number ⟨true, 15, 2⟩) := by decide +kernel

example : read "5." = some (.number ⟨false, 5, 0⟩) ∧ read ".5" = some (.number ⟨false, 5, -1⟩) :=
  by decide +kernel

example : read "iNfInItY" = some (.infinity false) ∧ read "." = none ∧ read "1e" = none := by
  decide +kernel

end FloatLiteral

end RequestParams

/-!
### Digits read in one pass

The digits are collected in a word of 64 bits, the word is rounded, and the result is multiplied or
divided by a power of ten that is rounded itself.  What is read this way may miss the nearest
number by a few of its last places.
-/

namespace RequestParams.Binary64

/-- A way to take written digits for a number: by the sign, the digits before and behind the point
and the exponent.  An infinite number is none. -/
abbrev DigitReader := Bool → List Char → List Char → Int → Option Binary64

/-- A word of 64 bits with digits put behind it as long as they fit, and how many digits are
left over. -/
def collect (word : Nat) : List Char → Nat × Nat
  | [] => (word, 0)
  | digit :: rest =>
    let longer := 10 * word + (digit.toNat - '0'.toNat)
    if longer < UInt64.size then collect longer rest else (word, rest.length + 1)

def greatestPower : Nat := 308

def powerCode (exponent : Nat) : Nat := codeOfDecimal ⟨false, 1, exponent⟩

def scaleDown (code exponent : Nat) : Nat :=
  if exponent ≤ greatestPower then divCode code (powerCode exponent)
  else if code = 0 then 0
  else scaleDown (divCode code (powerCode greatestPower)) (exponent - greatestPower)
termination_by exponent
decreasing_by
  simp only [greatestPower] at *
  omega

def scaledCode (word : Nat) (exponent : Int) : Option Nat :=
  let code := nearestCode (word * Nat.pow 2 1074) 1
  if exponent < 0 then some (scaleDown code exponent.natAbs)
  else if word = 0 then some 0
  else if exponent ≤ greatestPower then
    let scaled := mulCode code (powerCode exponent.natAbs)
    if scaled < infinityCode then some scaled else none
  else none

/-- The word that the digits of a number are collected in, and the power of ten it is taken
times.  A digit before the point that is left over moves the power, one behind it is lost. -/
def collectNumber (whole fraction : List Char) (exponent : Int) : Nat × Int :=
  let (word, behindWhole) := collect 0 whole
  let (word, behindFraction) := collect word fraction
  (word, exponent + behindWhole - (fraction.length - behindFraction : Nat))

def ofDigits? : DigitReader := fun negative whole fraction exponent =>
  let (word, exponent) := collectNumber whole fraction exponent
  (scaledCode word exponent).map (ofCode negative)

example : (ofDigits? false ['7'] [] 83).map toBits = some 0x51570fa17f44aacc := by
  decide +kernel

example : ofDigits? false "17976931348623158".toList [] 292 = none := by decide +kernel

example : ofDigits? true ['0'] ['0'] 4000 = some (ofCode true 0) := by decide +kernel

end RequestParams.Binary64
