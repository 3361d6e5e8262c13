import RequestParams.Decimal.Literal
import RequestParams.Json.Value

set_option autoImplicit false
set_option relaxedAutoImplicit false

/-!
Reading JSON texts.  A text is first read for its form, with its numbers and escapes as written.
Only a value that is asked for is then checked: its escapes must pair up to characters, its
numbers must not exceed the floating-point range, and its nesting is limited.
-/

namespace RequestParams

inductive StringPiece where
  /-- A character, written as itself or behind a backslash. -/
  | char (value : Char)
  /-- A sixteen-bit unit, written in hexadecimal digits. -/
  | unit (value : Nat)
deriving DecidableEq

structure WrittenNumber where
  negative : Bool
  whole : List Char
  fraction : List Char
  exponent : Option Int
deriving DecidableEq

/-- A JSON text read for its form alone. -/
inductive WrittenJson where
  | null
  | bool (value : Bool)
  | number (written : WrittenNumber)
  | string (pieces : List StringPiece)
  | array (items : List WrittenJson)
  /-- An object, with every member in its place. -/
  | object (members : List (List StringPiece × WrittenJson))

namespace WrittenJson

def isSpace (c : Char) : Bool := c = ' ' || c = '\t' || c = '\n' || c = '\r'

def skipSpace (text : List Char) : List Char := text.dropWhile isSpace

def hexValue (c : Char) : Option Nat :=
  if '0' ≤ c ∧ c ≤ '9' then some (c.toNat - 48)
  else if 'a' ≤ c ∧ c ≤ 'f' then some (c.toNat - 87)
  else if 'A' ≤ c ∧ c ≤ 'F' then some (c.toNat - 55)
  else none

def hexUnit (a b c d : Char) : Option Nat := do
  let a ← hexValue a
  let b ← hexValue b
  let c ← hexValue c
  let d ← hexValue d
  pure (((a * 16 + b) * 16 + c) * 16 + d)

def escaped (c : Char) : Option Char :=
  if c = '"' ∨ c = '\\' ∨ c = '/' then some c
  else if c = 'b' then some '\x08'
  else if c = 'f' then some '\x0c'
  else if c = 'n' then some '\n'
  else if c = 'r' then some '\r'
  else if c = 't' then some '\t'
  else none

def readString : List Char → Option (List StringPiece × List Char)
  | [] => none
  | '"' :: rest => some ([], rest)
  | '\\' :: 'u' :: a :: b :: c :: d :: rest => do
    let unit ← hexUnit a b c d
    let (pieces, rest) ← readString rest
    pure (.unit unit :: pieces, rest)
  | '\\' :: mark :: rest => do
    let c ← escaped mark
    let (pieces, rest) ← readString rest
    pure (.char c :: pieces, rest)
  | c :: rest =>
    if c.toNat < 0x20 ∨ c = '\\' then none
    else do
      let (pieces, rest) ← readString rest
      pure (.char c :: pieces, rest)

def readFraction : List Char → Option (List Char × List Char)
  | '.' :: rest =>
    let digits := rest.takeWhile Char.isDigit
    if digits.isEmpty then none else some (digits, rest.dropWhile Char.isDigit)
  | text => some ([], text)

def readExponent : List Char → Option (Option Int × List Char)
  | [] => some (none, [])
  | mark :: rest =>
    if mark = 'e' ∨ mark = 'E' then
      let (negative, unsigned) := Decimal.readSign rest
      let digits := unsigned.takeWhile Char.isDigit
      let size : Nat := Nat.ofDigitChars 10 digits 0
      if digits.isEmpty then none
      else some (some (if negative then -size else size), unsigned.dropWhile Char.isDigit)
    else some (none, mark :: rest)

def readNumber (negative : Bool) (text : List Char) : Option (WrittenNumber × List Char) :=
  let digits := text.takeWhile Char.isDigit
  if digits.isEmpty ∨ (digits.head? = some '0' ∧ digits.length ≠ 1) then none
  else do
    let (fraction, rest) ← readFraction (text.dropWhile Char.isDigit)
    let (exponent, rest) ← readExponent rest
    pure (⟨negative, digits, fraction, exponent⟩, rest)

mutual

/-- A value at the start of a text, and the text behind it; the fuel bounds the number of values
and brackets that are read. -/
def readValue : Nat → List Char → Option (WrittenJson × List Char)
  | 0, _ => none
  | fuel + 1, text =>
    match skipSpace text with
    | 'n' :: 'u' :: 'l' :: 'l' :: rest => some (.null, rest)
    | 't' :: 'r' :: 'u' :: 'e' :: rest => some (.bool true, rest)
    | 'f' :: 'a' :: 'l' :: 's' :: 'e' :: rest => some (.bool false, rest)
    | '"' :: rest => (readString rest).map fun (pieces, rest) => (.string pieces, rest)
    | '-' :: rest => (readNumber true rest).map fun (written, rest) => (.number written, rest)
    | '[' :: rest =>
      match skipSpace rest with
      | ']' :: rest => some (.array [], rest)
      | _ => (readItems fuel rest).map fun (items, rest) => (.array items, rest)
    | '{' :: rest =>
      match skipSpace rest with
      | '}' :: rest => some (.object [], rest)
      | _ => (readMembers fuel rest).map fun (members, rest) => (.object members, rest)
    | text => (readNumber false text).map fun (written, rest) => (.number written, rest)

def readItems : Nat → List Char → Option (List WrittenJson × List Char)
  | 0, _ => none
  | fuel + 1, text => do
    let (item, rest) ← readValue fuel text
    match skipSpace rest with
    | ']' :: rest => pure ([item], rest)
    | ',' :: rest =>
      let (items, rest) ← readItems fuel rest
      pure (item :: items, rest)
    | _ => none

def readMembers : Nat → List Char → Option (List (List StringPiece × WrittenJson) × List Char)
  | 0, _ => none
  | fuel + 1, text =>
    match skipSpace text with
    | '"' :: rest => do
      let (name, rest) ← readString rest
      match skipSpace rest with
      | ':' :: rest =>
        let (value, rest) ← readValue fuel rest
        match skipSpace rest with
        | '}' :: rest => pure ([(name, value)], rest)
        | ',' :: rest =>
          let (members, rest) ← readMembers fuel rest
          pure ((name, value) :: members, rest)
        | _ => none
      | _ => none
    | _ => none

end

/-- The form of a JSON text: one value with nothing but white space around it. -/
def read (text : String) : Option WrittenJson :=
  match readValue (text.toList.length + 1) text.toList with
  | some (value, rest) => if skipSpace rest = [] then some value else none
  | none => none

end WrittenJson

namespace StringPiece

/-- The characters of the pieces of a string; the two halves of a surrogate pair make one
character, and a half that stands alone makes none. -/
def characters : List StringPiece → Option (List Char)
  | [] => some []
  | .char c :: rest => (characters rest).map (c :: ·)
  | .unit high :: .unit low :: rest =>
    if 0xd800 ≤ high ∧ high < 0xdc00 then
      if 0xdc00 ≤ low ∧ low < 0xe000 then
        (characters rest).map
          (Char.ofNat (0x10000 + (high - 0xd800) * 0x400 + (low - 0xdc00)) :: ·)
      else none
    else if 0xdc00 ≤ high ∧ high < 0xe000 then none
    else (characters (.unit low :: rest)).map (Char.ofNat high :: ·)
  | .unit code :: rest =>
    if 0xd800 ≤ code ∧ code < 0xe000 then none
    else (characters rest).map (Char.ofNat code :: ·)

def text? (pieces : List StringPiece) : Option String := (characters pieces).map String.ofList

end StringPiece

namespace WrittenNumber

/-- The number as a floating-point number, if it is finite, its digits being read in a given way. -/
def float? (digits : Binary64.DigitReader) (written : WrittenNumber) : Option Binary64 :=
  digits written.negative written.whole written.fraction (written.exponent.getD 0)

/-- The number as an integer of 64 bits, signed or unsigned, if it is one and is written without
a fraction and an exponent.  A negative zero is none. -/
def integer? (written : WrittenNumber) : Option Int :=
  let size := Nat.ofDigitChars 10 written.whole 0
  if !written.fraction.isEmpty || written.exponent.isSome then none
  else if !written.negative then if size < UInt64.size then some size else none
  else if size ≠ 0 ∧ size ≤ UInt64.size / 2 then some (-size)
  else none

/-- The value of a number: an integer where it is one, else a floating-point number, which must
be finite. -/
def value? (digits : Binary64.DigitReader) (written : WrittenNumber) : Option JsonNumber :=
  match written.integer? with
  | some n => some (.integer n)
  | none => (written.float? digits).map .float

end WrittenNumber

namespace Json

def insertMember (name : String) (value : Json) : List (String × Json) → List (String × Json)
  | [] => [(name, value)]
  | (other, kept) :: rest =>
    if name = other then (name, value) :: rest
    else if name < other then (name, value) :: (other, kept) :: rest
    else (other, kept) :: insertMember name value rest

/-- Members sorted by name, the last one of each name. -/
def sortMembers (members : List (String × Json)) : List (String × Json) :=
  members.foldl (fun sorted (name, value) => insertMember name value sorted) []

end Json

namespace WrittenJson

def depthLimit : Nat := 127

mutual

/-- The value of a text whose lists and objects may be nested to a depth; objects come out
sorted by name. -/
def value? (digits : Binary64.DigitReader) : Nat → WrittenJson → Option Json
  | _, .null => some .null
  | _, .bool value => some (.bool value)
  | _, .number written => (written.value? digits).map .number
  | _, .string pieces => (StringPiece.text? pieces).map .string
  | 0, .array _ => none
  | depth + 1, .array items => (itemValues digits depth items).map .array
  | 0, .object _ => none
  | depth + 1, .object members =>
    (memberValues digits depth members).map fun members => .object (Json.sortMembers members)

def itemValues (digits : Binary64.DigitReader) : Nat → List WrittenJson → Option (List Json)
  | _, [] => some []
  | depth, item :: rest => do
    let value ← value? digits depth item
    let values ← itemValues digits depth rest
    pure (value :: values)

def memberValues (digits : Binary64.DigitReader) :
    Nat → List (List StringPiece × WrittenJson) → Option (List (String × Json))
  | _, [] => some []
  | depth, (name, member) :: rest => do
    let name ← StringPiece.text? name
    let value ← value? digits depth member
    let values ← memberValues digits depth rest
    pure ((name, value) :: values)

end

example :
    (read " [1e400, \"\\ud800\" ] ").bind (value? Binary64.ofDigits? depthLimit) = none := by
  decide +kernel

example : (read "\"\\ud83d\\ude00/\"").bind (value? Binary64.ofDigits? depthLimit) =
    some (.string "😀/") := by
  cbv

end WrittenJson

end RequestParams
