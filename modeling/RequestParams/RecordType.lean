import RequestParams.Failure
import RequestParams.Descriptor

set_option autoImplicit false
set_option relaxedAutoImplicit false

/-!
Record types and records.  A record type registers its fields in order, each with a storage of
its own; a name that is registered twice means the first of its fields.
-/

namespace RequestParams

/-! ### From the text of a parameter to a value of a declared type -/

/-- The integer that a text is: at most one sign and at least one digit, within 64 bits. -/
def readInt (text : List Char) : Option Int64 :=
  let (negative, digits) := Decimal.readSign text
  if digits ≠ [] ∧ digits.all Char.isDigit then
    let size : Nat := Nat.ofDigitChars 10 digits 0
    let value : Int := if negative then -size else size
    if Int64.minValue.toInt ≤ value ∧ value ≤ Int64.maxValue.toInt then some (Int64.ofInt value)
    else none
  else none

def trueTexts : List String := ["1", "t", "T", "TRUE", "true", "True"]

def falseTexts : List String := ["0", "f", "F", "FALSE", "false", "False"]

/-- The truth value that a text means, if it is one of twelve. -/
def readBool (text : String) : Option Bool :=
  if text ∈ trueTexts then some true else if text ∈ falseTexts then some false else none

def FieldType.readValue (type : FieldType) (text : String) : Option Value :=
  match type with
  | .int => (readInt text.toList).map .int
  | .bool => (readBool text).map .bool
  | .string => some (.string text)
  | .unsupported _ => none

def coerce (field : String) (type : FieldType) (raw : String) : Except Failure Value :=
  match type with
  | .unsupported typeName => .error (.unsupportedType field typeName)
  | _ =>
    match type.readValue raw with
    | some value => .ok value
    | none => .error (.typeMismatch field raw type)

/-! ### Registrations -/

/-- The kind of storage that a field's value is written to. -/
inductive Slot where
  | int
  | bool
  | string
  | readOnly
deriving DecidableEq

namespace Slot

def accepts : Slot → Value → Bool
  | .int, .int _ => true
  | .bool, .bool _ => true
  | .string, .string _ => true
  | _, _ => false

def ofType : FieldType → Slot
  | .int => .int
  | .bool => .bool
  | .string => .string
  | .unsupported _ => .readOnly

def initial : Slot → Option Value
  | .int => some (.int 0)
  | .bool => some (.bool false)
  | .string => some (.string "")
  | .readOnly => none

/-- What the storage starts with, given a wish; a value of another kind is no wish. -/
def startingFrom (slot : Slot) (wish : Option Value) : Option Value :=
  match wish with
  | some value => if slot.accepts value then some value else slot.initial
  | none => slot.initial

end Slot

structure Registration where
  name : String
  type : FieldType
  annotationText : Option String
  slot : Slot
deriving DecidableEq

namespace Registration

def isSettable (registration : Registration) : Bool := registration.slot ≠ .readOnly

def descriptor? (registration : Registration) : Option Descriptor :=
  registration.annotationText.map (Descriptor.read registration.name registration.type)

end Registration

abbrev RecordType := List Registration

/-- The contents of a record: for each registered field its value, or nothing where the field
has no storage. -/
abbrev Record := List (Option Value)

namespace RecordType

def get? (type : RecordType) (field : String) : Option Registration :=
  type.find? fun registration => registration.name = field

def descriptors (type : RecordType) : List Descriptor :=
  type.filterMap Registration.descriptor?

def initial (type : RecordType) : Record := type.map fun registration => registration.slot.initial

/-- The value of a field's declared type that a raw text stands for, provided that the field
can be written. -/
def coerce (type : RecordType) (field raw : String) : Except Failure Value :=
  match type.get? field with
  | none => .error (.unknownField field)
  | some registration =>
    match registration.type with
    | .unsupported typeName => .error (.unsupportedType field typeName)
    | declared =>
      if registration.isSettable then RequestParams.coerce field declared raw
      else .error (.unsettable field)

def rejects? (type : RecordType) (field : String) (value : Value) : Option Failure :=
  match type.get? field with
  | none => some (.unknownField field)
  | some registration =>
    if registration.slot.accepts value then none
    else if registration.isSettable then
      some (.typeMismatch field value.toJson.compact registration.type)
    else some (.unsettable field)

def write (type : RecordType) (field : String) (value : Value) (record : Record) : Record :=
  record.set (type.findIdx fun registration => registration.name = field) (some value)

def assign (type : RecordType) (field : String) (value : Value) (record : Record) :
    Except Failure Record :=
  match type.rejects? field value with
  | some failure => .error failure
  | none => .ok (type.write field value record)

end RecordType

end RequestParams
