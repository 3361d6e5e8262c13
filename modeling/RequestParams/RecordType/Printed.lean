import RequestParams.RecordType

set_option autoImplicit false
set_option relaxedAutoImplicit false

/-!
The printed form of a record type, for inspection: each field with its name, declared type,
annotation and storage.
-/

namespace RequestParams

def FieldType.printed : FieldType → String
  | .int => "Int"
  | .bool => "Bool"
  | .string => "String"
  | .unsupported typeName => "Unsupported(" ++ Text.quoted typeName ++ ")"

def Slot.printed : Slot → String
  | .int => "Int"
  | .bool => "Bool"
  | .string => "String"
  | .readOnly => "ReadOnly"

def printedText : Option String → String
  | none => "None"
  | some text => "Some(" ++ Text.quoted text ++ ")"

def Registration.printed (registration : Registration) : String :=
  "FieldBinding \x7b name: " ++ Text.quoted registration.name ++
    ", field_type: " ++ registration.type.printed ++
    ", annotation: " ++ printedText registration.annotationText ++
    ", slot: " ++ registration.slot.printed ++ " \x7d"

def RecordType.printed (type : RecordType) : String :=
  "[" ++ String.intercalate ", " (type.map Registration.printed) ++ "]"

end RequestParams
