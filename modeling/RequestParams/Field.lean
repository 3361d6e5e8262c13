import RequestParams.Json.Value

set_option autoImplicit false
set_option relaxedAutoImplicit false

/-!
The declared types of record fields and the values that fields hold.
-/

namespace RequestParams

/-- A type of the schema language that documents name parameters' types in. -/
inductive SchemaType where
  | integer
  | boolean
  | string
deriving DecidableEq

namespace SchemaType

def text : SchemaType → String
  | .integer => "integer"
  | .boolean => "boolean"
  | .string => "string"

def read? (name : String) : Option SchemaType :=
  [integer, boolean, string].find? fun type => type.text = name

theorem read?_text (type : SchemaType) : read? type.text = some type := by
  cases type <;> decide

end SchemaType

inductive FieldType where
  | int
  | bool
  | string
  /-- A type that no parameter can have, with its name. -/
  | unsupported (typeName : String)
deriving DecidableEq

namespace FieldType

def text : FieldType → String
  | .int => "int"
  | .bool => "bool"
  | .string => "string"
  | .unsupported typeName => typeName

def schemaType : FieldType → Option SchemaType
  | .int => some .integer
  | .bool => some .boolean
  | .string => some .string
  | .unsupported _ => none

def isSupported (type : FieldType) : Bool := type.schemaType.isSome

end FieldType

inductive Value where
  | int (value : Int64)
  | bool (value : Bool)
  | string (text : String)
deriving DecidableEq

namespace Value

def type : Value → FieldType
  | .int _ => .int
  | .bool _ => .bool
  | .string _ => .string

def toJson : Value → Json
  | .int value => Json.ofInt value.toInt
  | .bool value => .bool value
  | .string text => .string text

/-- A value as it stands in a request: the digits of an integer, the name of a truth value, a
text itself. -/
def plainText : Value → String
  | .int value => String.ofList (Decimal.integerText value.toInt)
  | .bool value => if value then "true" else "false"
  | .string text => text

end Value

end RequestParams
