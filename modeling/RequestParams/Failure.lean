import RequestParams.Field
import RequestParams.Text.Quoted

set_option autoImplicit false
set_option relaxedAutoImplicit false

/-!
The causes for which parameters cannot be described or decoded, with the words and the code of
each.  Texts that come from annotations or requests are quoted in messages.
-/

namespace RequestParams

inductive Failure where
  | invalidArgument (key literal field reason : String)
  | unknownField (field : String)
  | unsettable (field : String)
  | typeMismatch (field value : String) (expected : FieldType)
  | unsupportedType (field typeName : String)
  | unsupportedLocation (field kind : String)
  | invalidLocation (field kind : String)
  | notFound (field name : String)
  | emptyName (field : String)
  | malformedRequest (part reason : String)
deriving DecidableEq

inductive FailureKind where
  | invalidArgument
  | unknownField
  | unsettable
  | typeMismatch
  | unsupportedType
  | unsupportedLocation
  | invalidLocation
  | notFound
  | emptyName
  | malformedRequest
deriving DecidableEq

namespace FailureKind

def all : List FailureKind :=
  [invalidArgument, unknownField, unsettable, typeMismatch, unsupportedType,
    unsupportedLocation, invalidLocation, notFound, emptyName, malformedRequest]

def text : FailureKind → String
  | .invalidArgument => "invalid_argument"
  | .unknownField => "unknown_field"
  | .unsettable => "unsettable"
  | .typeMismatch => "type_mismatch"
  | .unsupportedType => "unsupported_type"
  | .unsupportedLocation => "unsupported_location"
  | .invalidLocation => "invalid_location"
  | .notFound => "not_found"
  | .emptyName => "empty_name"
  | .malformedRequest => "malformed_request"

def code : FailureKind → String
  | .invalidArgument => "INVALID_ARGUMENT"
  | .unknownField => "UNKNOWN_FIELD"
  | .unsettable => "UNSETTABLE_FIELD"
  | .typeMismatch => "TYPE_MISMATCH"
  | .unsupportedType => "UNSUPPORTED_TYPE"
  | .unsupportedLocation => "UNSUPPORTED_LOCATION"
  | .invalidLocation => "INVALID_LOCATION"
  | .notFound => "NOT_FOUND"
  | .emptyName => "EMPTY_NAME"
  | .malformedRequest => "MALFORMED_REQUEST"

def read? (name : String) : Option FailureKind := all.find? fun kind => kind.text = name

end FailureKind

namespace Failure

def kind : Failure → FailureKind
  | .invalidArgument .. => .invalidArgument
  | .unknownField _ => .unknownField
  | .unsettable _ => .unsettable
  | .typeMismatch .. => .typeMismatch
  | .unsupportedType .. => .unsupportedType
  | .unsupportedLocation .. => .unsupportedLocation
  | .invalidLocation .. => .invalidLocation
  | .notFound .. => .notFound
  | .emptyName _ => .emptyName
  | .malformedRequest .. => .malformedRequest

/-- The record field that a failure concerns; a malformed request concerns none. -/
def field? : Failure → Option String
  | .invalidArgument _ _ field _ => some field
  | .unknownField field => some field
  | .unsettable field => some field
  | .typeMismatch field _ _ => some field
  | .unsupportedType field _ => some field
  | .unsupportedLocation field _ => some field
  | .invalidLocation field _ => some field
  | .notFound field _ => some field
  | .emptyName field => some field
  | .malformedRequest _ _ => none

def message : Failure → String
  | .invalidArgument key literal field reason =>
    "invalid " ++ key ++ " literal " ++ Text.quoted literal ++ " for field '" ++ field ++ "': " ++
      reason
  | .unknownField field => "unknown field '" ++ field ++ "'"
  | .unsettable field => "field '" ++ field ++ "' cannot be set"
  | .typeMismatch field value expected =>
    "cannot convert " ++ Text.quoted value ++ " to " ++ expected.text ++ " for field '" ++ field ++
      "'"
  | .unsupportedType field typeName =>
    "unsupported type '" ++ typeName ++ "' for field '" ++ field ++ "'"
  | .unsupportedLocation field kind =>
    "parameter kind " ++ Text.quoted kind ++ " not supported for field '" ++ field ++ "'"
  | .invalidLocation field kind =>
    "invalid parameter kind " ++ Text.quoted kind ++ " for field '" ++ field ++ "'"
  | .notFound field name =>
    "parameter " ++ Text.quoted name ++ " for field '" ++ field ++ "' not found in path"
  | .emptyName field => "field '" ++ field ++ "' has an annotation without a name"
  | .malformedRequest part reason => "malformed " ++ part ++ ": " ++ reason

def status : Nat := 400

def body (failure : Failure) : Json :=
  .object ([("code", .string failure.kind.code), ("message", .string failure.message)] ++
    (failure.field?.map fun field => ("field", .string field)).toList)

end Failure

end RequestParams
