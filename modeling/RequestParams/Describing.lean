import RequestParams.RecordType
import RequestParams.Decimal.Literal
import RequestParams.Journal
import RequestParams.OpenApi

set_option autoImplicit false
set_option relaxedAutoImplicit false

/-!
Describing annotated fields as documented parameters.  The literals of an annotation are read
by their keys: an example must belong to the field's type, the mark of a required parameter must
be a truth value, and a least value must be a finite number.
-/

namespace RequestParams

namespace Descriptor

def invalidLiteral (descriptor : Descriptor) (key literal reason : String) : Failure :=
  .invalidArgument key literal descriptor.field reason

def schema (descriptor : Descriptor) : Except Failure Schema :=
  match descriptor.type with
  | .int => .ok { type := .integer }
  | .bool => .ok { type := .boolean }
  | .string => .ok { type := .string }
  | .unsupported typeName => .error (.unsupportedType descriptor.field typeName)

def exampleValue (descriptor : Descriptor) : Except Failure (Option Value) :=
  let literal := descriptor.literals.exampleText
  if literal = "" then .ok none
  else
    match coerce descriptor.field descriptor.type literal with
    | .ok value => .ok (some value)
    | .error failure => .error (descriptor.invalidLiteral "example" literal failure.message)

/-- Whether the annotation marks its parameter as required; an empty literal does not. -/
def requiredMark (descriptor : Descriptor) : Except Failure Bool :=
  let literal := descriptor.literals.required
  if literal = "" then .ok false
  else
    match readBool literal with
    | some value => .ok value
    | none => .error (descriptor.invalidLiteral "required" literal "not a boolean")

def required (descriptor : Descriptor) (location : Location) : Except Failure Bool :=
  if location = .path then .ok true else descriptor.requiredMark

def minimum (descriptor : Descriptor) : Except Failure (Option Binary64) :=
  let literal := descriptor.literals.schemaMin
  if literal = "" then .ok none
  else
    match FloatLiteral.read literal with
    | none => .error (descriptor.invalidLiteral "schemaMin" literal "invalid float literal")
    | some (.number value) =>
      let bound := Binary64.ofDecimal value
      if bound.isFinite then .ok (some bound)
      else .error (descriptor.invalidLiteral "schemaMin" literal "not a finite number")
    | some _ => .error (descriptor.invalidLiteral "schemaMin" literal "not a finite number")

def nonempty? (text : String) : Option String := if text = "" then none else some text

def documentedLocation (descriptor : Descriptor) : Except Failure Location :=
  match descriptor.location? with
  | some location => .ok location
  | none => .error (.invalidLocation descriptor.field descriptor.literals.kind)

def describe (descriptor : Descriptor) : Except Failure Parameter := do
  let location ← descriptor.documentedLocation
  let schema ← descriptor.schema
  let exampleValue ← descriptor.exampleValue
  let required ← descriptor.required location
  let minimum ← descriptor.minimum
  pure {
    name := descriptor.literals.name
    location := location
    description := nonempty? descriptor.literals.description
    exampleValue := exampleValue.map Value.toJson
    required := required
    schema := { schema with minimum := minimum } }

end Descriptor

def describeAll (policy : EmptyNamePolicy) : List Descriptor → Journal Failure (List Parameter)
  | [] => pure []
  | descriptor :: rest =>
    if descriptor.isNameless then
      match policy with
      | .skip => do
        Journal.note (.notDocumenting descriptor.field)
        describeAll policy rest
      | .reject => Journal.ofExcept (.error (.emptyName descriptor.field))
    else do
      let parameter ← Journal.ofExcept descriptor.describe
      let parameters ← describeAll policy rest
      pure (parameter :: parameters)

end RequestParams
