import RequestParams.Http.Request
import RequestParams.Journal
import RequestParams.RecordType

set_option autoImplicit false
set_option relaxedAutoImplicit false

/-!
Decoding a request into a record, and extractors, which do so for a handler.  First every annotated
field is checked without the request, then the text of every parameter is looked up and coerced, and
only then is the record written, so that a request which cannot be read leaves no field half done.
-/

namespace RequestParams

open Http (Request Source)

/-- The text of a parameter.  A missing query parameter, header or cookie is empty; a missing
capture is a failure, because the route itself names it. -/
def resolve (source : Source) (name : String) : Location → Except Failure String
  | .query =>
    match source.query name with
    | .error failure => .error failure
    | .ok found => .ok (found.getD "")
  | .path =>
    match source.capture name with
    | some text => .ok text
    | none => .error (.notFound name name)
  | .header => .ok ((source.header name).getD "")
  | .cookie => .ok ((source.cookie name).getD "")

def Failure.ofField (field : String) : Failure → Failure
  | .notFound _ name => .notFound field name
  | failure => failure

structure Target where
  field : String
  parameter : String
  location : Location
deriving DecidableEq

namespace Target

def resolve (source : Source) (target : Target) : Except Failure String :=
  (RequestParams.resolve source target.parameter target.location).mapError
    (Failure.ofField target.field)

end Target

namespace Descriptor

def location (descriptor : Descriptor) : Except Failure Location :=
  match descriptor.location? with
  | some location => .ok location
  | none => .error (.unsupportedLocation descriptor.field descriptor.literals.kind)

def resolve (source : Source) (descriptor : Descriptor) : Except Failure String :=
  match descriptor.location with
  | .error failure => .error failure
  | .ok location =>
    Target.resolve source ⟨descriptor.field, descriptor.literals.name, location⟩

/-- What is decoded for a field with a name, if its kind and its type allow it. -/
def target (descriptor : Descriptor) : Except Failure Target :=
  match descriptor.location with
  | .error failure => .error failure
  | .ok location =>
    match descriptor.type with
    | .unsupported typeName => .error (.unsupportedType descriptor.field typeName)
    | _ => .ok ⟨descriptor.field, descriptor.literals.name, location⟩

end Descriptor

/-- What is decoded for each annotated field, in order, before the request is looked at. -/
def plan (policy : EmptyNamePolicy) : List Descriptor → Journal Failure (List Target)
  | [] => pure []
  | descriptor :: rest =>
    if descriptor.isNameless then
      match policy with
      | .skip => do
        Journal.note (.notDecoding descriptor.field)
        plan policy rest
      | .reject => Journal.ofExcept (.error (.emptyName descriptor.field))
    else do
      let target ← Journal.ofExcept descriptor.target
      let targets ← plan policy rest
      pure (target :: targets)

/-- The value of a field: the text of its parameter, coerced to the declared type of the first
field with its name. -/
def readTarget (type : RecordType) (source : Source) (target : Target) :
    Journal Failure (String × Value) := do
  let raw ← Journal.ofExcept (target.resolve source)
  let value ← Journal.ofExcept (type.coerce target.field raw)
  Journal.note (.resolved target.field target.parameter target.location.text)
  pure (target.field, value)

def readTargets (type : RecordType) (source : Source) :
    List Target → Journal Failure (List (String × Value))
  | [] => pure []
  | target :: rest => do
    let value ← readTarget type source target
    let values ← readTargets type source rest
    pure (value :: values)

/-- The values to be written, found without touching the record. -/
def readAll (type : RecordType) (source : Source) (policy : EmptyNamePolicy) :
    Journal Failure (List (String × Value)) := do
  let targets ← plan policy type.descriptors
  readTargets type source targets

structure Attempt where
  record : Record
  journal : Journal Failure Unit

namespace RecordType

/-- Writes a value to a field; the record stays as it is where that fails. -/
def tryAssign (type : RecordType) (field : String) (value : Value) (record : Record) : Attempt :=
  match type.assign field value record with
  | .error failure => ⟨record, ⟨[], .error failure⟩⟩
  | .ok written => ⟨written, ⟨[.assigned field], .ok ()⟩⟩

def tryBind (type : RecordType) (field raw : String) (record : Record) : Attempt :=
  match type.coerce field raw with
  | .error failure => ⟨record, ⟨[], .error failure⟩⟩
  | .ok value => type.tryAssign field value record

/-- Writes values in order, up to the first that fails. -/
def writeAll (type : RecordType) : List (String × Value) → Record → Attempt
  | [], record => ⟨record, pure ()⟩
  | (field, value) :: rest, record =>
    let first := type.tryAssign field value record
    match first.journal.result with
    | .error _ => first
    | .ok _ =>
      let others := writeAll type rest first.record
      ⟨others.record, ⟨first.journal.events ++ others.journal.events, others.journal.result⟩⟩

end RecordType

def decode (type : RecordType) (source : Source) (options : DecodeOptions) (record : Record) :
    Attempt :=
  let found := readAll type source options.emptyName
  match found.result with
  | .error failure => ⟨record, ⟨found.events, .error failure⟩⟩
  | .ok values =>
    let written := type.writeAll values record
    ⟨written.record, do
      let values ← found
      written.journal
      Journal.note (.decoded values.length)⟩

/-!
### Extractors

An extractor is what a handler asks of a request: it reads the whole request or fails.  Extractors
are combined by trying, by keeping a failure and by running several in order.
-/

def Extractor (α : Type) : Type := Request → Journal Failure α

namespace Extractor

variable {α : Type}

def decoded (type : RecordType) (start : Record) : Extractor Record := fun request =>
  let attempt := decode type (Source.ofRequest request) {} start
  match attempt.journal.result with
  | .ok _ => ⟨attempt.journal.events, .ok attempt.record⟩
  | .error failure =>
    ⟨attempt.journal.events ++ [.decodingFailed failure.message request.uri.path],
      .error failure⟩

def path : Extractor String := fun request => pure request.uri.path

def failing (failure : Failure) : Extractor α := fun _ => Journal.ofExcept (.error failure)

def optional (extractor : Extractor α) : Extractor (Option α) := fun request =>
  let journal := extractor request
  ⟨journal.events, .ok journal.result.toOption⟩

def attempted (extractor : Extractor α) : Extractor (Except Failure α) := fun request =>
  let journal := extractor request
  ⟨journal.events, .ok journal.result⟩

def map {β : Type} (f : α → β) (extractor : Extractor α) : Extractor β := fun request => do
  let value ← extractor request
  pure (f value)

def sequence : List (Extractor α) → Extractor (List α)
  | [], _ => pure []
  | extractor :: rest, request => do
    let value ← extractor request
    let values ← sequence rest request
    pure (value :: values)

end Extractor

end RequestParams
