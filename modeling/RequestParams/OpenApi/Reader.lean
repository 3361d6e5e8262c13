import RequestParams.Json.Reader
import RequestParams.OpenApi

set_option autoImplicit false
set_option relaxedAutoImplicit false

/-!
Reading documents from JSON.  Members that are not known are passed over, a known member that
stands twice is refused, and of map entries with one key the last value counts, at the place of
the first.
-/

namespace RequestParams

namespace WrittenJson

def text? : WrittenJson → Option String
  | .string pieces => StringPiece.text? pieces
  | _ => none

def bool? : WrittenJson → Option Bool
  | .bool value => some value
  | _ => none

def float? (digits : Binary64.DigitReader) : WrittenJson → Option Binary64
  | .number written => written.float? digits
  | _ => none

def items? : Nat → WrittenJson → Option (List WrittenJson)
  | _ + 1, .array items => some items
  | _, _ => none

def members? : Nat → WrittenJson → Option (List (String × WrittenJson))
  | _ + 1, .object members =>
    members.mapM fun (name, value) => (StringPiece.text? name).map fun name => (name, value)
  | _, _ => none

/-- What a record with these fields is written from: the members of an object, or the items of an
array in the order of the fields, of which the last may be missing. -/
def fields? (names : List String) : Nat → WrittenJson → Option (List (String × WrittenJson))
  | _ + 1, .array items => if items.length ≤ names.length then some (names.zip items) else none
  | depth, value => value.members? depth

def once? (name : String) (members : List (String × WrittenJson)) :
    Option (Option WrittenJson) :=
  match members.filter fun member => member.1 = name with
  | [] => some none
  | [member] => some (some member.2)
  | _ => none

variable {α : Type}

def required? (name : String) (reader : WrittenJson → Option α)
    (members : List (String × WrittenJson)) : Option α :=
  match once? name members with
  | some (some value) => reader value
  | _ => none

def memberOr? (name : String) (default : α) (reader : WrittenJson → Option α)
    (members : List (String × WrittenJson)) : Option α :=
  match once? name members with
  | some (some value) => reader value
  | some none => some default
  | none => none

def nullable? (reader : WrittenJson → Option α) : WrittenJson → Option (Option α)
  | .null => some none
  | value => (reader value).map some

def optional? (name : String) (reader : WrittenJson → Option α)
    (members : List (String × WrittenJson)) : Option (Option α) :=
  memberOr? name none (nullable? reader) members

/-- What a reader makes of the name of a variant, written as a text or as the only member of an
object, without a value. -/
def variant? (depth : Nat) (reader : String → Option α) : WrittenJson → Option α
  | .string pieces => (StringPiece.text? pieces).bind reader
  | .object [(pieces, .null)] =>
    if depth = 0 then none else (StringPiece.text? pieces).bind reader
  | _ => none

/-- Puts an entry of a map in its place: that of the entry with its key, or the end. -/
def insertEntry (entries : List (String × α)) (entry : String × α) : List (String × α) :=
  if entries.any fun other => other.1 = entry.1 then
    entries.map fun other => if other.1 = entry.1 then entry else other
  else entries ++ [entry]

def map? (depth : Nat) (reader : WrittenJson → Option α) (value : WrittenJson) :
    Option (List (String × α)) := do
  let members ← value.members? depth
  let entries ← members.mapM fun (name, value) => (reader value).map fun value => (name, value)
  pure (entries.foldl insertEntry [])

def list? (depth : Nat) (reader : WrittenJson → Option α) (value : WrittenJson) :
    Option (List α) := do
  let items ← value.items? depth
  items.mapM reader

end WrittenJson

open WrittenJson

variable (digits : Binary64.DigitReader)

def Schema.read? (depth : Nat) (value : WrittenJson) : Option Schema := do
  let members ← value.fields? ["type", "minimum"] depth
  let type ← required? "type" (variant? (depth - 1) SchemaType.read?) members
  let minimum ← optional? "minimum" (float? digits) members
  pure ⟨type, minimum⟩

def Parameter.read? (depth : Nat) (value : WrittenJson) : Option Parameter := do
  let members ← value.fields? ["name", "in", "description", "example", "required", "schema"] depth
  let name ← required? "name" text? members
  let location ← required? "in" (variant? (depth - 1) Location.read?) members
  let description ← optional? "description" text? members
  let exampleValue ← optional? "example" (WrittenJson.value? digits (depth - 1)) members
  let required ← memberOr? "required" false bool? members
  let schema ← required? "schema" (Schema.read? digits (depth - 1)) members
  pure ⟨name, location, description, exampleValue, required, schema⟩

def Response.read? (depth : Nat) (value : WrittenJson) : Option Response := do
  let members ← value.fields? ["description"] depth
  let description ← required? "description" text? members
  pure ⟨description⟩

def Operation.read? (depth : Nat) (value : WrittenJson) : Option Operation := do
  let members ←
    value.fields? ["operationId", "summary", "description", "parameters", "responses"] depth
  let operationId ← required? "operationId" text? members
  let summary ← optional? "summary" text? members
  let description ← optional? "description" text? members
  let parameters ←
    memberOr? "parameters" [] (list? (depth - 1) (Parameter.read? digits (depth - 2))) members
  let responses ← required? "responses" (map? (depth - 1) (Response.read? (depth - 2))) members
  pure ⟨operationId, summary, description, parameters, responses⟩

def PathItem.read? (depth : Nat) (value : WrittenJson) : Option PathItem := do
  let members ← value.fields? (Verb.all.map Verb.key) depth
  let operations ← Verb.all.mapM fun verb =>
    (optional? verb.key (Operation.read? digits (depth - 1)) members).map fun found => (verb, found)
  pure ⟨fun verb => (operations.lookup verb).join⟩

def Info.read? (depth : Nat) (value : WrittenJson) : Option Info := do
  let members ← value.fields? ["title", "version"] depth
  let title ← required? "title" text? members
  let version ← required? "version" text? members
  pure ⟨title, version⟩

def Server.read? (depth : Nat) (value : WrittenJson) : Option Server := do
  let members ← value.fields? ["url", "description"] depth
  let url ← required? "url" text? members
  let description ← optional? "description" text? members
  pure ⟨url, description⟩

def OpenApi.read? (depth : Nat) (value : WrittenJson) : Option OpenApi := do
  let members ← value.fields? ["openapi", "info", "servers", "paths"] depth
  let openapi ← required? "openapi" text? members
  let info ← required? "info" (Info.read? (depth - 1)) members
  let servers ← memberOr? "servers" [] (list? (depth - 1) (Server.read? (depth - 2))) members
  let paths ← memberOr? "paths" [] (map? (depth - 1) (PathItem.read? digits (depth - 2))) members
  pure ⟨openapi, info, servers, paths⟩

/-- What a reader makes of a text, the digits of its numbers being read in a given way. -/
def WrittenJson.readBy? {α : Type}
    (reader : Binary64.DigitReader → Nat → WrittenJson → Option α) (text : String) : Option α :=
  (WrittenJson.read text).bind (reader digits depthLimit)

def WrittenJson.readWith? {α : Type}
    (reader : Binary64.DigitReader → Nat → WrittenJson → Option α) (text : String) : Option α :=
  readBy? Binary64.ofDigits? reader text

end RequestParams
