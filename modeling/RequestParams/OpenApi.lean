import RequestParams.Descriptor

set_option autoImplicit false
set_option relaxedAutoImplicit false

/-!
Documents of an interface: its paths, the operations on each, and their parameters, with their
form in JSON.  Members that say nothing are left out.
-/

namespace RequestParams

structure Schema where
  type : SchemaType
  minimum : Option Binary64 := none
deriving DecidableEq

structure Parameter where
  name : String
  location : Location
  description : Option String := none
  exampleValue : Option Json := none
  required : Bool := false
  schema : Schema

structure Response where
  description : String
deriving DecidableEq

structure Operation where
  operationId : String
  /-- What the operation does, in short. -/
  summary : Option String := none
  /-- What the operation does, at length. -/
  description : Option String := none
  parameters : List Parameter := []
  /-- The answers to the operation, by status. -/
  responses : List (String × Response)

/-- A method that a document has a place for. -/
inductive Verb where
  | get
  | put
  | post
  | delete
  | options
  | head
  | patch
  | trace
deriving DecidableEq

namespace Verb

def all : List Verb := [get, put, post, delete, options, head, patch, trace]

theorem mem_all (verb : Verb) : verb ∈ all := by cases verb <;> decide

def method : Verb → String
  | .get => "GET"
  | .put => "PUT"
  | .post => "POST"
  | .delete => "DELETE"
  | .options => "OPTIONS"
  | .head => "HEAD"
  | .patch => "PATCH"
  | .trace => "TRACE"

def key : Verb → String
  | .get => "get"
  | .put => "put"
  | .post => "post"
  | .delete => "delete"
  | .options => "options"
  | .head => "head"
  | .patch => "patch"
  | .trace => "trace"

def ofMethod? (method : String) : Option Verb := all.find? fun verb => verb.method = method

theorem ofMethod?_method (verb : Verb) : ofMethod? verb.method = some verb := by
  cases verb <;> decide

end Verb

structure PathItem where
  operation? : Verb → Option Operation := fun _ => none

namespace PathItem

def set (item : PathItem) (verb : Verb) (operation : Option Operation) : PathItem where
  operation? other := if other = verb then operation else item.operation? other

@[simp] theorem operation?_set_self (item : PathItem) (verb : Verb)
    (operation : Option Operation) : (item.set verb operation).operation? verb = operation := by
  simp [set]

@[simp] theorem operation?_set_of_ne (item : PathItem) {verb other : Verb}
    (operation : Option Operation) (different : other ≠ verb) :
    (item.set verb operation).operation? other = item.operation? other := by
  simp [set, different]

end PathItem

structure Info where
  title : String
  version : String
deriving DecidableEq

structure Server where
  url : String
  description : Option String := none
deriving DecidableEq

structure OpenApi where
  openapi : String
  info : Info
  servers : List Server := []
  paths : List (String × PathItem) := []

def optionalMember (name : String) (value : Option Json) : List (String × Json) :=
  (value.map fun value => (name, value)).toList

def listMember (name : String) (items : List Json) : List (String × Json) :=
  if items.isEmpty then [] else [(name, .array items)]

namespace Schema

def toJson (schema : Schema) : Json :=
  .object (("type", .string schema.type.text) ::
    optionalMember "minimum" (schema.minimum.map Json.ofFloat))

end Schema

namespace Parameter

def toJson (parameter : Parameter) : Json :=
  .object ([("name", .string parameter.name), ("in", .string parameter.location.text)] ++
    optionalMember "description" (parameter.description.map .string) ++
    optionalMember "example" parameter.exampleValue ++
    [("required", .bool parameter.required), ("schema", parameter.schema.toJson)])

end Parameter

namespace Response

def toJson (response : Response) : Json := .object [("description", .string response.description)]

def defaults : List (String × Response) := [("default", ⟨"Default response"⟩)]

end Response

namespace Operation

def toJson (operation : Operation) : Json :=
  .object (("operationId", .string operation.operationId) ::
    optionalMember "summary" (operation.summary.map .string) ++
    optionalMember "description" (operation.description.map .string) ++
    listMember "parameters" (operation.parameters.map Parameter.toJson) ++
    [("responses", .object (operation.responses.map fun (status, response) =>
      (status, response.toJson)))])

end Operation

namespace PathItem

/-- The operations of a path in JSON, in the order of documents. -/
def toJson (item : PathItem) : Json :=
  .object (Verb.all.flatMap fun verb =>
    optionalMember verb.key ((item.operation? verb).map Operation.toJson))

end PathItem

namespace Info

def toJson (info : Info) : Json :=
  .object [("title", .string info.title), ("version", .string info.version)]

end Info

namespace Server

def toJson (server : Server) : Json :=
  .object (("url", .string server.url) ::
    optionalMember "description" (server.description.map .string))

end Server

namespace OpenApi

def formatVersion : String := "3.0.0"

def toJson (document : OpenApi) : Json :=
  .object ([("openapi", .string document.openapi), ("info", document.info.toJson)] ++
    listMember "servers" (document.servers.map Server.toJson) ++
    [("paths", .object (document.paths.map fun (path, item) => (path, item.toJson)))])

end OpenApi

end RequestParams
