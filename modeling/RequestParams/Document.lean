import RequestParams.Describing
import RequestParams.OpenApi.Reader
import RequestParams.Route

set_option autoImplicit false
set_option relaxedAutoImplicit false

/-!
Documents that grow route by route.  A route is added as a whole or not at all: its parameters
must be describable, its methods must have free places, and its operations new names.
-/

namespace RequestParams

structure ServerSetting where
  url : String
  description : String := ""
deriving DecidableEq

structure DocumentOptions where
  title : String := "Default Title"
  version : String := "1.0"
  servers : List ServerSetting :=
    [⟨"https://www.example.com/v3", "Production environment API"⟩,
      ⟨"https://test.example.com/v3", "Test environment API"⟩]
deriving DecidableEq

namespace ServerSetting

def toJson (server : ServerSetting) : Json :=
  .object [("url", .string server.url), ("description", .string server.description)]

def ofJson? (value : Json) : Option ServerSetting := do
  let members ← value.fields? ["url", "description"]
  let url ← (← members.lookup "url").text?
  let description ← Json.memberOr "description" "" Json.text? members
  pure ⟨url, description⟩

end ServerSetting

namespace DocumentOptions

def toJson (options : DocumentOptions) : Json :=
  .object [("title", .string options.title), ("version", .string options.version),
    ("servers", .array (options.servers.map ServerSetting.toJson))]

def serversOfJson? (value : Json) : Option (List ServerSetting) := do
  let items ← value.items?
  items.mapM ServerSetting.ofJson?

def ofJson? (value : Json) : Option DocumentOptions := do
  let defaults : DocumentOptions := {}
  let members ← value.fields? ["title", "version", "servers"]
  let title ← Json.memberOr "title" defaults.title Json.text? members
  let version ← Json.memberOr "version" defaults.version Json.text? members
  let servers ← Json.memberOr "servers" defaults.servers serversOfJson? members
  pure ⟨title, version, servers⟩

end DocumentOptions

inductive DocumentFailure where
  | invalidRoute (path reason : String)
  | parameter (failure : Failure)
  | duplicateOperationId (operationId : String)
deriving DecidableEq

namespace DocumentFailure

def message : DocumentFailure → String
  | .invalidRoute path reason => "Invalid route '" ++ path ++ "': " ++ reason
  | .parameter failure => "Invalid parameter: " ++ failure.message
  | .duplicateOperationId operationId => "Duplicate operation id '" ++ operationId ++ "'"

/-- How the message of a document that cannot be read or written begins. -/
def serializationHeading : String := "Failed to serialize OpenAPI document: "

end DocumentFailure

structure Document where
  openApi : OpenApi
  options : DescribeOptions := {}
  operationIds : List String := []

namespace Document

def empty (options : DocumentOptions) : Document where
  openApi := {
    openapi := OpenApi.formatVersion
    info := ⟨options.title, options.version⟩
    servers := options.servers.map fun server =>
      ⟨server.url, Descriptor.nonempty? server.description⟩ }

def withOptions (document : Document) (options : DescribeOptions) : Document :=
  { document with options := options }

def operation? (document : Document) (path method : String) : Option Operation := do
  let item ← document.openApi.paths.lookup path
  let verb ← Verb.ofMethod? method
  item.operation? verb

/-- Checks the methods of a route in order, given the names of the operations of those checked
before; the result is all names. -/
def checkMethods (document : Document) (route : Route) :
    List String → List String → Except DocumentFailure (List String)
  | [], names => .ok names
  | method :: rest, names =>
    let operationId := route.operationId method
    if (Verb.ofMethod? method).isNone then
      .error (.invalidRoute route.path (method ++ " cannot be documented"))
    else if (document.operation? route.path method).isSome then
      .error (.invalidRoute route.path (method ++ " is already documented"))
    else if operationId ∈ document.operationIds ∨ operationId ∈ names then
      .error (.duplicateOperationId operationId)
    else checkMethods document route rest (names ++ [operationId])

def operationOf (route : Route) (parameters : List Parameter) (method : String) : Operation where
  operationId := route.operationId method
  summary := some route.summary
  description := route.description
  parameters := parameters
  responses := Response.defaults

def addOperations (route : Route) (parameters : List Parameter) (methods : List String)
    (item : PathItem) : PathItem :=
  methods.foldl (fun item method =>
    match Verb.ofMethod? method with
    | some verb => item.set verb (some (operationOf route parameters method))
    | none => item) item

/-- Changes the entry of a path, which is made at the end if there is none. -/
def updatePath (path : String) (change : PathItem → PathItem) :
    List (String × PathItem) → List (String × PathItem)
  | [] => [(path, change {})]
  | (other, item) :: rest =>
    if other = path then (other, change item) :: rest
    else (other, item) :: updatePath path change rest

def write (document : Document) (route : Route) (parameters : List Parameter)
    (names : List String) : Document :=
  { document with
    openApi := { document.openApi with
      paths := updatePath route.path (addOperations route parameters route.methods)
        document.openApi.paths }
    operationIds := document.operationIds ++ names }

def ofParameters {α : Type} (journal : Journal Failure α) : Journal DocumentFailure α :=
  ⟨journal.events, journal.result.mapError .parameter⟩

/-- The warnings about path parameters that stand nowhere in a route's template. -/
def warnings (route : Route) (parameters : List Parameter) : List Event :=
  (Route.unmatched route.path (parameters.map fun parameter =>
    (parameter.name, parameter.location))).map (.unmatchedParameter route.path)

def addRoute (document : Document) (route : Route) : Journal DocumentFailure Document :=
  match route.fault? with
  | some reason => Journal.ofExcept (.error (.invalidRoute route.path reason))
  | none => do
    let parameters ← ofParameters (describeAll document.options.emptyName route.descriptors)
    ⟨warnings route parameters, .ok ()⟩
    let names ← Journal.ofExcept (document.checkMethods route route.methods [])
    Journal.note (.documented route.path route.methods.length parameters.length)
    pure (document.write route parameters names)

/-- The text of a document, on indented lines.  Every document has one, since the names of its
members are texts. -/
def text (document : Document) : String := document.openApi.toJson.pretty

end Document

end RequestParams
