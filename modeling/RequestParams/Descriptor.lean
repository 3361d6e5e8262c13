import RequestParams.Field
import RequestParams.Text.Split

set_option autoImplicit false
set_option relaxedAutoImplicit false

/-!
Annotated fields: the annotation texts, what decoding and documentation know of a field, and
what they do with a field whose annotation has no name.
-/

namespace RequestParams

/-! ### The places of a request where a parameter may stand -/

inductive Location where
  | query
  | path
  | header
  | cookie
deriving DecidableEq

namespace Location

def text : Location → String
  | .query => "query"
  | .path => "path"
  | .header => "header"
  | .cookie => "cookie"

def read? (name : String) : Option Location :=
  [query, path, header, cookie].find? fun location => location.text = name

theorem read?_text (location : Location) : read? location.text = some location := by
  cases location <;> decide

theorem text_of_read? {name : String} {location : Location}
    (known : read? name = some location) : location.text = name := by
  simpa using List.find?_some known

end Location

/-!
### Annotations

An annotation is a text of segments between semicolons; a segment with a colon is a key and a value,
both without blanks at their ends.  Six keys have a meaning, and the first segment with a key gives
its literal.
-/

/-- The literals of the six keys of an annotation, empty where the key is missing. -/
structure Literals where
  kind : String := ""
  name : String := ""
  description : String := ""
  exampleText : String := ""
  required : String := ""
  schemaMin : String := ""
deriving DecidableEq

namespace Literals

def readSegment (segment : List Char) : Option (String × String) :=
  (Text.splitFirst ':' segment).map fun (key, value) =>
    (String.ofList (Text.trim key), String.ofList (Text.trim value))

/-- The keys and values of the segments with a colon, in their order. -/
def segments (text : String) : List (String × String) :=
  (text.toList.splitOn ';').filterMap readSegment

def lookup (text key : String) : Option String := (segments text).lookup key

def keys : List String := ["kind", "name", "desc", "example", "required", "schemaMin"]

def read (text : String) : Literals where
  kind := (lookup text "kind").getD ""
  name := (lookup text "name").getD ""
  description := (lookup text "desc").getD ""
  exampleText := (lookup text "example").getD ""
  required := (lookup text "required").getD ""
  schemaMin := (lookup text "schemaMin").getD ""

def isEmpty (literals : Literals) : Bool := decide (literals = {})

end Literals

/-! ### Descriptors -/

structure Descriptor where
  field : String
  type : FieldType
  literals : Literals
deriving DecidableEq

namespace Descriptor

def read (field : String) (type : FieldType) (text : String) : Descriptor :=
  ⟨field, type, Literals.read text⟩

def location? (descriptor : Descriptor) : Option Location :=
  Location.read? descriptor.literals.kind

def isNameless (descriptor : Descriptor) : Bool := descriptor.literals.name = ""

end Descriptor

/-!
### Fields without a name

Decoding passes over them unless told otherwise, documentation refuses them unless told otherwise.
-/

inductive EmptyNamePolicy where
  | skip
  | reject
deriving DecidableEq

namespace EmptyNamePolicy

def text : EmptyNamePolicy → String
  | .skip => "skip"
  | .reject => "reject"

def read? (name : String) : Option EmptyNamePolicy :=
  [skip, reject].find? fun policy => policy.text = name

def ofJson? (value : Json) : Option EmptyNamePolicy := value.variantName?.bind read?

def ofSettings? (default : EmptyNamePolicy) (value : Json) : Option EmptyNamePolicy :=
  (value.fields? ["empty_name"]).bind (Json.memberOr "empty_name" default ofJson?)

end EmptyNamePolicy

structure DecodeOptions where
  emptyName : EmptyNamePolicy := .skip
deriving DecidableEq

structure DescribeOptions where
  emptyName : EmptyNamePolicy := .reject
deriving DecidableEq

def DecodeOptions.ofJson? (value : Json) : Option DecodeOptions :=
  (EmptyNamePolicy.ofSettings? .skip value).map fun policy => ⟨policy⟩

def DescribeOptions.ofJson? (value : Json) : Option DescribeOptions :=
  (EmptyNamePolicy.ofSettings? .reject value).map fun policy => ⟨policy⟩

def DecodeOptions.toJson (options : DecodeOptions) : Json :=
  .object [("empty_name", .string options.emptyName.text)]

def DescribeOptions.toJson (options : DescribeOptions) : Json :=
  .object [("empty_name", .string options.emptyName.text)]

end RequestParams
