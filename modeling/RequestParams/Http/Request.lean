import RequestParams.Failure
import RequestParams.Http.Uri

set_option autoImplicit false
set_option relaxedAutoImplicit false

/-!
Requests, with their headers and cookies, and what decoding asks of them.
-/

namespace RequestParams.Http

/-!
### Methods and headers

Their names are tokens of ASCII characters; header names are kept in lower case, header values are
bytes.
-/

def isTokenChar (c : Char) : Bool :=
  c.isAlphanum || "!#$%&'*+-.^_`|~".toList.contains c

def isToken (text : String) : Bool := !text.isEmpty && text.toList.all isTokenChar

/-- A text in lower case, where all its letters are of ASCII. -/
def lowerAscii (text : String) : String := String.ofList (text.toList.map Char.toLower)

def headerName? (name : String) : Option String :=
  if isToken name ∧ name.utf8ByteSize < 65536 then some (lowerAscii name) else none

def isValueByte (byte : UInt8) : Bool := (0x20 ≤ byte && byte != 0x7f) || byte = 0x09

/-- Headers in the order of their appending, each with its lower-case name and its bytes. -/
abbrev Headers := List (String × List UInt8)

namespace Headers

def append? (headers : Headers) (name : String) (value : List UInt8) : Option Headers :=
  match headerName? name with
  | some name => if value.all isValueByte then some (headers ++ [(name, value)]) else none
  | none => none

/-- Appends a header with a text for its value; an invalid one is passed over. -/
def append (headers : Headers) (name value : String) : Headers :=
  (headers.append? name (Text.Utf8.encode value.toList)).getD headers

def get? (headers : Headers) (name : String) : Option (List UInt8) :=
  (headerName? name).bind fun name => headers.lookup name

def getAll (headers : Headers) (name : String) : List (List UInt8) :=
  headers.filterMap fun (other, value) => if other = name then some value else none

def text? (headers : Headers) (name : String) : Option String :=
  (headers.get? name).map fun value => String.ofList (Text.Utf8.decode value)

def sorted (headers : Headers) : Headers := headers.mergeSort fun a b => a.1 ≤ b.1

end Headers

/-!
### Cookies

A cookie header holds pairs between semicolons, each a name and a value around its first equals
sign, without blanks at their ends; a value may stand in double quotes.
-/

abbrev Cookies := List (String × String)

namespace Cookies

/-- A value without the double quotes around it; a quote without a partner stays. -/
def unquote : List Char → List Char
  | '"' :: rest => if rest.getLast? = some '"' then rest.dropLast else '"' :: rest
  | value => value

def readPair (text : List Char) : Option (String × String) :=
  match Text.splitFirst '=' (Text.trim text) with
  | some (name, value) =>
    let name := Text.trim name
    if name.isEmpty then none
    else some (String.ofList name, String.ofList (unquote (Text.trim value)))
  | none => none

def read (text : List Char) : Cookies := (text.splitOn ';').filterMap readPair

def ofHeaders (headers : Headers) : Cookies :=
  (headers.getAll "cookie").flatMap fun value => read (Text.Utf8.decode value)

def get? (cookies : Cookies) (name : String) : Option String := cookies.lookup name

def contains (cookies : Cookies) (name : String) : Bool := (cookies.get? name).isSome

example : read "a=1; b = \"x=y\" ;=z; \"; c=\"".toList =
    [("a", "1"), ("b", "x=y"), ("c", "\"")] := by decide +kernel

end Cookies

/-! ### Captures of a path -/

abbrev Captures := List (String × String)

namespace Captures

def push (captures : Captures) (name value : String) : Captures := captures ++ [(name, value)]

def get? (captures : Captures) (name : String) : Option String := captures.lookup name

end Captures

/-! ### Requests -/

structure Request where
  method : String := "GET"
  uri : Uri := Uri.root
  headers : Headers := []
  captures : Captures := []

namespace Request

def cookies (request : Request) : Cookies := Cookies.ofHeaders request.headers

/-- Appends a header; an invalid one is passed over. -/
def withHeader (request : Request) (name value : String) : Request :=
  { request with headers := request.headers.append name value }

def withCookie (request : Request) (name value : String) : Request :=
  request.withHeader "cookie" (name ++ "=" ++ value)

def withCapture (request : Request) (name value : String) : Request :=
  { request with captures := request.captures.push name value }

def query? (request : Request) (name : String) : Option String :=
  request.uri.query.bind fun query => Query.get? query name

end Request

/-- Where the texts of parameters are looked up.  Only the query can be unreadable. -/
structure Source where
  query : String → Except Failure (Option String)
  capture : String → Option String
  header : String → Option String
  cookie : String → Option String

namespace Source

def ofRequest (request : Request) : Source where
  query name := .ok (request.query? name)
  capture name := request.captures.get? name
  header name := request.headers.text? name
  cookie name := request.cookies.get? name

def withBrokenQuery (source : Source) (part reason : String) : Source :=
  { source with query := fun _ => .error (.malformedRequest part reason) }

end Source

end RequestParams.Http
