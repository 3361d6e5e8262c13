import RequestParams.Decimal.Literal
import RequestParams.Logging.Pattern
import RequestParams.Text.Utf8
import RequestParams.Json.Value
import RequestParams.Text.Quoted

set_option autoImplicit false
set_option relaxedAutoImplicit false

/-!
How events are logged: the settings, their presets, and the checks that precede logging.
-/

namespace RequestParams.Logging

/-!
### Filters

A filter says which events are shown: directives between commas, each a level, a target, or a target
with a level behind an equals sign.  A target may name a span in brackets, with the fields of the
span and patterns for their values in braces.
-/

inductive DirectiveFault where
  | malformed
  | level
  | field (cause : PatternFault)
deriving DecidableEq

def PatternFault.message : PatternFault → String
  | .malformed => "error building NFA"
  | .boundary =>
    "unsupported regex feature for DFAs: cannot build DFAs for regexes with Unicode word " ++
      "boundaries; switch to ASCII word boundaries, or heuristically enable Unicode word " ++
      "boundaries or use a different regex engine"

def DirectiveFault.message : DirectiveFault → String
  | .malformed => "invalid filter directive"
  | .level =>
    "error parsing level filter: expected one of \"off\", \"error\", \"warn\", \"info\", " ++
      "\"debug\", \"trace\", or a number 0-5"
  | .field cause => "invalid field filter: " ++ cause.message

def levelNames : List String := ["off", "error", "warn", "info", "debug", "trace"]

/-- Whether a text is a level: its name in any case, its number, or nothing. -/
def isLevel (text : List Char) : Bool :=
  let digits := match text with
    | '+' :: rest => rest
    | _ => text
  text.isEmpty || levelNames.contains (String.ofList (text.map Char.toLower)) ||
    (!digits.isEmpty && digits.all Char.isDigit && Nat.ofDigitChars 10 digits 0 ≤ 5)

def checkLevel (text : List Char) : Except DirectiveFault Unit :=
  if isLevel text then .ok () else .error .level

def checkValue (text : List Char) : Except DirectiveFault Unit :=
  if (FloatLiteral.read (String.ofList text)).isSome then .ok ()
  else
    match checkPattern text with
    | .ok () => .ok ()
    | .error cause => .error (.field cause)

/-- Checks a field: its name, and its value between the first equals sign and the second. -/
def checkField (text : List Char) : Except DirectiveFault Unit :=
  if text.isEmpty then .error .malformed
  else
    match text.dropWhile (· ≠ '=') with
    | [] => .ok ()
    | _ :: value => checkValue (value.takeWhile (· ≠ '='))

/-- Where in a directive a character stands.  Beginnings of parts are counted in bytes. -/
inductive Place where
  | start
  | target
  | span
  | field (begin : Nat)
  | behindFields
  | behindSpan
  | level (begin : Nat)
deriving DecidableEq

/-- Whether a character may begin a directive that does not begin with a span. -/
def beginsTarget (c : Char) : Bool := Text.isWord c || c = '-' || c = ':'

def cut (text : List Char) (first last : Nat) : List Char :=
  match text with
  | [] => []
  | c :: rest =>
    let size := c.utf8Size
    if last = 0 then []
    else if first = 0 then c :: cut rest 0 (last - size)
    else cut rest (first - size) (last - size)

def Place.next (text : List Char) (offset : Nat) (c : Char) : Place → Except DirectiveFault Place
  | .start =>
    if c = '[' then .ok .span
    else if beginsTarget c then .ok .target
    else .error .malformed
  | .target =>
    if c = '=' then .ok (.level (offset + 1))
    else if c = '[' then .ok .span
    else .ok .target
  | .span =>
    if c = ']' then .ok .behindSpan
    else if c = '\x7b' then .ok (.field (offset + 1))
    else .ok .span
  | .field begin =>
    if c = '\x7d' then (checkField (cut text begin offset)).map fun _ => .behindFields
    else .ok (.field begin)
  | .behindFields => if c = ']' then .ok .behindSpan else .error .malformed
  | .behindSpan => if c = '=' then .ok (.level (offset + 1)) else .error .malformed
  | .level begin => .ok (.level begin)

def Place.finish (text : List Char) : Place → Except DirectiveFault Unit
  | .target | .behindSpan => .ok ()
  | .level begin => checkLevel (cut text begin (Text.Utf8.encode text).length)
  | _ => .error .malformed

def Place.run (text : List Char) : Place → Nat → List Char → Except DirectiveFault Unit
  | place, _, [] => place.finish text
  | place, offset, c :: rest =>
    match place.next text offset c with
    | .error fault => .error fault
    | .ok place => place.run text (offset + c.utf8Size) rest

/-- Checks one directive.  Offsets are counted from its first character that is not blank, but
its parts are cut from the whole of it: blanks at its beginning move them to the front. -/
def checkDirective (text : List Char) : Except DirectiveFault Unit :=
  Place.start.run text 0 (Text.trim text)

def checkDirectives : List (List Char) → Except DirectiveFault Unit
  | [] => .ok ()
  | text :: rest =>
    match checkDirective text with
    | .error fault => .error fault
    | .ok () => checkDirectives rest

/-- Checks a filter; empty directives say nothing. -/
def checkFilter (filter : String) : Except DirectiveFault Unit :=
  checkDirectives ((filter.toList.splitOn ',').filter (!·.isEmpty))

example : checkFilter "docs=warn,debug,a b[c\x7bd=1*\x7d]" = .ok () := by rfl

example : checkFilter " a=info" = .error .level := by rfl

example : checkFilter "[a\x7bb=(\x7d]" = .error (.field .malformed) := by rfl

example : checkFilter "a=b=c" = .error .level := by rfl

example : checkFilter "not a [" = .error .malformed := by rfl

/-! ### Settings -/

structure Config where
  enabled : Bool := true
  level : String := "info"
  jsonFormat : Bool := true
  spanEvents : Bool := false
  fileLineInfo : Bool := false
  threadIds : Bool := false
  includeTarget : Bool := true
deriving DecidableEq

namespace Config

def development : Config where
  level := "debug"
  jsonFormat := false
  spanEvents := true
  fileLineInfo := true

def production : Config := {}

def toJson (config : Config) : Json :=
  .object [("enabled", .bool config.enabled), ("level", .string config.level),
    ("json_format", .bool config.jsonFormat), ("span_events", .bool config.spanEvents),
    ("file_line_info", .bool config.fileLineInfo), ("thread_ids", .bool config.threadIds),
    ("include_target", .bool config.includeTarget)]

def names : List String :=
  ["enabled", "level", "json_format", "span_events", "file_line_info", "thread_ids",
    "include_target"]

def ofJson? (value : Json) : Option Config := do
  let defaults : Config := {}
  let members ← value.fields? names
  let enabled ← Json.memberOr "enabled" defaults.enabled Json.bool? members
  let level ← Json.memberOr "level" defaults.level Json.text? members
  let jsonFormat ← Json.memberOr "json_format" defaults.jsonFormat Json.bool? members
  let spanEvents ← Json.memberOr "span_events" defaults.spanEvents Json.bool? members
  let fileLineInfo ← Json.memberOr "file_line_info" defaults.fileLineInfo Json.bool? members
  let threadIds ← Json.memberOr "thread_ids" defaults.threadIds Json.bool? members
  let includeTarget ← Json.memberOr "include_target" defaults.includeTarget Json.bool? members
  pure ⟨enabled, level, jsonFormat, spanEvents, fileLineInfo, threadIds, includeTarget⟩

end Config

inductive LoggingFailure where
  | invalidFilter (filter : String) (fault : DirectiveFault)
  | alreadyStarted
deriving DecidableEq

namespace LoggingFailure

def message : LoggingFailure → String
  | .invalidFilter filter fault =>
    "invalid log filter " ++ Text.quoted filter ++ ": " ++ fault.message
  | .alreadyStarted =>
    "failed to initialize logging: a global default trace dispatcher has already been set"

end LoggingFailure

def validFilter (filter : String) : Except LoggingFailure Unit :=
  match checkFilter filter with
  | .ok () => .ok ()
  | .error fault => .error (.invalidFilter filter fault)

/-- Starts logging in a program, unless it is disabled or has been started before. -/
def start (started : Bool) (config : Config) : Except LoggingFailure Unit :=
  if !config.enabled then .ok ()
  else
    match validFilter config.level with
    | .error failure => .error failure
    | .ok () => if started then .error .alreadyStarted else .ok ()

end RequestParams.Logging
