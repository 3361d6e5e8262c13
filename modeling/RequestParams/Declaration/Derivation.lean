import RequestParams.Declaration.Grammar
import RequestParams.RecordType

set_option autoImplicit false
set_option relaxedAutoImplicit false

/-!
From a declared structure to a record type.  Each named field is registered under its name, with
its type and the text of its annotation; the registration is also written as the tokens of an
implementation.
-/

namespace RequestParams.Declaration

inductive DerivationError where
  | notAStructure
  | unnamedFields
  | annotatedTwice
  | notAStringLiteral
deriving DecidableEq

def DerivationError.message : DerivationError → String
  | .notAStructure => "Parameters can only be derived for structs"
  | .unnamedFields => "Parameters can only be derived for structs with named fields"
  | .annotatedTwice => "duplicate #[param] attribute"
  | .notAStringLiteral => "expected a string literal, e.g. #[param(\"name: id; kind: path\")]"

structure DerivedField where
  identifier : String
  type : FieldType
  literal : Option String

structure Derivation where
  identifier : String
  generics : Generics
  fields : List DerivedField

/-! ### Reading -/

/-- The literal of the only annotation among attributes, given the one before them.  An attribute
annotates if its path is `param`; others are passed over. -/
def annotationAmong : Option String → List Attribute → Except DerivationError (Option String)
  | found, [] => .ok found
  | found, mark :: rest =>
    if mark.path.isWord "param" then
      if found.isSome then .error .annotatedTwice
      else
        match mark.stringLiteral? with
        | some literal => annotationAmong (some literal) rest
        | none => .error .notAStringLiteral
    else annotationAmong found rest

namespace DerivedField

def ofMember (member : Member) : Except DerivationError DerivedField := do
  let literal ← annotationAmong none member.attributes
  pure ⟨member.name, member.type.fieldType, literal⟩

def name (field : DerivedField) : String :=
  match field.identifier.toList with
  | 'r' :: '#' :: rest => String.ofList rest
  | _ => field.identifier

def annotationText (field : DerivedField) : Option String :=
  field.literal.bind StringLiteral.value?

/-- The registration of a field; it has the storage that belongs to its type. -/
def registration (field : DerivedField) : Registration :=
  ⟨field.name, field.type, field.annotationText, Slot.ofType field.type⟩

end DerivedField

namespace Derivation

def ofItem (item : Item) : Except DerivationError Derivation :=
  match item.body with
  | .named members => do
    let fields ← members.mapM DerivedField.ofMember
    pure ⟨item.name, item.generics, fields⟩
  | .unnamed => .error .unnamedFields
  | .alternatives => .error .notAStructure

def recordType (derivation : Derivation) : RecordType :=
  derivation.fields.map DerivedField.registration

end Derivation

/-! ### Writing -/

def rootPath (words : List String) : List Tree :=
  words.flatMap fun word => [.punct ':' true, .punct ':' false, .word word]

def signs (chars : String) : List Tree := chars.toList.map fun char => .punct char false

/-- The argument for an annotation: the literal as written, or nothing where there is none. -/
def annotationArgument (literal : Option String) : List Tree :=
  let optional := rootPath ["core", "option", "Option"]
  match literal with
  | some literal => optional ++ rootPath ["Some"] ++ [.group .parenthesis [.literal literal]]
  | none =>
    optional ++ signs "::<&" ++ [.lifetime "static", .word "str"] ++ signs ">" ++
      rootPath ["None"]

def methodCall (method : String) (arguments : List (List Tree)) : List Tree :=
  [.punct '.' false, .word method,
    .group .parenthesis ((arguments.intersperse [.punct ',' false]).flatten)]

def accessor (identifier : String) : List Tree :=
  signs "|" ++ [.word "record"] ++ signs "|&" ++ [.word "mut", .word "record"] ++ signs "." ++
    [.word identifier]

namespace DerivedField

def call (field : DerivedField) : List Tree :=
  let name := [.literal (StringLiteral.write field.name)]
  let text := annotationArgument field.literal
  let settable (method : String) : List Tree :=
    methodCall method [name, text, accessor field.identifier]
  match field.type with
  | .int => settable "int"
  | .bool => settable "bool"
  | .string => settable "string"
  | .unsupported typeName =>
    methodCall "unsupported" [name, [.literal (StringLiteral.write typeName)], text]

end DerivedField

namespace Derivation

def implementation (derivation : Derivation) : List Tree :=
  let bindings := rootPath ["paramdoc_core", "Bindings"]
  let ofItself := signs "<" ++ [.word "Self"] ++ signs ">"
  let registrations := derivation.fields.flatMap DerivedField.call
  let creation := bindings ++ signs "::" ++ ofItself ++ rootPath ["new"] ++ [.group .parenthesis []]
  let method := [.word "fn", .word "bindings", .group .parenthesis []] ++ signs "->" ++ bindings ++
    ofItself ++ [.group .brace (creation ++ registrations)]
  [.word "impl"] ++ derivation.generics.declared ++ rootPath ["paramdoc_core", "Parameters"] ++
    [.word "for", .word derivation.identifier] ++ derivation.generics.names ++
    derivation.generics.conditions ++ [.group .brace method]

def tokens (derivation : Derivation) : List String := Tree.allTokens derivation.implementation

private def recordTypeOf (text : String) : Option RecordType := do
  let derivation ← (ofItem (← Item.read text)).toOption
  pure derivation.recordType

example : recordTypeOf "struct P<T> \x7b #[doc] #[param(\"kind: path\")] r#in: (i64), b: T, \x7d" =
    some [⟨"in", .int, some "kind: path", .int⟩, ⟨"b", .unsupported "T", none, .readOnly⟩] := by
  decide +kernel

private def errorOf (text : String) : Option DerivationError :=
  match (Item.read text).map ofItem with
  | some (.error cause) => some cause
  | _ => none

example : errorOf "struct P \x7b #[param(\"\")] #[param] a: bool \x7d" = some .annotatedTwice := by
  decide +kernel

example : errorOf "struct P \x7b #[param(\"a\",)] a: bool \x7d" = some .notAStringLiteral := by
  decide +kernel

example : errorOf "struct P(bool);" = some .unnamedFields := by decide +kernel

example : errorOf "union P \x7b a: bool \x7d" = some .notAStructure := by decide +kernel

end Derivation

end RequestParams.Declaration
