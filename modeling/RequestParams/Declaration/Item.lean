import RequestParams.Declaration.Type

set_option autoImplicit false
set_option relaxedAutoImplicit false

/-!
Items that declare types, structures, enumerations and unions, and their fields.  Of an item its
name, its generic parameters and, where it is a structure with named fields, its fields are kept.
-/

namespace RequestParams.Declaration

structure Member where
  name : String
  attributes : List Attribute
  type : DeclaredType

/-! ### Fields and the visibility before them -/

/-- Whether brackets restrict the visibility before them: they hold a path behind `in`, or one of
three words alone. -/
def restrictsVisibility : List Tree → Bool
  | .group .parenthesis body :: _ =>
    startsWord "in" body ||
      (startsOneOf ["crate", "self", "super"] body && (body.drop 1).isEmpty)
  | _ => false

def startsNamelessRecord (trees : List Tree) : Bool :=
  startsWord "struct" trees || (startsWord "union" trees && startsGroup .brace (trees.drop 1))

namespace Reader

def visibility : Reader Bool := do
  let isWritten ← word? "pub"
  if isWritten && (← sees restrictsVisibility) then
    group .parenthesis do
      if ← word? "in" then do
        let _ ← plainPath
      else skip 1
  pure isWritten

/-- The type of a field.  That of a field without a name may list fields of its own, and is then
printed as it is written. -/
def fieldType (nested : Nested) (name : String) : Reader DeclaredType := do
  if name = "_" && (← sees startsNamelessRecord) then do
    let (_, trees) ← noted <| verbatim do
      skip 1
      group .brace nested.fields
    pure ⟨.verbatim, trees⟩
  else declaredType nested

def namedField (nested : Nested) : Reader Member := do
  let attributes ← attributes nested
  let _ ← visibility
  let name ← if ← sees (startsWord "_") then anyWord else name
  punct ':'
  pure ⟨name, attributes, ← fieldType nested name⟩

def namedFields (nested : Nested) : Reader (List Member) :=
  group .brace (commaList (namedField nested))

def unnamedField (nested : Nested) : Reader Unit := do
  let _ ← attributes nested
  let _ ← visibility
  let _ ← nested.type true

def unnamedFields (nested : Nested) : Reader Unit := do
  let _ ← group .parenthesis (commaList (unnamedField nested))

end Reader

/-! ### Items -/

inductive Body where
  | named (members : List Member)
  /-- A structure whose fields have no names, or that has none. -/
  | unnamed
  | alternatives

structure Item where
  name : String
  generics : Generics
  body : Body

namespace Reader

/-- A variant of an enumeration; its visibility is not printed. -/
def variant (nested : Nested) : Reader Unit := do
  let _ ← attributes nested
  let _ ← unprinted visibility
  let _ ← name
  if ← sees (startsGroup .brace) then do
    let _ ← namedFields nested
  else if ← sees (startsGroup .parenthesis) then unnamedFields nested
  if ← punct? '=' then nested.value

def structureBody (nested : Nested) : Reader (List Tree × Body) := do
  let isEarly ← sees (startsWord "where")
  let clause ← conditions nested
  if ← sees (startsGroup .brace) then do pure (clause, .named (← namedFields nested))
  else if !isEarly && (← sees (startsGroup .parenthesis)) then do
    unnamedFields nested
    let clause ← conditions nested
    punct ';'
    pure (clause, .unnamed)
  else do
    punct ';'
    pure (clause, .unnamed)

def enumerationBody (nested : Nested) : Reader (List Tree × Body) := do
  let clause ← conditions nested
  let _ ← group .brace (commaList (variant nested))
  pure (clause, .alternatives)

def unionBody (nested : Nested) : Reader (List Tree × Body) := do
  let clause ← conditions nested
  let _ ← namedFields nested
  pure (clause, .alternatives)

def typeItem (nested : Nested) : Reader Item := do
  let body ← if ← word? "struct" then pure structureBody
    else if ← word? "enum" then pure enumerationBody
    else do
      word "union"
      pure unionBody
  let name ← name
  let parameters ← parameters nested
  let (clause, body) ← body nested
  pure ⟨name, ⟨parameters, clause⟩, body⟩

def declaration (nested : Nested) : Reader Item := do
  let _ ← attributes nested
  let _ ← visibility
  typeItem nested

end Reader

end RequestParams.Declaration
