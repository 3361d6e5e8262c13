import RequestParams.Declaration.Generics

set_option autoImplicit false
set_option relaxedAutoImplicit false

/-!
Types.  Of a type only its shape is kept: whether it is a path by itself, perhaps in round
brackets, or one bound by itself.
-/

namespace RequestParams.Declaration

inductive Enclosed where
  | row
  | type (shape : TypeShape)
  | bound

/-- A type as it is declared: its shape, and its trees as they are printed. -/
structure DeclaredType where
  shape : TypeShape
  trees : List Tree

/-! ### Looking ahead -/

def startsFunction (trees : List Tree) : Bool := startsOneOf ["fn", "unsafe", "extern"] trees

def startsBindable (trees : List Tree) : Bool := startsSegment trees || startsFunction trees

def startsInputName (trees : List Tree) : Bool :=
  (startsName trees || startsWord "_" trees) && startsColon (trees.drop 1)

def startsVariadic (trees : List Tree) : Bool :=
  let dots := ['.', '.', '.']
  startsPuncts dots trees || (startsInputName trees && startsPuncts dots (trees.drop 2))

/-- Whether the record itself comes next as the first input of a function type: one that can be
changed, perhaps by a name, or one with its type. -/
def startsSelfInput (trees : List Tree) : Bool :=
  let unnamed := if startsInputName trees then trees.drop 2 else trees
  (startsWord "mut" unnamed && startsWord "self" (unnamed.drop 1)) ||
    (startsWord "self" trees && startsColon (trees.drop 1))

namespace Reader

def lifetimeType (nested : Nested) : Reader TypeShape := do
  objectBounds nested true .ofObject
  pure .other

/-- Bounds of an object behind a word, and perhaps a star, with which they are printed as they
are written. -/
def objectType (nested : Nested) (allowPlus : Bool) : Reader TypeShape := do
  word "dyn"
  let isStarred ← punct? '*'
  objectBounds nested allowPlus .ofObject
  pure (if isStarred then .verbatim else .other)

def enclosed (nested : Nested) : Reader Enclosed := do
  if ← sees List.isEmpty then pure .row
  else if ← sees startsLifetime then do pure (.type (← lifetimeType nested))
  else if ← sees (startsPunct '?') then do
    let _ ← traitBound nested false
    pure .bound
  else do
    let first ← nested.type true
    if ← punct? ',' then do
      let _ ← commaList (nested.type true)
      pure .row
    else pure (.type first)

def addedBounds (nested : Nested) : Reader (List Bool) :=
  repeatWhile (startsPunct '+') do
    skip 1
    bound nested .ofObject

def unwrapped : List Tree → List Tree
  | [.group _ body] => body
  | trees => trees

/-- A type that begins with round brackets.  Brackets around a bound in brackets are not printed
where further bounds follow. -/
def enclosedType (nested : Nested) (allowPlus : Bool) : Reader TypeShape := do
  let (contents, trees) ← captured (group .parenthesis (enclosed nested))
  match contents with
  | .row => do
    emit trees
    pure .other
  | .bound => do
    emit trees
    let others ← addedBounds nested
    pure (if others.isEmpty then .bound true else .other)
  | .type inner => do
    let isJoined ← sees fun trees => allowPlus && startsPunct '+' trees
    match isJoined, inner with
    | true, .path _ => do
      emit trees
      let _ ← addedBounds nested
      pure .other
    | true, .bound isEnclosed => do
      emit (if isEnclosed then unwrapped trees else trees)
      let _ ← addedBounds nested
      pure .other
    | _, _ => do
      emit trees
      pure (.parenthesized inner)

/-- The record itself as the first input of a function type, perhaps with its type; tells whether
it is one that can be changed, which is printed as it is written. -/
def selfInput (nested : Nested) : Reader Bool := do
  let isNamed ← sees startsInputName
  if isNamed then skip 2
  let isMutable ← word? "mut"
  word "self"
  if !isNamed && (← sees startsColon) then do
    skip 1
    let _ ← nested.type true
  pure isMutable

def input (nested : Nested) (isFirst : Bool) : Reader Bool := do
  let _ ← attributes nested
  if ← sees startsVariadic then do
    if ← sees startsInputName then skip 2
    skip 3
    pure true
  else if isFirst && (← sees startsSelfInput) then do
    let _ ← asWritten id (selfInput nested)
    pure false
  else do
    if ← sees startsInputName then skip 2
    let _ ← nested.type true
    pure false

def inputs (nested : Nested) : Reader Unit := do
  let isAlone ← sees List.isEmpty
  if !isAlone then do
    let first ← input nested true
    let isFollowed ← punct? ','
    let others ← if isFollowed then commaList (input nested false) else pure []
    if (first :: others).dropLast.any id then failure

def callConvention : Reader Unit := do
  if ← word? "extern" then do
    if ← sees startsString then skip 1

def functionType (nested : Nested) : Reader TypeShape := do
  wordIf "unsafe"
  callConvention
  word "fn"
  group .parenthesis (inputs nested)
  resultType nested false
  pure .other

/-- A type that begins with a path, behind the lifetimes that it binds: the path itself, a call
by it, which does not print what is bound, or bounds of which it is the first. -/
def pathType (nested : Nested) (allowPlus : Bool) (binder : Option (List Tree)) :
    Reader TypeShape := do
  if ← sees (startsPunct '<') then do
    qualifiedPath nested false
    pure .other
  else do
    let (path, trees) ← captured (path nested false)
    if path.isPlain && (← sees startsCallMark) then do
      emit trees
      skip 1
      anyGroup
      pure .other
    else do
      emit (binder.getD [] ++ trees)
      let isJoined ← sees fun trees => allowPlus && startsPunct '+' trees
      if isJoined then do
        let _ ← furtherBounds nested .ofObject
        pure .other
      else pure (if binder.isSome then .bound false else .path path)

def sliceType (nested : Nested) : Reader TypeShape := do
  group .bracket do
    let _ ← nested.type true
    if ← punct? ';' then nested.value
  pure .other

def pointerType (nested : Nested) : Reader TypeShape := do
  punct '*'
  oneOf ["const", "mut"]
  let _ ← nested.type false
  pure .other

def referenceType (nested : Nested) : Reader TypeShape := do
  punct '&'
  if ← sees startsLifetime then skip 1
  wordIf "mut"
  let _ ← nested.type false
  pure .other

/-- A form that the compiler alone provides, in place of a type. -/
def builtinType : Reader TypeShape := do
  builtin
  pure .verbatim

def boundType (nested : Nested) (allowPlus : Bool) : Reader TypeShape := do
  let (_, binder) ← captured (binder? nested)
  guard startsBindable
  if ← sees startsFunction then do
    emit binder
    functionType nested
  else if ← sees startsBuiltin then builtinType
  else pathType nested allowPlus (some binder)

def type (nested : Nested) (allowPlus : Bool) : Reader TypeShape :=
  asWritten (· = .verbatim) do
    if ← sees (startsWord "for") then boundType nested allowPlus
    else if ← sees (startsGroup .parenthesis) then enclosedType nested allowPlus
    else if ← sees startsFunction then functionType nested
    else if ← sees startsBuiltin then builtinType
    else if ← sees startsPath then pathType nested allowPlus none
    else if ← sees (startsWord "dyn") then objectType nested allowPlus
    else if ← sees (startsGroup .bracket) then sliceType nested
    else if ← sees (startsPunct '*') then pointerType nested
    else if ← sees (startsPunct '&') then referenceType nested
    else if ← word? "impl" then do
      objectBounds nested allowPlus .ofHidden
      pure .other
    else if ← sees startsLifetime then lifetimeType nested
    else if ← sees (fun trees => startsPunct '!' trees || startsWord "_" trees) then do
      skip 1
      pure .other
    else failure

def declaredType (nested : Nested) : Reader DeclaredType := do
  let (shape, trees) ← noted (nested.type true)
  pure ⟨shape, trees⟩

end Reader

end RequestParams.Declaration
