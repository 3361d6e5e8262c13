import RequestParams.Declaration.Expression
import RequestParams.Declaration.Type

set_option autoImplicit false
set_option relaxedAutoImplicit false

/-!
Functions with their inputs, constants and names for types: what may stand both among items and
among the members of a trait or an implementation.
-/

namespace RequestParams.Declaration

inductive InputForm where
  | receiver
  | typed
  | variadic
deriving DecidableEq

structure ConstantForm where
  isPlain : Bool
  hasValue : Bool

structure AliasForm where
  hasBounds : Bool
  hasValue : Bool

inductive ConditionPlace where
  | early
  | late
  | either
deriving DecidableEq

/-! ### Looking ahead -/

def dropWord (word : String) (trees : List Tree) : List Tree :=
  if startsWord word trees then trees.drop 1 else trees

def dropConvention (trees : List Tree) : List Tree :=
  if startsWord "extern" trees then
    let behind := trees.drop 1
    if startsString behind then behind.drop 1 else behind
  else trees

/-- Whether a function comes next, with the words before it; it may be declared safe if this is
allowed. -/
def startsSignature (allowSafe : Bool) (trees : List Tree) : Bool :=
  let trees := dropWord "async" (dropWord "const" trees)
  let isSafe := allowSafe && startsWord "safe" trees
  startsWord "fn" (dropConvention (if isSafe then trees.drop 1 else dropWord "unsafe" trees))

def startsReceiver (trees : List Tree) : Bool :=
  if startsPunct '&' trees then
    let behind := trees.drop 1
    startsWord "self" (dropWord "mut" (if startsLifetime behind then behind.drop 1 else behind))
  else
    let behind := dropWord "mut" trees
    startsWord "self" behind && !startsSeparator (behind.drop 1)

namespace Reader

/-! ### Functions -/

def receiver (nested : Nested) : Reader InputForm := do
  if ← punct? '&' then do
    if ← sees startsLifetime then skip 1
    wordIf "mut"
    word "self"
  else do
    wordIf "mut"
    word "self"
    if ← punct? ':' then do
      let _ ← nested.type true
  pure .receiver

/-- An input by a pattern and its type.  Before a type with arguments the pattern may be missing;
it is then printed as an underscore. -/
def typedInput (nested : Nested) : Reader InputForm := do
  if ← sees fun trees => startsName trees && startsPunct '<' (trees.drop 1) then do
    emit [.word "_", .punct ':' false]
    let _ ← nested.type true
    pure .typed
  else do
    let _ ← nested.pattern
    punct ':'
    if ← sees (startsPuncts ['.', '.', '.']) then do
      skip 3
      pure .variadic
    else do
      let _ ← nested.type true
      pure .typed

def functionInput (nested : Nested) : Reader InputForm := do
  let _ ← attributes nested
  if ← sees (startsPuncts ['.', '.', '.']) then do
    skip 3
    pure .variadic
  else if ← sees startsReceiver then receiver nested
  else typedInput nested

/-- The inputs of a function: a receiver can be the first one only, and any number of inputs the
last one. -/
def functionInputs (nested : Nested) : Reader Unit := do
  let forms ← group .parenthesis (commaList (functionInput nested))
  if (forms.drop 1).contains .receiver || forms.dropLast.contains .variadic then failure

def signature (nested : Nested) (allowSafe : Bool) : Reader Bool := do
  wordIf "const"
  wordIf "async"
  let isUnsafe ← word? "unsafe"
  let isSafe ← if allowSafe && !isUnsafe then word? "safe" else pure false
  callConvention
  word "fn"
  let _ ← name
  let _ ← parameters nested
  functionInputs nested
  resultType nested true
  let _ ← conditions nested
  pure isSafe

/-- A function with its body, or without one before a semicolon; tells whether it has a body. -/
def function (nested : Nested) : Reader Bool := do
  let _ ← signature nested false
  if ← punct? ';' then pure false
  else do
    markedBlock nested
    pure true

/-! ### Constants and names for types -/

def constantItem (nested : Nested) : Reader ConstantForm := do
  word "const"
  nameOr ["_"]
  let isGeneric ← sees (startsPunct '<')
  let _ ← parameters nested
  punct ':'
  let _ ← nested.type true
  let hasValue ← punct? '='
  if hasValue then nested.value
  let isConditional ← sees (startsWord "where")
  let _ ← conditions nested
  punct ';'
  pure ⟨!isGeneric && !isConditional, hasValue⟩

def endsAliasBounds (trees : List Tree) : Bool :=
  startsWord "where" trees || startsPunct '=' trees || startsPunct ';' trees

def typeAlias (nested : Nested) (place : ConditionPlace) : Reader AliasForm := do
  word "type"
  let _ ← name
  let _ ← parameters nested
  let hasBounds ← sees (startsPunct ':')
  boundsUntil endsAliasBounds (nested.bound .declared)
  let isConditional ← sees fun trees => place ≠ .late && startsWord "where" trees
  if isConditional then do
    let _ ← conditions nested
  let hasValue ← punct? '='
  if hasValue then do
    let _ ← nested.type true
  if place ≠ .early && !isConditional then do
    let _ ← conditions nested
  punct ';'
  pure ⟨hasBounds, hasValue⟩

end Reader

end RequestParams.Declaration
