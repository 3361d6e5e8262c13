import RequestParams.Declaration.Function
import RequestParams.Declaration.Item

set_option autoImplicit false
set_option relaxedAutoImplicit false

/-!
Traits, implementations and what is declared elsewhere, with their members.  A member or an
implementation that is written in an unfinished form is printed as it is written; the readers
here tell whether it is.
-/

namespace RequestParams.Declaration

/-! ### Looking ahead -/

/-- Whether the word for a default comes next, and not a macro of that name. -/
def startsDefault (trees : List Tree) : Bool :=
  startsWord "default" trees && !startsPunct '!' (trees.drop 1)

def startsStatic (trees : List Tree) : Bool :=
  startsWord "static" trees ||
    (startsOneOf ["unsafe", "safe"] trees && startsWord "static" (trees.drop 1))

def endsSupertraits (trees : List Tree) : Bool :=
  startsWord "where" trees || startsGroup .brace trees

def endsTraitAlias (trees : List Tree) : Bool :=
  startsWord "where" trees || startsPunct ';' trees

namespace Reader

/-! ### Members -/

def traitMember (nested : Nested) : Reader Bool :=
  asWritten id do
    let _ ← attributes nested
    let isVisible ← visibility
    let isDefault ← word? "default"
    let isMarked := isVisible || isDefault
    if ← sees (startsSignature false) then do
      let _ ← function nested
      pure isMarked
    else if ← sees (startsWord "const") then do
      let form ← constantItem nested
      pure (isMarked || !form.isPlain)
    else if ← sees (startsWord "type") then do
      let _ ← typeAlias nested .late
      pure isMarked
    else do
      guard fun trees => !isMarked && startsCallPath trees
      itemCall false
      pure false

/-- A member of an implementation: functions need a body, constants and types a value. -/
def implementationMember (nested : Nested) : Reader Bool :=
  asWritten id do
    let _ ← attributes nested
    let isVisible ← visibility
    let isDefault ← sees startsDefault
    if isDefault then skip 1
    if ← sees (startsSignature false) then do pure (!(← function nested))
    else if ← sees (startsWord "const") then do
      let form ← constantItem nested
      pure (!form.isPlain || !form.hasValue)
    else if ← sees (startsWord "type") then do
      let form ← typeAlias nested .late
      pure (form.hasBounds || !form.hasValue)
    else do
      guard fun trees => !isVisible && !isDefault && startsCallPath trees
      itemCall false
      pure false

def foreignStatic (nested : Nested) : Reader Bool := do
  let isUnsafe ← word? "unsafe"
  let isSafe ← word? "safe"
  word "static"
  wordIf "mut"
  let _ ← name
  punct ':'
  let _ ← nested.type true
  let hasValue ← punct? '='
  if hasValue then nested.value
  punct ';'
  pure (isUnsafe || isSafe || hasValue)

def foreignMember (nested : Nested) : Reader Bool :=
  asWritten id do
    let _ ← attributes nested
    let isVisible ← visibility
    if ← sees (startsSignature true) then do
      let isSafe ← signature nested true
      if ← sees (startsGroup .brace) then do
        markedBlock nested
        pure true
      else do
        punct ';'
        pure isSafe
    else if ← sees startsStatic then foreignStatic nested
    else if ← sees (startsWord "type") then do
      let form ← typeAlias nested .either
      pure (form.hasBounds || form.hasValue)
    else do
      guard fun trees => !isVisible && startsCallPath trees
      itemCall false
      pure false

def members (nested : Nested) (member : Reader Bool) : Reader Unit :=
  group .brace do
    innerAttributes nested
    untilEnd member

/-! ### Traits and implementations -/

def traitBody (nested : Nested) : Reader Unit := do
  boundsUntil endsSupertraits (nested.bound .declared)
  let _ ← conditions nested
  members nested (traitMember nested)

def traitNames (nested : Nested) : Reader Unit := do
  punct '='
  let _ ← separated endsTraitAlias '+' (nested.bound .ofObject)
  let _ ← conditions nested
  punct ';'

/-- A trait, or a name for several traits, behind its visibility. -/
def traitItem (nested : Nested) : Reader Unit := do
  let isUnsafe ← word? "unsafe"
  let isAutomatic ← word? "auto"
  word "trait"
  let _ ← name
  let _ ← parameters nested
  let isAlias ← sees fun trees => !isUnsafe && !isAutomatic && startsPunct '=' trees
  if isAlias then traitNames nested else traitBody nested

/-- An implementation; tells whether a trait is implemented in constant evaluation, or something
that is no path in place of a trait. -/
def implementation (nested : Nested) : Reader Bool := do
  wordIf "default"
  wordIf "unsafe"
  word "impl"
  if ← sees startsParameters then do
    let _ ← parameters nested
  let isConstant ← sees fun trees =>
    startsWord "const" trees || (startsPunct '?' trees && startsWord "const" (trees.drop 1))
  if isConstant then do
    let _ ← punct? '?'
    word "const"
  let isNegative ← sees fun trees =>
    startsPunct '!' trees && !startsGroup .brace (trees.drop 1)
  if isNegative then skip 1
  let shape ← nested.type true
  let hasTrait ← word? "for"
  if hasTrait then do
    let _ ← nested.type true
  else if isNegative then failure
  let _ ← conditions nested
  members nested (implementationMember nested)
  pure (isConstant || (hasTrait && !shape.isPath))

def foreignItems (nested : Nested) : Reader Unit := do
  wordIf "unsafe"
  guard (startsWord "extern")
  callConvention
  members nested (foreignMember nested)

end Reader

end RequestParams.Declaration
