import RequestParams.Declaration.Nested

set_option autoImplicit false
set_option relaxedAutoImplicit false

/-!
Attributes, paths with the arguments of their segments, and the calls of macros by paths.
-/

namespace RequestParams.Declaration

/-!
### Attributes

An attribute is a number sign and, in square brackets, a path with what the attribute is given.  It
stands before what it belongs to or, behind an exclamation mark, at the start of its braces.
-/

inductive AttributeContents where
  | nothing
  | group (body : List Tree)
  | value

structure Attribute where
  path : Path
  contents : AttributeContents

namespace Attribute

/-- The string literal in an attribute's brackets, if they hold one and nothing else. -/
def stringLiteral? (mark : Attribute) : Option String :=
  match mark.contents with
  | .group [.literal text] => if (StringLiteral.value? text).isSome then some text else none
  | _ => none

end Attribute

def pathKeywords : List String := ["super", "self", "Self", "crate"]

def startsSegment (trees : List Tree) : Bool := startsName trees || startsOneOf pathKeywords trees

def startsEquals (trees : List Tree) : Bool :=
  startsPunct '=' trees && !startsPuncts ['=', '='] trees && !startsPuncts ['=', '>'] trees

/-- Whether an attribute comes next that belongs to what is around it. -/
def startsInnerAttribute (trees : List Tree) : Bool :=
  startsPunct '#' trees && startsPunct '!' (trees.drop 1)

namespace Reader

def plainPath : Reader Path := do
  let isGlobal ← separator?
  let segment : Reader Segment := do
    guard startsSegment
    pure ⟨← anyWord, false⟩
  let first ← segment
  let others ← repeatWhile startsSeparator do
    skip 2
    segment
  pure ⟨isGlobal, first :: others⟩

/-- What an attribute is given.  A value may not begin with an attribute of its own. -/
def attributeContents (nested : Nested) : Reader AttributeContents := do
  if ← sees startsAnyGroup then do
    match ← next with
    | .group _ body => pure (.group body)
    | _ => failure
  else if ← sees startsEquals then do
    skip 1
    guard fun trees => !(startsPunct '#' trees && startsGroup .bracket (trees.drop 1))
    nested.value
    pure .value
  else pure .nothing

def attributeBrackets (nested : Nested) : Reader Attribute :=
  group .bracket do
    let path ← if ← word? "unsafe" then pure ⟨false, [⟨"unsafe", false⟩]⟩ else plainPath
    let contents ← attributeContents nested
    pure ⟨path, contents⟩

def attributes (nested : Nested) : Reader (List Attribute) :=
  repeatWhile (startsPunct '#') do
    skip 1
    attributeBrackets nested

def innerAttributes (nested : Nested) : Reader Unit := do
  let _ ← repeatWhile startsInnerAttribute do
    skip 2
    attributeBrackets nested

def markedBlock (nested : Nested) : Reader Unit :=
  group .brace do
    innerAttributes nested
    nested.statements

end Reader

/-! ### Looking ahead -/

/-- Whether angle brackets of arguments come next, behind a separator if need be.  In an
expression, a sign by itself compares. -/
def startsAngled (inExpression : Bool) (trees : List Tree) : Bool :=
  (!inExpression && startsPunct '<' trees && !startsPuncts ['<', '='] trees &&
      !startsPuncts ['<', '<', '='] trees) ||
    (startsSeparator trees && startsPunct '<' (trees.drop 2))

def startsFurtherSegment (trees : List Tree) : Bool :=
  startsSeparator trees && !startsGroup .parenthesis (trees.drop 2)

def startsPath (trees : List Tree) : Bool :=
  startsSegment trees || startsSeparator trees || startsPunct '<' trees

def startsCallPath (trees : List Tree) : Bool :=
  startsName trees || startsOneOf ["self", "super", "crate"] trees || startsSeparator trees

def startsConstant (trees : List Tree) : Bool := startsLiteral trees || startsGroup .brace trees

def startsLoneLifetime (trees : List Tree) : Bool :=
  startsLifetime trees && !startsPunct '+' (trees.drop 1)

def startsColon (trees : List Tree) : Bool := startsPunct ':' trees && !startsSeparator trees

def startsCallMark (trees : List Tree) : Bool :=
  startsPunct '!' trees && !startsPuncts ['!', '='] trees

def startsBuiltin (trees : List Tree) : Bool :=
  startsWord "builtin" trees && startsPunct '#' (trees.drop 1)

/-- Whether a type in angle brackets cannot come next, since generic parameters do. -/
def startsParameters (trees : List Tree) : Bool :=
  let first := trees.drop 1
  let second := trees.drop 2
  startsPunct '<' trees &&
    (startsPunct '>' first || startsPunct '#' first || startsWord "const" first ||
      ((startsLifetime first || startsName first) &&
        (startsPunct '>' second || startsPunct ',' second || startsColon second ||
          startsPunct '=' second)))

namespace Reader

/-! ### Arguments -/

def constant (nested : Nested) : Reader Unit := do
  if ← sees startsLiteral then literal
  else if ← sees startsName then skip 1
  else markedBlock nested

def argument (nested : Nested) : Reader Bool := do
  if ← sees startsLoneLifetime then do
    skip 1
    pure true
  else if ← sees startsConstant then do
    constant nested
    pure false
  else do
    match ← nested.type true with
    | .path path => do
      if path.isItemName then do
        if ← punct? '=' then do
          if ← sees startsConstant then constant nested
          else do
            let _ ← nested.type true
        else if ← punct? ':' then do
          let stop (trees : List Tree) : Bool := startsPunct ',' trees || startsPunct '>' trees
          let _ ← separated stop '+' (nested.bound .declared)
    | _ => pure ()
    pure false

def angled (nested : Nested) : Reader Unit := do
  let _ ← separator?
  punct '<'
  lifetimesFirst (argument nested)
  punct '>'

/-! ### Paths -/

/-- A segment of a path with its arguments; in an expression these need a separator before
them. -/
def segment (nested : Nested) (inExpression : Bool) : Reader Segment := do
  if ← sees (startsOneOf ["super", "self", "crate", "try"]) then do pure ⟨← anyWord, false⟩
  else do
    let text ← if ← sees (startsWord "Self") then anyWord else name
    if ← sees (startsAngled inExpression) then do
      angled nested
      pure ⟨text, true⟩
    else pure ⟨text, false⟩

def path (nested : Nested) (inExpression : Bool) : Reader Path := do
  let isGlobal ← separator?
  let first ← segment nested inExpression
  let others ← repeatWhile startsFurtherSegment do
    skip 2
    segment nested inExpression
  pure ⟨isGlobal, first :: others⟩

def qualifiedPath (nested : Nested) (inExpression : Bool) : Reader Unit := do
  punct '<'
  let _ ← nested.type true
  if ← word? "as" then do
    let _ ← path nested false
  punct '>'
  guard startsSeparator
  let _ ← path nested inExpression

/-! ### Macro calls -/

def callBrackets : Reader Bool := do
  let isBraced ← sees (startsGroup .brace)
  anyGroup
  pure isBraced

/-- A macro call among items: a semicolon follows brackets that are no braces. -/
def itemCall (allowName : Bool) : Reader Unit := do
  let _ ← plainPath
  punct '!'
  if allowName && (← sees fun trees => startsName trees || startsWord "try" trees) then skip 1
  if !(← callBrackets) then punct ';'

def builtin : Reader Unit := do
  word "builtin"
  punct '#'
  let _ ← name
  guard (startsGroup .parenthesis)
  skip 1

end Reader

end RequestParams.Declaration
