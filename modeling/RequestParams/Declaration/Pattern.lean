import RequestParams.Declaration.Path

set_option autoImplicit false
set_option relaxedAutoImplicit false

/-!
Patterns: names, literals, ranges, paths with what they hold, rows, references, and alternatives
of these.
-/

namespace RequestParams.Declaration

/-! ### Looking ahead -/

def startsRange (trees : List Tree) : Bool := startsPuncts ['.', '.'] trees

def startsAlternative (trees : List Tree) : Bool :=
  startsPunct '|' trees && !startsPuncts ['|', '|'] trees && !startsPuncts ['|', '='] trees

def startsPathName (trees : List Tree) : Bool :=
  let behind := trees.drop 1
  startsName trees &&
    (startsSeparator behind || startsPunct '!' behind || startsGroup .brace behind ||
      startsGroup .parenthesis behind || startsRange behind)

def startsPathPattern (trees : List Tree) : Bool :=
  startsPathName trees || (startsWord "self" trees && startsSeparator (trees.drop 1)) ||
    startsSeparator trees || startsPunct '<' trees ||
    startsOneOf ["Self", "super", "crate"] trees

def endsRange (trees : List Tree) : Bool :=
  trees.isEmpty || startsPunct '|' trees || startsPunct '=' trees || startsColon trees ||
    startsPunct ',' trees || startsPunct ';' trees || startsWord "if" trees

namespace Reader

/-! ### Ranges -/

/-- The sign of a range, where three full stops are printed like the sign of one that holds its
end; tells whether it holds its end. -/
def rangeSign : Reader Bool := do
  if ← sees (startsPuncts ['.', '.', '=']) then do
    skip 3
    pure true
  else if ← sees (startsPuncts ['.', '.', '.']) then do
    unprinted (skip 3)
    emit [.punct '.' true, .punct '.' true, .punct '=' false]
    pure true
  else do
    puncts ['.', '.']
    pure false

def rangeBound (nested : Nested) : Reader Unit := do
  if ← sees startsLiteral then literal
  else if ← sees (startsPunct '<') then qualifiedPath nested true
  else if ← sees startsPath then do
    let _ ← path nested true
  else do
    word "const"
    markedBlock nested

def rangeRest (nested : Nested) : Reader Bool := do
  let isClosed ← rangeSign
  if ← sees endsRange then
    if isClosed then failure else pure false
  else do
    rangeBound nested
    pure true

def startedRange (nested : Nested) : Reader PatternShape := do
  pure (if ← rangeRest nested then .other else .openRange)

/-! ### Alternatives -/

/-- A pattern, or alternatives of which the first may stand behind the sign between them. -/
def alternatives (nested : Nested) : Reader PatternShape := do
  let isLed ← punct? '|'
  let first ← nested.pattern
  let others ← repeatWhile startsAlternative do
    skip 1
    nested.pattern
  pure (if isLed || !others.isEmpty then .other else first)

def patternRow (nested : Nested) : Reader (List PatternShape) := commaList (alternatives nested)

/-! ### Patterns with brackets -/

def fieldPattern (nested : Nested) : Reader Unit := do
  if ← sees (startsOneOf ["box", "ref", "mut"]) then do
    wordIf "box"
    wordIf "ref"
    wordIf "mut"
    let _ ← name
  else do
    let isNumbered ← sees startsNumber
    if isNumbered then position
    else do
      let _ ← name
    if isNumbered || (← sees (startsPunct ':')) then do
      punct ':'
      let _ ← alternatives nested

def fieldPatterns (nested : Nested) : Reader Unit :=
  commaListWithRest id do
    let _ ← attributes nested
    if ← sees startsRange then do
      skip 2
      pure true
    else do
      fieldPattern nested
      pure false

/-- A pattern that begins with a path: the path itself, a call by it, what it holds, or a range
of which it is the start. -/
def pathPattern (nested : Nested) : Reader PatternShape := do
  let isCall ← if ← sees (startsPunct '<') then do
      qualifiedPath nested true
      pure false
    else do
      let path ← path nested true
      if path.isPlain then sees startsCallMark else pure false
  if isCall then do
    skip 1
    anyGroup
    pure .other
  else if ← sees (startsGroup .brace) then do
    group .brace (fieldPatterns nested)
    pure .other
  else if ← sees (startsGroup .parenthesis) then do
    let _ ← group .parenthesis (patternRow nested)
    pure .other
  else if ← sees startsRange then startedRange nested
  else pure .other

/-- Patterns in square brackets, of which none is a range that is open on one side. -/
def slicePattern (nested : Nested) : Reader PatternShape := do
  let shapes ← group .bracket (patternRow nested)
  if shapes.contains .openRange then failure else pure .other

/-! ### Other patterns -/

def constantPattern (nested : Nested) : Reader PatternShape := do
  rangeBound nested
  if ← sees startsRange then startedRange nested else pure .other

def namePattern (nested : Nested) : Reader PatternShape := do
  wordIf "ref"
  wordIf "mut"
  nameOr ["self"]
  if ← punct? '@' then do
    let _ ← nested.pattern
  pure .other

def referencePattern (nested : Nested) : Reader PatternShape := do
  punct '&'
  wordIf "mut"
  let _ ← nested.pattern
  pure .other

/-- A pattern that begins with the sign of a range: a range without start, or the sign by itself
for whatever stands there. -/
def restPattern (nested : Nested) : Reader PatternShape := do
  guard fun trees => !startsPuncts ['.', '.', '.'] trees
  pure (if ← rangeRest nested then .openRange else .other)

def boxPattern (nested : Nested) : Reader PatternShape := do
  word "box"
  let _ ← nested.pattern
  pure .verbatim

def pattern (nested : Nested) : Reader PatternShape :=
  asWritten (· = .verbatim) do
    if ← sees startsPathPattern then pathPattern nested
    else if ← sees (startsWord "_") then do
      skip 1
      pure .other
    else if ← sees (startsWord "box") then boxPattern nested
    else if ← sees fun trees => startsPunct '-' trees || startsLiteral trees ||
        startsWord "const" trees then
      constantPattern nested
    else if ← sees fun trees => startsName trees || startsOneOf ["ref", "mut", "self"] trees then
      namePattern nested
    else if ← sees (startsPunct '&') then referencePattern nested
    else if ← sees (startsGroup .parenthesis) then do
      let _ ← group .parenthesis (patternRow nested)
      pure .other
    else if ← sees (startsGroup .bracket) then slicePattern nested
    else if ← sees startsRange then restPattern nested
    else failure

end Reader

end RequestParams.Declaration
