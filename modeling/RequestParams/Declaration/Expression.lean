import RequestParams.Declaration.Generics
import RequestParams.Declaration.Pattern

set_option autoImplicit false
set_option relaxedAutoImplicit false

/-!
Expressions, as they stand in the lengths of arrays, in arguments for constants, behind equals
signs and in blocks: operands, what is applied to them, and the operators that join them.
-/

namespace RequestParams.Declaration

/-- The signs that join two operands, each before any sign that it begins with, and how strongly
they bind. -/
def operators : List (String × Strength) :=
  [("<<=", .assignment), (">>=", .assignment), ("+=", .assignment), ("-=", .assignment),
    ("*=", .assignment), ("/=", .assignment), ("%=", .assignment), ("^=", .assignment),
    ("&=", .assignment), ("|=", .assignment), ("&&", .conjunction), ("||", .disjunction),
    ("<<", .shift), (">>", .shift), ("==", .comparison), ("<=", .comparison),
    ("!=", .comparison), (">=", .comparison), ("+", .sum), ("-", .sum), ("*", .product),
    ("/", .product), ("%", .product), ("^", .oneBits), ("&", .bothBits), ("|", .eitherBits),
    ("<", .comparison), (">", .comparison), ("=", .assignment)]

def signsBehindRange : List String :=
  [",", ";", "?", "=", "+", "/", "%", "^", ">", "<=", "!=", "-=", "*=", "&=", "|=", "<<="]

/-! ### Looking ahead -/

def operator? (trees : List Tree) : Option (String × Strength) :=
  if startsPuncts ['=', '>'] trees then none
  else operators.find? fun operator => startsPuncts operator.1.toList trees

def strengthAhead (trees : List Tree) : Strength :=
  match operator? trees with
  | some (_, strength) => strength
  | none =>
    if startsRange trees then .range else if startsWord "as" trees then .cast else .jump

def startsUnary (trees : List Tree) : Bool :=
  startsPunct '-' trees || startsPunct '!' trees || startsPunct '*' trees || startsPunct '&' trees

def startsStop (trees : List Tree) : Bool := startsPunct '.' trees && !startsRange trees

def startsApplied (trees : List Tree) : Bool :=
  startsGroup .parenthesis trees || startsGroup .bracket trees || startsPunct '?' trees ||
    startsStop trees

def startsWordBlock (word : String) (trees : List Tree) : Bool :=
  startsWord word trees && startsGroup .brace (trees.drop 1)

def startsAsync (trees : List Tree) : Bool :=
  startsWordBlock "async" trees ||
    (startsWord "async" trees && startsWordBlock "move" (trees.drop 1))

def startsBinder (trees : List Tree) : Bool :=
  let behind := trees.drop 2
  startsWord "for" trees && startsPunct '<' (trees.drop 1) &&
    (startsLifetime behind || startsPunct '>' behind)

def startsClosure (trees : List Tree) : Bool :=
  let behind := trees.drop 1
  startsPunct '|' trees || startsOneOf ["move", "static"] trees || startsBinder trees ||
    (startsWord "const" trees && !startsGroup .brace behind) ||
    (startsWord "async" trees && (startsPunct '|' behind || startsWord "move" behind))

def startsBlock (trees : List Tree) : Bool :=
  startsOneOf ["if", "while", "loop", "match", "unsafe"] trees || startsLifetime trees ||
    (startsWord "for" trees && !startsBinder trees) || startsWordBlock "try" trees ||
    startsWordBlock "const" trees || startsGroup .brace trees

def startsOperandPath (trees : List Tree) : Bool :=
  let behind := trees.drop 1
  startsPath trees || (startsWord "try" trees && (startsPunct '!' behind || startsSeparator behind))

def startsExpression (trees : List Tree) : Bool :=
  let isSign (sign : Char) : Bool := startsPunct sign trees && !startsPuncts [sign, '='] trees
  (startsAnyWord trees && !startsWord "as" trees) || startsAnyGroup trees ||
    startsLiteral trees || isSign '!' || (isSign '-' && !startsPuncts ['-', '>'] trees) ||
    isSign '*' || isSign '|' || isSign '&' || startsRange trees ||
    (isSign '<' && !startsPuncts ['<', '<', '='] trees) || startsSeparator trees ||
    startsLifetime trees || startsPunct '#' trees

/-- Whether a range that does not hold its end has none; braces can begin an end if this is
allowed. -/
def lacksEnd (allowBraces : Bool) (trees : List Tree) : Bool :=
  trees.isEmpty || startsStop trees || (!allowBraces && startsGroup .brace trees) ||
    startsWord "as" trees || signsBehindRange.any fun sign => startsPuncts sign.toList trees

namespace Reader

/-! ### Operands -/

def fieldValues (nested : Nested) : Reader Unit :=
  commaListWithRest id do
    if ← sees startsRange then do
      skip 2
      if !(← sees List.isEmpty) then nested.value
      pure true
    else do
      let _ ← attributes nested
      let isNumbered ← sees startsNumber
      if isNumbered then position
      else do
        let _ ← name
      if isNumbered || (← sees (startsPunct ':')) then do
        punct ':'
        nested.value
      pure false

def pathOperand (nested : Nested) (allowBraces : Bool) : Reader ExpressionForm := do
  let isCall ← if ← sees (startsPunct '<') then do
      qualifiedPath nested true
      pure false
    else do
      let path ← path nested true
      if path.isPlain then sees startsCallMark else pure false
  if isCall then do
    skip 1
    pure (if ← callBrackets then .bracedCall else .other)
  else if allowBraces && (← sees (startsGroup .brace)) then do
    group .brace (fieldValues nested)
    pure .other
  else pure .other

def arrayValues (nested : Nested) : Reader Unit := do
  if !(← sees List.isEmpty) then do
    nested.value
    if ← punct? ';' then nested.value
    else if ← punct? ',' then do
      let _ ← commaList nested.value

/-- An input of a closure.  Attributes before a pattern that is printed as it is written are not
printed, unless a type follows. -/
def closureInput (nested : Nested) : Reader Unit := do
  let (_, marks) ← captured (attributes nested)
  let (shape, trees) ← captured nested.pattern
  let isTyped ← sees (startsPunct ':')
  if isTyped || shape ≠ .verbatim then emit marks
  emit trees
  if isTyped then do
    skip 1
    let _ ← nested.type true

def closure (nested : Nested) (allowBraces : Bool) : Reader ExpressionForm := do
  let _ ← binder? nested
  wordIf "const"
  wordIf "static"
  wordIf "async"
  wordIf "move"
  punct '|'
  let _ ← separated (startsPunct '|') ',' (closureInput nested)
  punct '|'
  if ← sees (startsPuncts ['-', '>']) then do
    resultType nested true
    nested.block
  else do
    let _ ← nested.expression (.upward .jump) allowBraces
  pure .other

/-- An exit from a loop or block, perhaps with a value.  What is named by a lifetime cannot be
the value without round brackets. -/
def breakOut (nested : Nested) (allowBraces : Bool) : Reader ExpressionForm := do
  word "break"
  if ← sees startsLifetime then do
    guard fun trees => !startsPunct ':' (trees.drop 1)
    skip 1
  let hasValue ← sees fun trees =>
    startsExpression trees && (allowBraces || !startsGroup .brace trees)
  if hasValue then nested.value
  pure .other

def leave (nested : Nested) : Reader ExpressionForm := do
  oneOf ["return", "yield"]
  if ← sees startsExpression then nested.value
  pure .other

def become (nested : Nested) : Reader ExpressionForm := do
  word "become"
  nested.value
  pure .verbatim

def matching (nested : Nested) (allowBraces : Bool) : Reader ExpressionForm := do
  word "let"
  let _ ← alternatives nested
  punct '='
  let _ ← nested.expression (.upward .comparison) allowBraces
  pure .other

def rangeEnd (nested : Nested) (allowBraces : Bool) : Reader ExpressionForm := do
  puncts ['.', '.']
  let isClosed ← punct? '='
  guard fun trees => isClosed || !startsPunct '.' trees
  if isClosed || !(← sees (lacksEnd allowBraces)) then do
    let _ ← nested.expression (.behind .range) allowBraces
  pure .range

/-! ### What ends with braces -/

/-- What is done in one case of a selection: a pattern, perhaps with a condition, and a value.  A
comma must follow unless the value ends with braces of its own or is the last one. -/
def choice (nested : Nested) : Reader Unit := do
  let _ ← attributes nested
  let _ ← alternatives nested
  if ← word? "if" then nested.value
  puncts ['=', '>']
  let form ← nested.expression .statement true
  if form = .block || (← sees List.isEmpty) then do
    let _ ← punct? ','
  else punct ','

def blockOperand (nested : Nested) : Reader Unit := do
  if ← sees startsLifetime then do
    skip 1
    punct ':'
    guard fun trees => startsOneOf ["while", "for", "loop"] trees || startsGroup .brace trees
  if ← word? "if" then do
    nested.condition
    nested.block
    let startsFurther (trees : List Tree) : Bool :=
      startsWord "else" trees && startsWord "if" (trees.drop 1)
    let _ ← repeatWhile startsFurther do
      skip 2
      nested.condition
      nested.block
    if ← word? "else" then nested.block
  else if ← word? "while" then do
    nested.condition
    markedBlock nested
  else if ← word? "for" then do
    let _ ← alternatives nested
    word "in"
    nested.condition
    markedBlock nested
  else if ← word? "match" then do
    nested.condition
    group .brace do
      innerAttributes nested
      untilEnd (choice nested)
  else if ← word? "try" then nested.block
  else do
    if ← sees (startsOneOf ["loop", "unsafe", "const"]) then skip 1
    markedBlock nested

/-! ### Operands with what applies to them -/

def bareOperand (nested : Nested) (allowBraces : Bool) : Reader ExpressionForm := do
  if ← sees startsLiteral then do
    literal
    pure .other
  else if ← sees startsAsync then do
    skip 1
    wordIf "move"
    nested.block
    pure .other
  else if ← sees startsBlock then do
    blockOperand nested
    pure .block
  else if ← sees startsClosure then closure nested allowBraces
  else if ← sees startsBuiltin then do
    builtin
    pure .verbatim
  else if ← sees startsOperandPath then pathOperand nested allowBraces
  else if ← sees (startsGroup .parenthesis) then do
    let _ ← group .parenthesis (commaList nested.value)
    pure .other
  else if ← sees (startsGroup .bracket) then do
    group .bracket (arrayValues nested)
    pure .other
  else if ← sees (startsWord "break") then breakOut nested allowBraces
  else if ← word? "continue" then do
    if ← sees startsLifetime then skip 1
    pure .other
  else if ← sees (startsOneOf ["return", "yield"]) then leave nested
  else if ← sees (startsWord "become") then become nested
  else if ← sees (startsWord "let") then matching nested allowBraces
  else if ← sees startsRange then rangeEnd nested allowBraces
  else do
    word "_"
    pure .other

def selected (nested : Nested) : Reader Unit := do
  if ← sees startsNumber then position
  else if ← sees (startsWord "await") then skip 1
  else do
    let _ ← name
    if ← sees startsSeparator then do
      angled nested
      guard (startsGroup .parenthesis)

/-- Fields by their numbers, one inside the other, behind a full stop; tells whether another full
stop ends them. -/
def positions : Reader Bool := do
  match ← unprinted next with
  | .literal text =>
    match Number.positions? text.toList with
    | some (numbers, isOpen) => do
      let stop : List Tree := [.punct '.' false]
      let written := numbers.map fun number =>
        [Tree.literal (String.ofList (Nat.toDigits 10 number))]
      emit ((written.intersperse stop).flatten ++ if isOpen then stop else [])
      pure isOpen
    | none => failure
  | _ => failure

def applied (nested : Nested) : Reader Unit := do
  if ← sees (startsGroup .parenthesis) then do
    let _ ← group .parenthesis (commaList nested.value)
  else if ← sees (startsGroup .bracket) then group .bracket nested.value
  else if ← punct? '?' then pure ()
  else do
    punct '.'
    if ← sees startsNumber then do
      if ← positions then selected nested
    else selected nested

/-- All that applies to an expression of a form; nothing applies to a range. -/
def allApplied (nested : Nested) (form : ExpressionForm) : Reader ExpressionForm := do
  if form = .range then pure form
  else do
    let steps ← repeatWhile startsApplied (applied nested)
    pure (if steps.isEmpty then form else .other)

def unary : Reader Unit := do
  if ← punct? '&' then do
    let isRaw ← sees fun trees =>
      startsWord "raw" trees && startsOneOf ["mut", "const"] (trees.drop 1)
    if isRaw then skip 2 else wordIf "mut"
  else skip 1

def operandWithin (nested : Nested) (allowBraces : Bool) : Nat → Reader ExpressionForm
  | 0 => failure
  | fuel + 1 => asWritten (· = .verbatim) do
    let marks ← attributes nested
    if ← sees startsUnary then do
      unary
      let _ ← operandWithin nested allowBraces fuel
      pure .other
    else do
      let form ← bareOperand nested allowBraces
      let form ← allApplied nested form
      if form = .range && !marks.isEmpty then failure
      pure form

def operand (nested : Nested) (allowBraces : Bool) : Reader ExpressionForm := do
  operandWithin nested allowBraces ((← ahead).length + 1)

/-! ### Operators -/

/-- The operators behind an operand of a form that bind at least as strongly as given, each with
its right operand.  Nothing joins a range to what follows it, and comparisons do not follow one
another; the fuel bounds the number of operators. -/
def operationsWithin (nested : Nested) (allowBraces : Bool) (weakest : Strength) :
    Nat → ExpressionForm → Reader ExpressionForm
  | 0, _ => failure
  | fuel + 1, form => do
    match operator? (← ahead) with
    | some (sign, strength) =>
      if form = .range || strength.rank < weakest.rank then pure form
      else if strength = .comparison && form = .comparison then failure
      else do
        puncts sign.toList
        let _ ← nested.expression (.behind strength) allowBraces
        operationsWithin nested allowBraces weakest fuel
          (if strength = .comparison then .comparison else .other)
    | none => do
      if form = .range then pure form
      else if weakest.rank ≤ Strength.range.rank && (← sees startsRange) then
        rangeEnd nested allowBraces
      else if ← word? "as" then do
        let _ ← nested.type false
        guard fun trees => !startsApplied trees
        operationsWithin nested allowBraces weakest fuel .other
      else pure form

def operations (nested : Nested) (allowBraces : Bool) (weakest : Strength)
    (form : ExpressionForm) : Reader ExpressionForm := do
  operationsWithin nested allowBraces weakest ((← ahead).length + 1) form

/-- The operators behind the right operand of an operator: those that bind more strongly, and
assignments behind assignments; the fuel bounds how often their strength sinks. -/
def strongerWithin (nested : Nested) (allowBraces : Bool) (strength : Strength) :
    Nat → ExpressionForm → Reader ExpressionForm
  | 0, _ => failure
  | fuel + 1, form => do
    let next := strengthAhead (← ahead)
    let isStronger := strength.rank < next.rank || (next = .assignment && strength = .assignment)
    if isStronger && form ≠ .range then do
      let form ← operations nested allowBraces next form
      strongerWithin nested allowBraces strength fuel form
    else pure form

/-! ### Expressions -/

/-- An expression as a statement, behind its attributes.  What ends with braces of its own stands
by itself, unless something is applied to it by a full stop or a question mark.  Attributes of
what is printed as it is written are not printed. -/
def statementExpression (nested : Nested) (marks : List Tree) : Reader ExpressionForm := do
  if ← sees startsBlock then do
    emit marks
    blockOperand nested
    if ← sees fun trees => startsStop trees || startsPunct '?' trees then do
      let form ← allApplied nested .block
      operations nested true .jump form
    else pure .block
  else do
    let (form, trees) ← captured (operand nested true)
    if form ≠ .verbatim then emit marks
    emit trees
    operations nested true .jump form

def expression (nested : Nested) (extent : Extent) (allowBraces : Bool) :
    Reader ExpressionForm := do
  match extent with
  | .upward weakest => do
    let form ← operand nested allowBraces
    operations nested allowBraces weakest form
  | .behind strength => do
    let form ← operand nested allowBraces
    strongerWithin nested allowBraces strength ((← ahead).length + 1) form
  | .statement => do
    let (_, marks) ← captured (attributes nested)
    statementExpression nested marks

end Reader

end RequestParams.Declaration
