import RequestParams.Declaration.Path

set_option autoImplicit false
set_option relaxedAutoImplicit false

/-!
The generic parameters of a declaration: lifetimes, types and constants, with their bounds and
with the conditions on them.  Where a declaration is implemented the parameters stand twice, once
with their bounds and once by their names.
-/

namespace RequestParams.Declaration

structure Parameter where
  isLifetime : Bool
  name : List Tree
  declared : List Tree
  default : List Tree

/-- The generic parameters of a declaration, each with whether a comma follows it, and the
conditions on them. -/
structure Generics where
  parameters : List (Parameter × Bool)
  /-- The clause with the conditions as it is printed; without conditions nothing. -/
  conditions : List Tree

namespace Parameter

def complete (parameter : Parameter) : List Tree := parameter.declared ++ parameter.default

/-- Parameters in some form between angle brackets, where there are any; lifetimes stand before
all others. -/
def printAll (form : Parameter → List Tree) (parameters : List (Parameter × Bool)) : List Tree :=
  if parameters.isEmpty then []
  else
    let items := parameters.map fun (parameter, isFollowed) =>
      (⟨parameter.isLifetime, form parameter, isFollowed⟩ : Listed)
    .punct '<' false :: Listed.lifetimesFirst items ++ [.punct '>' false]

end Parameter

namespace Generics

def declared (generics : Generics) : List Tree :=
  Parameter.printAll (·.declared) generics.parameters

def names (generics : Generics) : List Tree := Parameter.printAll (·.name) generics.parameters

end Generics

/-! ### Looking ahead -/

def endsBounds (trees : List Tree) : Bool :=
  startsPunct ',' trees || startsPunct '>' trees || startsPunct '=' trees

def startsTypeArguments (trees : List Tree) : Bool :=
  startsGroup .parenthesis trees ||
    (startsSeparator trees && startsGroup .parenthesis (trees.drop 2))

def startsFurtherBound (rules : BoundRules) (trees : List Tree) : Bool :=
  let behind := trees.drop 1
  startsPunct '+' trees &&
    (startsAnyWord behind || startsSeparator behind || startsPunct '?' behind ||
      startsLifetime behind || startsGroup .parenthesis behind ||
      (rules.allowConstant && startsGroup .bracket behind))

def endsClause (trees : List Tree) : Bool :=
  trees.isEmpty || startsGroup .brace trees || startsPunct ';' trees || startsColon trees ||
    startsPunct '=' trees

def endsCondition (trees : List Tree) : Bool := endsClause trees || startsPunct ',' trees

def startsLifetimeCondition (trees : List Tree) : Bool :=
  startsLifetime trees && startsPunct ':' (trees.drop 1)

namespace Reader

variable {α : Type}

/-! ### Parameters -/

/-- Bounds behind a colon, if there are any, joined by plus signs up to where a test stops; a
colon without bounds is not printed. -/
def boundsUntil (stop : List Tree → Bool) (bound : Reader α) : Reader Unit := do
  if ← sees (startsPunct ':') then do
    let (bounds, trees) ← captured do
      skip 1
      separated stop '+' bound
    if !bounds.isEmpty then emit trees

def constantParameter (nested : Nested) (marks : List Tree) : Reader Parameter := do
  let (_, before) ← captured (word "const")
  let (_, name) ← captured name
  let (_, type) ← captured do
    punct ':'
    nested.type true
  let (_, default) ← captured do
    if ← punct? '=' then constant nested
  pure ⟨false, name, marks ++ before ++ name ++ type, default⟩

def typeParameter (nested : Nested) (marks : List Tree) : Reader Parameter := do
  let (_, name) ← captured name
  let (_, bounds) ← captured (boundsUntil endsBounds (nested.bound .declared))
  let (_, default) ← captured do
    if ← punct? '=' then do
      let _ ← nested.type true
  pure ⟨false, name, marks ++ name ++ bounds, default⟩

def lifetimeParameter (marks : List Tree) : Reader Parameter := do
  let (_, name) ← captured lifetime
  let (_, bounds) ← captured (boundsUntil endsBounds lifetime)
  pure ⟨true, name, marks ++ name ++ bounds, []⟩

/-- A generic parameter, which is not printed; it may be left open if this is allowed. -/
def parameter (nested : Nested) (allowOpen : Bool) : Reader Parameter := do
  let (_, marks) ← captured (attributes nested)
  if ← sees startsLifetime then lifetimeParameter marks
  else if ← sees (startsWord "const") then constantParameter nested marks
  else if allowOpen && (← sees (startsWord "_")) then do
    let (_, name) ← captured (skip 1)
    pure ⟨false, name, marks ++ name, []⟩
  else typeParameter nested marks

def parameters (nested : Nested) : Reader (List (Parameter × Bool)) := do
  let parameters ← unprinted do
    if ← punct? '<' then do
      let parameters ← separated (startsPunct '>') ',' (parameter nested true)
      punct '>'
      pure parameters
    else pure []
  emit (Parameter.printAll (·.complete) parameters)
  pure parameters

def binder? (nested : Nested) : Reader Bool := do
  if ← word? "for" then do
    punct '<'
    let _ ← separated (startsPunct '>') ',' do
      let parameter ← parameter nested false
      emit parameter.complete
    punct '>'
    pure true
  else pure false

/-! ### Bounds -/

def resultType (nested : Nested) (allowPlus : Bool) : Reader Unit := do
  if ← sees (startsPuncts ['-', '>']) then do
    skip 2
    let _ ← nested.type allowPlus

/-- Types between round brackets and a result.  A separator before them is not printed. -/
def typeArguments (nested : Nested) : Reader Unit := do
  let _ ← unprinted separator?
  let _ ← group .parenthesis (commaList (nested.type true))
  resultType nested false

def captures : Reader Unit := do
  word "use"
  punct '<'
  lifetimesFirst do
    if ← sees startsLifetime then do
      skip 1
      pure true
    else do
      nameOr ["Self"]
      pure false
  punct '>'

def constantMark : Reader Bool := do
  if ← sees (startsGroup .bracket) then do
    group .bracket (word "const")
    pure true
  else word? "const"

/-- A trait as a bound; tells whether it is asked for in constant evaluation.  A question mark
and bound lifetimes exclude each other. -/
def traitBound (nested : Nested) (allowConstant : Bool) : Reader Bool := do
  let isBinding ← binder? nested
  let isConstant ← constantMark
  if isConstant && !allowConstant then failure
  let isLoosened ← punct? '?'
  if isLoosened && (isBinding || (← sees (startsWord "for"))) then failure
  let path ← path nested false
  if path.endsPlain && (← sees startsTypeArguments) then typeArguments nested
  pure isConstant

/-- A bound; tells whether it is a trait.  One in constant evaluation is printed as it is
written. -/
def bound (nested : Nested) (rules : BoundRules) : Reader Bool := do
  if ← sees startsLifetime then do
    skip 1
    pure false
  else if ← sees (startsWord "use") then do
    if rules.allowCaptures then captures else failure
    pure false
  else do
    let _ ← asWritten id do
      if ← sees (startsGroup .parenthesis) then
        group .parenthesis (traitBound nested rules.allowConstant)
      else traitBound nested rules.allowConstant
    pure true

/-- Further bounds, each behind a plus sign, and perhaps a plus sign at the end; tells for each
bound whether it is a trait. -/
def furtherBounds (nested : Nested) (rules : BoundRules) : Reader (List Bool) := do
  let traits ← repeatWhile (startsFurtherBound rules) do
    punct '+'
    bound nested rules
  let _ ← punct? '+'
  pure traits

def objectBounds (nested : Nested) (allowPlus : Bool) (rules : BoundRules) : Reader Unit := do
  let first ← bound nested rules
  let others ← if allowPlus then furtherBounds nested rules else pure []
  if first || others.any id then pure () else failure

/-! ### Conditions -/

def condition (nested : Nested) : Reader Unit := do
  if ← sees startsLifetimeCondition then do
    skip 2
    let _ ← separated endsCondition '+' lifetime
  else do
    let _ ← binder? nested
    let _ ← nested.type true
    punct ':'
    let _ ← separated endsCondition '+' (nested.bound .declared)

/-- A clause of conditions, if there is one, as it is printed; a clause without conditions is
not.  Generic parameters may not stand at its start. -/
def conditions (nested : Nested) : Reader (List Tree) := do
  if ← sees (startsWord "where") then do
    let (clause, trees) ← captured do
      skip 1
      guard fun trees => !startsParameters trees
      separated endsClause ',' (condition nested)
    let printed := if clause.isEmpty then [] else trees
    emit printed
    pure printed
  else pure []

end Reader

end RequestParams.Declaration
