import RequestParams.Declaration.Literal
import RequestParams.Declaration.Tree

set_option autoImplicit false
set_option relaxedAutoImplicit false

/-!
Readers of token trees.  A reader takes trees from the front of a row and keeps those that it
has taken for printing, so that what is read can be printed in another order.
-/

namespace RequestParams.Declaration

/-- The trees still to be read, and those to be printed, last first. -/
structure Cursor where
  rest : List Tree
  printed : List Tree := []

abbrev Reader (α : Type) : Type := StateT Cursor Option α

/-! ### Looking ahead -/

def startsPunct (char : Char) : List Tree → Bool
  | .punct c _ :: _ => c = char
  | _ => false

def startsPuncts : List Char → List Tree → Bool
  | [], _ => true
  | [char], .punct c _ :: _ => c = char
  | char :: more, .punct c joint :: rest => c = char && joint && startsPuncts more rest
  | _, _ => false

def startsSeparator (trees : List Tree) : Bool := startsPuncts [':', ':'] trees

def startsWord (word : String) : List Tree → Bool
  | .word text :: _ => text = word
  | _ => false

def keywords : List String :=
  ["_", "abstract", "as", "async", "await", "become", "box", "break", "const", "continue",
    "crate", "do", "dyn", "else", "enum", "extern", "false", "final", "fn", "for", "if", "impl",
    "in", "let", "loop", "macro", "match", "mod", "move", "mut", "override", "priv", "pub", "ref",
    "return", "Self", "self", "static", "struct", "super", "trait", "true", "try", "type",
    "typeof", "unsafe", "unsized", "use", "virtual", "where", "while", "yield"]

def startsName : List Tree → Bool
  | .word text :: _ => !keywords.contains text
  | _ => false

def startsAnyWord : List Tree → Bool
  | .word _ :: _ => true
  | _ => false

def startsOneOf (words : List String) (trees : List Tree) : Bool :=
  words.any fun word => startsWord word trees

def startsLifetime : List Tree → Bool
  | .lifetime _ :: _ => true
  | _ => false

def startsGroup (delimiter : Delimiter) : List Tree → Bool
  | .group d _ :: _ => d = delimiter
  | _ => false

def startsAnyGroup : List Tree → Bool
  | .group _ _ :: _ => true
  | _ => false

def startsString : List Tree → Bool
  | .literal text :: _ => (StringLiteral.value? text).isSome
  | _ => false

def isNumber (literal : String) : Bool := literal.toList.head?.any Char.isDigit

def startsNumber : List Tree → Bool
  | .literal text :: _ => isNumber text
  | _ => false

def startsLiteral : List Tree → Bool
  | .literal _ :: _ => true
  | .word text :: _ => text = "true" || text = "false"
  | .punct '-' _ :: .literal text :: _ => isNumber text
  | _ => false

namespace Reader

variable {α : Type}

def ahead : Reader (List Tree) := do pure (← get).rest

def sees (test : List Tree → Bool) : Reader Bool := do pure (test (← get).rest)

def emit (trees : List Tree) : Reader Unit :=
  modify fun cursor => { cursor with printed := trees.reverse ++ cursor.printed }

def next : Reader Tree := do
  match (← get).rest with
  | tree :: rest =>
    modify fun cursor => ⟨rest, tree :: cursor.printed⟩
    pure tree
  | [] => failure

def skip : Nat → Reader Unit
  | 0 => pure ()
  | count + 1 => do
    let _ ← next
    skip count

def guard (test : List Tree → Bool) : Reader Unit := do
  if ← sees test then pure () else failure

def punct (char : Char) : Reader Unit := do
  guard (startsPunct char)
  skip 1

def puncts (chars : List Char) : Reader Unit := do
  guard (startsPuncts chars)
  skip chars.length

def punct? (char : Char) : Reader Bool := do
  if ← sees (startsPunct char) then do
    skip 1
    pure true
  else pure false

def separator? : Reader Bool := do
  if ← sees startsSeparator then do
    skip 2
    pure true
  else pure false

def word (text : String) : Reader Unit := do
  guard (startsWord text)
  skip 1

def word? (text : String) : Reader Bool := do
  if ← sees (startsWord text) then do
    skip 1
    pure true
  else pure false

def wordIf (text : String) : Reader Unit := do
  let _ ← word? text

def oneOf (words : List String) : Reader Unit := do
  guard (startsOneOf words)
  skip 1

def anyWord : Reader String := do
  match ← next with
  | .word text => pure text
  | _ => failure

def name : Reader String := do
  guard startsName
  anyWord

def nameOr (words : List String) : Reader Unit := do
  guard fun trees => startsName trees || startsOneOf words trees
  skip 1

def lifetime : Reader Unit := do
  guard startsLifetime
  skip 1

def literal : Reader Unit := do
  guard startsLiteral
  if ← sees (startsPunct '-') then skip 2 else skip 1

/-- Takes the number of a field, which is printed in decimal. -/
def position : Reader Unit := do
  match (← get).rest with
  | .literal text :: rest =>
    match Number.position? text.toList with
    | some number => do
      modify fun cursor => { cursor with rest }
      emit [.literal (String.ofList (Nat.toDigits 10 number))]
    | none => failure
  | _ => failure

def group (delimiter : Delimiter) (inner : Reader α) : Reader α := do
  match (← get).rest with
  | .group d body :: rest =>
    if d = delimiter then
      match inner.run ⟨body, []⟩ with
      | some (value, ⟨[], printed⟩) =>
        modify fun cursor => ⟨rest, .group delimiter printed.reverse :: cursor.printed⟩
        pure value
      | _ => failure
    else failure
  | _ => failure

def anyGroup : Reader Unit := do
  match ← next with
  | .group _ _ => pure ()
  | _ => failure

/-- What a reader takes, kept from being printed. -/
def captured (inner : Reader α) : Reader (α × List Tree) := do
  let cursor ← get
  match inner.run ⟨cursor.rest, []⟩ with
  | some (value, after) =>
    set (⟨after.rest, cursor.printed⟩ : Cursor)
    pure (value, after.printed.reverse)
  | none => failure

/-- What a reader takes, printed all the same. -/
def noted (inner : Reader α) : Reader (α × List Tree) := do
  let (value, trees) ← captured inner
  emit trees
  pure (value, trees)

/-- What a reader takes, printed as it is written where a test on the result says so. -/
def asWritten (isVerbatim : α → Bool) (inner : Reader α) : Reader α := do
  let before ← ahead
  let (value, trees) ← captured inner
  let after ← ahead
  emit (if isVerbatim value then before.take (before.length - after.length) else trees)
  pure value

def verbatim (inner : Reader α) : Reader α := asWritten (fun _ => true) inner

/-- The trees that a reader would leave, if it can read what comes next. -/
def behind? (inner : Reader α) : Reader (Option (List Tree)) := do
  pure ((inner.run ⟨← ahead, []⟩).map fun (_, cursor) => cursor.rest)

def unprinted (inner : Reader α) : Reader α := do
  let (value, _) ← captured inner
  pure value

/-- Reads items up to where a test stops, at most as many as the fuel, with a character between
each and the next; the last one may be followed by it too.  The result tells for each item
whether the character follows it. -/
def separatedWithin (stop : List Tree → Bool) (char : Char) (item : Reader α) :
    Nat → Reader (List (α × Bool))
  | 0 => failure
  | fuel + 1 => do
    if ← sees stop then pure []
    else do
      let value ← item
      if ← sees stop then pure [(value, false)]
      else do
        punct char
        let others ← separatedWithin stop char item fuel
        pure ((value, true) :: others)

def separated (stop : List Tree → Bool) (char : Char) (item : Reader α) :
    Reader (List (α × Bool)) := do
  separatedWithin stop char item ((← ahead).length + 1)

def commaList (item : Reader α) : Reader (List α) := do
  pure ((← separated List.isEmpty ',' item).map Prod.fst)

/-- Reads items up to the end, with commas between them; an item on which a test holds must be the
last one, with no comma behind it. -/
def commaListWithRest (isRest : α → Bool) (item : Reader α) : Reader Unit := do
  let items ← separated List.isEmpty ',' item
  if items.any fun (value, isFollowed) => isRest value && isFollowed then failure

def repeatWithin (test : List Tree → Bool) (step : Reader α) : Nat → Reader (List α)
  | 0 => failure
  | fuel + 1 => do
    if ← sees test then do
      let value ← step
      let others ← repeatWithin test step fuel
      pure (value :: others)
    else pure []

/-- Repeats a step, which takes at least one tree, for as long as a test holds. -/
def repeatWhile (test : List Tree → Bool) (step : Reader α) : Reader (List α) := do
  repeatWithin test step ((← ahead).length + 1)

def untilEnd (step : Reader α) : Reader Unit := do
  let _ ← repeatWhile (!List.isEmpty ·) step

/-- What a reader makes of a whole row of trees, and the trees that it prints. -/
def readAll (reader : Reader α) (trees : List Tree) : Option (α × List Tree) :=
  match reader.run ⟨trees, []⟩ with
  | some (value, ⟨[], printed⟩) => some (value, printed.reverse)
  | _ => none

end Reader

end RequestParams.Declaration
