import RequestParams.Declaration.LocalItem
import RequestParams.Declaration.Lexer
import RequestParams.Field

set_option autoImplicit false
set_option relaxedAutoImplicit false

/-!
The grammar of what nests in a declaration, the types and items that are the whole of a text, and
the use of a declared type as the type of a field.
-/

namespace RequestParams.Declaration

/-! ### Statements of a block -/

def startsLaterFunction (trees : List Tree) : Bool :=
  startsWord "async" trees && startsOneOf ["unsafe", "extern", "fn"] (trees.drop 1)

def startsConstantItem (trees : List Tree) : Bool :=
  let behind := trees.drop 1
  startsWord "const" trees &&
    !(startsGroup .brace behind || startsOneOf ["static", "move"] behind ||
      startsPunct '|' behind || (startsWord "async" behind && !startsLaterFunction behind))

def startsItem (trees : List Tree) : Bool :=
  let behind := trees.drop 1
  startsOneOf ["pub", "extern", "use", "fn", "mod", "type", "struct", "enum", "trait", "impl",
      "macro"] trees ||
    (startsWord "crate" trees && !startsSeparator behind) ||
    (startsWord "static" trees && (startsWord "mut" behind || startsName behind)) ||
    startsConstantItem trees || (startsWord "unsafe" trees && !startsGroup .brace behind) ||
    startsLaterFunction trees || startsUnion trees ||
    (startsWord "auto" trees && startsWord "trait" behind) ||
    (startsWord "default" trees && startsOneOf ["unsafe", "impl"] behind)

/-- Whether the trees behind a path are a macro call that declares an item by name. -/
def declaresByCall (trees : List Tree) : Bool :=
  let behind := trees.drop 1
  startsPunct '!' trees && (startsName behind || startsWord "try" behind)

/-- Whether the trees behind a path are a macro call with braces to which nothing is applied. -/
def isStatementCall (trees : List Tree) : Bool :=
  let behind := trees.drop 2
  startsPunct '!' trees && startsGroup .brace (trees.drop 1) &&
    !(startsStop behind || startsPunct '?' behind)

def endsWithBraces (trees : List Tree) : Bool :=
  match trees.getLast? with
  | some tree => startsGroup .brace [tree]
  | none => false

namespace Reader

/-- A binding of names to parts of a value, and perhaps a block to leave by if the value has
another form; the block may not stand behind braces. -/
def binding (nested : Nested) : Reader Unit := do
  word "let"
  let _ ← nested.pattern
  if ← punct? ':' then do
    let _ ← nested.type true
  if ← punct? '=' then do
    let (_, value) ← noted nested.value
    if !endsWithBraces value then
      if ← word? "else" then nested.block
  punct ';'

/-- An expression as a statement, behind its attributes.  A semicolon must follow unless it ends
with braces of its own or is the last statement. -/
def expressionStatement (nested : Nested) (marks : List Tree) : Reader Unit := do
  let form ← statementExpression nested marks
  let isEnded ← punct? ';'
  if !isEnded && form ≠ .block && form ≠ .bracedCall then guard List.isEmpty

def statement (nested : Nested) : Reader Unit := do
  if ← punct? ';' then pure ()
  else do
    let _ ← asWritten id do
      let (_, marks) ← captured (attributes nested)
      let behind ← behind? plainPath
      if behind.any isStatementCall then do
        emit marks
        let _ ← plainPath
        skip 2
        let _ ← punct? ';'
        pure false
      else if ← sees (startsWord "let") then do
        emit marks
        binding nested
        pure false
      else if behind.any declaresByCall || (← sees startsItem) then do
        emit marks
        markedItem nested
      else do
        expressionStatement nested marks
        pure false

def statements (nested : Nested) : Reader Unit := untilEnd (statement nested)

end Reader

/-! ### What nests -/

/-- The readers of what nests, down to a depth.  Each nesting takes at least one token, so that
no row of tokens nests deeper than it is long. -/
def Nested.within : Nat → Nested
  | 0 => ⟨fun _ => failure, fun _ => failure, fun _ _ => failure, failure, failure, failure,
      failure⟩
  | depth + 1 =>
    let inner := within depth
    ⟨Reader.type inner, Reader.bound inner, Reader.expression inner, Reader.pattern inner,
      Reader.statements inner, Reader.item inner, do
        let _ ← Reader.commaList (Reader.namedField inner)⟩

def Nested.ofTrees (trees : List Tree) : Nested := Nested.within (Tree.totalSize trees + 1)

namespace DeclaredType

/-- What a field of the type is: three types are known by the last word of their path, and any
other is named as it is written. -/
def fieldType (declared : DeclaredType) : FieldType :=
  match declared.shape.name? with
  | some "i64" => .int
  | some "bool" => .bool
  | some "String" => .string
  | _ => .unsupported (Tree.joined declared.trees)

def read (text : String) : Option DeclaredType := do
  let trees ← Tree.read text
  let (declared, _) ← Reader.readAll (Reader.declaredType (Nested.ofTrees trees)) trees
  pure declared

private def fieldTypeOf (text : String) : Option FieldType := (read text).map fieldType

example : fieldTypeOf "((::std::string::String))" = some .string := by decide +kernel

example : fieldTypeOf "Map<T, 'a> // sorted" = some (.unsupported "Map<'a,T,>") := by
  decide +kernel

example : fieldTypeOf "[&'static str; 2]" = some (.unsupported "[&'staticstr;2]") := by
  decide +kernel

example : fieldTypeOf "[u8; a.0x1]" = some (.unsupported "[u8;a.1]") := by decide +kernel

example : fieldTypeOf "((?A)) + B" = some (.unsupported "(?A)+B") := by decide +kernel

example : fieldTypeOf "&dyn A + B" = none ∧ fieldTypeOf "i64;" = none := by decide +kernel

end DeclaredType

def Item.read (text : String) : Option Item := do
  let trees ← Tree.read text
  let (item, _) ← Reader.readAll (Reader.declaration (Nested.ofTrees trees)) trees
  pure item

end RequestParams.Declaration
