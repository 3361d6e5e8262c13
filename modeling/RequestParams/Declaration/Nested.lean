import RequestParams.Declaration.Reader

set_option autoImplicit false
set_option relaxedAutoImplicit false

/-!
What nests in a declaration.  Types, bounds, expressions, patterns, statements, items and fields
stand inside one another; every reader is given the readers of what stands inside, so that no
reader calls itself.  Of what is read only that is kept on which its use depends.
-/

namespace RequestParams.Declaration

/-! ### Paths -/

structure Segment where
  name : String
  isApplied : Bool
deriving DecidableEq

structure Path where
  isGlobal : Bool
  segments : List Segment
deriving DecidableEq

namespace Path

def isPlain (path : Path) : Bool := path.segments.all fun segment => !segment.isApplied

def endsPlain (path : Path) : Bool := path.segments.getLast?.any fun segment => !segment.isApplied

def isWord (path : Path) (word : String) : Bool := path = ⟨false, [⟨word, false⟩]⟩

def plainName? (path : Path) : Option String :=
  match path.segments.getLast? with
  | some ⟨name, false⟩ => some name
  | _ => none

/-- Whether a path is one segment, so that it can name an item of a trait. -/
def isItemName (path : Path) : Bool := !path.isGlobal && path.segments.length = 1

end Path

/-! ### Types and bounds -/

/-- What decides the use of a type. -/
inductive TypeShape where
  | path (path : Path)
  | parenthesized (inner : TypeShape)
  /-- A type between the invisible brackets that a macro puts around what it was given; no text
  has them. -/
  | grouped (inner : TypeShape)
  /-- One bound without a word before it, and whether it stands in round brackets. -/
  | bound (isEnclosed : Bool)
  | verbatim
  | other
deriving DecidableEq

namespace TypeShape

/-- The name of a type that is a path, perhaps in round or invisible brackets, and has no arguments
at its end. -/
def name? : TypeShape → Option String
  | .path segments => segments.plainName?
  | .parenthesized inner => inner.name?
  | .grouped inner => inner.name?
  | _ => none

def isPath : TypeShape → Bool
  | .path _ => true
  | _ => false

end TypeShape

/-- What may stand among bounds besides traits and lifetimes. -/
structure BoundRules where
  allowCaptures : Bool
  allowConstant : Bool

namespace BoundRules

def declared : BoundRules := ⟨false, true⟩

def ofObject : BoundRules := ⟨false, false⟩

def ofHidden : BoundRules := ⟨true, true⟩

end BoundRules

/-! ### Expressions and patterns -/

/-- How strongly an operator binds its operands, the weakest first. -/
inductive Strength where
  | jump
  | assignment
  | range
  | disjunction
  | conjunction
  | comparison
  | eitherBits
  | oneBits
  | bothBits
  | shift
  | sum
  /-- Products, quotients and remainders. -/
  | product
  | cast
deriving DecidableEq

namespace Strength

def rank : Strength → Nat
  | .jump => 0
  | .assignment => 1
  | .range => 2
  | .disjunction => 3
  | .conjunction => 4
  | .comparison => 5
  | .eitherBits => 6
  | .oneBits => 7
  | .bothBits => 8
  | .shift => 9
  | .sum => 10
  | .product => 11
  | .cast => 12

end Strength

/-- How far an expression goes. -/
inductive Extent where
  | upward (weakest : Strength)
  | behind (strength : Strength)
  /-- As a statement: what ends with braces of its own stands by itself. -/
  | statement

inductive ExpressionForm where
  | block
  | bracedCall
  | range
  | comparison
  | verbatim
  | other
deriving DecidableEq

inductive PatternShape where
  | openRange
  | verbatim
  | other
deriving DecidableEq

/-! ### Readers of what nests -/

/-- Readers of what nests in other parts of a declaration. -/
structure Nested where
  /-- A type, in which plus signs may join bounds if this is allowed. -/
  type : Bool → Reader TypeShape
  /-- A bound; tells whether it is a trait. -/
  bound : BoundRules → Reader Bool
  /-- An expression, in which braces may follow a path if this is allowed. -/
  expression : Extent → Bool → Reader ExpressionForm
  pattern : Reader PatternShape
  statements : Reader Unit
  item : Reader Unit
  fields : Reader Unit

namespace Nested

def value (nested : Nested) : Reader Unit := do
  let _ ← nested.expression (.upward .jump) true

def condition (nested : Nested) : Reader Unit := do
  let _ ← nested.expression (.upward .jump) false

def block (nested : Nested) : Reader Unit := Reader.group .brace nested.statements

end Nested

/-! ### Rows that print lifetimes first -/

structure Listed where
  isLifetime : Bool
  trees : List Tree
  isFollowed : Bool

namespace Listed

def comma : Tree := .punct ',' false

def print (items : List Listed) : List Tree :=
  items.flatMap fun item => item.trees ++ if item.isFollowed then [comma] else []

/-- Items as they are printed, lifetimes before all others, and with a comma between the two
where the last lifetime had none behind it. -/
def lifetimesFirst (items : List Listed) : List Tree :=
  let lifetimes := items.filter (·.isLifetime)
  let others := items.filter (!·.isLifetime)
  let unfollowed := lifetimes.getLast?.any (!·.isFollowed)
  print lifetimes ++ (if unfollowed && !others.isEmpty then [comma] else []) ++ print others

end Listed

namespace Reader

/-- Items between commas up to an angle bracket, of which each tells whether it is a lifetime;
lifetimes are printed before all others. -/
def lifetimesFirst (item : Reader Bool) : Reader Unit := do
  let items ← unprinted (separated (startsPunct '>') ',' (captured item))
  emit (Listed.lifetimesFirst
    (items.map fun ((isLifetime, trees), isFollowed) => ⟨isLifetime, trees, isFollowed⟩))

end Reader

end RequestParams.Declaration
