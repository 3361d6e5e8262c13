import RequestParams.Text.CharSet
import RequestParams.Text.Split

set_option autoImplicit false
set_option relaxedAutoImplicit false

/-!
Regular expressions for the values of fields.  A pattern is checked and not kept: what counts is
whether it is well formed, and whether it asks for the boundaries of words of every script.  It
is read part by part, with the open groups on a stack.
-/

namespace RequestParams.Logging.Pattern

structure Modes where
  spaced : Bool := false
  unicode : Bool := true
deriving DecidableEq

def depthLimit : Nat := 250

/-! ## Blanks -/

/-- The text behind blanks and comments; the flag says whether a comment is under way. -/
def dropComments : Bool → List Char → List Char
  | _, [] => []
  | true, c :: rest => dropComments (c ≠ '\n') rest
  | false, c :: rest =>
    if Text.isBlank c then dropComments false rest
    else if c = '#' then dropComments true rest
    else c :: rest

def skip (modes : Modes) (text : List Char) : List Char :=
  if modes.spaced then dropComments false text else text

def peekBehind (modes : Modes) (text : List Char) : Option Char :=
  if modes.spaced then
    match text.dropWhile Text.isBlank with
    | '#' :: rest => (rest.dropWhile Text.isBlank).head?
    | rest => rest.head?
  else text.head?

/-! ## Escapes -/

inductive Primitive where
  /-- A character; the flag says whether it is written by the two digits of a byte. -/
  | literal (value : Char) (byte : Bool)
  | characters
  | place
deriving DecidableEq

def isMeta (c : Char) : Bool := "\\.+*?()|[]\x7b\x7d^$#&-~".toList.contains c

def isEscapable (c : Char) : Bool :=
  isMeta c || (c.toNat < 0x80 && !c.isAlphanum && c ≠ '<' && c ≠ '>')

def hexDigit? (c : Char) : Option Nat :=
  if c.isDigit then some (c.toNat - 48)
  else if 'a' ≤ c ∧ c ≤ 'f' then some (c.toNat - 87)
  else if 'A' ≤ c ∧ c ≤ 'F' then some (c.toNat - 55)
  else none

def hexValue (modes : Modes) : Nat → Nat → List Char → Option (Nat × List Char)
  | 0, value, text => some (value, text)
  | count + 1, value, text =>
    match text with
    | [] => none
    | c :: rest => do
      let digit ← hexDigit? c
      hexValue modes count (16 * value + digit) (skip modes rest)

def charOf? (code : Nat) : Option Char :=
  if code < 0xd800 ∨ (0xe000 ≤ code ∧ code < 0x110000) then some (Char.ofNat code) else none

def hexLiteral (modes : Modes) (count : Nat) (text : List Char) :
    Option (Primitive × List Char) := do
  let (code, rest) ← hexValue modes count 0 (skip modes text)
  let value ← charOf? code
  if count = 2 ∧ ¬ modes.unicode ∧ 0x80 ≤ code then none
  else some (.literal value (count = 2), rest)

def categories : List Char := ['c', 'l', 'm', 'n', 'p', 's', 'z']

/-- The part that begins with a backslash, whether it asks for a boundary of words, and the text
behind it. -/
def escape (modes : Modes) : List Char → Option ((Primitive × Bool) × List Char)
  | [] => none
  | c :: rest =>
    if c = 'x' then (hexLiteral modes 2 rest).map fun (part, rest) => ((part, false), rest)
    else if c = 'u' then (hexLiteral modes 4 rest).map fun (part, rest) => ((part, false), rest)
    else if c = 'U' then (hexLiteral modes 8 rest).map fun (part, rest) => ((part, false), rest)
    else if c = 'p' ∨ c = 'P' then
      match skip modes rest with
      | category :: rest =>
        if modes.unicode ∧ categories.contains category.toLower then
          some ((.characters, false), skip modes rest)
        else none
      | [] => none
    else if c = 'd' ∨ c = 's' ∨ c = 'w' then some ((.characters, false), rest)
    else if c = 'D' ∨ c = 'S' ∨ c = 'W' then
      if modes.unicode then some ((.characters, false), rest) else none
    else if isEscapable c then some ((.literal c false, false), rest)
    else if c = 'a' then some ((.literal '\x07' false, false), rest)
    else if c = 'f' then some ((.literal '\x0c' false, false), rest)
    else if c = 't' then some ((.literal '\t' false, false), rest)
    else if c = 'n' then some ((.literal '\n' false, false), rest)
    else if c = 'r' then some ((.literal '\r' false, false), rest)
    else if c = 'v' then some ((.literal '\x0b' false, false), rest)
    else if c = 'A' ∨ c = 'z' then some ((.place, false), rest)
    else if c = 'b' ∨ c = 'B' ∨ c = '<' ∨ c = '>' then some ((.place, modes.unicode), rest)
    else none

/-! ## Classes in square brackets -/

def asciiClasses : List String :=
  ["alnum", "alpha", "ascii", "blank", "cntrl", "digit", "graph", "lower", "print", "punct",
    "space", "upper", "word", "xdigit"]

def asciiClass : List Char → Option (Bool × List Char)
  | ':' :: rest =>
    let negated := rest.head? = some '^'
    let named := if negated then rest.drop 1 else rest
    match named.dropWhile (· ≠ ':') with
    | ':' :: ']' :: behind =>
      if asciiClasses.contains (String.ofList (named.takeWhile (· ≠ ':'))) then
        some (negated, behind)
      else none
    | _ => none
  | _ => none

def classPart (modes : Modes) : List Char → Option (Primitive × List Char)
  | [] => none
  | '\\' :: rest => (escape modes rest).map fun ((part, _), rest) => (part, rest)
  | c :: rest => some (.literal c false, rest)

def Primitive.bound? (modes : Modes) : Primitive → Option Char
  | .literal value byte =>
    if modes.unicode ∨ byte ∨ value.toNat < 0x80 then some value else none
  | _ => none

def Primitive.isMember (modes : Modes) (part : Primitive) : Bool :=
  part = .characters || (part.bound? modes).isSome

def classRange (modes : Modes) (text : List Char) : Option (List Char) := do
  let (first, rest) ← classPart modes text
  match skip modes rest with
  | [] => none
  | '-' :: behind =>
    let next := peekBehind modes behind
    if next = some ']' ∨ next = some '-' then
      if first.isMember modes then some ('-' :: behind) else none
    else do
      let (last, rest) ← classPart modes (skip modes behind)
      let low ← first.bound? modes
      let high ← last.bound? modes
      if low ≤ high then some rest else none
  | rest => if first.isMember modes then some rest else none

/-- Dashes at the beginning of a class, counted, and the text behind them; the fuel bounds their
number. -/
def dashes (modes : Modes) : Nat → List Char → Nat × List Char
  | 0, text => (0, text)
  | fuel + 1, text =>
    match text with
    | '-' :: rest =>
      let (count, behind) := dashes modes fuel (skip modes rest)
      (count + 1, behind)
    | _ => (0, text)

/-- The beginning of a class behind its bracket: whether it is negated, how many members have
been read, and the text behind them.  A closing bracket that comes first is a member. -/
def classOpening (modes : Modes) (text : List Char) : Bool × Nat × List Char :=
  let text := skip modes text
  let negated := text.head? = some '^'
  let text := if negated then skip modes (text.drop 1) else text
  let (count, rest) := dashes modes text.length text
  match count, rest with
  | 0, ']' :: rest => (negated, 1, skip modes rest)
  | _, _ => (negated, count, rest)

/-- How deep parts stand that follow one another: one deeper than the deepest of them, where
there are several. -/
def depthOf : List Nat → Nat
  | [] => 0
  | [depth] => depth
  | depths => 1 + depths.foldl max 0

/-- How deep the members of a class stand, behind what stands left of the last operator. -/
def combined (left : Option Nat) (members : List Nat) : Nat :=
  match left with
  | none => depthOf members
  | some left => 1 + max left (depthOf members)

/-- A class that has been begun: whether it is negated, how deep the part left of the last
operator stands, and how deep its last members do. -/
structure OpenClass where
  negated : Bool
  left : Option Nat := none
  members : List Nat

def OpenClass.begin (modes : Modes) (text : List Char) : Option (OpenClass × List Char) :=
  let (negated, count, rest) := classOpening modes text
  if negated ∧ ¬ modes.unicode then none
  else some ({ negated, members := List.replicate count 0 }, rest)

def OpenClass.add (begun : OpenClass) (depth : Nat) : OpenClass :=
  { begun with members := depth :: begun.members }

def OpenClass.operator (begun : OpenClass) : OpenClass :=
  { begun with left := some (combined begun.left begun.members), members := [] }

/-- The rest of a class and of those around it: how deep the outermost one is, and the text behind
it.  The fuel bounds the number of members. -/
def classBody (modes : Modes) : Nat → OpenClass → List OpenClass → List Char →
    Option (Nat × List Char)
  | 0, _, _, _ => none
  | fuel + 1, current, around, text =>
    match skip modes text with
    | [] => none
    | ']' :: rest =>
      let depth := 1 + combined current.left current.members
      match around with
      | [] => some (depth, rest)
      | outer :: around => classBody modes fuel (outer.add depth) around rest
    | '[' :: rest =>
      match asciiClass rest with
      | some (negated, behind) =>
        if negated ∧ ¬ modes.unicode then none
        else classBody modes fuel (current.add 0) around behind
      | none => do
        let (inner, rest) ← OpenClass.begin modes rest
        classBody modes fuel inner (current :: around) rest
    | '&' :: '&' :: rest => classBody modes fuel current.operator around rest
    | '-' :: '-' :: rest => classBody modes fuel current.operator around rest
    | '~' :: '~' :: rest => classBody modes fuel current.operator around rest
    | text => do
      let rest ← classRange modes text
      classBody modes fuel (current.add 0) around rest

def bracketClass (modes : Modes) (text : List Char) : Option (Nat × List Char) := do
  let (current, rest) ← OpenClass.begin modes text
  classBody modes (text.length + 1) current [] rest

/-! ## Groups -/

def modeMarks : List Char := ['i', 'm', 's', 'U', 'u', 'R', 'x', '-']

def Modes.set (modes : Modes) (mark : Char) (value : Bool) : Modes :=
  if mark = 'x' then { modes with spaced := value }
  else if mark = 'u' then { modes with unicode := value }
  else modes

def Modes.apply : Bool → List Char → Modes → Modes
  | _, [], modes => modes
  | value, mark :: rest, modes =>
    if mark = '-' then Modes.apply false rest modes
    else Modes.apply value rest (modes.set mark value)

/-- Whether a row of marks is well formed: each stands once, and the dash not last. -/
def wellMarked (marks : List Char) : Bool :=
  marks.all modeMarks.contains && marks.Nodup && marks.getLast? ≠ some '-'

def isNameChar (c : Char) : Bool :=
  c = '_' || c = '.' || c = '[' || c = ']' || Text.isAlphanumeric c

def isName : List Char → Bool
  | [] => false
  | c :: rest => (c = '_' || Text.isAlphabetic c) && rest.all isNameChar

inductive Opening where
  /-- A group begins, in some modes and perhaps with a name. -/
  | group (modes : Modes) (name : Option (List Char))
  | setting (modes : Modes)

def groupName (modes : Modes) (text : List Char) : Option (Opening × List Char) :=
  match text.dropWhile (· ≠ '>') with
  | '>' :: rest =>
    let name := text.takeWhile (· ≠ '>')
    if isName name then some (.group modes (some name), rest) else none
  | _ => none

def opening (modes : Modes) (text : List Char) : Option (Opening × List Char) :=
  match skip modes text with
  | '?' :: '=' :: _ | '?' :: '!' :: _ | '?' :: '<' :: '=' :: _ | '?' :: '<' :: '!' :: _ => none
  | '?' :: 'P' :: '<' :: rest => groupName modes rest
  | '?' :: '<' :: rest => groupName modes rest
  | '?' :: rest =>
    let marks := rest.takeWhile fun c => c ≠ ':' && c ≠ ')'
    if wellMarked marks then
      match rest.dropWhile fun c => c ≠ ':' && c ≠ ')' with
      | ':' :: behind => some (.group (modes.apply true marks) none, behind)
      | ')' :: behind =>
        if marks.isEmpty then none else some (.setting (modes.apply true marks), behind)
      | _ => none
    else none
  | rest => some (.group modes none, rest)

/-! ## Whole patterns -/

structure Part where
  depth : Nat := 0
  repeatable : Bool := true

structure Group where
  modes : Modes
  alternatives : List Nat := []
  parts : List Part := []

def Group.add (group : Group) (part : Part) : Group := { group with parts := part :: group.parts }

def Group.current (group : Group) : Nat := depthOf (group.parts.map (·.depth))

def Group.depth (group : Group) : Nat := depthOf (group.current :: group.alternatives)

def Group.alternate (group : Group) : Group :=
  { group with alternatives := group.current :: group.alternatives, parts := [] }

def Group.repeatLast (group : Group) : Option Group :=
  match group.parts with
  | [] => none
  | last :: parts =>
    if last.repeatable then some { group with parts := { depth := last.depth + 1 } :: parts }
    else none

structure Scan where
  group : Group
  around : List Group := []
  names : List (List Char) := []
  boundary : Bool := false

def Scan.add (scan : Scan) (part : Part) : Scan := { scan with group := scan.group.add part }

def Scan.addName (scan : Scan) : Option (List Char) → Option Scan
  | none => some scan
  | some name =>
    if scan.names.contains name then none else some { scan with names := name :: scan.names }

def Scan.openGroup (scan : Scan) (text : List Char) : Option (Scan × List Char) := do
  let (opening, rest) ← opening scan.group.modes text
  match opening with
  | .setting modes =>
    some ({ scan with group := { scan.group.add { repeatable := false } with modes } }, rest)
  | .group modes name =>
    let scan ← scan.addName name
    some ({ scan with group := { modes }, around := scan.group :: scan.around }, rest)

def Scan.closeGroup (scan : Scan) : Option Scan :=
  match scan.around with
  | [] => none
  | outer :: around =>
    some { scan with group := outer.add { depth := scan.group.depth + 1 }, around }

def Scan.step (scan : Scan) : List Char → Option (Scan × List Char)
  | [] => none
  | '(' :: rest => scan.openGroup rest
  | ')' :: rest => scan.closeGroup.map fun scan => (scan, rest)
  | '|' :: rest => some ({ scan with group := scan.group.alternate }, rest)
  | '[' :: rest =>
    (bracketClass scan.group.modes rest).map fun (depth, rest) => (scan.add { depth }, rest)
  | '{' :: _ => none
  | '\\' :: rest =>
    (escape scan.group.modes rest).map fun ((_, boundary), rest) =>
      ({ scan.add {} with boundary := scan.boundary || boundary }, rest)
  | '.' :: rest => if scan.group.modes.unicode then some (scan.add {}, rest) else none
  | c :: rest =>
    if c = '?' ∨ c = '*' ∨ c = '+' then
      scan.group.repeatLast.map fun group =>
        ({ scan with group }, if rest.head? = some '?' then rest.drop 1 else rest)
    else some (scan.add {}, rest)

def Scan.finish? (scan : Scan) : Option Scan :=
  if scan.around.isEmpty ∧ scan.group.depth ≤ depthLimit then some scan else none

/-- A pattern read to its end; the fuel bounds the number of its parts. -/
def Scan.run : Nat → Scan → List Char → Option Scan
  | 0, _, _ => none
  | fuel + 1, scan, text =>
    match skip scan.group.modes text with
    | [] => scan.finish?
    | text => do
      let (scan, rest) ← scan.step text
      Scan.run fuel scan rest

end Pattern

open Pattern

inductive PatternFault where
  | malformed
  | boundary
deriving DecidableEq

def checkPattern (text : List Char) : Except PatternFault Unit :=
  match Scan.run (text.length + 1) { group := { modes := {} } } text with
  | none => .error .malformed
  | some scan => if scan.boundary then .error .boundary else .ok ()

example : checkPattern "a|(?<n>[^]x-z\\d&&[[:alpha:]]]+?)*".toList = .ok () := by rfl

example : checkPattern "a[".toList = .error .malformed := by rfl

example : checkPattern "(?x) a # ) b".toList = .ok () := by rfl

example : checkPattern "(?-u:\\b.)|\\b".toList = .error .malformed := by rfl

example : checkPattern "(?-u:\\b)|\\b".toList = .error .boundary := by rfl

end RequestParams.Logging
