import RequestParams.Declaration.Literal
import RequestParams.Declaration.Tree
import RequestParams.Text.Split
import RequestParams.Text.Identifier

set_option autoImplicit false
set_option relaxedAutoImplicit false

/-!
From the text of a declaration to its token trees.  Blanks and comments part tokens, save for
comments that document what follows them, which become attributes.  Brackets must match.
-/

namespace RequestParams.Declaration

/-! ### Words -/

def plainWord (text : List Char) : Option (List Char × List Char) :=
  match text with
  | c :: rest =>
    if Text.beginsIdentifier c then
      some (c :: rest.takeWhile Text.continuesIdentifier,
        rest.dropWhile Text.continuesIdentifier)
    else none
  | [] => none

def neverRaw : List String := ["_", "super", "self", "Self", "crate"]

/-- A word at the start of a text, with its mark if it is raw, and the text behind it. -/
def anyWord (text : List Char) : Option (List Char × List Char) :=
  match text with
  | 'r' :: '#' :: rest => do
    let (name, rest) ← plainWord rest
    if neverRaw.contains (String.ofList name) then none
    else pure ('r' :: '#' :: name, rest)
  | _ => plainWord text

/-- How a text begins that would be a literal if it were complete. -/
def literalHeads : List String :=
  ["r\"", "r#\"", "r##", "b\"", "b'", "br\"", "br#", "c\"", "cr\"", "cr#"]

def separateWord (text : List Char) : Option (List Char × List Char) :=
  if literalHeads.any fun head => head.toList.isPrefixOf text then none else anyWord text

def dropSuffix (text : List Char) : List Char :=
  match plainWord text with
  | some (_, rest) => rest
  | none => text

/-! ### Literals -/

inductive QuoteKind where
  /-- A text: code points, and bytes below 128 by their code. -/
  | text
  /-- Bytes: ASCII characters, and any byte by its code. -/
  | bytes
  | terminated
deriving DecidableEq

def byteEscape (kind : QuoteKind) (high low : Char) : Bool :=
  match StringLiteral.hexValue high, StringLiteral.hexValue low with
  | some high, some low =>
    match kind with
    | .text => high < 8
    | .bytes => true
    | .terminated => high * 16 + low ≠ 0
  | _, _ => false

inductive QuotePlace where
  | plain
  /-- Inside the braces of a code point: its value and the number of its digits so far. -/
  | codePoint (value digits : Nat)
deriving DecidableEq

/-- The text behind the closing quote of a cooked literal, whose scanner stands at a place. -/
def scanCooked (kind : QuoteKind) : QuotePlace → List Char → Option (List Char)
  | _, [] => none
  | .codePoint value digits, c :: rest =>
    if c = '_' ∧ 0 < digits then scanCooked kind (.codePoint value digits) rest
    else if c = '}' ∧ 0 < digits then
      if value.isValidChar ∧ (kind ≠ .terminated ∨ value ≠ 0) then scanCooked kind .plain rest
      else none
    else
      match StringLiteral.hexValue c with
      | some digit =>
        if digits < 6 then scanCooked kind (.codePoint (value * 16 + digit) (digits + 1)) rest
        else none
      | none => none
  | .plain, '"' :: rest => some rest
  | .plain, '\r' :: '\n' :: rest => scanCooked kind .plain rest
  | .plain, '\\' :: 'x' :: high :: low :: rest =>
    if byteEscape kind high low then scanCooked kind .plain rest else none
  | .plain, '\\' :: 'u' :: '{' :: rest =>
    if kind = .bytes then none else scanCooked kind (.codePoint 0 0) rest
  | .plain, '\\' :: '\r' :: '\n' :: rest => scanCooked kind .plain rest
  | .plain, '\\' :: mark :: rest =>
    if mark = '\n' ∨ ((StringLiteral.escaped mark).isSome ∧ (kind ≠ .terminated ∨ mark ≠ '0')) then
      scanCooked kind .plain rest
    else none
  | .plain, c :: rest =>
    if c = '\r' ∨ c = '\\' ∨ (kind = .bytes ∧ 0x80 ≤ c.toNat) ∨ (kind = .terminated ∧ c = '\x00')
    then none
    else scanCooked kind .plain rest

def dropSigns : Nat → List Char → Option (List Char)
  | 0, text => some text
  | signs + 1, '#' :: rest => dropSigns signs rest
  | _ + 1, _ => none

def scanRaw (kind : QuoteKind) (signs : Nat) : List Char → Option (List Char)
  | [] => none
  | '"' :: rest =>
    match dropSigns signs rest with
    | some behind => some behind
    | none => scanRaw kind signs rest
  | '\r' :: '\n' :: rest => scanRaw kind signs rest
  | c :: rest =>
    if c = '\r' ∨ (kind = .bytes ∧ 0x80 ≤ c.toNat) ∨ (kind = .terminated ∧ c = '\x00') then none
    else scanRaw kind signs rest

def rawLiteral (kind : QuoteKind) (text : List Char) : Option (List Char) :=
  let signs := (text.takeWhile (· = '#')).length
  match text.dropWhile (· = '#') with
  | '"' :: rest => if signs < 256 then (scanRaw kind signs rest).map dropSuffix else none
  | _ => none

def charLiteral (kind : QuoteKind) (text : List Char) : Option (List Char) := do
  let behind ← match text with
    | '\\' :: 'x' :: high :: low :: rest => if byteEscape kind high low then some rest else none
    | '\\' :: 'u' :: '{' :: rest =>
      let written := rest.takeWhile (· ≠ '}')
      let digits := written.filter (· ≠ '_')
      let value := digits.foldl (fun value c => value * 16 + (StringLiteral.hexValue c).getD 0) 0
      if kind = .text ∧ written.head? ≠ some '_' ∧ digits ≠ [] ∧ digits.length ≤ 6 ∧
          digits.all (fun c => (StringLiteral.hexValue c).isSome) ∧ value.isValidChar then
        match rest.dropWhile (· ≠ '}') with
        | '}' :: rest => some rest
        | _ => none
      else none
    | '\\' :: mark :: rest => if (StringLiteral.escaped mark).isSome then some rest else none
    | c :: rest =>
      if c = '\\' ∨ (kind = .bytes ∧ 0x80 ≤ c.toNat) then none else some rest
    | [] => none
  match behind with
  | '\'' :: rest => some (dropSuffix rest)
  | _ => none

/-- The text behind the digits of a number and its suffix: no word may follow directly. -/
def endNumber (text : List Char) : Option (List Char) :=
  let rest := dropSuffix text
  if rest.head?.any Text.continuesIdentifier then none else some rest

def isDigitOrMark (c : Char) : Bool := c.isDigit || c = '_'

def scanExponent (text : List Char) : Option (List Char) :=
  let marks := text.takeWhile (· = '_')
  let unsigned := match text.dropWhile (· = '_') with
    | '+' :: rest => rest
    | '-' :: rest => rest
    | _ => text.drop marks.length
  if (unsigned.takeWhile isDigitOrMark).any Char.isDigit then
    some (unsigned.dropWhile isDigitOrMark)
  else none

def floatLiteral (text : List Char) : Option (List Char) := do
  if !(text.head?.any Char.isDigit) then none
  else
    match text.dropWhile isDigitOrMark with
    | '.' :: rest =>
      if rest.head?.any fun c => c = '.' || Text.beginsIdentifier c then none
      else
        match rest.dropWhile isDigitOrMark with
        | mark :: behind =>
          if mark = 'e' ∨ mark = 'E' then
            endNumber ((scanExponent behind).getD (mark :: behind))
          else endNumber (mark :: behind)
        | [] => some []
    | mark :: rest =>
      if mark = 'e' ∨ mark = 'E' then do endNumber (← scanExponent rest) else none
    | [] => none

/-- The text behind the digits of a base; no decimal digit beyond the base may stand there. -/
def scanDigits (base : Nat) (text : List Char) : Option (List Char) :=
  let isOwn (c : Char) : Bool :=
    c = '_' || match StringLiteral.hexValue c with
      | some digit => c.isDigit || digit < base
      | none => false
  let digits := text.takeWhile isOwn
  if digits.all (· = '_') || (base = 10 && digits.head? = some '_') ||
      digits.any (fun c => c.isDigit && base ≤ c.toNat - 48) then none
  else some (text.dropWhile isOwn)

def intLiteral (text : List Char) : Option (List Char) := do
  let (base, digits) := Number.readBase text
  endNumber (← scanDigits base digits)

def scanLiteral (text : List Char) : Option (List Char) :=
  let quoted := match text with
    | '"' :: rest => (scanCooked .text .plain rest).map dropSuffix
    | 'b' :: '"' :: rest => (scanCooked .bytes .plain rest).map dropSuffix
    | 'c' :: '"' :: rest => (scanCooked .terminated .plain rest).map dropSuffix
    | 'b' :: 'r' :: rest => rawLiteral .bytes rest
    | 'c' :: 'r' :: rest => rawLiteral .terminated rest
    | 'r' :: rest => rawLiteral .text rest
    | 'b' :: '\'' :: rest => charLiteral .bytes rest
    | '\'' :: rest => charLiteral .text rest
    | _ => none
  quoted <|> floatLiteral text <|> intLiteral text

/-! ### Comments -/

def restOfLine : List Char → List Char × List Char
  | [] => ([], [])
  | '\n' :: rest => ([], '\n' :: rest)
  | '\r' :: '\n' :: rest => ([], '\n' :: rest)
  | c :: rest =>
    let (line, behind) := restOfLine rest
    (c :: line, behind)

/-- The contents of a comment between its marks, and the text behind it, of which the opening
mark has been read; comments nest. -/
def blockComment : Nat → List Char → Option (List Char × List Char)
  | _, [] => none
  | 0, '*' :: '/' :: rest => some ([], rest)
  | depth + 1, '*' :: '/' :: rest => do
    let (inner, behind) ← blockComment depth rest
    pure ('*' :: '/' :: inner, behind)
  | depth, '/' :: '*' :: rest => do
    let (inner, behind) ← blockComment (depth + 1) rest
    pure ('/' :: '*' :: inner, behind)
  | depth, c :: rest => do
    let (inner, behind) ← blockComment depth rest
    pure (c :: inner, behind)

def hasBareReturn : List Char → Bool
  | [] => false
  | '\r' :: '\n' :: rest => hasBareReturn rest
  | c :: rest => c = '\r' || hasBareReturn rest

def partsTokens (c : Char) : Bool :=
  Text.isBlank c || c = '\u200e' || c = '\u200f'

/-- A comment at the start of a text: its contents, whether it documents, whether it documents
what is around it, and the text behind it. -/
def comment (text : List Char) : Option (List Char × Bool × Bool × List Char) :=
  match text with
  | '/' :: '/' :: '!' :: rest =>
    let (line, behind) := restOfLine rest
    some (line, true, true, behind)
  | '/' :: '/' :: '/' :: rest =>
    let (line, behind) := restOfLine rest
    some (line, rest.head? ≠ some '/', false, behind)
  | '/' :: '/' :: rest =>
    let (line, behind) := restOfLine rest
    some (line, false, false, behind)
  | '/' :: '*' :: rest => do
    let (inner, behind) ← blockComment 0 rest
    match inner with
    | '!' :: contents => some (contents, true, true, behind)
    | '*' :: contents => some (contents, contents.head?.any (· ≠ '*'), false, behind)
    | _ => some (inner, false, false, behind)
  | _ => none

def documentation (contents : List Char) (around : Bool) : List Tree :=
  [.punct '#' false] ++ (if around then [.punct '!' false] else []) ++
    [.group .bracket [.word "doc", .punct '=' false,
      .literal (StringLiteral.write (String.ofList contents))]]

/-! ### Tokens -/

inductive Lexeme where
  | leaf (tree : Tree)
  | opening (delimiter : Delimiter)
  | closing (delimiter : Delimiter)

def isPunctuation (c : Char) : Bool := "~!@#$%^&*-=+|;:,<.>/?'".toList.contains c

def beginsPunctuation (text : List Char) : Bool :=
  match text with
  | '/' :: '/' :: _ => false
  | '/' :: '*' :: _ => false
  | c :: _ => isPunctuation c
  | [] => false

def bracket? (c : Char) : Option Lexeme :=
  if c = '(' then some (.opening .parenthesis)
  else if c = ')' then some (.closing .parenthesis)
  else if c = '[' then some (.opening .bracket)
  else if c = ']' then some (.closing .bracket)
  else if c = '{' then some (.opening .brace)
  else if c = '}' then some (.closing .brace)
  else none

/-- A lifetime behind its apostrophe: no apostrophe may follow, nor a number sign behind a name
that is not raw. -/
def lifetimeName (text : List Char) : Option (List Char × List Char) := do
  let (name, rest) ← anyWord text
  let raw := match text with
    | 'r' :: '#' :: _ => true
    | _ => false
  match rest with
  | '\'' :: _ => none
  | '#' :: _ => if raw then pure (name, rest) else none
  | _ => pure (name, rest)

/-- The literal that stands for a piece of a declaration in error. -/
def errorMark : List Char := "(/*ERROR*/)".toList

/-- The piece at an apostrophe, which has been read, and the text behind it: a lifetime, or the
apostrophe by itself before a literal that begins like a word. -/
def apostrophe (text : List Char) : Option (List Lexeme × List Char) := do
  let (name, behind) ← lifetimeName text
  if (scanLiteral text).isSome then pure ([.leaf (.punct '\'' true)], text)
  else do
    let _ ← separateWord text
    pure ([.leaf (.lifetime (String.ofList name))], behind)

def lexeme (text : List Char) : Option (List Lexeme × List Char) :=
  match comment text, text with
  | some (contents, documents, around, behind), _ =>
    if !documents then some ([], behind)
    else if hasBareReturn contents then none
    else some ((documentation contents around).map .leaf, behind)
  | none, c :: rest =>
    if partsTokens c then some ([], rest)
    else if errorMark.isPrefixOf text then
      some ([.leaf (.literal (String.ofList errorMark))], text.drop errorMark.length)
    else
      match bracket? c with
      | some piece => some ([piece], rest)
      | none =>
        match scanLiteral text with
        | some behind =>
          let written := text.take (text.length - behind.length)
          some ([.leaf (.literal (String.ofList written))], behind)
        | none =>
          if c = '\'' then apostrophe rest
          else if beginsPunctuation text then
            some ([.leaf (.punct c (beginsPunctuation rest))], rest)
          else
            (separateWord text).map fun (name, behind) =>
              ([.leaf (.word (String.ofList name))], behind)
  | none, [] => none

def lexemes : Nat → List Char → Option (List Lexeme)
  | _, [] => some []
  | 0, _ => none
  | fuel + 1, text => do
    let (pieces, behind) ← lexeme text
    let others ← lexemes fuel behind
    pure (pieces ++ others)

/-- The trees of pieces, given the trees of the group at hand, last first, and the groups around
it with what stands before each. -/
def assemble : List Lexeme → List Tree → List (Delimiter × List Tree) → Option (List Tree)
  | [], trees, [] => some trees.reverse
  | [], _, _ :: _ => none
  | .leaf tree :: rest, trees, around => assemble rest (tree :: trees) around
  | .opening delimiter :: rest, trees, around => assemble rest [] ((delimiter, trees) :: around)
  | .closing delimiter :: rest, trees, around =>
    match around with
    | (expected, before) :: around =>
      if delimiter = expected then
        assemble rest (.group delimiter trees.reverse :: before) around
      else none
    | [] => none

def withoutMark : List Char → List Char
  | '\ufeff' :: rest => rest
  | text => text

def Tree.read (text : String) : Option (List Tree) := do
  let characters := withoutMark text.toList
  assemble (← lexemes characters.length characters) [] []

end RequestParams.Declaration
