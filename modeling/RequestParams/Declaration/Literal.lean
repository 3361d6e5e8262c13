import RequestParams.Text.Quoted

set_option autoImplicit false
set_option relaxedAutoImplicit false

/-!
Literals of declarations: the text that a string literal stands for, how a text is written as a
literal, and whole numbers.  A string literal is cooked, with escapes behind backslashes, or raw,
between number signs.
-/

namespace RequestParams.Declaration.StringLiteral

/-- The characters of a text as they are written in a cooked literal.  The null character is
written by its code where a digit behind it would be read as part of it. -/
def escape : List Char → List Char
  | [] => []
  | c :: rest =>
    let written :=
      if c = '\x00' then
        if rest.head?.any fun next => decide ('0' ≤ next ∧ next ≤ '7') then ['\\', 'x', '0', '0']
        else ['\\', '0']
      else Text.quoteChar c
    written ++ escape rest

def write (text : String) : String := String.ofList ('"' :: escape text.toList ++ ['"'])

def hexValue (c : Char) : Option Nat :=
  if '0' ≤ c ∧ c ≤ '9' then some (c.toNat - 48)
  else if 'a' ≤ c ∧ c ≤ 'f' then some (c.toNat - 87)
  else if 'A' ≤ c ∧ c ≤ 'F' then some (c.toNat - 55)
  else none

def escaped (c : Char) : Option Char :=
  if c = '\\' ∨ c = '"' ∨ c = '\'' then some c
  else if c = 'n' then some '\n'
  else if c = 'r' then some '\r'
  else if c = 't' then some '\t'
  else if c = '0' then some '\x00'
  else none

inductive Place where
  | plain
  /-- Behind a backslash at the end of a line, among the blanks to be passed over. -/
  | continued
  /-- Inside the braces of a code point, with its value so far. -/
  | codePoint (value : Nat)
deriving DecidableEq

/-- The text of a cooked literal from a place behind its opening quote up to its closing one. -/
def cooked : Place → List Char → List Char
  | _, [] => []
  | .codePoint value, c :: rest =>
    if c = '}' then Char.ofNat value :: cooked .plain rest
    else
      match hexValue c with
      | some digit => cooked (.codePoint (value * 16 + digit)) rest
      | none => cooked (.codePoint value) rest
  | _, '"' :: _ => []
  | _, '\\' :: 'x' :: high :: low :: rest =>
    match hexValue high, hexValue low with
    | some high, some low => Char.ofNat (high * 16 + low) :: cooked .plain rest
    | _, _ => cooked .plain rest
  | _, '\\' :: 'u' :: '{' :: rest => cooked (.codePoint 0) rest
  | _, '\\' :: '\r' :: rest => cooked .continued rest
  | _, '\\' :: '\n' :: rest => cooked .continued rest
  | _, '\\' :: mark :: rest => (escaped mark).toList ++ cooked .plain rest
  | place, c :: rest =>
    if place = .continued ∧ (c = ' ' ∨ c = '\t' ∨ c = '\n' ∨ c = '\r') then
      cooked .continued rest
    else if c = '\r' then cooked .plain rest
    else c :: cooked .plain rest

def raw (text : List Char) : List Char :=
  let inner := (text.dropWhile (· = '#')).drop 1
  ((inner.reverse.dropWhile (· ≠ '"')).drop 1).reverse

def value? (literal : String) : Option String :=
  match literal.toList with
  | '"' :: rest => some (String.ofList (cooked .plain rest))
  | 'r' :: rest => some (String.ofList (raw rest))
  | _ => none

example : value? "\"esc \\\" \\x41 \\u\x7be9\x7d \\0\"" = some "esc \" A é \x00" := by
  decide +kernel

example : value? "\"line \\\n   cont\"suffix" = some "line cont" := by decide +kernel

example : value? "r#\"q\"q\"#" = some "q\"q" ∧ value? "b\"a\"" = none := by decide +kernel

end RequestParams.Declaration.StringLiteral

/-!
### Whole numbers

They are written in one of four bases and with marks between their digits; fields without names are
known by them.
-/

namespace RequestParams.Declaration.Number

def readBase (text : List Char) : Nat × List Char :=
  match text with
  | '0' :: 'x' :: rest => (16, rest)
  | '0' :: 'o' :: rest => (8, rest)
  | '0' :: 'b' :: rest => (2, rest)
  | _ => (10, text)

def whole? (text : List Char) : Option Nat :=
  let (base, written) := readBase text
  let digits := written.filter (· ≠ '_')
  if digits.isEmpty then none
  else
    digits.foldlM (fun value c => do
      let digit ← StringLiteral.hexValue c
      if digit < base then some (value * base + digit) else none) 0

/-- The number of a field: a whole number without suffix, below 2^32. -/
def position? (text : List Char) : Option Nat := (whole? text).filter (· < UInt32.size)

def pieces : List Char → List (List Char)
  | [] => [[]]
  | c :: rest =>
    if c = '.' then [] :: pieces rest
    else
      match pieces rest with
      | piece :: others => (c :: piece) :: others
      | [] => [[c]]

/-- The numbers of fields, one inside the other, that a number with full stops between its digits
is made of, and whether it ends with a full stop. -/
def positions? (text : List Char) : Option (List Nat × Bool) :=
  match (pieces text).mapM position? with
  | some positions => some (positions, false)
  | none =>
    match text.reverse with
    | '.' :: before =>
      ((pieces before.reverse).mapM position?).map fun positions => (positions, true)
    | _ => none

example : positions? "0.1_0".toList = some ([0, 10], false) := by decide +kernel

example : positions? "0x1f".toList = some ([31], false) := by decide +kernel

example : positions? "2.".toList = some ([2], true) := by decide +kernel

example : positions? "0u8".toList = none ∧ positions? "1e5".toList = none := by decide +kernel

end RequestParams.Declaration.Number
