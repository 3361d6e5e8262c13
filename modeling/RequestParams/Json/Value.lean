import RequestParams.Decimal.Shortest

set_option autoImplicit false
set_option relaxedAutoImplicit false

/-!
JSON values and their texts.  Integers of 64 bits are kept exactly, all other numbers as
floating-point numbers, and the members of an object in their order.
-/

namespace RequestParams

inductive JsonNumber where
  /-- An integer, kept exactly. -/
  | integer (value : Int)
  | float (value : Binary64)
deriving DecidableEq

inductive Json where
  | null
  | bool (value : Bool)
  | number (value : JsonNumber)
  | string (text : String)
  | array (items : List Json)
  | object (members : List (String × Json))
deriving Inhabited

namespace Json

def ofInt (n : Int) : Json := .number (.integer n)

def ofFloat (x : Binary64) : Json := .number (.float x)

def text? : Json → Option String
  | .string text => some text
  | _ => none

def bool? : Json → Option Bool
  | .bool value => some value
  | _ => none

def items? : Json → Option (List Json)
  | .array items => some items
  | _ => none

/-- What a record with these fields is written from: the members of an object, or the items of an
array in the order of the fields, of which the last may be missing. -/
def fields? (names : List String) : Json → Option (List (String × Json))
  | .object members => some members
  | .array items => if items.length ≤ names.length then some (names.zip items) else none
  | _ => none

def memberOr {α : Type} (name : String) (default : α) (reader : Json → Option α)
    (members : List (String × Json)) : Option α :=
  match members.lookup name with
  | none => some default
  | some value => reader value

/-- The name of a variant, written as a text or as the only member of an object, without a
value. -/
def variantName? : Json → Option String
  | .string text => some text
  | .object [(name, .null)] => some name
  | _ => none

/-!
### Texts

The compact text holds no white space; the indented text puts each item and member on a line of its
own, two spaces deeper than what holds it.
-/

def escapeChar (c : Char) : List Char :=
  if c = '"' then ['\\', '"']
  else if c = '\\' then ['\\', '\\']
  else if c = '\x08' then ['\\', 'b']
  else if c = '\t' then ['\\', 't']
  else if c = '\n' then ['\\', 'n']
  else if c = '\x0c' then ['\\', 'f']
  else if c = '\r' then ['\\', 'r']
  else if c.toNat < 0x20 then
    ['\\', 'u', '0', '0', Nat.digitChar (c.toNat / 16), Nat.digitChar (c.toNat % 16)]
  else [c]

def writeString (text : String) : List Char :=
  '"' :: text.toList.flatMap escapeChar ++ ['"']

def writeNumber : JsonNumber → List Char
  | .integer n => Decimal.integerText n
  | .float x => if x.isFinite then Decimal.floatText x.shortest else ['n', 'u', 'l', 'l']

def writeBool (value : Bool) : List Char :=
  if value then ['t', 'r', 'u', 'e'] else ['f', 'a', 'l', 's', 'e']

mutual

def writeCompact : Json → List Char
  | .null => ['n', 'u', 'l', 'l']
  | .bool value => writeBool value
  | .number value => writeNumber value
  | .string text => writeString text
  | .array items => '[' :: writeItems items
  | .object members => '{' :: writeMembers members

def writeItems : List Json → List Char
  | [] => [']']
  | item :: rest => writeCompact item ++ writeMoreItems rest

def writeMoreItems : List Json → List Char
  | [] => [']']
  | item :: rest => ',' :: writeCompact item ++ writeMoreItems rest

def writeMembers : List (String × Json) → List Char
  | [] => ['}']
  | (name, value) :: rest =>
    writeString name ++ ':' :: writeCompact value ++ writeMoreMembers rest

def writeMoreMembers : List (String × Json) → List Char
  | [] => ['}']
  | (name, value) :: rest =>
    ',' :: writeString name ++ ':' :: writeCompact value ++ writeMoreMembers rest

end

def newline (depth : Nat) : List Char := '\n' :: List.replicate (2 * depth) ' '

mutual

def writeIndented : Nat → Json → List Char
  | _, .null => ['n', 'u', 'l', 'l']
  | _, .bool value => writeBool value
  | _, .number value => writeNumber value
  | _, .string text => writeString text
  | _, .array [] => ['[', ']']
  | depth, .array (item :: rest) =>
    '[' :: newline (depth + 1) ++ writeIndented (depth + 1) item ++ indentItems depth rest
  | _, .object [] => ['{', '}']
  | depth, .object ((name, value) :: rest) =>
    '{' :: newline (depth + 1) ++ writeString name ++ [':', ' '] ++
      writeIndented (depth + 1) value ++ indentMembers depth rest

def indentItems : Nat → List Json → List Char
  | depth, [] => newline depth ++ [']']
  | depth, item :: rest =>
    ',' :: newline (depth + 1) ++ writeIndented (depth + 1) item ++ indentItems depth rest

def indentMembers : Nat → List (String × Json) → List Char
  | depth, [] => newline depth ++ ['}']
  | depth, (name, value) :: rest =>
    ',' :: newline (depth + 1) ++ writeString name ++ [':', ' '] ++
      writeIndented (depth + 1) value ++ indentMembers depth rest

end

def compact (value : Json) : String := String.ofList (writeCompact value)

def pretty (value : Json) : String := String.ofList (writeIndented 0 value)

example : compact (.object [("a", .array [ofInt (-1), .null]), ("é\"", .string "\x1f\t")]) =
    "\x7b\"a\":[-1,null],\"é\\\"\":\"\\u001f\\t\"\x7d" := by decide +kernel

example : pretty (.object [("a", .array [.bool true, .array []]), ("b", .object [])]) =
    "\x7b\n  \"a\": [\n    true,\n    []\n  ],\n  \"b\": \x7b\x7d\n\x7d" := by decide +kernel

end Json

end RequestParams
