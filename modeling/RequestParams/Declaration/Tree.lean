import RequestParams.Text.CharSet

set_option autoImplicit false
set_option relaxedAutoImplicit false

/-!
Token trees of record declarations: words, lifetimes, literals, single punctuation characters,
and groups of trees between brackets.
-/

namespace RequestParams.Declaration

inductive Delimiter where
  | parenthesis
  | bracket
  | brace
deriving DecidableEq

namespace Delimiter

def opening : Delimiter → Char
  | .parenthesis => '('
  | .bracket => '['
  | .brace => '{'

def closing : Delimiter → Char
  | .parenthesis => ')'
  | .bracket => ']'
  | .brace => '}'

end Delimiter

inductive Tree where
  /-- An identifier or keyword, with its mark if it is raw. -/
  | word (text : String)
  /-- A lifetime, by its name without the apostrophe. -/
  | lifetime (name : String)
  | literal (text : String)
  /-- A punctuation character, and whether another follows it directly. -/
  | punct (char : Char) (joint : Bool)
  | group (delimiter : Delimiter) (body : List Tree)
deriving Inhabited

namespace Tree

mutual

/-- The tokens of a tree in order, with brackets as tokens of their own. -/
def tokens : Tree → List String
  | .word text => [text]
  | .lifetime name => ["'", name]
  | .literal text => [text]
  | .punct char _ => [String.singleton char]
  | .group delimiter body =>
    String.singleton delimiter.opening :: allTokens body ++
      [String.singleton delimiter.closing]

def allTokens : List Tree → List String
  | [] => []
  | tree :: rest => tokens tree ++ allTokens rest

end

mutual

def size : Tree → Nat
  | .group _ body => 2 + totalSize body
  | _ => 1

def totalSize : List Tree → Nat
  | [] => 0
  | tree :: rest => size tree + totalSize rest

end

def packed (tree : Tree) : List Char :=
  (tree.tokens.flatMap String.toList).filter (· ≠ ' ')

def first? (tree : Tree) : Option Char := tree.tokens.head?.bind fun token => token.toList.head?

/-- The written form of trees behind some text: without spaces, but for one between a word
character and a tree that begins with one. -/
def joinAfter (text : List Char) : List Tree → List Char
  | [] => text
  | tree :: rest =>
    let apart := text.getLast?.any Text.isWord && tree.first?.any Text.isWord
    joinAfter (text ++ (if apart then [' '] else []) ++ tree.packed) rest

def joined (trees : List Tree) : String := String.ofList (joinAfter [] trees)

example : joined [.punct '&' true, .lifetime "static", .word "str"] = "&'static str" := by
  decide +kernel

example : joined [.group .bracket [.punct '&' true, .lifetime "a", .word "str"]] = "[&'astr]" := by
  decide +kernel

end Tree

end RequestParams.Declaration
