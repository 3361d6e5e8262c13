import Mathlib.Data.List.Chain
import RequestParams.Declaration.Grammar
import RequestParams.Proofs.TextPieces

set_option autoImplicit false
set_option relaxedAutoImplicit false

/-!
What the name of an unsupported type tells of the type.  A name is written without the spaces of the
type, but for one between words.  Inside brackets that one is missing too, and the inside of a
literal loses its spaces, so that different types can share a name.  Where no two words meet inside
brackets and no literal holds a space, the name still tells every token of the type.
-/

namespace RequestParams.Declaration

open Text (isWord)

/-! ### Tokens -/

/-- A token of a declaration, without the spaces around it. -/
inductive Token where
  /-- An identifier or keyword, with its mark if it is raw. -/
  | word (text : List Char)
  /-- A lifetime, by its name without the apostrophe. -/
  | lifetime (name : List Char)
  | literal (text : List Char)
  /-- A punctuation character or a bracket. -/
  | sign (char : Char)
deriving DecidableEq

namespace Token

def characters : Token → List Char
  | .word text => text
  | .lifetime name => '\'' :: name
  | .literal text => text
  | .sign char => [char]

def beginsWord (token : Token) : Bool := token.characters.head?.any isWord

def endsWord (token : Token) : Bool := token.characters.getLast?.any isWord

def runsInto (token next : Token) : Bool := token.endsWord && next.beginsWord

/-- Whether a lifetime stands before an apostrophe, so that the two look like a character. -/
def quotes : Token → Token → Bool
  | .lifetime _, next => next.characters.head? = some '\''
  | _, _ => false

end Token

namespace Tree

mutual

def leaves : Tree → List Token
  | .word text => [.word text.toList]
  | .lifetime name => [.lifetime name.toList]
  | .literal text => [.literal text.toList]
  | .punct char _ => [.sign char]
  | .group delimiter body => .sign delimiter.opening :: allLeaves body ++ [.sign delimiter.closing]

def allLeaves : List Tree → List Token
  | [] => []
  | tree :: rest => leaves tree ++ allLeaves rest

end

mutual

theorem flatMap_characters_leaves (tree : Tree) :
    tree.leaves.flatMap Token.characters = tree.tokens.flatMap String.toList := by
  match tree with
  | .word _ | .lifetime _ | .literal _ | .punct _ _ => simp [leaves, tokens, Token.characters]
  | .group delimiter body =>
    simp [leaves, tokens, Token.characters, flatMap_characters_allLeaves body]

theorem flatMap_characters_allLeaves (trees : List Tree) :
    (allLeaves trees).flatMap Token.characters = (allTokens trees).flatMap String.toList := by
  match trees with
  | [] => rfl
  | tree :: rest =>
    simp [allLeaves, allTokens, flatMap_characters_leaves tree, flatMap_characters_allLeaves rest]

end

theorem any_first? (tree : Tree) :
    tree.first?.any isWord = tree.leaves.head?.any Token.beginsWord := by
  cases tree <;> simp [first?, tokens, leaves, Token.beginsWord, Token.characters]

theorem filter_joinAfter (text : List Char) (trees : List Tree) :
    (joinAfter text trees).filter (· ≠ ' ') =
      text.filter (· ≠ ' ') ++
        ((allLeaves trees).flatMap Token.characters).filter (· ≠ ' ') := by
  induction trees generalizing text with
  | nil => simp [joinAfter, allLeaves]
  | cons tree rest ih =>
    have own : tree.packed.filter (· ≠ ' ') =
        (tree.leaves.flatMap Token.characters).filter (· ≠ ' ') := by
      rw [packed, List.filter_filter, flatMap_characters_leaves]
      simp only [Bool.and_self]
    rw [joinAfter, ih, allLeaves]
    simp only [List.flatMap_append, List.filter_append, own]
    split_ifs <;> simp

theorem filter_joined (trees : List Tree) :
    (joined trees).toList.filter (· ≠ ' ') =
      ((allLeaves trees).flatMap Token.characters).filter (· ≠ ' ') := by
  rw [joined, String.toList_ofList, filter_joinAfter, List.filter_nil, List.nil_append]

end Tree

/-! ### Names of tokens -/

namespace Token

/-- What stands between a token and those behind it: a space only where the two run together. -/
def gap (token : Token) (behind : List Token) : List Char :=
  if behind.head?.any token.runsInto then [' '] else []

def spell : List Token → List Char
  | [] => []
  | token :: rest => token.characters ++ (gap token rest ++ spell rest)

theorem spell_eq_flatMap {tokens : List Token}
    (apart : tokens.IsChain fun token next => token.runsInto next = false) :
    spell tokens = tokens.flatMap characters := by
  induction apart with
  | nil => rfl
  | singleton token => simp [spell, gap]
  | cons_cons apart _ ih => rw [spell, ih]; simp [gap, apart]

theorem spell_append {seen tokens : List Token} (present : ∀ token ∈ seen, token.characters ≠ [])
    (apart : tokens.IsChain fun token next => token.runsInto next = false) :
    spell (seen ++ tokens) =
      spell seen ++
        (if (spell seen).getLast?.any isWord && tokens.head?.any beginsWord then [' '] else []) ++
        tokens.flatMap characters := by
  induction seen with
  | nil => simpa [spell] using spell_eq_flatMap apart
  | cons token seen ih =>
    have others := ih fun other mem => present other (List.mem_cons_of_mem _ mem)
    cases seen with
    | nil =>
      have last : tokens.head?.any token.runsInto =
          (token.characters.getLast?.any isWord && tokens.head?.any beginsWord) := by
        cases tokens <;> simp [runsInto, endsWord]
      simp [spell, gap, spell_eq_flatMap apart, last]
    | cons next seen =>
      have filled : spell (next :: seen) ≠ [] := by
        simp [spell, present next (by simp)]
      have spelled : spell (token :: next :: seen) =
          token.characters ++ (gap token (next :: seen) ++ spell (next :: seen)) := rfl
      have last : (spell (token :: next :: seen)).getLast? = (spell (next :: seen)).getLast? := by
        rw [spelled, ← List.append_assoc, List.getLast?_append_of_ne_nil _ filled]
      calc
        spell (token :: (next :: seen ++ tokens))
        _ = token.characters ++ (gap token (next :: seen) ++ spell (next :: seen ++ tokens)) := rfl
        _ = _ := by rw [others, last, spelled]; simp only [List.append_assoc]

end Token

/-! ### Plain tokens -/

theorem scanCooked_append {kind : QuoteKind} {place : QuotePlace} {text behind : List Char}
    (more : List Char) (read : scanCooked kind place text = some behind) :
    scanCooked kind place (text ++ more) = some (behind ++ more) := by
  fun_induction scanCooked kind place text
  case case5 unmarked unclosed digit value small ih =>
    simp [scanCooked, unmarked, unclosed, value, small, ih read]
  case case15 mark rest _ _ _ escapes ih =>
    -- The three marks that ask for more than one character are no escapes by themselves.
    have short : mark ≠ 'x' ∧ mark ≠ 'u' ∧ mark ≠ '\r' := by
      refine ⟨?_, ?_, ?_⟩ <;> rintro rfl <;> simp [StringLiteral.escaped] at escapes
    simp [scanCooked, short, escapes, ih read]
  all_goals simp_all [scanCooked]

namespace Token

/-- The tokens whose end can be told without the spaces around them.  A raw word, a literal with a
prefix or a suffix and a number with a point are not among them: each is written like several tokens
that stand apart. -/
inductive IsPlain : Token → Prop
  /-- A word of word characters only: one without a mark. -/
  | word {c : Char} {rest : List Char} (first : c.isDigit = false)
      (row : (c :: rest).all isWord = true) : IsPlain (.word (c :: rest))
  | lifetime {c : Char} {rest : List Char} (row : (c :: rest).all isWord = true) :
      IsPlain (.lifetime (c :: rest))
  /-- A number without a point: its base, digits and suffix are word characters. -/
  | number {c : Char} {rest : List Char} (first : c.isDigit = true)
      (row : (c :: rest).all isWord = true) : IsPlain (.literal (c :: rest))
  /-- A text between quotes, without a suffix and without spaces. -/
  | quoted {body : List Char} (closed : scanCooked .text .plain body = some [])
      (spaceless : ' ' ∉ body) : IsPlain (.literal ('"' :: body))
  /-- A character that stands for itself between apostrophes. -/
  | character {c : Char} (visible : c ≠ ' ') : IsPlain (.literal ['\'', c, '\''])
  | sign {c : Char} (alone : isWord c = false) (mark : c ∉ [' ', '\'', '"']) : IsPlain (.sign c)

private theorem isPlain_literal_iff (c : Char) (rest : List Char) :
    IsPlain (.literal (c :: rest)) ↔
      (c.isDigit = true ∧ (c :: rest).all isWord = true) ∨
      (c = '"' ∧ scanCooked .text .plain rest = some [] ∧ ' ' ∉ rest) ∨
      (c = '\'' ∧ rest.tail = ['\''] ∧ rest.head? ≠ some ' ') := by
  constructor
  · intro plain
    cases plain with
    | number first row => exact .inl ⟨first, row⟩
    | quoted closed spaceless => exact .inr (.inl ⟨rfl, closed, spaceless⟩)
    | character visible => exact .inr (.inr ⟨rfl, rfl, by simpa using visible⟩)
  · rintro (⟨first, row⟩ | ⟨rfl, closed, spaceless⟩ | ⟨rfl, last, visible⟩)
    · exact .number first row
    · exact .quoted closed spaceless
    · cases rest with
      | nil => cases last
      | cons d rest =>
        rw [List.tail_cons] at last
        rw [last]
        exact .character (by simpa using visible)

instance : DecidablePred IsPlain
  | .word [] | .lifetime [] | .literal [] => isFalse nofun
  | .word (c :: rest) =>
    decidable_of_iff (c.isDigit = false ∧ (c :: rest).all isWord = true)
      ⟨fun h => .word h.1 h.2, fun | .word first row => ⟨first, row⟩⟩
  | .lifetime (c :: rest) =>
    decidable_of_iff ((c :: rest).all isWord = true)
      ⟨fun row => .lifetime row, fun | .lifetime row => row⟩
  | .literal (c :: rest) => decidable_of_iff' _ (isPlain_literal_iff c rest)
  | .sign c =>
    decidable_of_iff (isWord c = false ∧ c ∉ [' ', '\'', '"'])
      ⟨fun h => .sign h.1 h.2, fun | .sign alone mark => ⟨alone, mark⟩⟩

theorem ne_of_isWord {c mark : Char} (word : isWord c = true) (mem : mark ∈ [' ', '\'', '"']) :
    c ≠ mark := by
  rintro rfl
  have marks : [' ', '\'', '"'].all (fun c => !isWord c) = true := by decide +kernel
  simpa [word] using List.all_eq_true.mp marks c mem

namespace IsPlain

theorem characters_ne_nil {token : Token} (plain : token.IsPlain) : token.characters ≠ [] := by
  cases plain <;> simp [characters]

theorem space_notMem {token : Token} (plain : token.IsPlain) : ' ' ∉ token.characters := by
  have spaceless {text : List Char} (row : text.all isWord = true) : ' ' ∉ text :=
    fun mem => ne_of_isWord (List.all_eq_true.mp row ' ' mem) (by simp) rfl
  cases plain with
  | word _ row => exact spaceless row
  | lifetime row => simpa [characters] using spaceless row
  | number _ row => exact spaceless row
  | quoted _ spaceless => simpa [characters] using spaceless
  | character visible => simpa [characters] using visible.symm
  | sign _ mark =>
    simp only [characters, List.mem_singleton]
    rintro rfl
    exact mark (by simp)

end IsPlain

structure EndsAt (token : Token) (behind : List Char) : Prop where
  word : token.endsWord = true → ∀ c ∈ behind.head?, isWord c = false
  quote : ∀ name, token = .lifetime name → behind.head? ≠ some '\''

theorem any_getLast?_of_row {c : Char} {rest : List Char} (row : (c :: rest).all isWord = true) :
    (c :: rest).getLast?.any isWord = true := by
  rw [List.getLast?_eq_some_getLast (List.cons_ne_nil c rest), Option.any_some]
  exact List.all_eq_true.mp row _ (List.getLast_mem _)

def readFirst : List Char → Option (Token × List Char)
  | [] => none
  | '"' :: rest =>
    (scanCooked .text .plain rest).map fun behind =>
      (.literal ('"' :: rest.take (rest.length - behind.length)), behind)
  | '\'' :: c :: '\'' :: behind => some (.literal ['\'', c, '\''], behind)
  | '\'' :: rest => some (.lifetime (rest.takeWhile isWord), rest.dropWhile isWord)
  | c :: rest =>
    if isWord c then
      let row := c :: rest.takeWhile isWord
      some (if c.isDigit then .literal row else .word row, rest.dropWhile isWord)
    else some (.sign c, rest)

theorem readFirst_apostrophe (c : Char) {text : List Char} (unquoted : text.head? ≠ some '\'') :
    readFirst ('\'' :: c :: text) =
      some (.lifetime ((c :: text).takeWhile isWord), (c :: text).dropWhile isWord) := by
  cases text with
  | nil => simp [readFirst]
  | cons d text =>
    have apart : d ≠ '\'' := by simpa using unquoted
    simp [readFirst, apart]

theorem readFirst_row {c : Char} {rest behind : List Char} (row : (c :: rest).all isWord = true)
    (stop : ∀ c ∈ behind.head?, isWord c = false) :
    readFirst (c :: rest ++ behind) =
      some (if c.isDigit then .literal (c :: rest) else .word (c :: rest), behind) := by
  rw [List.all_cons, Bool.and_eq_true] at row
  obtain ⟨first, row⟩ := row
  have unmarked : c ≠ '"' ∧ c ≠ '\'' :=
    ⟨ne_of_isWord first (by simp), ne_of_isWord first (by simp)⟩
  have word := List.all_eq_true.mp row
  simp [readFirst, unmarked, first, Text.takeWhile_run word stop, Text.dropWhile_run word stop]

/-- A plain token is read off what it is spelled with, whatever stands behind it. -/
theorem readFirst_append {token : Token} {behind : List Char} (plain : token.IsPlain)
    (ends : token.EndsAt behind) :
    readFirst (token.characters ++ behind) = some (token, behind) := by
  cases plain with
  | word first row =>
    have stop : ∀ c ∈ behind.head?, isWord c = false := ends.word (any_getLast?_of_row row)
    rw [characters, readFirst_row row stop, first, if_neg Bool.false_ne_true]
  | @lifetime c rest row =>
    have stop : ∀ c ∈ behind.head?, isWord c = false := by
      apply ends.word
      rw [endsWord, characters, List.getLast?_cons_cons]
      exact any_getLast?_of_row row
    have unquoted : (rest ++ behind).head? ≠ some '\'' := by
      cases rest with
      | nil => exact ends.quote _ rfl
      | cons d rest =>
        have word : isWord d = true := List.all_eq_true.mp row d (by simp)
        simpa using ne_of_isWord word (by simp)
    have word := List.all_eq_true.mp row
    rw [characters, List.cons_append, List.cons_append, readFirst_apostrophe c unquoted,
      ← List.cons_append, Text.takeWhile_run word stop, Text.dropWhile_run word stop]
  | number first row =>
    have stop : ∀ c ∈ behind.head?, isWord c = false := ends.word (any_getLast?_of_row row)
    rw [characters, readFirst_row row stop, first, if_pos rfl]
  | @quoted body closed _ =>
    have read : scanCooked .text .plain (body ++ behind) = some behind :=
      scanCooked_append behind closed
    simp [readFirst, characters, read]
  | character visible => rfl
  | sign alone mark =>
    simp only [List.mem_cons, not_or] at mark
    simp [readFirst, characters, alone, mark]

/-- Whether tokens are plain and no lifetime among them looks like a character. -/
structure Readable (tokens : List Token) : Prop where
  plain : ∀ token ∈ tokens, token.IsPlain
  unquoted : tokens.IsChain fun token next => token.quotes next = false

instance (tokens : List Token) : Decidable (Readable tokens) :=
  decidable_of_iff ((∀ token ∈ tokens, token.IsPlain) ∧
      tokens.IsChain fun token next => token.quotes next = false)
    ⟨fun h => ⟨h.1, h.2⟩, fun h => ⟨h.plain, h.unquoted⟩⟩

theorem Readable.tail {token : Token} {rest : List Token} (readable : Readable (token :: rest)) :
    Readable rest :=
  ⟨fun other mem => readable.plain other (List.mem_cons_of_mem _ mem), readable.unquoted.tail⟩

theorem spell_eq_cons {token : Token} (plain : token.IsPlain) (rest : List Token) :
    ∃ c text, spell (token :: rest) = c :: text ∧ token.characters.head? = some c ∧ c ≠ ' ' := by
  obtain ⟨c, text, eq⟩ := List.exists_cons_of_ne_nil plain.characters_ne_nil
  refine ⟨c, text ++ (gap token rest ++ spell rest), by rw [spell, eq, List.cons_append],
    by rw [eq, List.head?_cons], ?_⟩
  rintro rfl
  exact plain.space_notMem (eq ▸ List.mem_cons_self)

theorem Readable.endsAt {token : Token} {rest : List Token} (readable : Readable (token :: rest)) :
    token.EndsAt (gap token rest ++ spell rest) := by
  cases rest with
  | nil => constructor <;> simp [gap, spell]
  | cons next rest =>
    by_cases runs : token.runsInto next = true
    · have space : isWord ' ' = false := by decide +kernel
      constructor <;> simp [gap, runs, space]
    · obtain ⟨c, text, spelled, first, _⟩ := spell_eq_cons (readable.plain next (by simp)) rest
      have unquoted : token.quotes next = false := readable.unquoted.rel
      constructor
      · intro ends
        have apart : isWord c = false := by
          simpa [runsInto, ends, beginsWord, first] using runs
        simp [gap, runs, spelled, apart]
      · rintro name rfl
        simpa [gap, runs, spelled, quotes, first] using unquoted

theorem Readable.dropWhile_space {rest : List Token} (readable : Readable rest) (token : Token) :
    (gap token rest ++ spell rest).dropWhile (· = ' ') = spell rest := by
  cases rest with
  | nil => simp [gap, spell]
  | cons next rest =>
    obtain ⟨c, text, spelled, _, visible⟩ := spell_eq_cons (readable.plain next (by simp)) rest
    rw [spelled, gap]
    split_ifs <;> simp [visible]

theorem Readable.readFirst_spell {token : Token} {rest : List Token}
    (readable : Readable (token :: rest)) :
    readFirst (spell (token :: rest)) = some (token, gap token rest ++ spell rest) :=
  readFirst_append (readable.plain token (by simp)) readable.endsAt

theorem Readable.spell_inj {tokens others : List Token} (readable : Readable tokens)
    (readable' : Readable others) (same : spell tokens = spell others) : tokens = others := by
  induction tokens generalizing others with
  | nil =>
    cases others with
    | nil => rfl
    | cons other others =>
      have read := readable'.readFirst_spell
      rw [← same] at read
      cases read
  | cons token rest ih =>
    have read := readable.readFirst_spell
    rw [same] at read
    cases others with
    | nil => cases read
    | cons other others =>
      rw [readable'.readFirst_spell, Option.some.injEq, Prod.mk.injEq] at read
      obtain ⟨rfl, behind⟩ := read
      have spelled : spell rest = spell others := by
        rw [← readable.tail.dropWhile_space other, ← readable'.tail.dropWhile_space other, behind]
      rw [ih readable.tail readable'.tail spelled]

end Token

/-! ### Names of types -/

namespace Tree

/-- Where tokens are plain and none run together inside brackets, trees are written as their tokens
are spelled, whatever the brackets. -/
theorem joinAfter_spell {trees : List Tree} {seen : List Token}
    (plain : ∀ token ∈ seen ++ allLeaves trees, token.IsPlain)
    (apart : ∀ tree ∈ trees,
      tree.leaves.IsChain fun token next => token.runsInto next = false) :
    joinAfter (Token.spell seen) trees = Token.spell (seen ++ allLeaves trees) := by
  induction trees generalizing seen with
  | nil => simp [joinAfter, allLeaves]
  | cons tree rest ih =>
    have own : tree.packed = tree.leaves.flatMap Token.characters := by
      rw [packed, ← flatMap_characters_leaves, List.filter_eq_self]
      intro c mem
      obtain ⟨token, among, within⟩ := List.mem_flatMap.mp mem
      have space := (plain token (by simp [allLeaves, among])).space_notMem
      exact decide_eq_true fun eq => space (eq ▸ within)
    have present : ∀ token ∈ seen, token.characters ≠ [] :=
      fun token mem => (plain token (by simp [mem])).characters_ne_nil
    have spelled := Token.spell_append present (apart tree (by simp))
    rw [joinAfter, any_first?, own, ← spelled, ih, allLeaves, List.append_assoc]
    · simpa [allLeaves] using plain
    · exact fun other mem => apart other (List.mem_cons_of_mem _ mem)

end Tree

/-- Whether the name of a type can show its tokens: they are readable, and no two of them that need
a space meet inside brackets. -/
structure DeclaredType.Legible (declared : DeclaredType) : Prop where
  tokens : Token.Readable (Tree.allLeaves declared.trees)
  apart : ∀ tree ∈ declared.trees,
    tree.leaves.IsChain fun token next => token.runsInto next = false

instance (declared : DeclaredType) : Decidable declared.Legible :=
  decidable_of_iff (Token.Readable (Tree.allLeaves declared.trees) ∧
      ∀ tree ∈ declared.trees, tree.leaves.IsChain fun token next => token.runsInto next = false)
    ⟨fun h => ⟨h.1, h.2⟩, fun h => ⟨h.tokens, h.apart⟩⟩

theorem DeclaredType.Legible.joined_eq {declared : DeclaredType} (legible : declared.Legible) :
    (Tree.joined declared.trees).toList = Token.spell (Tree.allLeaves declared.trees) := by
  have plain : ∀ token ∈ [] ++ Tree.allLeaves declared.trees, token.IsPlain := legible.tokens.plain
  rw [Tree.joined, String.toList_ofList]
  exact Tree.joinAfter_spell plain legible.apart

theorem DeclaredType.joined_of_unsupported {declared : DeclaredType} {name : String}
    (named : declared.fieldType = .unsupported name) : Tree.joined declared.trees = name := by
  unfold DeclaredType.fieldType at named
  split at named <;> cases named
  rfl

theorem DeclaredType.exists_read_of_any (one other : String)
    (P : DeclaredType → DeclaredType → Prop) [∀ first second, Decidable (P first second)]
    (holds : ((read one).any fun first => (read other).any fun second => P first second) = true) :
    ∃ first second, read one = some first ∧ read other = some second ∧ P first second := by
  obtain ⟨first, found, inner⟩ := (Option.any_eq_true _ _).mp holds
  obtain ⟨second, found', both⟩ := (Option.any_eq_true _ _).mp inner
  exact ⟨first, second, found, found', of_decide_eq_true both⟩

end RequestParams.Declaration

namespace RequestParams

open Declaration

/-- Two types of one unsupported name have the same characters but for spaces, and, where the name
can show their tokens, the same tokens. -/
theorem unsupported_name_tokens {one other : DeclaredType} {name : String}
    (named : one.fieldType = .unsupported name) (named' : other.fieldType = .unsupported name) :
    ((Tree.allLeaves one.trees).flatMap Token.characters).filter (· ≠ ' ') =
        ((Tree.allLeaves other.trees).flatMap Token.characters).filter (· ≠ ' ') ∧
      (one.Legible → other.Legible → Tree.allLeaves one.trees = Tree.allLeaves other.trees) := by
  have same : Tree.joined one.trees = Tree.joined other.trees := by
    rw [DeclaredType.joined_of_unsupported named, DeclaredType.joined_of_unsupported named']
  constructor
  · rw [← Tree.filter_joined, ← Tree.filter_joined, same]
  · intro legible legible'
    apply legible.tokens.spell_inj legible'.tokens
    rw [← legible.joined_eq, ← legible'.joined_eq, same]

theorem unsupported_name_tokens_functionReference :
    ∃ one other : DeclaredType,
      DeclaredType.read "&'a dyn Fn(&u8) -> [T; 2]" = some one ∧
      DeclaredType.read "& 'a  dyn Fn ( & u8 )->[T;2]" = some other ∧
      one.fieldType = .unsupported "&'a dyn Fn(&u8)->[T;2]" ∧
      other.fieldType = .unsupported "&'a dyn Fn(&u8)->[T;2]" ∧
      one.Legible ∧ other.Legible ∧ Tree.allLeaves one.trees = Tree.allLeaves other.trees := by
  obtain ⟨one, other, read, read', named, named', legible, legible'⟩ :=
    DeclaredType.exists_read_of_any "&'a dyn Fn(&u8) -> [T; 2]" "& 'a  dyn Fn ( & u8 )->[T;2]"
      (fun one other => one.fieldType = .unsupported "&'a dyn Fn(&u8)->[T;2]" ∧
        other.fieldType = .unsupported "&'a dyn Fn(&u8)->[T;2]" ∧ one.Legible ∧ other.Legible)
      (by decide +kernel)
  exact ⟨one, other, read, read', named, named', legible, legible',
    (unsupported_name_tokens named named').2 legible legible'⟩

/-- Words run together inside brackets, and the inside of a literal loses its spaces: two pairs of
types with different tokens and one name each. -/
theorem unsupported_name_shared :
    (∃ one other : DeclaredType,
      DeclaredType.read "(dyn A)" = some one ∧ DeclaredType.read "(dynA)" = some other ∧
      one.fieldType = .unsupported "(dynA)" ∧ other.fieldType = .unsupported "(dynA)" ∧
      Tree.allLeaves one.trees ≠ Tree.allLeaves other.trees) ∧
    ∃ one other : DeclaredType,
      DeclaredType.read "Foo<\"a b\">" = some one ∧ DeclaredType.read "Foo<\"ab\">" = some other ∧
      one.fieldType = .unsupported "Foo<\"ab\">" ∧ other.fieldType = .unsupported "Foo<\"ab\">" ∧
      Tree.allLeaves one.trees ≠ Tree.allLeaves other.trees := by
  constructor
  · exact DeclaredType.exists_read_of_any _ _ _ (by decide +kernel)
  · exact DeclaredType.exists_read_of_any _ _ _ (by decide +kernel)

end RequestParams
