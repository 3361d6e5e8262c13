import RequestParams.Proofs.FloatText
import RequestParams.Proofs.IntegerTexts

set_option autoImplicit false
set_option relaxedAutoImplicit false

/-!
What is written of a value is JSON.  The form of the text is computed beside the text, and the
grammar relates the two; the form's strings, truth values and numbers are read as those of the
value.
-/

namespace RequestParams

namespace StringPiece

/-- How a character is written: most of the controls by their number, all others by themselves. -/
def ofChar (c : Char) : StringPiece :=
  if c.toNat < 0x20 ∧ c ∉ ['\x08', '\t', '\n', '\x0c', '\r'] then .unit c.toNat else .char c

def ofText (text : String) : List StringPiece := text.toList.map ofChar

private theorem hexUnit_control : ∀ n < 0x20, WrittenJson.hexUnit '0' '0' (Nat.digitChar (n / 16))
    (Nat.digitChar (n % 16)) = some n := by decide

theorem spells_escapeChar (c : Char) {pieces : List StringPiece} {text : List Char}
    (rest : SpellsPieces pieces text) :
    SpellsPieces (ofChar c :: pieces) (Json.escapeChar c ++ text) := by
  unfold Json.escapeChar
  split_ifs with quote backslash b t n f r control
  · subst quote
    exact .escape (by decide) rest
  · subst backslash
    exact .escape (by decide) rest
  · subst b
    exact .escape (by decide) rest
  · subst t
    exact .escape (by decide) rest
  · subst n
    exact .escape (by decide) rest
  · subst f
    exact .escape (by decide) rest
  · subst r
    exact .escape (by decide) rest
  · have numbered : ofChar c = .unit c.toNat := by simp [ofChar, control, b, t, n, f, r]
    rw [numbered]
    exact .unit (hexUnit_control c.toNat control) rest
  · have plain : ofChar c = .char c := by simp [ofChar, control]
    rw [plain]
    exact .plain (Nat.le_of_not_lt control) quote backslash rest

theorem spells_flatMap (text : List Char) :
    SpellsPieces (text.map ofChar) (text.flatMap Json.escapeChar) := by
  induction text with
  | nil => exact .nil
  | cons c rest ih => exact spells_escapeChar c ih

private theorem characters_unit {code : Nat} (low : code < 0xd800) (pieces : List StringPiece) :
    characters (.unit code :: pieces) = (characters pieces).map (Char.ofNat code :: ·) := by
  have alone : ¬(0xd800 ≤ code ∧ code < 0xe000) := by omega
  rcases pieces with _ | ⟨c | unit, pieces⟩
  · simp [characters, alone]
  · simp [characters, alone]
  · have first : ¬(0xd800 ≤ code ∧ code < 0xdc00) := by omega
    have second : ¬(0xdc00 ≤ code ∧ code < 0xe000) := by omega
    simp only [characters]
    rw [if_neg first, if_neg second]

private theorem characters_ofChar (c : Char) (pieces : List StringPiece) :
    characters (ofChar c :: pieces) = (characters pieces).map (c :: ·) := by
  unfold ofChar
  split_ifs with control
  · rw [characters_unit (by omega), Char.ofNat_toNat]
  · rfl

theorem text?_ofText (text : String) : text? (ofText text) = some text := by
  have read (rest : List Char) : characters (rest.map ofChar) = some rest := by
    induction rest with
    | nil => rfl
    | cons c rest ih => rw [List.map_cons, characters_ofChar, ih, Option.map_some]
  rw [text?, ofText, read, Option.map_some, String.ofList_toList]

end StringPiece

namespace JsonNumber

/-- The form that a number is written in; a number that is not finite is written as nothing. -/
def written : JsonNumber → WrittenJson
  | .integer n => .number ⟨decide (n < 0), Nat.toDigits 10 n.natAbs, [], none⟩
  | .float x => if x.isFinite then .number x.shortest.written else .null

private theorem spellsWhole_toDigits (n : Nat) : SpellsWhole (Nat.toDigits 10 n) := by
  rcases Nat.eq_zero_or_pos n with rfl | positive
  · exact .zero
  · obtain ⟨first, rest, digits, leading⟩ := Decimal.leading_digit positive
    rw [digits]
    refine .digits leading fun c mem => ?_
    exact Nat.isDigit_of_mem_toDigits (by decide) (by decide) (digits ▸ mem)

theorem spells_writeNumber (number : JsonNumber) :
    Spells (.value number.written) (Json.writeNumber number) := by
  cases number with
  | integer n =>
    have magnitude : SpellsMagnitude ⟨decide (n < 0), _, [], none⟩ _ :=
      .mk (spellsWhole_toDigits n.natAbs) .absent .absent
    rw [List.append_nil, List.append_nil] at magnitude
    refine .number ?_
    simp only [Json.writeNumber, Decimal.integerText]
    split_ifs with negative
    · exact .negative (by simpa using negative) magnitude
    · exact .positive (by simpa using negative) magnitude
  | float x =>
    simp only [Json.writeNumber, written]
    split_ifs with finite
    · exact .number x.shortest.spells_floatText
    · exact .null

end JsonNumber

namespace Json

mutual

/-- The form of what is written of a value. -/
def written : Json → WrittenJson
  | .null => .null
  | .bool value => .bool value
  | .number value => value.written
  | .string text => .string (StringPiece.ofText text)
  | .array items => .array (writtenItems items)
  | .object members => .object (writtenMembers members)

def writtenItems : List Json → List WrittenJson
  | [] => []
  | item :: rest => written item :: writtenItems rest

def writtenMembers : List (String × Json) → List (List StringPiece × WrittenJson)
  | [] => []
  | (name, value) :: rest => (StringPiece.ofText name, written value) :: writtenMembers rest

end

theorem writtenItems_eq_map (items : List Json) : writtenItems items = items.map written := by
  induction items with
  | nil => rfl
  | cons item rest ih => rw [writtenItems, ih, List.map_cons]

theorem writtenMembers_eq_map (members : List (String × Json)) :
    writtenMembers members =
      members.map fun (name, value) => (StringPiece.ofText name, value.written) := by
  induction members with
  | nil => rfl
  | cons member rest ih => rw [writtenMembers, ih, List.map_cons]

private theorem isSpaces_newline (depth : Nat) : IsSpaces (newline depth) := by
  intro c mem
  rcases List.mem_cons.mp mem with rfl | mem
  · rfl
  · rw [List.eq_of_mem_replicate mem]
    rfl

private theorem isSpaces_blank : IsSpaces [' '] := by
  simp [IsSpaces, WrittenJson.isSpace]

private theorem isSpaces_nil : IsSpaces [] := fun _ mem => absurd mem List.not_mem_nil

mutual

theorem spells_writeIndented : ∀ (depth : Nat) (value : Json),
    Spells (.value value.written) (writeIndented depth value)
  | _, .null => .null
  | _, .bool true => .true
  | _, .bool false => .false
  | _, .number value => value.spells_writeNumber
  | _, .string text => .string (StringPiece.spells_flatMap text.toList)
  | _, .array [] => .emptyArray isSpaces_nil
  | depth, .array (item :: rest) => by
    obtain ⟨inner, text, spelled⟩ :=
      spells_indentItems depth rest (spells_writeIndented (depth + 1) item)
    rw [written, writtenItems, writeIndented, List.cons_append, List.cons_append, text]
    exact .array spelled
  | _, .object [] => .emptyObject isSpaces_nil
  | depth, .object ((name, value) :: rest) => by
    obtain ⟨inner, text, spelled⟩ :=
      spells_indentMembers depth rest name (spells_writeIndented (depth + 1) value)
    rw [written, writtenMembers, writeIndented]
    simp only [List.cons_append, text]
    exact .object spelled

theorem spells_indentItems : ∀ (depth : Nat) (rest : List Json) {form : WrittenJson}
    {text : List Char}, Spells (.value form) text → ∃ inner,
      newline (depth + 1) ++ text ++ indentItems depth rest = inner ++ [']'] ∧
        Spells (.items (form :: writtenItems rest)) inner
  | depth, [], form, text, spelled =>
    ⟨newline (depth + 1) ++ (text ++ newline depth), by simp [indentItems],
      .item (isSpaces_newline _) spelled (isSpaces_newline _)⟩
  | depth, item :: rest, form, text, spelled => by
    obtain ⟨inner, more, spelledRest⟩ :=
      spells_indentItems depth rest (spells_writeIndented (depth + 1) item)
    refine ⟨newline (depth + 1) ++ (text ++ ([] ++ ',' :: inner)), ?_,
      .items (isSpaces_newline _) spelled isSpaces_nil spelledRest⟩
    simp only [indentItems, List.cons_append, List.append_assoc, List.nil_append] at more ⊢
    rw [more]

theorem spells_indentMembers : ∀ (depth : Nat) (rest : List (String × Json)) (name : String)
    {form : WrittenJson} {text : List Char}, Spells (.value form) text → ∃ inner,
      newline (depth + 1) ++ writeString name ++ [':', ' '] ++ text ++ indentMembers depth rest =
          inner ++ ['}'] ∧
        Spells (.members ((StringPiece.ofText name, form) :: writtenMembers rest)) inner
  | depth, [], name, form, text, spelled => by
    refine ⟨newline (depth + 1) ++ '"' :: (name.toList.flatMap escapeChar ++ '"' ::
        ([] ++ ':' :: ([' '] ++ (text ++ newline depth)))), ?_,
      .member (isSpaces_newline _) (StringPiece.spells_flatMap name.toList) isSpaces_nil
        isSpaces_blank spelled (isSpaces_newline _)⟩
    simp [indentMembers, writeString]
  | depth, (next, value) :: rest, name, form, text, spelled => by
    obtain ⟨inner, more, spelledRest⟩ :=
      spells_indentMembers depth rest next (spells_writeIndented (depth + 1) value)
    refine ⟨newline (depth + 1) ++ '"' :: (name.toList.flatMap escapeChar ++ '"' ::
        ([] ++ ':' :: ([' '] ++ (text ++ ([] ++ ',' :: inner))))), ?_,
      .members (isSpaces_newline _) (StringPiece.spells_flatMap name.toList) isSpaces_nil
        isSpaces_blank spelled isSpaces_nil spelledRest⟩
    simp only [indentMembers, List.cons_append, List.append_assoc, List.nil_append] at more ⊢
    rw [more]
    simp [writeString]

end

theorem spellsJson_pretty (value : Json) : SpellsJson value.written value.pretty.toList := by
  refine ⟨[], _, [], isSpaces_nil, spells_writeIndented 0 value, isSpaces_nil, ?_⟩
  simp [pretty]

theorem read_pretty (value : Json) : WrittenJson.read value.pretty = some value.written :=
  WrittenJson.read_of_spellsJson value.spellsJson_pretty

end Json

end RequestParams
