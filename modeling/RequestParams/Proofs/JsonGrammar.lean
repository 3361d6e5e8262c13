import Mathlib.Tactic.Common
import RequestParams.Json.Reader
import RequestParams.Proofs.TextPieces

set_option autoImplicit false
set_option relaxedAutoImplicit false

/-!
The grammar of JSON texts, and that the reader accepts all that the grammar allows.  The grammar
has no order of trials, no fuel and no longest match: it relates forms to their texts.  What is
read is therefore shown with any text behind it at which a value can end.
-/

namespace RequestParams

open WrittenJson

def IsSpaces (text : List Char) : Prop := ∀ c ∈ text, isSpace c = true

structure IsDigits (text : List Char) : Prop where
  digits : ∀ c ∈ text, c.isDigit = true
  some : text ≠ []

/-- Whole digits without a superfluous zero in front. -/
inductive SpellsWhole : List Char → Prop
  | zero : SpellsWhole ['0']
  | digits {first : Char} {rest : List Char} (leading : first ≠ '0')
      (digits : ∀ c ∈ first :: rest, c.isDigit = true) : SpellsWhole (first :: rest)

inductive SpellsFraction : List Char → List Char → Prop
  | absent : SpellsFraction [] []
  | present {digits : List Char} (row : IsDigits digits) : SpellsFraction digits ('.' :: digits)

inductive SpellsExponent : Option Int → List Char → Prop
  | absent : SpellsExponent none []
  | unsigned {mark : Char} {digits : List Char} (letter : mark = 'e' ∨ mark = 'E')
      (row : IsDigits digits) :
      SpellsExponent (some (Nat.ofDigitChars 10 digits 0 : Nat)) (mark :: digits)
  | plus {mark : Char} {digits : List Char} (letter : mark = 'e' ∨ mark = 'E')
      (row : IsDigits digits) :
      SpellsExponent (some (Nat.ofDigitChars 10 digits 0 : Nat)) (mark :: '+' :: digits)
  | minus {mark : Char} {digits : List Char} (letter : mark = 'e' ∨ mark = 'E')
      (row : IsDigits digits) :
      SpellsExponent (some (-(Nat.ofDigitChars 10 digits 0 : Nat))) (mark :: '-' :: digits)

inductive SpellsMagnitude : WrittenNumber → List Char → Prop
  | mk {negative : Bool} {whole fraction point power : List Char} {exponent : Option Int}
      (front : SpellsWhole whole) (middle : SpellsFraction fraction point)
      (back : SpellsExponent exponent power) :
      SpellsMagnitude ⟨negative, whole, fraction, exponent⟩ (whole ++ (point ++ power))

inductive SpellsNumber : WrittenNumber → List Char → Prop
  | positive {written : WrittenNumber} {text : List Char} (sign : written.negative = false)
      (magnitude : SpellsMagnitude written text) : SpellsNumber written text
  | negative {written : WrittenNumber} {text : List Char} (sign : written.negative = true)
      (magnitude : SpellsMagnitude written text) : SpellsNumber written ('-' :: text)

inductive SpellsPieces : List StringPiece → List Char → Prop
  | nil : SpellsPieces [] []
  | plain {c : Char} {pieces : List StringPiece} {text : List Char} (visible : 0x20 ≤ c.toNat)
      (quote : c ≠ '"') (backslash : c ≠ '\\') (rest : SpellsPieces pieces text) :
      SpellsPieces (.char c :: pieces) (c :: text)
  | escape {mark c : Char} {pieces : List StringPiece} {text : List Char}
      (named : escaped mark = some c) (rest : SpellsPieces pieces text) :
      SpellsPieces (.char c :: pieces) ('\\' :: mark :: text)
  | unit {first second third fourth : Char} {unit : Nat} {pieces : List StringPiece}
      {text : List Char} (hex : hexUnit first second third fourth = some unit)
      (rest : SpellsPieces pieces text) :
      SpellsPieces (.unit unit :: pieces)
        ('\\' :: 'u' :: first :: second :: third :: fourth :: text)

/-- What a part of a JSON text stands for. -/
inductive JsonPart where
  | value (form : WrittenJson)
  /-- What stands between the brackets of a list that is not empty. -/
  | items (forms : List WrittenJson)
  /-- What stands between the braces of an object that is not empty. -/
  | members (forms : List (List StringPiece × WrittenJson))

/-- The grammar of JSON: a part of a text and the characters that spell it. -/
inductive Spells : JsonPart → List Char → Prop
  | null : Spells (.value .null) ['n', 'u', 'l', 'l']
  | true : Spells (.value (.bool true)) ['t', 'r', 'u', 'e']
  | false : Spells (.value (.bool false)) ['f', 'a', 'l', 's', 'e']
  | number {written : WrittenNumber} {text : List Char} (spelled : SpellsNumber written text) :
      Spells (.value (.number written)) text
  | string {pieces : List StringPiece} {text : List Char} (spelled : SpellsPieces pieces text) :
      Spells (.value (.string pieces)) ('"' :: (text ++ ['"']))
  | emptyArray {spaces : List Char} (blank : IsSpaces spaces) :
      Spells (.value (.array [])) ('[' :: (spaces ++ [']']))
  | array {forms : List WrittenJson} {text : List Char} (spelled : Spells (.items forms) text) :
      Spells (.value (.array forms)) ('[' :: (text ++ [']']))
  | emptyObject {spaces : List Char} (blank : IsSpaces spaces) :
      Spells (.value (.object [])) ('{' :: (spaces ++ ['}']))
  | object {forms : List (List StringPiece × WrittenJson)} {text : List Char}
      (spelled : Spells (.members forms) text) :
      Spells (.value (.object forms)) ('{' :: (text ++ ['}']))
  | item {form : WrittenJson} {before text behind : List Char} (front : IsSpaces before)
      (spelled : Spells (.value form) text) (back : IsSpaces behind) :
      Spells (.items [form]) (before ++ (text ++ behind))
  | items {form : WrittenJson} {forms : List WrittenJson} {before text behind more : List Char}
      (front : IsSpaces before) (spelled : Spells (.value form) text) (back : IsSpaces behind)
      (rest : Spells (.items forms) more) :
      Spells (.items (form :: forms)) (before ++ (text ++ (behind ++ ',' :: more)))
  | member {pieces : List StringPiece} {form : WrittenJson}
      {before name middle between text behind : List Char} (front : IsSpaces before)
      (named : SpellsPieces pieces name) (blank : IsSpaces middle) (inner : IsSpaces between)
      (spelled : Spells (.value form) text) (back : IsSpaces behind) :
      Spells (.members [(pieces, form)])
        (before ++ '"' :: (name ++ '"' :: (middle ++ ':' :: (between ++ (text ++ behind)))))
  | members {pieces : List StringPiece} {form : WrittenJson}
      {forms : List (List StringPiece × WrittenJson)}
      {before name middle between text behind more : List Char} (front : IsSpaces before)
      (named : SpellsPieces pieces name) (blank : IsSpaces middle) (inner : IsSpaces between)
      (spelled : Spells (.value form) text) (back : IsSpaces behind)
      (rest : Spells (.members forms) more) :
      Spells (.members ((pieces, form) :: forms))
        (before ++ '"' :: (name ++ '"' ::
          (middle ++ ':' :: (between ++ (text ++ (behind ++ ',' :: more))))))

def SpellsJson (form : WrittenJson) (text : List Char) : Prop :=
  ∃ before inner behind, IsSpaces before ∧ Spells (.value form) inner ∧ IsSpaces behind ∧
    text = before ++ (inner ++ behind)

theorem SpellsWhole.row {whole : List Char} (spelled : SpellsWhole whole) : IsDigits whole := by
  cases spelled with
  | zero => exact ⟨by simp, by simp⟩
  | digits leading digits => exact ⟨digits, by simp⟩

namespace WrittenJson

def Ends (rest : List Char) : Prop :=
  ∀ c ∈ rest.head?, c.isDigit = false ∧ c ≠ '.' ∧ c ≠ 'e' ∧ c ≠ 'E'

private theorem readSign_of_row {digits rest : List Char} (row : IsDigits digits) :
    Decimal.readSign (digits ++ rest) = (false, digits ++ rest) := by
  obtain ⟨digits, some⟩ := row
  unfold Decimal.readSign
  split
  · next rest' same =>
    obtain ⟨more, rfl, -⟩ := (List.append_eq_cons_iff.mp same).resolve_left fun none => some none.1
    exact absurd (digits '+' List.mem_cons_self) (by decide)
  · next rest' same =>
    obtain ⟨more, rfl, -⟩ := (List.append_eq_cons_iff.mp same).resolve_left fun none => some none.1
    exact absurd (digits '-' List.mem_cons_self) (by decide)
  · rfl

theorem readFraction_of_spells {fraction point rest : List Char}
    (spelled : SpellsFraction fraction point)
    (ends : ∀ c ∈ rest.head?, c.isDigit = false ∧ c ≠ '.') :
    readFraction (point ++ rest) = some (fraction, rest) := by
  have stop : ∀ c ∈ rest.head?, c.isDigit = false := fun c first => (ends c first).1
  cases spelled with
  | absent =>
    rw [List.nil_append]
    unfold readFraction
    split
    · exact absurd rfl (ends '.' rfl).2
    · rfl
  | present row =>
    simp [readFraction, Text.takeWhile_run row.digits stop, Text.dropWhile_run row.digits stop,
      row.some]

theorem readExponent_of_spells {exponent : Option Int} {power rest : List Char}
    (spelled : SpellsExponent exponent power) (ends : Ends rest) :
    readExponent (power ++ rest) = some (exponent, rest) := by
  have stop : ∀ c ∈ rest.head?, c.isDigit = false := fun c first => (ends c first).1
  cases spelled with
  | absent =>
    cases rest with
    | nil => rfl
    | cons mark rest =>
      obtain ⟨-, -, small, large⟩ := ends mark rfl
      simp [readExponent, small, large]
  | unsigned letter row =>
    simp [readExponent, letter, readSign_of_row row, Text.takeWhile_run row.digits stop,
      Text.dropWhile_run row.digits stop, row.some]
  | plus letter row =>
    simp [readExponent, letter, Decimal.readSign, Text.takeWhile_run row.digits stop,
      Text.dropWhile_run row.digits stop, row.some]
  | minus letter row =>
    simp [readExponent, letter, Decimal.readSign, Text.takeWhile_run row.digits stop,
      Text.dropWhile_run row.digits stop, row.some]

private theorem ends_behind_point {exponent : Option Int} {power rest : List Char}
    (spelled : SpellsExponent exponent power) (ends : Ends rest) :
    ∀ c ∈ (power ++ rest).head?, c.isDigit = false ∧ c ≠ '.' := by
  intro c first
  cases spelled with
  | absent => exact ⟨(ends c first).1, (ends c first).2.1⟩
  | unsigned letter row =>
    obtain rfl := Option.some.inj first
    rcases letter with rfl | rfl <;> decide
  | plus letter row =>
    obtain rfl := Option.some.inj first
    rcases letter with rfl | rfl <;> decide
  | minus letter row =>
    obtain rfl := Option.some.inj first
    rcases letter with rfl | rfl <;> decide

private theorem ends_behind_whole {fraction point rest : List Char}
    (spelled : SpellsFraction fraction point)
    (ends : ∀ c ∈ rest.head?, c.isDigit = false ∧ c ≠ '.') :
    ∀ c ∈ (point ++ rest).head?, c.isDigit = false := by
  intro c first
  cases spelled with
  | absent => exact (ends c first).1
  | present row =>
    obtain rfl := Option.some.inj first
    decide

theorem readNumber_of_spells {written : WrittenNumber} {text rest : List Char}
    (spelled : SpellsMagnitude written text) (ends : Ends rest) :
    readNumber written.negative (text ++ rest) = some (written, rest) := by
  obtain @⟨negative, whole, fraction, point, power, exponent, front, middle, back⟩ := spelled
  have behindPoint := ends_behind_point back ends
  have behindWhole := ends_behind_whole middle behindPoint
  have row := front.row
  have leading : ¬(whole.isEmpty = true ∨ (whole.head? = some '0' ∧ whole.length ≠ 1)) := by
    cases front with
    | zero => simp
    | digits leading digits => simp [leading]
  simp only [readNumber, List.append_assoc, Text.takeWhile_run row.digits behindWhole,
    Text.dropWhile_run row.digits behindWhole]
  rw [if_neg leading, readFraction_of_spells middle behindPoint]
  simp [readExponent_of_spells back ends]

theorem readString_of_spells {pieces : List StringPiece} {text : List Char}
    (spelled : SpellsPieces pieces text) (rest : List Char) :
    readString (text ++ '"' :: rest) = some (pieces, rest) := by
  induction spelled with
  | nil => rfl
  | plain visible quote backslash _ ih =>
    rw [List.cons_append, readString]
    · simp [ih, backslash, Nat.not_lt_of_le visible]
    all_goals simp_all
  | escape named _ ih =>
    rw [List.cons_append, List.cons_append, readString]
    · simp [named, ih]
    · rintro a b c d more rfl
      simp [escaped] at named
  | unit hex _ ih =>
    simp [readString, hex, ih]

theorem skipSpace_append {spaces : List Char} (blank : IsSpaces spaces) (text : List Char) :
    skipSpace (spaces ++ text) = skipSpace text := List.dropWhile_append_of_pos blank

theorem skipSpace_cons {c : Char} (visible : isSpace c = false) (rest : List Char) :
    skipSpace (c :: rest) = c :: rest := List.dropWhile_cons_of_neg (by simp [visible])

theorem readValue_spaces {spaces : List Char} (blank : IsSpaces spaces) (fuel : Nat)
    (text : List Char) : readValue fuel (spaces ++ text) = readValue fuel text := by
  cases fuel with
  | zero => rfl
  | succ fuel => rw [readValue, readValue, skipSpace_append blank]

theorem readMembers_spaces {spaces : List Char} (blank : IsSpaces spaces) (fuel : Nat)
    (text : List Char) : readMembers fuel (spaces ++ text) = readMembers fuel text := by
  cases fuel with
  | zero => rfl
  | succ fuel => rw [readMembers, readMembers, skipSpace_append blank]

private theorem isSpace_of_isDigit {c : Char} (digit : c.isDigit = true) : isSpace c = false := by
  unfold isSpace
  simp only [Bool.or_eq_false_iff, decide_eq_false_iff_not]
  refine ⟨⟨⟨?_, ?_⟩, ?_⟩, ?_⟩ <;> rintro rfl <;> simp at digit

private theorem readValue_digit {c : Char} (digit : c.isDigit = true) (fuel : Nat)
    (rest : List Char) : readValue (fuel + 1) (c :: rest) =
      (readNumber false (c :: rest)).map fun (written, rest) => (.number written, rest) := by
  rw [readValue, skipSpace_cons (isSpace_of_isDigit digit)]
  split
  all_goals first
    | rfl
    | next same =>
      obtain ⟨rfl, -⟩ := List.cons.inj same
      simp at digit

/-- How a value begins: no white space and no closing bracket stands in front. -/
private def Begins (text : List Char) : Prop :=
  ∃ c rest, text = c :: rest ∧ isSpace c = false ∧ c ≠ ']'

private theorem begins_of_isDigit {c : Char} (digit : c.isDigit = true) (rest : List Char) :
    Begins (c :: rest) := by
  refine ⟨c, rest, rfl, isSpace_of_isDigit digit, ?_⟩
  rintro rfl
  exact absurd digit (by decide)

private theorem digit_of_magnitude {written : WrittenNumber} {text : List Char}
    (spelled : SpellsMagnitude written text) : ∃ c rest, text = c :: rest ∧ c.isDigit = true := by
  obtain ⟨front, -, -⟩ := spelled
  cases front with
  | zero => exact ⟨'0', _, rfl, by decide⟩
  | digits _ digits => exact ⟨_, _, rfl, digits _ List.mem_cons_self⟩

private theorem begins_of_spells {form : WrittenJson} {text : List Char}
    (spelled : Spells (.value form) text) : Begins text := by
  cases spelled with
  | number spelled =>
    cases spelled with
    | positive _ magnitude =>
      obtain ⟨c, rest, rfl, digit⟩ := digit_of_magnitude magnitude
      exact begins_of_isDigit digit rest
    | negative => exact ⟨_, _, rfl, by decide, by decide⟩
  | _ => exact ⟨_, _, rfl, by decide, by decide⟩

private theorem length_pos_of_spells {form : WrittenJson} {text : List Char}
    (spelled : Spells (.value form) text) : 0 < text.length := by
  obtain ⟨c, rest, rfl, -⟩ := begins_of_spells spelled
  simp

private theorem ends_of_isSpace {c : Char} (blank : isSpace c = true) :
    c.isDigit = false ∧ c ≠ '.' ∧ c ≠ 'e' ∧ c ≠ 'E' := by
  simp only [isSpace, Bool.or_eq_true, decide_eq_true_eq] at blank
  rcases blank with ((rfl | rfl) | rfl) | rfl <;> decide

private theorem ends_behind_spaces {spaces : List Char} (blank : IsSpaces spaces) {c : Char}
    (rest : List Char) (ends : c = ']' ∨ c = '}' ∨ c = ',') : Ends (spaces ++ c :: rest) := by
  intro first same
  cases spaces with
  | nil =>
    obtain rfl := Option.some.inj same
    rcases ends with rfl | rfl | rfl <;> decide
  | cons space spaces =>
    obtain rfl := Option.some.inj same
    exact ends_of_isSpace (blank space List.mem_cons_self)

/-- What the reader has to make of a part of a text, whatever stands behind it. -/
def ReadsAs : JsonPart → List Char → Prop
  | .value form, text => ∀ fuel rest, text.length ≤ fuel → Ends rest →
      readValue fuel (text ++ rest) = some (form, rest)
  | .items forms, text => ∀ fuel rest, text.length < fuel →
      readItems fuel (text ++ ']' :: rest) = some (forms, rest)
  | .members forms, text => ∀ fuel rest, text.length < fuel →
      readMembers fuel (text ++ '}' :: rest) = some (forms, rest)

private theorem read_number {written : WrittenNumber} {text : List Char}
    (spelled : SpellsNumber written text) : ReadsAs (.value (.number written)) text := by
  intro fuel rest enough ends
  have some := length_pos_of_spells (.number spelled)
  obtain ⟨fuel, rfl⟩ := Nat.exists_eq_succ_of_ne_zero (show fuel ≠ 0 by omega)
  cases spelled with
  | positive sign magnitude =>
    have read := readNumber_of_spells magnitude ends
    obtain ⟨c, more, rfl, digit⟩ := digit_of_magnitude magnitude
    rw [sign] at read
    rw [List.cons_append] at read ⊢
    rw [readValue_digit digit, read]
    rfl
  | negative sign magnitude =>
    have read := readNumber_of_spells magnitude ends
    rw [sign] at read
    rw [List.cons_append, readValue, skipSpace_cons (by decide)]
    simp [read]

private theorem skipSpace_items {forms : List WrittenJson} {text : List Char}
    (spelled : Spells (.items forms) text) (behind : List Char) :
    ∃ c rest, skipSpace (text ++ behind) = c :: rest ∧ c ≠ ']' := by
  cases spelled with
  | item front spelled back =>
    obtain ⟨c, rest, rfl, visible, open'⟩ := begins_of_spells spelled
    rw [List.append_assoc, skipSpace_append front]
    exact ⟨c, _, skipSpace_cons visible _, open'⟩
  | items front spelled back rest =>
    obtain ⟨c, rest, rfl, visible, open'⟩ := begins_of_spells spelled
    rw [List.append_assoc, skipSpace_append front]
    exact ⟨c, _, skipSpace_cons visible _, open'⟩

private theorem skipSpace_members {forms : List (List StringPiece × WrittenJson)}
    {text : List Char} (spelled : Spells (.members forms) text) (behind : List Char) :
    ∃ rest, skipSpace (text ++ behind) = '"' :: rest := by
  cases spelled with
  | member front =>
    rw [List.append_assoc, skipSpace_append front]
    exact ⟨_, skipSpace_cons (by decide) _⟩
  | members front =>
    rw [List.append_assoc, skipSpace_append front]
    exact ⟨_, skipSpace_cons (by decide) _⟩

private theorem read_array {forms : List WrittenJson} {text : List Char}
    (spelled : Spells (.items forms) text) (ih : ReadsAs (.items forms) text) :
    ReadsAs (.value (.array forms)) ('[' :: (text ++ [']'])) := by
  intro fuel rest enough _
  simp only [List.length_cons, List.length_append, List.length_nil] at enough
  obtain ⟨fuel, rfl⟩ := Nat.exists_eq_add_of_le' (show 1 ≤ fuel by omega)
  have read := ih fuel rest (by omega)
  obtain ⟨c, more, skipped, inside⟩ := skipSpace_items spelled (']' :: rest)
  rw [List.cons_append, List.append_assoc, readValue, skipSpace_cons (by decide)]
  simp [skipped, inside, read]

private theorem read_object {forms : List (List StringPiece × WrittenJson)} {text : List Char}
    (spelled : Spells (.members forms) text) (ih : ReadsAs (.members forms) text) :
    ReadsAs (.value (.object forms)) ('{' :: (text ++ ['}'])) := by
  intro fuel rest enough _
  simp only [List.length_cons, List.length_append, List.length_nil] at enough
  obtain ⟨fuel, rfl⟩ := Nat.exists_eq_add_of_le' (show 1 ≤ fuel by omega)
  have read := ih fuel rest (by omega)
  obtain ⟨more, skipped⟩ := skipSpace_members spelled ('}' :: rest)
  rw [List.cons_append, List.append_assoc, readValue, skipSpace_cons (by decide)]
  simp [skipped, read]

private theorem readMembers_succ {before name middle between rest : List Char}
    {pieces : List StringPiece} (front : IsSpaces before) (named : SpellsPieces pieces name)
    (blank : IsSpaces middle) (inner : IsSpaces between) {fuel : Nat} {form : WrittenJson}
    {text behind : List Char} (back : IsSpaces behind)
    (read : readValue fuel (text ++ (behind ++ rest)) = some (form, behind ++ rest)) :
    readMembers (fuel + 1) (before ++ '"' :: (name ++ '"' ::
      (middle ++ ':' :: (between ++ (text ++ (behind ++ rest)))))) =
        match skipSpace rest with
        | '}' :: rest => some ([(pieces, form)], rest)
        | ',' :: rest => do
          let (members, rest) ← readMembers fuel rest
          pure ((pieces, form) :: members, rest)
        | _ => none := by
  rw [readMembers_spaces front, readMembers, skipSpace_cons (by decide)]
  simp only [readString_of_spells named, Option.bind_eq_bind, Option.bind_some,
    skipSpace_append blank]
  rw [skipSpace_cons (by decide)]
  simp only [readValue_spaces inner, read, Option.bind_some, skipSpace_append back]
  rfl

theorem read_of_spells {part : JsonPart} {text : List Char} (spelled : Spells part text) :
    ReadsAs part text := by
  induction spelled with
  | null | true | false =>
    intro fuel rest enough _
    simp only [List.length_cons] at enough
    obtain ⟨fuel, rfl⟩ := Nat.exists_eq_add_of_le' (show 1 ≤ fuel by omega)
    rfl
  | number spelled => exact read_number spelled
  | string spelled =>
    intro fuel rest enough _
    simp only [List.length_cons, List.length_append] at enough
    obtain ⟨fuel, rfl⟩ := Nat.exists_eq_add_of_le' (show 1 ≤ fuel by omega)
    rw [List.cons_append, List.append_assoc, readValue, skipSpace_cons (by decide)]
    simp [readString_of_spells spelled rest]
  | emptyArray blank | emptyObject blank =>
    intro fuel rest enough _
    simp only [List.length_cons, List.length_append] at enough
    obtain ⟨fuel, rfl⟩ := Nat.exists_eq_add_of_le' (show 1 ≤ fuel by omega)
    rw [List.cons_append, List.append_assoc, readValue, skipSpace_cons (by decide)]
    simp only [skipSpace_append blank]
    rfl
  | array spelled ih => exact read_array spelled ih
  | object spelled ih => exact read_object spelled ih
  | @item form before text behind front spelled back ih =>
    intro fuel rest enough
    simp only [List.length_append] at enough
    obtain ⟨fuel, rfl⟩ := Nat.exists_eq_add_of_le' (show 1 ≤ fuel by omega)
    have read := ih fuel (behind ++ ']' :: rest) (by omega)
      (ends_behind_spaces back rest (.inl rfl))
    simp only [List.append_assoc]
    rw [readItems, readValue_spaces front, read]
    simp only [Option.bind_eq_bind, Option.bind_some, skipSpace_append back]
    rw [skipSpace_cons (by decide)]
    rfl
  | @items form forms before text behind more front spelled back rest ih ihRest =>
    intro fuel tail enough
    simp only [List.length_append, List.length_cons] at enough
    obtain ⟨fuel, rfl⟩ := Nat.exists_eq_add_of_le' (show 1 ≤ fuel by omega)
    have read := ih fuel (behind ++ ',' :: (more ++ ']' :: tail)) (by omega)
      (ends_behind_spaces back _ (.inr (.inr rfl)))
    have readMore := ihRest fuel tail (by omega)
    simp only [List.append_assoc, List.cons_append]
    rw [readItems, readValue_spaces front, read]
    simp only [Option.bind_eq_bind, Option.bind_some, skipSpace_append back]
    rw [skipSpace_cons (by decide)]
    simp [readMore]
  | @member pieces form before name middle between text behind front named blank inner spelled back
      ih =>
    intro fuel rest enough
    simp only [List.length_append, List.length_cons] at enough
    obtain ⟨fuel, rfl⟩ := Nat.exists_eq_add_of_le' (show 1 ≤ fuel by omega)
    have read := ih fuel (behind ++ '}' :: rest) (by omega)
      (ends_behind_spaces back rest (.inr (.inl rfl)))
    simp only [List.append_assoc, List.cons_append]
    rw [readMembers_succ front named blank inner back read, skipSpace_cons (by decide)]
    rfl
  | @members pieces form forms before name middle between text behind more front named blank inner
      spelled back rest ih ihRest =>
    intro fuel tail enough
    simp only [List.length_append, List.length_cons] at enough
    obtain ⟨fuel, rfl⟩ := Nat.exists_eq_add_of_le' (show 1 ≤ fuel by omega)
    have read := ih fuel (behind ++ ',' :: (more ++ '}' :: tail)) (by omega)
      (ends_behind_spaces back _ (.inr (.inr rfl)))
    have readMore := ihRest fuel tail (by omega)
    simp only [List.append_assoc, List.cons_append]
    rw [readMembers_succ front named blank inner back read, skipSpace_cons (by decide)]
    simp [readMore]

/-- The reader accepts every JSON text, with the form that the grammar gives it. -/
theorem read_of_spellsJson {form : WrittenJson} {text : String}
    (spelled : SpellsJson form text.toList) : WrittenJson.read text = some form := by
  obtain ⟨before, inner, behind, front, spelled, back, whole⟩ := spelled
  have enough : inner.length ≤ text.toList.length + 1 := by
    rw [whole]
    simp only [List.length_append]
    omega
  have ends : Ends behind := fun c first => ends_of_isSpace (back c (List.mem_of_mem_head? first))
  have value := read_of_spells spelled _ behind enough ends
  have blank : skipSpace behind = [] := by simpa [skipSpace] using skipSpace_append back []
  unfold WrittenJson.read
  rw [whole] at value ⊢
  rw [readValue_spaces front, value]
  simp [blank]

end WrittenJson

end RequestParams
