import RequestParams.Proofs.CorrectRounding
import RequestParams.Proofs.IntegerTexts
import RequestParams.Proofs.TextPieces

set_option autoImplicit false
set_option relaxedAutoImplicit false

/-!
The grammar of floating-point literals, with the values that they stand for.  The reader takes
exactly the texts of the grammar, each for its exact value, and the names of what is not a finite
number.
-/

namespace RequestParams

inductive SpellsPower : List Char → Int → Prop
  | absent : SpellsPower [] 0
  | present {mark : Char} {text : List Char} {shift : Int} (letter : mark = 'e' ∨ mark = 'E')
      (spelled : SpellsInteger text shift) : SpellsPower (mark :: text) shift

/-- How a number is written without a sign: digits, at least one, with or without a point before,
between or behind them, and a power of ten. -/
inductive SpellsUnsigned : List Char → ℚ → Prop
  | whole {row power : List Char} {digits : Nat} {shift : Int} (spelled : SpellsNatural row digits)
      (scaled : SpellsPower power shift) : SpellsUnsigned (row ++ power) (digits * 10 ^ shift)
  | point {before behind power : List Char} {digits : Nat} {shift : Int}
      (spelled : SpellsNatural (before ++ behind) digits) (scaled : SpellsPower power shift) :
      SpellsUnsigned (before ++ '.' :: (behind ++ power))
        (digits / 10 ^ behind.length * 10 ^ shift)

inductive Signs : List Char → Bool → List Char → Prop
  | bare {text : List Char} : Signs text false text
  | plus {text : List Char} : Signs ('+' :: text) false text
  | minus {text : List Char} : Signs ('-' :: text) true text

inductive SpellsFloat (text : List Char) (negative : Bool) : ℚ → Prop
  | mk {unsigned : List Char} {size : ℚ} (sign : Signs text negative unsigned)
      (spelled : SpellsUnsigned unsigned size) : SpellsFloat text negative (signum negative * size)

/-- Whether a text is a word of small letters, each in either case. -/
def InAnyCase (word text : List Char) : Prop :=
  List.Forall₂ (fun letter c => c = letter ∨ c = letter.toUpper) word text

def nonFiniteNames : List String := ["inf", "infinity", "nan"]

/-- Whether a text names what is not a finite number, with or without a sign. -/
inductive NamesNonFinite (text : List Char) : Prop
  | mk {negative : Bool} {word : String} {unsigned : List Char} (sign : Signs text negative unsigned)
      (name : word ∈ nonFiniteNames) (spelled : InAnyCase word.toList unsigned) :
      NamesNonFinite text

section Letters

theorem toLower_eq_iff {c letter : Char} (small : 'a' ≤ letter ∧ letter ≤ 'z') :
    c.toLower = letter ↔ c = letter ∨ c = letter.toUpper := by
  have bounds : 97 ≤ letter.val.toNat ∧ letter.val.toNat ≤ 122 := by
    simpa [Char.le_def, UInt32.le_iff_toNat_le] using small
  have upper : letter.toUpper.val.toNat = letter.val.toNat - 32 := by
    unfold Char.toUpper
    rw [dif_pos (by simpa [UInt32.le_iff_toNat_le] using bounds), UInt32.toNat_add]
    show (letter.val.toNat + 4294967264) % 2 ^ 32 = _
    omega
  have lower : c.toLower.val.toNat =
      if 65 ≤ c.val.toNat ∧ c.val.toNat ≤ 90 then c.val.toNat + 32 else c.val.toNat := by
    unfold Char.toLower
    have capital : c.val ≥ 'A'.val ∧ c.val ≤ 'Z'.val ↔
        65 ≤ c.val.toNat ∧ c.val.toNat ≤ 90 := by
      simp [UInt32.le_iff_toNat_le]
    split_ifs with first second second
    · rw [UInt32.toNat_add]
      show (c.val.toNat + 32) % 2 ^ 32 = _
      omega
    · exact absurd (capital.mp first) second
    · exact absurd (capital.mpr second) first
    · rfl
  simp only [Char.ext_iff, ← UInt32.toNat_inj, upper, lower]
  split_ifs <;> omega

theorem map_toLower_eq_iff {word text : List Char} (small : ∀ c ∈ word, 'a' ≤ c ∧ c ≤ 'z') :
    text.map Char.toLower = word ↔ InAnyCase word text := by
  unfold InAnyCase
  induction word generalizing text with
  | nil => cases text <;> simp
  | cons letter rest ih =>
    obtain ⟨first, others⟩ := List.forall_mem_cons.mp small
    cases text with
    | nil => simp
    | cons c text =>
      rw [List.map_cons, List.cons.injEq, List.forall₂_cons, toLower_eq_iff first, ih others]

end Letters

section Sign

variable {text unsigned : List Char} {negative : Bool}

theorem signs_readSign (text : List Char) :
    Signs text (Decimal.readSign text).1 (Decimal.readSign text).2 := by
  unfold Decimal.readSign
  split
  · exact .plus
  · exact .minus
  · exact .bare

theorem Signs.readSign_eq (sign : Signs text negative unsigned)
    (plain : ∀ c ∈ unsigned.head?, c ≠ '+' ∧ c ≠ '-') :
    Decimal.readSign text = (negative, unsigned) := by
  cases sign with
  | plus => rfl
  | minus => rfl
  | bare =>
    unfold Decimal.readSign
    split
    · exact absurd rfl (plain _ rfl).1
    · exact absurd rfl (plain _ rfl).2
    · rfl

end Sign

namespace FloatLiteral

variable {row before behind power text : List Char} {digits : Nat} {shift : Int} {negative : Bool}

theorem readExponent_eq_some_iff : readExponent text = some shift ↔ SpellsPower text shift := by
  cases text with
  | nil =>
    constructor
    · intro read
      obtain rfl := Option.some.inj read
      exact .absent
    · rintro ⟨⟩
      rfl
  | cons mark rest =>
    have spells : SpellsPower (mark :: rest) shift ↔
        (mark = 'e' ∨ mark = 'E') ∧ SpellsInteger rest shift := by
      constructor
      · rintro ⟨⟩
        exact ⟨‹_›, ‹_›⟩
      · rintro ⟨letter, spelled⟩
        exact .present letter spelled
    rw [spells, spellsInteger_iff]
    simp only [readExponent, spellsNatural_iff, Bool.or_eq_true, decide_eq_true_eq]
    by_cases letter : mark = 'e' ∨ mark = 'E'
    · by_cases row : (Decimal.readSign rest).2 ≠ [] ∧
          (Decimal.readSign rest).2.all Char.isDigit = true
      · simp only [letter, row, if_true, true_and, exists_eq_left', Option.some.injEq, ne_eq,
          not_false_eq_true]
        exact eq_comm
      · simp only [letter, row, if_true, if_false, false_and, exists_false, and_false,
          reduceCtorEq]
    · simp only [letter, if_false, false_and, reduceCtorEq]

theorem stop_of_spellsPower (scaled : SpellsPower power shift) :
    ∀ c ∈ power.head?, c.isDigit = false ∧ c ≠ '.' := by
  cases scaled with
  | absent => simp
  | present letter _ => rcases letter with rfl | rfl <;> simp [Char.isDigit]

private theorem isDigit_of_spells (spelled : SpellsNatural row digits) :
    ∀ c ∈ row, c.isDigit = true := fun c mem => isDigit_iff_between.mpr (spelled.digits c mem)

private theorem readFraction_of_pointless (pointless : ∀ c ∈ text.head?, c ≠ '.') :
    readFraction text = ([], text) := by
  unfold readFraction
  split
  · exact absurd rfl (pointless '.' rfl)
  · rfl

theorem readNumber_whole (spelled : SpellsNatural row digits) (scaled : SpellsPower power shift) :
    readNumber negative (row ++ power) = some ⟨negative, digits, shift⟩ := by
  have stop : ∀ c ∈ power.head?, c.isDigit = false := fun c mem =>
    (stop_of_spellsPower scaled c mem).1
  have pointless : readFraction power = ([], power) :=
    readFraction_of_pointless fun c mem => (stop_of_spellsPower scaled c mem).2
  unfold readNumber
  rw [Text.takeWhile_run (isDigit_of_spells spelled) stop,
    Text.dropWhile_run (isDigit_of_spells spelled) stop, pointless]
  simp [spelled.present, readExponent_eq_some_iff.mpr scaled, ofDigitChars_eq_placeValue,
    spelled.worth]

theorem readNumber_point (spelled : SpellsNatural (before ++ behind) digits)
    (scaled : SpellsPower power shift) :
    readNumber negative (before ++ '.' :: (behind ++ power)) =
      some ⟨negative, digits, shift - behind.length⟩ := by
  have row := isDigit_of_spells spelled
  have whole : ∀ c ∈ before, c.isDigit = true := fun c mem => row c (List.mem_append_left _ mem)
  have fraction : ∀ c ∈ behind, c.isDigit = true := fun c mem =>
    row c (List.mem_append_right _ mem)
  have point : ∀ c ∈ ('.' :: (behind ++ power)).head?, c.isDigit = false := by
    simp [Char.isDigit]
  have stop : ∀ c ∈ power.head?, c.isDigit = false := fun c mem =>
    (stop_of_spellsPower scaled c mem).1
  have some : ¬(before = [] ∧ behind = []) := by simpa using spelled.present
  unfold readNumber
  rw [Text.takeWhile_run whole point, Text.dropWhile_run whole point]
  simp only [readFraction, Text.takeWhile_run fraction stop, Text.dropWhile_run fraction stop]
  simp [some, readExponent_eq_some_iff.mpr scaled, ofDigitChars_eq_placeValue, spelled.worth]

theorem readNumber_of_spells (negative : Bool) {size : ℚ} (spelled : SpellsUnsigned text size) :
    ∃ x : Decimal, readNumber negative text = some x ∧ x.negative = negative ∧ x.size = size := by
  cases spelled with
  | whole spelled scaled => exact ⟨_, readNumber_whole spelled scaled, rfl, rfl⟩
  | point spelled scaled =>
    refine ⟨_, readNumber_point spelled scaled, rfl, ?_⟩
    rw [Decimal.size, zpow_sub₀ (by norm_num), zpow_natCast]
    ring

theorem spells_of_readNumber {x : Decimal} (read : readNumber negative text = some x) :
    SpellsUnsigned text x.size ∧ x.negative = negative := by
  have row {run : List Char} : ∀ c ∈ run.takeWhile Char.isDigit, '0' ≤ c ∧ c ≤ '9' :=
    fun c mem => isDigit_iff_between.mp (List.mem_takeWhile_imp mem)
  have cut := List.takeWhile_append_dropWhile (p := Char.isDigit) (l := text)
  have whole : ∀ c ∈ text.takeWhile Char.isDigit, '0' ≤ c ∧ c ≤ '9' := row
  unfold readNumber at read
  generalize text.takeWhile Char.isDigit = before at read cut whole
  generalize text.dropWhile Char.isDigit = rest at read cut
  subst cut
  by_cases point : rest.head? = some '.'
  · obtain ⟨tail, rfl⟩ : ∃ tail, rest = '.' :: tail := by
      cases rest with
      | nil => simp at point
      | cons c tail => exact ⟨tail, by rw [Option.some.inj point]⟩
    have behind := List.takeWhile_append_dropWhile (p := Char.isDigit) (l := tail)
    have fraction : ∀ c ∈ tail.takeWhile Char.isDigit, '0' ≤ c ∧ c ≤ '9' := row
    simp only [readFraction] at read
    generalize tail.takeWhile Char.isDigit = digits at read behind fraction
    generalize tail.dropWhile Char.isDigit = power at read behind
    subst behind
    split_ifs at read with absent
    obtain ⟨shift, scaled, rfl⟩ := Option.map_eq_some_iff.mp read
    have spelled : SpellsNatural (before ++ digits) (placeValue (before ++ digits)) := by
      refine ⟨by simpa using absent, fun c mem => ?_, rfl⟩
      exact (List.mem_append.mp mem).elim (whole c) (fraction c)
    refine ⟨?_, rfl⟩
    have size : (placeValue (before ++ digits) : ℚ) * 10 ^ (shift - digits.length) =
        placeValue (before ++ digits) / 10 ^ digits.length * 10 ^ shift := by
      rw [zpow_sub₀ (by norm_num), zpow_natCast]
      ring
    rw [Decimal.size, ofDigitChars_eq_placeValue, size]
    exact .point spelled (readExponent_eq_some_iff.mp scaled)
  · rw [readFraction_of_pointless fun c mem same => point (same ▸ mem)] at read
    simp only at read
    split_ifs at read with absent
    obtain ⟨shift, scaled, rfl⟩ := Option.map_eq_some_iff.mp read
    have spelled : SpellsNatural before (placeValue before) := ⟨by simpa using absent, whole, rfl⟩
    refine ⟨?_, rfl⟩
    rw [Decimal.size, ofDigitChars_eq_placeValue, List.append_nil, List.length_nil, Nat.cast_zero,
      sub_zero]
    exact .whole spelled (readExponent_eq_some_iff.mp scaled)

theorem head_of_spells {size : ℚ} (spelled : SpellsUnsigned text size) :
    ∃ c rest, text = c :: rest ∧ (c.isDigit = true ∨ c = '.') := by
  cases spelled with
  | @whole row _ _ _ spelled _ =>
    cases row with
    | nil => exact absurd rfl spelled.present
    | cons c rest => exact ⟨c, _, rfl, .inl (isDigit_of_spells spelled c List.mem_cons_self)⟩
  | @point before _ _ _ _ spelled _ =>
    cases before with
    | nil => exact ⟨'.', _, rfl, .inr rfl⟩
    | cons c rest => exact ⟨c, _, rfl, .inl (isDigit_of_spells spelled c List.mem_cons_self)⟩

theorem head_of_name {word : String} (name : word ∈ nonFiniteNames)
    (spelled : InAnyCase word.toList text) :
    ∃ c rest, text = c :: rest ∧ c ∈ ['i', 'n', 'I', 'N'] := by
  have first : ∃ letter others, word.toList = letter :: others ∧ letter ∈ ['i', 'n'] := by
    simp only [nonFiniteNames, List.mem_cons, List.not_mem_nil, or_false] at name
    rcases name with rfl | rfl | rfl
    exacts [⟨'i', _, rfl, by simp⟩, ⟨'i', _, rfl, by simp⟩, ⟨'n', _, rfl, by simp⟩]
  obtain ⟨letter, others, letters, begins⟩ := first
  unfold InAnyCase at spelled
  rw [letters] at spelled
  cases spelled with
  | @cons _ c _ rest here _ =>
    refine ⟨c, rest, rfl, ?_⟩
    simp only [List.mem_cons, List.not_mem_nil, or_false] at begins
    rcases begins with rfl | rfl <;> rcases here with rfl | rfl <;> decide

theorem not_name_of_spells {size : ℚ} {word : String} (spelled : SpellsUnsigned text size)
    (name : word ∈ nonFiniteNames) : ¬InAnyCase word.toList text := by
  intro named
  obtain ⟨c, rest, rfl, begins⟩ := head_of_spells spelled
  obtain ⟨_, _, same, letter⟩ := head_of_name name named
  obtain ⟨rfl, rfl⟩ := List.cons.inj same
  have letters : ∀ c ∈ ['i', 'n', 'I', 'N'], c.isDigit = false ∧ c ≠ '.' := by
    simp [Char.isDigit]
  rcases begins with digit | point
  · rw [(letters c letter).1] at digit
    simp at digit
  · exact (letters c letter).2 point

theorem ofList_toLower_eq_iff {word : String} (name : word ∈ nonFiniteNames) :
    String.ofList (text.map Char.toLower) = word ↔ InAnyCase word.toList text := by
  have small : ∀ word ∈ nonFiniteNames, ∀ c ∈ word.toList, 'a' ≤ c ∧ c ≤ 'z' := by
    simp [nonFiniteNames]
  rw [← map_toLower_eq_iff (small word name)]
  constructor
  · rintro rfl
    rw [String.toList_ofList]
  · intro same
    rw [same, String.ofList_toList]

section Literal

variable {literal : String}

theorem read_unnamed (unnamed : ∀ word ∈ nonFiniteNames,
      ¬InAnyCase word.toList (Decimal.readSign literal.toList).2) :
    read literal = (readNumber (Decimal.readSign literal.toList).1
      (Decimal.readSign literal.toList).2).map .number := by
  have other (word : String) (name : word ∈ nonFiniteNames) :
      String.ofList ((Decimal.readSign literal.toList).2.map Char.toLower) ≠ word := fun same =>
    unnamed word name ((ofList_toLower_eq_iff name).mp same)
  unfold read
  simp only
  rw [if_neg (not_or.mpr ⟨other "inf" (by decide), other "infinity" (by decide)⟩),
    if_neg (other "nan" (by decide))]

theorem read_named {word : String} (name : word ∈ nonFiniteNames)
    (spelled : InAnyCase word.toList (Decimal.readSign literal.toList).2) :
    ∃ special, read literal = some special ∧ ∀ x, special ≠ .number x := by
  have same := (ofList_toLower_eq_iff name).mpr spelled
  unfold read
  simp only
  rw [same]
  simp only [nonFiniteNames, List.mem_cons, List.not_mem_nil, or_false] at name
  rcases name with rfl | rfl | rfl
  · exact ⟨_, if_pos (.inl rfl), by simp⟩
  · exact ⟨_, if_pos (.inr rfl), by simp⟩
  · exact ⟨_, by rw [if_neg (by decide), if_pos rfl], by simp⟩

theorem read_of_spells {value : ℚ} (spelled : SpellsFloat literal.toList negative value) :
    ∃ x : Decimal, read literal = some (.number x) ∧ x.negative = negative ∧ x.value = value := by
  obtain ⟨sign, spelled⟩ := spelled
  have cut := sign.readSign_eq (by
    obtain ⟨c, rest, rfl, begins⟩ := head_of_spells spelled
    rintro _ ⟨⟩
    rcases begins with digit | rfl
    · exact ⟨fun same => by simp [same] at digit, fun same => by simp [same] at digit⟩
    · decide)
  obtain ⟨x, read, signed, size⟩ := readNumber_of_spells negative spelled
  refine ⟨x, ?_, signed, by rw [Decimal.value, signed, size]⟩
  rw [read_unnamed (by rw [cut]; exact fun word name => not_name_of_spells spelled name), cut, read]
  rfl

theorem spells_of_read {x : Decimal} (found : read literal = some (.number x)) :
    SpellsFloat literal.toList x.negative x.value := by
  have unnamed : ∀ word ∈ nonFiniteNames,
      ¬InAnyCase word.toList (Decimal.readSign literal.toList).2 := by
    intro word name spelled
    obtain ⟨special, read, nonFinite⟩ := read_named name spelled
    exact nonFinite x (Option.some.inj (read.symm.trans found))
  rw [read_unnamed unnamed] at found
  obtain ⟨y, read, same⟩ := Option.map_eq_some_iff.mp found
  obtain rfl := number.inj same
  obtain ⟨spelled, sign⟩ := spells_of_readNumber read
  rw [sign, Decimal.value, sign]
  exact .mk (signs_readSign literal.toList) spelled

theorem namesNonFinite_iff :
    NamesNonFinite literal.toList ↔
      ∃ special, read literal = some special ∧ ∀ x, special ≠ .number x := by
  constructor
  · rintro ⟨sign, name, spelled⟩
    have cut := sign.readSign_eq (by
      obtain ⟨c, rest, rfl, begins⟩ := head_of_name name spelled
      have letters : ∀ c ∈ ['i', 'n', 'I', 'N'], c ≠ '+' ∧ c ≠ '-' := by simp
      rintro _ ⟨⟩
      exact letters c begins)
    exact read_named name (by rw [cut]; exact spelled)
  · rintro ⟨special, read, nonFinite⟩
    by_contra unnamed
    rw [read_unnamed fun word name spelled =>
      unnamed (.mk (signs_readSign literal.toList) name spelled)] at read
    obtain ⟨x, -, same⟩ := Option.map_eq_some_iff.mp read
    exact nonFinite x same.symm

end Literal

end FloatLiteral

end RequestParams
