import RequestParams.Descriptor
import RequestParams.Proofs.TextPieces

set_option autoImplicit false
set_option relaxedAutoImplicit false

/-!
Annotations as they may be written.  The segments of a text may stand in any order, with blanks
around keys and values and with other segments between them; the first segment with a key counts.
What is read from any text can be written again.
-/

namespace RequestParams

/-! ### What is read -/

namespace Literals

theorem clean_of_mem_segments {text key value : String} (mem : (key, value) ∈ segments text) :
    (Text.Trimmed key.toList ∧ ':' ∉ key.toList ∧ ';' ∉ key.toList) ∧
      Text.Trimmed value.toList ∧ ';' ∉ value.toList := by
  obtain ⟨segment, piece, read⟩ := List.mem_filterMap.mp mem
  obtain ⟨⟨before, behind⟩, cut, rebuilt⟩ := Option.map_eq_some_iff.mp read
  obtain ⟨rfl, rfl⟩ := Prod.mk.inj rebuilt
  have free := Text.notMem_of_mem_splitOn piece
  rw [Text.eq_of_splitFirst cut, List.mem_append, List.mem_cons, not_or, not_or] at free
  simp only [String.toList_ofList]
  exact ⟨⟨Text.trimmed_trim before,
      fun colon => Text.notMem_of_splitFirst cut (Text.mem_of_mem_trim colon),
      fun semicolon => free.1 (Text.mem_of_mem_trim semicolon)⟩,
    Text.trimmed_trim behind, fun semicolon => free.2.2 (Text.mem_of_mem_trim semicolon)⟩

theorem clean_lookup (text key : String) :
    Text.Trimmed ((lookup text key).getD "").toList ∧ ';' ∉ ((lookup text key).getD "").toList := by
  cases found : lookup text key with
  | none => exact ⟨⟨by simp, by simp⟩, by simp⟩
  | some value =>
    obtain ⟨before, after, entries, _⟩ := List.lookup_eq_some_iff.mp found
    have mem : (key, value) ∈ segments text := by simp [entries]
    exact (clean_of_mem_segments mem).2

end Literals

/-! ### What is written -/

namespace Text

def Padded (text padded : String) : Prop :=
  ∃ front back, isBlankText front = true ∧ isBlankText back = true ∧
    padded = front ++ text ++ back

instance (text : List Char) : Decidable (Trimmed text) :=
  @instDecidableAnd _ _ (Option.decidableForallMem text.head?)
    (Option.decidableForallMem text.getLast?)

private theorem dropWhile_blank_append {blanks : List Char} (blank : blanks.all isBlank = true)
    (text : List Char) : (blanks ++ text).dropWhile isBlank = text.dropWhile isBlank := by
  rw [List.all_eq_true] at blank
  exact List.dropWhile_append_of_pos blank

theorem trim_padded {front text back : List Char} (before : front.all isBlank = true)
    (behind : back.all isBlank = true) (trimmed : Trimmed text) :
    trim (front ++ text ++ back) = text := by
  have start : trimStart (front ++ text ++ back) = trimStart (text ++ back) := by
    rw [trimStart, List.append_assoc, dropWhile_blank_append before, trimStart]
  rw [trim, start]
  cases text with
  | nil =>
    have gone : trimStart ([] ++ back) = [] := by
      simpa [trimStart] using behind
    rw [gone]
    rfl
  | cons c rest =>
    have kept : trimStart (c :: rest ++ back) = c :: rest ++ back :=
      List.dropWhile_cons_of_neg (by simp [trimmed.1 c rfl])
    have whole := trimmed.trim_eq
    rw [trim, trimStart, List.dropWhile_cons_of_neg (by simp [trimmed.1 c rfl])] at whole
    rw [kept, trimEnd, List.reverse_append, dropWhile_blank_append (by simpa using behind)]
    exact whole

theorem padded_trim (text : List Char) :
    Padded (String.ofList (trim text)) (String.ofList text) := by
  refine ⟨String.ofList (text.takeWhile isBlank),
    String.ofList ((trimStart text).rtakeWhile isBlank), ?_, ?_, ?_⟩
  · rw [isBlankText, String.toList_ofList, List.all_eq_true]
    exact fun c => List.mem_takeWhile_imp
  · rw [isBlankText, String.toList_ofList, List.all_eq_true]
    exact fun c => List.mem_rtakeWhile_imp
  · rw [← String.ofList_append, ← String.ofList_append, List.append_assoc]
    show _ = String.ofList (_ ++ ((trimStart text).rdropWhile isBlank ++ _))
    rw [List.rdropWhile_append_rtakeWhile, trimStart, List.takeWhile_append_dropWhile]

end Text

namespace Literals

def entries (literals : Literals) : List (String × String) :=
  [("kind", literals.kind), ("name", literals.name), ("desc", literals.description),
    ("example", literals.exampleText), ("required", literals.required),
    ("schemaMin", literals.schemaMin)]

/-- Whether a text can be the literal of a key. -/
def IsLiteral (text : String) : Prop := Text.Trimmed text.toList ∧ ';' ∉ text.toList

/-- Whether a text can be the key of a segment. -/
def IsKey (text : String) : Prop := IsLiteral text ∧ ':' ∉ text.toList

instance (text : String) : Decidable (IsLiteral text) := inferInstanceAs (Decidable (_ ∧ _))

instance (text : String) : Decidable (IsKey text) := inferInstanceAs (Decidable (_ ∧ _))

def HasKey (key segment : String) : Prop :=
  ∃ before behind, Text.Padded key before ∧ segment = before ++ ":" ++ behind

/-- Whether a segment writes a value under a key, with blanks around both. -/
def Writes (key value segment : String) : Prop :=
  ∃ before behind, Text.Padded key before ∧ Text.Padded value behind ∧
    segment = before ++ ":" ++ behind

/-- Whether a row of segments holds a value under a key: the first segment with the key writes it,
or no segment has the key and the value is empty. -/
inductive Holds (key value : String) : List String → Prop where
  | missing (empty : value = "") : Holds key value []
  | here {segment : String} {rest : List String} (writes : Writes key value segment) :
      Holds key value (segment :: rest)
  | behind {segment : String} {rest : List String} (other : ¬HasKey key segment)
      (held : Holds key value rest) : Holds key value (segment :: rest)

variable {key value segment : String} {segments : List String}

theorem notMem_of_padded {before : String} (free : ':' ∉ key.toList)
    (padded : Text.Padded key before) : ':' ∉ before.toList := by
  obtain ⟨front, back, ahead, after, rfl⟩ := padded
  have solid {blanks : String} (blank : Text.isBlankText blanks = true) : ':' ∉ blanks.toList := by
    intro mem
    exact absurd (List.all_eq_true.mp blank _ mem) (by decide)
  simp [free, solid ahead, solid after]

theorem trim_of_padded {padded : String} (trimmed : Text.Trimmed value.toList)
    (around : Text.Padded value padded) : Text.trim padded.toList = value.toList := by
  obtain ⟨front, back, ahead, after, rfl⟩ := around
  rw [String.toList_append, String.toList_append]
  exact Text.trim_padded ahead after trimmed

theorem readSegment_eq_some_iff (named : IsKey key) (literal : Text.Trimmed value.toList) :
    readSegment segment.toList = some (key, value) ↔ Writes key value segment := by
  unfold readSegment
  constructor
  · intro read
    obtain ⟨⟨before, behind⟩, cut, parts⟩ := Option.map_eq_some_iff.mp read
    obtain ⟨rfl, rfl⟩ := Prod.mk.inj parts
    refine ⟨String.ofList before, String.ofList behind, Text.padded_trim before,
      Text.padded_trim behind, ?_⟩
    rw [← String.toList_inj, Text.eq_of_splitFirst cut]
    simp
  · rintro ⟨before, behind, padded, around, rfl⟩
    have cut := Text.splitFirst_append behind.toList (notMem_of_padded named.2 padded)
    have whole : (before ++ ":" ++ behind).toList = before.toList ++ ':' :: behind.toList := by
      simp
    simp only [whole, cut, Option.map_some, trim_of_padded named.1.1 padded,
      trim_of_padded literal around, String.ofList_toList]

theorem hasKey_iff (named : IsKey key) :
    HasKey key segment ↔ ∃ found, readSegment segment.toList = some (key, found) := by
  constructor
  · rintro ⟨before, behind, padded, rfl⟩
    have literal : Text.Trimmed (String.ofList (Text.trim behind.toList)).toList := by
      rw [String.toList_ofList]
      exact Text.trimmed_trim _
    have around := Text.padded_trim behind.toList
    rw [String.ofList_toList] at around
    exact ⟨_, (readSegment_eq_some_iff named literal).mpr ⟨before, behind, padded, around, rfl⟩⟩
  · rintro ⟨found, read⟩
    obtain ⟨⟨before, behind⟩, cut, parts⟩ := Option.map_eq_some_iff.mp read
    obtain ⟨rfl, rfl⟩ := Prod.mk.inj parts
    refine ⟨String.ofList before, String.ofList behind, Text.padded_trim before, ?_⟩
    rw [← String.toList_inj, Text.eq_of_splitFirst cut]
    simp

theorem hasKey_of_writes (writes : Writes key value segment) : HasKey key segment := by
  obtain ⟨before, behind, padded, -, rfl⟩ := writes
  exact ⟨before, behind, padded, rfl⟩

theorem holds_cons_iff_of_hasKey {rest : List String} (has : HasKey key segment) :
    Holds key value (segment :: rest) ↔ Writes key value segment := by
  constructor
  · intro held
    cases held with
    | here writes => exact writes
    | behind other => exact absurd has other
  · exact .here

theorem holds_cons_iff_of_not_hasKey {rest : List String} (other : ¬HasKey key segment) :
    Holds key value (segment :: rest) ↔ Holds key value rest := by
  constructor
  · intro held
    cases held with
    | here writes => exact absurd (hasKey_of_writes writes) other
    | behind _ held => exact held
  · exact .behind other

theorem holds_iff (named : IsKey key) (literal : Text.Trimmed value.toList) :
    Holds key value segments ↔
      (((segments.filterMap fun segment => readSegment segment.toList).lookup key).getD "") =
        value := by
  induction segments with
  | nil =>
    refine ⟨?_, fun empty => .missing empty.symm⟩
    rintro ⟨rfl⟩
    rfl
  | cons segment rest ih =>
    by_cases has : HasKey key segment
    · obtain ⟨found, read⟩ := (hasKey_iff named).mp has
      rw [holds_cons_iff_of_hasKey has, ← readSegment_eq_some_iff named literal]
      simp [read]
    · rw [holds_cons_iff_of_not_hasKey has, ih, List.filterMap_cons]
      rw [hasKey_iff named] at has
      cases read : readSegment segment.toList with
      | none => rfl
      | some entry =>
        obtain ⟨other, found⟩ := entry
        have apart : (key == other) = false := by
          rw [beq_eq_false_iff_ne]
          rintro rfl
          exact has ⟨found, read⟩
        simp [List.lookup_cons, apart]

theorem segments_append (before behind : String) :
    Literals.segments (before ++ ";" ++ behind) =
      Literals.segments before ++ Literals.segments behind := by
  have joined : (before ++ ";" ++ behind).toList = before.toList ++ ';' :: behind.toList := by
    simp
  simp only [Literals.segments, joined, List.splitOn_append_cons_self, List.filterMap_append]

theorem segments_of_closed (closed : ';' ∉ segment.toList) :
    Literals.segments segment = (readSegment segment.toList).toList := by
  rw [Literals.segments, List.splitOn_eq_singleton closed]
  cases read : readSegment segment.toList <;> simp [read]

theorem segments_intercalate (closed : ∀ segment ∈ segments, ';' ∉ segment.toList) :
    Literals.segments (";".intercalate segments) =
      segments.filterMap fun segment => readSegment segment.toList := by
  have each : Literals.segments (";".intercalate segments) =
      segments.flatMap Literals.segments := by
    clear closed
    induction segments with
    | nil => rfl
    | cons segment rest ih =>
      cases rest with
      | nil => simp
      | cons next behind =>
        rw [String.intercalate_cons_cons, segments_append, ih, List.flatMap_cons (x := segment)]
  rw [each, List.filterMap_eq_flatMap_toList]
  exact List.flatMap_congr fun segment mem => segments_of_closed (closed segment mem)

/-- Whether each literal can stand in an annotation. -/
def Clean (literals : Literals) : Prop := ∀ entry ∈ literals.entries, IsLiteral entry.2

instance (literals : Literals) : Decidable literals.Clean :=
  inferInstanceAs (Decidable (∀ entry ∈ literals.entries, IsLiteral entry.2))

theorem isKey_of_mem_entries {literals : Literals} {entry : String × String}
    (mem : entry ∈ literals.entries) : IsKey entry.1 := by
  have known : entry.1 ∈ keys := List.mem_map_of_mem (f := Prod.fst) mem
  have each : ∀ key ∈ keys, IsKey key := by decide
  exact each entry.1 known

/-- What a text holds under the six keys is read from it. -/
theorem read_of_holds {literals : Literals} (clean : literals.Clean)
    (closed : ∀ segment ∈ segments, ';' ∉ segment.toList)
    (held : ∀ entry ∈ literals.entries, Holds entry.1 entry.2 segments) :
    read (";".intercalate segments) = literals := by
  have found : ∀ entry ∈ literals.entries,
      (lookup (";".intercalate segments) entry.1).getD "" = entry.2 := by
    intro entry mem
    rw [lookup, segments_intercalate closed]
    exact (holds_iff (isKey_of_mem_entries mem) (clean entry mem).1).mp (held entry mem)
  simp only [entries, List.forall_mem_cons] at found
  obtain ⟨kind, name, description, exampleText, required, schemaMin, -⟩ := found
  simp only [read, kind, name, description, exampleText, required, schemaMin]

def write (pairs : List (String × String)) : String :=
  "; ".intercalate (pairs.map fun pair => pair.1 ++ ": " ++ pair.2)

theorem segments_pair {front : String} (blank : Text.isBlankText front = true)
    (open' : ';' ∉ front.toList) (named : IsKey key) (literal : IsLiteral value) :
    Literals.segments (front ++ (key ++ ": " ++ value)) = [(key, value)] := by
  have closed : ';' ∉ (front ++ (key ++ ": " ++ value)).toList := by
    simp [open', named.1.2, literal.2]
  have writes : Writes key value (front ++ (key ++ ": " ++ value)) := by
    refine ⟨front ++ key ++ "", " " ++ value ++ "", ⟨front, "", blank, rfl, rfl⟩,
      ⟨" ", "", rfl, rfl, rfl⟩, ?_⟩
    simp [String.append_assoc, ← String.toList_inj]
  rw [segments_of_closed closed, (readSegment_eq_some_iff named literal.1).mpr writes]
  rfl

theorem segments_write {pairs : List (String × String)}
    (clean : ∀ pair ∈ pairs, IsKey pair.1 ∧ IsLiteral pair.2) :
    Literals.segments (write pairs) = pairs := by
  -- Behind the first pair each segment begins with a blank.
  have behind : ∀ front, front = "" ∨ front = " " →
      Literals.segments (front ++ write pairs) = pairs := by
    induction pairs with
    | nil => rintro front (rfl | rfl) <;> decide
    | cons pair rest ih =>
      intro front blanks
      obtain ⟨⟨named, literal⟩, others⟩ := List.forall_mem_cons.mp clean
      have here : Literals.segments (front ++ (pair.1 ++ ": " ++ pair.2)) = [pair] := by
        rcases blanks with rfl | rfl <;> exact segments_pair (by decide) (by decide) named literal
      cases rest with
      | nil => simpa [write] using here
      | cons next later =>
        have cut : front ++ write (pair :: next :: later) =
            front ++ (pair.1 ++ ": " ++ pair.2) ++ ";" ++ (" " ++ write (next :: later)) := by
          have mark : "; " = ";" ++ " " := rfl
          simp only [write, List.map_cons, String.intercalate_cons_cons, mark, String.append_assoc]
        rw [cut, segments_append, here, ih others " " (.inr rfl)]
        rfl
  have whole := behind "" (.inl rfl)
  rwa [String.empty_append] at whole

/-- Literals that fit are read from every text whose segments hold each under its key, in any order
and among any others.  What is read from any text fits, and keys and values that were read can be
written, a blank behind each colon and semicolon, to be read again. -/
theorem read_round_trip :
    (∀ (literals : Literals) (segments : List String), literals.Clean →
      (∀ segment ∈ segments, ';' ∉ segment.toList) →
      (∀ entry ∈ literals.entries, Holds entry.1 entry.2 segments) →
      read (";".intercalate segments) = literals) ∧
    ∀ text : String, (read text).Clean ∧
      (∀ pair ∈ Literals.segments text, IsKey pair.1 ∧ IsLiteral pair.2) ∧
      Literals.segments (write (Literals.segments text)) = Literals.segments text := by
  refine ⟨fun literals segments clean closed held => read_of_holds clean closed held, ?_⟩
  intro text
  have fits : ∀ pair ∈ Literals.segments text, IsKey pair.1 ∧ IsLiteral pair.2 := by
    rintro ⟨key, value⟩ mem
    obtain ⟨⟨trimmed, free, closed⟩, literal⟩ := clean_of_mem_segments mem
    exact ⟨⟨⟨trimmed, closed⟩, free⟩, literal⟩
  refine ⟨?_, fits, segments_write fits⟩
  simp only [Clean, entries, List.forall_mem_cons, List.not_mem_nil, false_imp_iff, implies_true,
    and_true]
  exact ⟨clean_lookup text _, clean_lookup text _, clean_lookup text _, clean_lookup text _,
    clean_lookup text _, clean_lookup text _⟩

/-- Segments in no order, with colons and names of keys inside a value, a key that ends like
another, a piece without a colon, a repeated key, and no segment for two empty literals. -/
def shuffledSegments : List String :=
  ["\u3000example : see name: x", "nickname: star", "kind\u00a0:\tpath", "no colon", "name:id",
    " name: other", "schemaMin: ", "desc:kind: query\u2003", "kind: query", ""]

/-- Each literal of the shuffled segments is read; those that no segment gives are empty. -/
theorem read_shuffledSegments :
    let literals : Literals :=
      { kind := "path", name := "id", description := "kind: query", exampleText := "see name: x" }
    literals.Clean ∧ (∀ segment ∈ shuffledSegments, ';' ∉ segment.toList) ∧
      (∀ entry ∈ literals.entries, Holds entry.1 entry.2 shuffledSegments) ∧
      read (";".intercalate shuffledSegments) = literals := by
  intro literals
  have clean : literals.Clean := by decide
  have closed : ∀ segment ∈ shuffledSegments, ';' ∉ segment.toList := by decide
  have held : ∀ entry ∈ literals.entries, Holds entry.1 entry.2 shuffledSegments := by
    intro entry mem
    rw [holds_iff (isKey_of_mem_entries mem) (clean entry mem).1]
    revert entry
    decide +kernel
  exact ⟨clean, closed, held, read_round_trip.1 literals shuffledSegments clean closed held⟩

end Literals

end RequestParams
