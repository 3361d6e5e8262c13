import RequestParams.Http.Request
import RequestParams.Proofs.Utf8Reading
import RequestParams.Proofs.AnnotationRoundTrip

set_option autoImplicit false
set_option relaxedAutoImplicit false

/-!
What cookies can be, and how they may be written.  Cookie headers are read as one header with
semicolons between them.  The pairs that are read can be written again, with quotes around each
value or, where the value is the same without them, as it is.
-/

namespace RequestParams.Http.Cookies

/-! ### Values in double quotes -/

theorem unquote_quoted (value : List Char) : unquote ('"' :: value ++ ['"']) = value := by
  simp [unquote]

private theorem trimmed_concat_quote {c : Char} (rest : List Char)
    (first : Text.isBlank c = false) : Text.Trimmed (c :: rest ++ ['"']) := by
  constructor
  · simpa using first
  · intro last ended
    rw [List.getLast?_concat] at ended
    obtain rfl := Option.some.inj ended
    decide

theorem readPair_quoted {name : List Char} (trimmed : Text.Trimmed name) (named : name ≠ [])
    (free : '=' ∉ name) (value : List Char) :
    readPair (name ++ '=' :: '"' :: value ++ ['"']) =
      some (String.ofList name, String.ofList value) := by
  have whole : Text.Trimmed (name ++ '=' :: '"' :: value ++ ['"']) := by
    cases name with
    | nil => exact absurd rfl named
    | cons c rest => exact trimmed_concat_quote _ (trimmed.1 c rfl)
  have quotes : Text.Trimmed ('"' :: value ++ ['"']) := trimmed_concat_quote _ (by decide)
  have cut : Text.splitFirst '=' (name ++ '=' :: '"' :: value ++ ['"']) =
      some (name, '"' :: value ++ ['"']) := by
    rw [List.append_assoc]
    exact Text.splitFirst_append _ free
  have present : name.isEmpty = false := by simpa using named
  simp only [readPair, whole.trim_eq, cut, trimmed.trim_eq, quotes.trim_eq, unquote_quoted,
    present, Bool.false_eq_true, if_false]

theorem read_quoted {name value : List Char} (trimmed : Text.Trimmed name) (named : name ≠ [])
    (free : '=' ∉ name) (single : ';' ∉ name) (closed : ';' ∉ value) :
    read (name ++ '=' :: '"' :: value ++ ['"']) =
      [(String.ofList name, String.ofList value)] := by
  have whole : ';' ∉ name ++ '=' :: '"' :: value ++ ['"'] := by simp [single, closed]
  rw [read, List.splitOn_eq_singleton whole, List.filterMap_cons,
    readPair_quoted trimmed named free]
  rfl

theorem ofHeaders_append (headers others : Headers) :
    ofHeaders (headers ++ others) = ofHeaders headers ++ ofHeaders others := by
  simp [ofHeaders, Headers.getAll]

theorem ofHeaders_cons (name : String) (value : List UInt8) (rest : Headers) :
    ofHeaders ((name, value) :: rest) =
      (if name = "cookie" then read (Text.Utf8.decode value) else []) ++ ofHeaders rest := by
  by_cases cookie : name = "cookie"
  · simp [ofHeaders, Headers.getAll, cookie]
  · simp [ofHeaders, Headers.getAll, cookie]

theorem ofHeaders_concat (headers : Headers) (name : String) (value : List UInt8) :
    ofHeaders (headers ++ [(name, value)]) =
      ofHeaders headers ++ if name = "cookie" then read (Text.Utf8.decode value) else [] := by
  rw [ofHeaders_append, ofHeaders_cons]
  exact congrArg _ (List.append_nil _)

theorem read_decode_append (before behind : List UInt8) :
    read (Text.Utf8.decode (before ++ 0x3b :: behind)) =
      read (Text.Utf8.decode before) ++ read (Text.Utf8.decode behind) := by
  rw [Text.Utf8.decode_append_ascii before (by decide) behind]
  simp only [read]
  rw [show Char.ofNat (0x3b : UInt8).toNat = ';' from rfl, List.splitOn_append_cons_self,
    List.filterMap_append]

theorem read_decode_intercalate (segments : List (List UInt8)) :
    read (Text.Utf8.decode ([0x3b].intercalate segments)) =
      segments.flatMap fun segment => read (Text.Utf8.decode segment) := by
  induction segments with
  | nil => rfl
  | cons segment rest ih =>
    cases rest with
    | nil => simp
    | cons next others =>
      rw [List.intercalate_cons_cons, List.append_assoc, List.singleton_append,
        read_decode_append, ih, List.flatMap_cons (x := segment)]

/-- Whether a name and a value can be those of a cookie. -/
structure IsPair (pair : String × String) : Prop where
  named : pair.1 ≠ ""
  trimmed : Text.Trimmed pair.1.toList
  free : '=' ∉ pair.1.toList
  single : ';' ∉ pair.1.toList
  closed : ';' ∉ pair.2.toList

theorem isPair_iff {pair : String × String} :
    IsPair pair ↔ pair.1 ≠ "" ∧ Text.Trimmed pair.1.toList ∧ '=' ∉ pair.1.toList ∧
      ';' ∉ pair.1.toList ∧ ';' ∉ pair.2.toList :=
  ⟨fun ⟨named, trimmed, free, single, closed⟩ => ⟨named, trimmed, free, single, closed⟩,
    fun ⟨named, trimmed, free, single, closed⟩ => ⟨named, trimmed, free, single, closed⟩⟩

instance (pair : String × String) : Decidable (IsPair pair) := decidable_of_iff' _ isPair_iff

def Quoted (text : String) : Prop := ∃ inner, text = "\"" ++ inner ++ "\""

/-- The ways to write a cookie. -/
inductive WrittenPair : String × String → String → Prop where
  | quoted (name value : String) : WrittenPair (name, value) (name ++ "=\"" ++ value ++ "\"")
  /-- Without quotes, unless the value has blanks at its ends or quotes of its own. -/
  | bare {name value : String} (trimmed : Text.Trimmed value.toList) (unquoted : ¬Quoted value) :
    WrittenPair (name, value) (name ++ "=" ++ value)

/-! ### What is read -/

theorem mem_of_mem_unquote {value : List Char} {c : Char} (mem : c ∈ unquote value) :
    c ∈ value := by
  unfold unquote at mem
  split at mem
  · split at mem
    · exact List.mem_cons_of_mem _ (List.dropLast_subset _ mem)
    · exact mem
  · exact mem

theorem isPair_of_readPair {segment : List Char} {pair : String × String}
    (single : ';' ∉ segment) (read : readPair segment = some pair) : IsPair pair := by
  unfold readPair at read
  split at read
  · rename_i name value cut
    have whole : ';' ∉ name ++ '=' :: value := by
      rw [← Text.eq_of_splitFirst cut]
      exact fun mem => single (Text.mem_of_mem_trim mem)
    rw [List.mem_append, List.mem_cons, not_or, not_or] at whole
    simp only at read
    split at read
    · simp at read
    · rename_i present
      obtain rfl := Option.some.inj read
      refine ⟨by simpa using present, ?_, ?_, ?_, ?_⟩ <;> simp only [String.toList_ofList]
      · exact Text.trimmed_trim name
      · exact fun equals => Text.notMem_of_splitFirst cut (Text.mem_of_mem_trim equals)
      · exact fun mem => whole.1 (Text.mem_of_mem_trim mem)
      · exact fun mem => whole.2.2 (Text.mem_of_mem_trim (mem_of_mem_unquote mem))
  · simp at read

theorem isPair_of_mem_read {text : List Char} {pair : String × String} (mem : pair ∈ read text) :
    IsPair pair := by
  obtain ⟨segment, piece, found⟩ := List.mem_filterMap.mp mem
  exact isPair_of_readPair (Text.notMem_of_mem_splitOn piece) found

theorem ofHeaders_eq_flatMap (headers : Headers) :
    ofHeaders headers =
      (headers.getAll "cookie").flatMap fun value => read (Text.Utf8.decode value) := rfl

theorem read_append (before behind : List Char) :
    read (before ++ ';' :: behind) = read before ++ read behind := by
  rw [read, List.splitOn_append_cons_self, List.filterMap_append]
  rfl

theorem read_intercalate (texts : List (List Char)) :
    read ([';'].intercalate texts) = texts.flatMap read := by
  induction texts with
  | nil => rfl
  | cons text rest ih =>
    cases rest with
    | nil => simp
    | cons next others =>
      rw [List.intercalate_cons_cons, List.append_assoc, List.singleton_append, read_append, ih,
        List.flatMap_cons (x := text)]

/-! ### Writing again -/

theorem unquote_of_not_quoted {value : String} (unquoted : ¬Quoted value) :
    unquote value.toList = value.toList := by
  unfold unquote
  split
  · rename_i rest opened
    split
    · rename_i ended
      refine absurd ⟨String.ofList rest.dropLast, ?_⟩ unquoted
      obtain ⟨_, closed⟩ := List.getLast?_eq_some_iff.mp ended
      rw [← String.toList_inj, opened, closed]
      simp
    · exact opened.symm
  · rfl

theorem readPair_bare {name value : List Char} (trimmed : Text.Trimmed name) (named : name ≠ [])
    (free : '=' ∉ name) (ended : Text.Trimmed value) :
    readPair (name ++ '=' :: value) =
      some (String.ofList name, String.ofList (unquote value)) := by
  have whole : Text.Trimmed (name ++ '=' :: value) := by
    constructor
    · cases name with
      | nil => exact absurd rfl named
      | cons c rest => simpa using trimmed.1 c rfl
    · intro c last
      rw [List.getLast?_append_of_ne_nil _ (by simp), List.getLast?_cons] at last
      cases behind : value.getLast? with
      | none =>
        obtain rfl : '=' = c := by simpa [behind] using last
        decide
      | some other =>
        obtain rfl : other = c := by simpa [behind] using last
        exact ended.2 other behind
  have present : name.isEmpty = false := by simpa using named
  simp only [readPair, whole.trim_eq, Text.splitFirst_append _ free, trimmed.trim_eq,
    ended.trim_eq, present, Bool.false_eq_true, if_false]

theorem readPair_of_written {pair : String × String} {segment : String} (fits : IsPair pair)
    (written : WrittenPair pair segment) : readPair segment.toList = some pair := by
  cases written with
  | quoted name value =>
    have letters : name.toList ≠ [] := by simpa using fits.named
    simpa using readPair_quoted fits.trimmed letters fits.free value.toList
  | @bare name value trimmed unquoted =>
    have letters : name.toList ≠ [] := by simpa using fits.named
    have read := readPair_bare fits.trimmed letters fits.free trimmed
    rw [unquote_of_not_quoted unquoted] at read
    simpa using read

theorem notMem_of_written {pair : String × String} {segment : String} (fits : IsPair pair)
    (written : WrittenPair pair segment) : ';' ∉ segment.toList := by
  cases written with
  | quoted name value => simp [fits.single, fits.closed]
  | bare trimmed unquoted => simp [fits.single, fits.closed]

theorem readPair_blank_append {front : List Char} (blank : front.all Text.isBlank = true)
    (segment : List Char) : readPair (front ++ segment) = readPair segment := by
  have start : Text.trimStart (front ++ segment) = Text.trimStart segment :=
    List.dropWhile_append_of_pos (by simpa using blank)
  simp only [readPair, Text.trim, start]

theorem read_of_written {pair : String × String} {segment : String} {front : List Char}
    (blank : front.all Text.isBlank = true) (fits : IsPair pair)
    (written : WrittenPair pair segment) : read (front ++ segment.toList) = [pair] := by
  have whole : ';' ∉ front ++ segment.toList := by
    rw [List.mem_append, not_or]
    refine ⟨fun mem => ?_, notMem_of_written fits written⟩
    exact absurd (List.all_eq_true.mp blank _ mem) (by decide)
  rw [read, List.splitOn_eq_singleton whole, List.filterMap_cons, readPair_blank_append blank,
    readPair_of_written fits written]
  rfl

/-- Cookies that were written are read back, with or without blanks behind the semicolons. -/
theorem read_of_forall₂_written {pairs : List (String × String)} {segments : List String}
    (fits : ∀ pair ∈ pairs, IsPair pair) (written : List.Forall₂ WrittenPair pairs segments)
    {front : List Char} (blank : front.all Text.isBlank = true) :
    read (front ++ ("; ".intercalate segments).toList) = pairs := by
  induction written generalizing front with
  | nil =>
    have whole : ';' ∉ front := fun mem =>
      absurd (List.all_eq_true.mp blank _ mem) (by decide)
    have nothing : readPair (front ++ []) = none := readPair_blank_append blank []
    simp only [String.intercalate_nil, String.toList_empty, List.append_nil] at nothing ⊢
    rw [read, List.splitOn_eq_singleton whole, List.filterMap_cons, nothing]
    rfl
  | @cons pair segment others behind first each ih =>
    obtain ⟨here, later⟩ := List.forall_mem_cons.mp fits
    cases each with
    | nil => simpa using read_of_written blank here first
    | @cons next text rest texts second others =>
      have cut : front ++ ("; ".intercalate (segment :: text :: texts)).toList =
          (front ++ segment.toList) ++
            ';' :: ([' '] ++ ("; ".intercalate (text :: texts)).toList) := by
        simp [String.intercalate_cons_cons]
      rw [cut, read_append, read_of_written blank here first, ih later (by decide)]
      rfl

/-- All cookie headers are read as the one that they are when semicolons join them, be it their
bytes or their texts, and a cookie has the value of the first pair with its name in any of them.
What is read can be cookies, and all that can be is read back as it was written. -/
theorem headers_merge_and_pairs_round_trip :
    (∀ headers : Headers,
      ofHeaders headers =
          ofHeaders [("cookie", [0x3b].intercalate (headers.getAll "cookie"))] ∧
        ofHeaders headers =
          read ([';'].intercalate ((headers.getAll "cookie").map Text.Utf8.decode)) ∧
        (∀ name value, (ofHeaders headers).get? name = some value ↔
          ∃ before after,
            ((headers.getAll "cookie").flatMap fun bytes => read (Text.Utf8.decode bytes)) =
                before ++ (name, value) :: after ∧
              ∀ pair ∈ before, pair.1 ≠ name) ∧
        ∀ pair ∈ ofHeaders headers, IsPair pair) ∧
      ∀ (pairs : List (String × String)) (segments : List String),
        (∀ pair ∈ pairs, IsPair pair) → List.Forall₂ WrittenPair pairs segments →
          read ("; ".intercalate segments).toList = pairs := by
  refine ⟨fun headers => ⟨?_, ?_, fun name value => ?_, ?_⟩, fun pairs segments fits written => ?_⟩
  · rw [ofHeaders_cons, if_pos rfl, read_decode_intercalate]
    exact (List.append_nil _).symm
  · rw [read_intercalate, List.flatMap_map, ofHeaders_eq_flatMap]
  · rw [get?, List.lookup_eq_some_iff, ofHeaders_eq_flatMap]
    simp only [bne_iff_ne, ne_comm]
  · intro pair mem
    rw [ofHeaders_eq_flatMap] at mem
    obtain ⟨bytes, -, found⟩ := List.mem_flatMap.mp mem
    exact isPair_of_mem_read found
  · exact @read_of_forall₂_written pairs segments fits written [] rfl

/-- A lone quote and an equals sign need no quotes around them; a value in quotes of its own, with
blanks at its ends, needs them.  Bytes of no text end with their header. -/
theorem headers_merge_and_pairs_round_trip_mixed :
    let headers : Headers :=
      [("cookie", [0x61, 0x3d, 0xe2, 0x82]), ("accept", [0x2a]),
        ("cookie", Text.Utf8.encode "b; a = \"2\"".toList)]
    let pairs := [("sid", "x=\""), ("t", "\""), ("u", " \"v\" "), ("w", "")]
    let segments := ["sid=x=\"", "t=\"", "u=\" \"v\" \"", "w="]
    ofHeaders headers = [("a", "\ufffd"), ("a", "2")] ∧
      (ofHeaders headers).get? "a" = some "\ufffd" ∧
      (∀ pair ∈ pairs, IsPair pair) ∧ List.Forall₂ WrittenPair pairs segments ∧
      read ("; ".intercalate segments).toList = pairs := by
  intro headers pairs segments
  have fits : ∀ pair ∈ pairs, IsPair pair := by decide
  have bare {text : String} (ended : text.toList.head? ≠ some '"' ∨ text.toList.length = 1) :
      ¬Quoted text := by
    rintro ⟨inner, rfl⟩
    simp at ended
  have written : List.Forall₂ WrittenPair pairs segments :=
    .cons (.bare (by decide) (bare (by decide))) <|
      .cons (.bare (by decide) (bare (by decide))) <|
        .cons (.quoted "u" " \"v\" ") <| .cons (.bare (by decide) (bare (by decide))) .nil
  have both := headers_merge_and_pairs_round_trip
  have joined : ofHeaders headers = [("a", "\ufffd"), ("a", "2")] := by
    rw [(both.1 headers).2.1]
    decide +kernel
  have first : (ofHeaders headers).get? "a" = some "\ufffd" :=
    ((both.1 headers).2.2.1 "a" "\ufffd").mpr ⟨[], [("a", "2")], by decide +kernel, by simp⟩
  exact ⟨joined, first, fits, written, both.2 pairs segments fits written⟩

end RequestParams.Http.Cookies
