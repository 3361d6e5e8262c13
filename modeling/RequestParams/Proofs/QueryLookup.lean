import Mathlib.Data.List.Forall2
import Mathlib.Tactic.SplitIfs
import RequestParams.Http.Request
import RequestParams.Proofs.TextPieces
import RequestParams.Proofs.Utf8Reading
import RequestParams.Proofs.FirstMatch

set_option autoImplicit false
set_option relaxedAutoImplicit false

/-!
Writing texts into queries and looking them up.  A character is written as itself, as a plus or
as escapes of its bytes; whichever is chosen for each, the text is read back.  In a query that
some pairs were written to, a name has the value of its first pair.
-/

namespace RequestParams.Http.Query

/-- Whether a text is the escape of a byte: a percent sign before two hexadecimal digits, which
may be of either case. -/
def Escaped (byte : UInt8) (escape : List Char) : Prop :=
  ∃ high low, hexByte high low = some byte ∧ escape = ['%', high, low]

/-- The ways to write a character in a key or in a value. -/
inductive WrittenChar (isKey : Bool) : Char → List Char → Prop where
  /-- As itself, unless the character means something else there. -/
  | plain {c : Char} (free : c ∉ ['&', '+', '%', ' ']) (unequal : isKey = true → c ≠ '=') :
    WrittenChar isKey c [c]
  /-- A space as a plus. -/
  | space : WrittenChar isKey ' ' ['+']
  | escaped {c : Char} {escapes : List (List Char)}
    (each : List.Forall₂ Escaped (String.utf8EncodeChar c) escapes) :
    WrittenChar isKey c escapes.flatten

inductive Written (isKey : Bool) : List Char → List Char → Prop where
  | nil : Written isKey [] []
  | cons {c : Char} {text part written : List Char} (first : WrittenChar isKey c part)
    (others : Written isKey text written) : Written isKey (c :: text) (part ++ written)

def escapeByte (byte : UInt8) : List Char :=
  ['%', (Nat.digitChar (byte.toNat / 16)).toUpper, (Nat.digitChar (byte.toNat % 16)).toUpper]

/-- A character as forms are sent: letters, digits and four marks as themselves. -/
def encodeChar (c : Char) : List Char :=
  if c = ' ' then ['+']
  else if c.isAlphanum ∨ c ∈ ['*', '-', '.', '_'] then [c]
  else ((String.utf8EncodeChar c).map escapeByte).flatten

def encode (text : List Char) : List Char := text.flatMap encodeChar

def encodePiece (name text : String) : String :=
  String.ofList (encode name.toList ++ '=' :: encode text.toList)

variable {isKey : Bool}

private theorem hexValue_digitChar :
    ∀ n < 16, hexValue (Nat.digitChar n).toUpper = some n := by decide

theorem escaped_escapeByte (byte : UInt8) : Escaped byte (escapeByte byte) := by
  have bound := byte.toNat_lt
  have high := hexValue_digitChar (byte.toNat / 16) (by omega)
  have low := hexValue_digitChar (byte.toNat % 16) (by omega)
  refine ⟨_, _, ?_, rfl⟩
  simp only [hexByte, high, low, Nat.div_add_mod', UInt8.ofNat_toNat]

theorem writtenChar_encodeChar (isKey : Bool) (c : Char) :
    WrittenChar isKey c (encodeChar c) := by
  unfold encodeChar
  split_ifs with space itself
  · rw [space]
    exact .space
  · refine .plain ?_ fun _ => ?_
    · simp only [List.mem_cons, List.not_mem_nil, or_false]
      rintro (rfl | rfl | rfl | rfl) <;> simp at itself
    · rintro rfl
      simp at itself
  · refine .escaped (List.forall₂_map_right_iff.mpr (List.forall₂_same.mpr ?_))
    exact fun byte _ => escaped_escapeByte byte

theorem written_encode (isKey : Bool) (text : List Char) : Written isKey text (encode text) := by
  induction text with
  | nil => exact .nil
  | cons c rest ih => exact .cons (writtenChar_encodeChar isKey c) ih

theorem decodeBytes_cons {c : Char} (other : c ≠ '%') (rest : List Char) :
    decodeBytes (c :: rest) = plainBytes c ++ decodeBytes rest := by
  rw [decodeBytes]
  exact fun _ _ _ percent => absurd percent other

theorem decodeBytes_escape {byte : UInt8} {high low : Char} (read : hexByte high low = some byte)
    (rest : List Char) :
    decodeBytes ('%' :: high :: low :: rest) = byte :: decodeBytes rest := by
  rw [decodeBytes, read]

theorem decodeBytes_escapes {bytes : List UInt8} {escapes : List (List Char)}
    (each : List.Forall₂ Escaped bytes escapes) (rest : List Char) :
    decodeBytes (escapes.flatten ++ rest) = bytes ++ decodeBytes rest := by
  induction each with
  | nil => rfl
  | cons first _ ih =>
    obtain ⟨high, low, read, rfl⟩ := first
    rw [List.flatten_cons, List.append_assoc]
    exact (decodeBytes_escape read _).trans (congrArg _ ih)

theorem decodeBytes_writtenChar {c : Char} {part : List Char} (written : WrittenChar isKey c part)
    (rest : List Char) :
    decodeBytes (part ++ rest) = String.utf8EncodeChar c ++ decodeBytes rest := by
  cases written with
  | plain free _ =>
    have other : c ≠ '%' := by rintro rfl; simp at free
    have shown : c ≠ '+' := by rintro rfl; simp at free
    rw [List.singleton_append, decodeBytes_cons other, plainBytes, if_neg shown]
  | space => exact decodeBytes_cons (by decide) rest
  | escaped each => exact decodeBytes_escapes each rest

theorem decode_of_written {text written : List Char} (each : Written isKey text written) :
    decode written = String.ofList text := by
  have bytes : decodeBytes written = Text.Utf8.encode text := by
    induction each with
    | nil => rfl
    | cons first _ ih =>
      rw [decodeBytes_writtenChar first, ih]
      rfl
  rw [decode, bytes, Text.Utf8.decode_encode]

private theorem notMem_of_escaped {bytes : List UInt8} {escapes : List (List Char)} {c : Char}
    (each : List.Forall₂ Escaped bytes escapes) (other : c ≠ '%') (noDigit : hexValue c = none) :
    c ∉ escapes.flatten := by
  induction each with
  | nil => exact List.not_mem_nil
  | cons first _ ih =>
    obtain ⟨high, low, read, rfl⟩ := first
    have above : c ≠ high := by rintro rfl; simp [hexByte, noDigit] at read
    have below : c ≠ low := by rintro rfl; simp [hexByte, noDigit] at read
    simp only [List.flatten_cons, List.mem_append, List.mem_cons, List.not_mem_nil, other, above,
      below, ih, or_false, not_false_eq_true]

theorem notMem_of_written {text written : List Char} {c : Char} (each : Written isKey text written)
    (separator : c = '&' ∨ isKey = true ∧ c = '=') : c ∉ written := by
  have other : c ≠ '%' := by rcases separator with rfl | ⟨_, rfl⟩ <;> decide
  have shown : c ≠ '+' := by rcases separator with rfl | ⟨_, rfl⟩ <;> decide
  have noDigit : hexValue c = none := by rcases separator with rfl | ⟨_, rfl⟩ <;> decide
  induction each with
  | nil => exact List.not_mem_nil
  | cons first _ ih =>
    rw [List.mem_append, not_or]
    refine ⟨?_, ih⟩
    cases first with
    | plain free unequal =>
      rw [List.mem_singleton]
      rintro rfl
      rcases separator with rfl | ⟨key, rfl⟩
      · simp at free
      · exact unequal key rfl
    | space => simpa using shown
    | escaped each => exact notMem_of_escaped each other noDigit

theorem readPiece_of_written {name text key value : List Char} (named : Written true name key)
    (valued : Written false text value) :
    readPiece (key ++ '=' :: value) = (String.ofList name, String.ofList text) := by
  have free := notMem_of_written named (.inr ⟨rfl, rfl⟩)
  simp only [readPiece, Text.splitFirst_append _ free, decode_of_written named,
    decode_of_written valued]

theorem pairs_append (before behind : String) :
    pairs (before ++ "&" ++ behind) = pairs before ++ pairs behind := by
  have joined : (before ++ "&" ++ behind).toList = before.toList ++ '&' :: behind.toList := by
    simp
  simp only [pairs, joined, List.splitOn_append_cons_self, List.filter_append, List.map_append]

theorem pairs_intercalate (pieces : List String) :
    pairs ("&".intercalate pieces) = pieces.flatMap pairs := by
  induction pieces with
  | nil => rfl
  | cons piece rest ih =>
    cases rest with
    | nil => simp
    | cons next others =>
      rw [String.intercalate_cons_cons, pairs_append, ih, List.flatMap_cons (x := piece)]

theorem pairs_of_written {name text key value : List Char} (named : Written true name key)
    (valued : Written false text value) :
    pairs (String.ofList (key ++ '=' :: value)) = [(String.ofList name, String.ofList text)] := by
  have whole : '&' ∉ key ++ '=' :: value := by
    simp [notMem_of_written named (.inl rfl), notMem_of_written valued (.inl rfl)]
  have present : (key ++ '=' :: value).isEmpty = false := by simp
  simp only [pairs, String.toList_ofList, List.splitOn_eq_singleton whole, List.filter_cons,
    present, Bool.not_false, if_true, List.filter_nil, List.map_cons, List.map_nil,
    readPiece_of_written named valued]

/-!
### Lookups

A lookup in two queries with an ampersand between them is one in the first and then one in the
second, whatever they are.
-/

/-- The pieces of a query that pairs are written to, in order, with empty pieces among them. -/
inductive WrittenPairs : List (String × String) → List String → Prop where
  | nil : WrittenPairs [] []
  | empty {entries : List (String × String)} {pieces : List String}
    (others : WrittenPairs entries pieces) : WrittenPairs entries ("" :: pieces)
  | pair {entries : List (String × String)} {pieces : List String} {name text : String}
    {key value : List Char} (named : Written true name.toList key)
    (valued : Written false text.toList value) (others : WrittenPairs entries pieces) :
    WrittenPairs ((name, text) :: entries) (String.ofList (key ++ '=' :: value) :: pieces)

theorem get?_append (before behind name : String) :
    get? (before ++ "&" ++ behind) name = (get? before name).or (get? behind name) := by
  rw [get?, pairs_append, List.lookup_append]
  rfl

theorem pairs_of_writtenPairs {entries : List (String × String)} {pieces : List String}
    (written : WrittenPairs entries pieces) : pairs ("&".intercalate pieces) = entries := by
  rw [pairs_intercalate]
  induction written with
  | nil => rfl
  | empty _ ih => exact ih
  | pair named valued _ ih =>
    rw [List.flatMap_cons, pairs_of_written named valued, ih, String.ofList_toList,
      String.ofList_toList, List.singleton_append]

/-- No query is refused.  A parameter is looked up on the left of an ampersand first and then on
the right of it; among pairs that were written to the query it has the value of the first one with
its name, and none where no pair has it. -/
theorem query_of_first_match (request : Request) (name : String) :
    (∃ found, (Source.ofRequest request).query name = .ok found) ∧
      (∀ before behind, request.uri.query = some (before ++ "&" ++ behind) →
        (Source.ofRequest request).query name =
          .ok (match get? before name with
            | some value => some value
            | none => get? behind name)) ∧
      ∀ entries pieces, WrittenPairs entries pieces →
        request.uri.query = some ("&".intercalate pieces) →
        (Source.ofRequest request).query name =
          .ok ((entries.find? fun entry => entry.1 = name).map Prod.snd) := by
  have asked {query : String} (held : request.uri.query = some query) :
      (Source.ofRequest request).query name = .ok (get? query name) := by
    simp only [Source.ofRequest, Request.query?, held, Option.bind_some]
  refine ⟨⟨_, rfl⟩, fun before behind held => ?_, fun entries pieces written held => ?_⟩
  · rw [asked held, get?_append]
    cases get? before name <;> rfl
  · rw [asked held, get?, pairs_of_writtenPairs written, lookup_eq_find?]

theorem query_of_first_match_escaped :
    let entries := [("a=b", "é &"), ("c", ""), ("a=b", "x")]
    let pieces := ["", "a%3db=é+%26", "", "c=", "a%3Db=x"]
    let request : Request := { uri := ⟨"/", some ("&".intercalate pieces)⟩ }
    let other : Request := { uri := ⟨"/", some ("a%=1&%ff" ++ "&" ++ "&".intercalate pieces)⟩ }
    WrittenPairs entries pieces ∧
      (Source.ofRequest request).query "a=b" = .ok (some "é &") ∧
      (Source.ofRequest request).query "d" = .ok none ∧
      (Source.ofRequest other).query "a=b" = .ok (some "é &") := by
  intro entries pieces request other
  have equals (digit : Char) (read : hexByte '3' digit = some 0x3d) :
      WrittenChar true '=' ['%', '3', digit] :=
    .escaped (c := '=') (.cons ⟨'3', digit, read, rfl⟩ .nil)
  have ampersand : WrittenChar false '&' ['%', '2', '6'] :=
    .escaped (c := '&') (.cons ⟨'2', '6', by decide, rfl⟩ .nil)
  have named (digit : Char) (read : hexByte '3' digit = some 0x3d) :
      Written true "a=b".toList (['a'] ++ (['%', '3', digit] ++ (['b'] ++ []))) :=
    .cons (.plain (by decide) (by decide)) <| .cons (equals digit read) <|
      .cons (.plain (by decide) (by decide)) .nil
  have valued : Written false "é &".toList (['é'] ++ (['+'] ++ (['%', '2', '6'] ++ []))) :=
    .cons (.plain (by decide) (by decide)) <| .cons .space <| .cons ampersand .nil
  have short : Written true "c".toList (['c'] ++ []) :=
    .cons (.plain (by decide) (by decide)) .nil
  have last : Written false "x".toList (['x'] ++ []) :=
    .cons (.plain (by decide) (by decide)) .nil
  have written : WrittenPairs entries pieces :=
    .empty <| .pair (named 'd' (by decide)) valued <| .empty <| .pair short .nil <|
      .pair (named 'D' (by decide)) last .nil
  have lookups := fun name => (query_of_first_match request name).2.2 entries pieces written rfl
  have behind := (query_of_first_match other "a=b").2.1 "a%=1&%ff" ("&".intercalate pieces) rfl
  have before : get? "a%=1&%ff" "a=b" = none := by decide +kernel
  have found : get? ("&".intercalate pieces) "a=b" = some "é &" := by decide +kernel
  exact ⟨written, lookups "a=b", lookups "d", by rw [behind, before, found]⟩

end RequestParams.Http.Query
