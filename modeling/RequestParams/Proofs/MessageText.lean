import RequestParams.Proofs.DescribedParameters

set_option autoImplicit false
set_option relaxedAutoImplicit false

/-!
What the messages of failures may show.  Of a message only the names of fields and types and words
of its own stand in it as they are; every text that comes from an annotation or a request is quoted,
and a quoted text holds no control character.  So a request cannot put one into a message.
-/

namespace RequestParams

open Http (Request Source)

/-! ### Quoted texts -/

namespace Text

def ControlFree (text : String) : Prop := ∀ c ∈ text.toList, ¬IsControl c

instance (text : String) : Decidable (ControlFree text) :=
  List.decidableBAll (¬IsControl ·) text.toList

theorem controlFree_append {text other : String} :
    ControlFree (text ++ other) ↔ ControlFree text ∧ ControlFree other := by
  simp only [ControlFree, String.toList_append, List.forall_mem_append]

private theorem not_isControl_digitChar : ∀ digit < 16, ¬IsControl (Nat.digitChar digit) := by
  decide

theorem not_isControl_of_mem_toDigits {n : Nat} {c : Char} (mem : c ∈ Nat.toDigits 16 n) :
    ¬IsControl c := by
  induction n using Nat.strongRecOn generalizing c with
  | ind n ih =>
    by_cases small : n < 16
    · rw [Nat.toDigits_of_lt_base small, List.mem_singleton] at mem
      exact mem ▸ not_isControl_digitChar n small
    · rw [Nat.toDigits_of_base_le (by decide) (by omega), List.mem_append,
        List.mem_singleton] at mem
      rcases mem with before | rfl
      · exact ih _ (by omega) before
      · exact not_isControl_digitChar _ (Nat.mod_lt n (by decide))

theorem quoteChar_cases (c : Char) :
    (isPrintable c = true ∧ quoteChar c = [c]) ∨
      (∃ sign ∈ ['"', '\\', 't', 'r', 'n', '0'], quoteChar c = ['\\', sign]) ∨
      quoteChar c = ['\\', 'u', '\x7b'] ++ Nat.toDigits 16 c.toNat ++ ['\x7d'] := by
  unfold quoteChar codeEscape
  split_ifs <;> simp [*]

theorem not_isControl_of_mem_quoteChar {c shown : Char} (mem : shown ∈ quoteChar c) :
    ¬IsControl shown := by
  have signs :
      ControlFree (String.ofList ['"', '\\', 't', 'r', 'n', '0', 'u', '\x7b', '\x7d']) := by
    decide
  simp only [ControlFree, String.toList_ofList, List.forall_mem_cons] at signs
  rcases quoteChar_cases c with ⟨printable, same⟩ | ⟨sign, known, same⟩ | same <;>
    simp only [same, List.mem_append, List.mem_cons, List.not_mem_nil, or_false] at mem
  · exact mem ▸ not_isControl_of_isPrintable printable
  · simp only [List.mem_cons, List.not_mem_nil, or_false] at known
    rcases mem with rfl | rfl
    · exact signs.2.1
    · rcases known with rfl | rfl | rfl | rfl | rfl | rfl <;> simp only [signs, not_false_eq_true]
  · rcases mem with ((rfl | rfl | rfl) | digits) | rfl
    case inl.inr => exact not_isControl_of_mem_toDigits digits
    all_goals simp only [signs, not_false_eq_true]

theorem controlFree_quoted (text : String) : ControlFree (quoted text) := by
  intro c mem
  rw [quoted, String.toList_ofList, List.mem_append, List.mem_cons, List.mem_flatMap,
    List.mem_singleton] at mem
  have quote : ¬IsControl '"' := by decide
  rcases mem with (rfl | ⟨original, -, shown⟩) | rfl
  · exact quote
  · exact not_isControl_of_mem_quoteChar shown
  · exact quote

end Text

/-! ### Failures -/

namespace Failure

/-- The texts that stand in the message of a failure as they are. -/
def bareTexts : Failure → List String
  | .invalidArgument key _ field reason => [key, field, reason]
  | .unknownField field => [field]
  | .unsettable field => [field]
  | .typeMismatch field _ expected => [expected.text, field]
  | .unsupportedType field typeName => [typeName, field]
  | .unsupportedLocation field _ => [field]
  | .invalidLocation field _ => [field]
  | .notFound field _ => [field]
  | .emptyName field => [field]
  | .malformedRequest part reason => [part, reason]

def ControlFree (failure : Failure) : Prop := ∀ text ∈ failure.bareTexts, Text.ControlFree text

/-- Only a text that a message shows as it is can bring a control character into it. -/
theorem controlFree_message {failure : Failure} :
    Text.ControlFree failure.message ↔ failure.ControlFree := by
  have words : ∀ word ∈ ["invalid ", " literal ", " for field '", "': ", "unknown field '", "'",
      "field '", "' cannot be set", "cannot convert ", " to ", "unsupported type '",
      "' for field '", "parameter kind ", " not supported for field '", "invalid parameter kind ",
      "parameter ", "' not found in path", "' has an annotation without a name", "malformed ",
      ": "], Text.ControlFree word := by decide
  simp only [List.forall_mem_cons] at words
  unfold message ControlFree bareTexts
  cases failure <;>
    simp only [Text.controlFree_append, Text.controlFree_quoted, words, true_and, and_true,
      List.forall_mem_cons, List.not_mem_nil, false_implies, implies_true, and_assoc]

end Failure

/-- Whether a result, if it is a failure, is one whose message holds no control character. -/
def EndsControlFree {α : Type} (result : Except Failure α) : Prop :=
  ∀ failure, result = .error failure → failure.ControlFree

section Results

variable {α β : Type}

theorem endsControlFree_ok (value : α) : EndsControlFree (.ok value : Except Failure α) := by
  intro failure ended
  simp at ended

theorem endsControlFree_error {failure : Failure} (free : failure.ControlFree) :
    EndsControlFree (.error failure : Except Failure α) := by
  intro other ended
  exact Except.error.inj ended ▸ free

theorem EndsControlFree.bind {first : Except Failure α} {next : α → Except Failure β}
    (free : EndsControlFree first)
    (behind : ∀ value, first = .ok value → EndsControlFree (next value)) :
    EndsControlFree (first >>= next) := by
  cases first with
  | error failure => exact endsControlFree_error (free failure rfl)
  | ok value => exact behind value rfl

theorem EndsControlFree.map {first : Except Failure α} (free : EndsControlFree first)
    (f : α → β) : EndsControlFree (first.map f) := by
  cases first with
  | error failure => exact endsControlFree_error (free failure rfl)
  | ok value => exact endsControlFree_ok (f value)

theorem endsControlFree_mapM {f : α → Except Failure β} {items : List α}
    (free : ∀ item ∈ items, EndsControlFree (f item)) : EndsControlFree (items.mapM f) := by
  intro failure ended
  obtain ⟨before, item, after, -, rfl, -, refused⟩ := mapM_eq_error_iff.mp ended
  exact free item (by simp) failure refused

end Results

/-! ### Annotated fields -/

def FieldType.ControlFree (type : FieldType) : Prop :=
  ∀ typeName, type = .unsupported typeName → Text.ControlFree typeName

theorem FieldType.controlFree_text {type : FieldType} (free : type.ControlFree) :
    Text.ControlFree type.text := by
  cases type with
  | unsupported typeName => exact free typeName rfl
  | int | bool | string => decide

theorem endsControlFree_coerce {field : String} {type : FieldType}
    (named : Text.ControlFree field) (typed : type.ControlFree) (raw : String) :
    EndsControlFree (coerce field type raw) := by
  have refused : (Failure.typeMismatch field raw type).ControlFree := by
    simp [Failure.ControlFree, Failure.bareTexts, named, FieldType.controlFree_text typed]
  unfold coerce
  split
  · refine endsControlFree_error ?_
    simp [Failure.ControlFree, Failure.bareTexts, named, typed _ rfl]
  · split
    · exact endsControlFree_ok _
    · exact endsControlFree_error refused

namespace Descriptor

variable {descriptor : Descriptor} (named : Text.ControlFree descriptor.field)
  (typed : descriptor.type.ControlFree)

include named

theorem endsControlFree_invalidLiteral {α : Type} {key reason : String}
    (known : Text.ControlFree key) (said : Text.ControlFree reason) (literal : String) :
    EndsControlFree
      (.error (descriptor.invalidLiteral key literal reason) : Except Failure α) := by
  refine endsControlFree_error ?_
  simp [invalidLiteral, Failure.ControlFree, Failure.bareTexts, named, known, said]

theorem endsControlFree_required (location : Location) :
    EndsControlFree (descriptor.required location) := by
  unfold required requiredMark
  simp only
  split_ifs with path absent
  · exact endsControlFree_ok _
  · exact endsControlFree_ok _
  · split
    · exact endsControlFree_ok _
    · exact endsControlFree_invalidLiteral named (by decide) (by decide) _

theorem endsControlFree_minimum : EndsControlFree descriptor.minimum := by
  unfold minimum
  simp only
  split_ifs with absent
  · exact endsControlFree_ok _
  · split
    · exact endsControlFree_invalidLiteral named (by decide) (by decide) _
    · split_ifs with finite
      · exact endsControlFree_ok _
      · exact endsControlFree_invalidLiteral named (by decide) (by decide) _
    · exact endsControlFree_invalidLiteral named (by decide) (by decide) _

include typed

/-- The reason that an example is refused for is a message in which the literal is quoted again. -/
theorem endsControlFree_exampleValue : EndsControlFree descriptor.exampleValue := by
  unfold exampleValue
  simp only
  split_ifs with absent
  · exact endsControlFree_ok _
  · split
    · exact endsControlFree_ok _
    · rename_i failure refused
      have free := endsControlFree_coerce named typed descriptor.literals.exampleText _ refused
      exact endsControlFree_invalidLiteral named (by decide)
        (Failure.controlFree_message.mpr free) _

theorem endsControlFree_describe : EndsControlFree descriptor.describe := by
  have placed : EndsControlFree descriptor.documentedLocation := by
    unfold documentedLocation
    split
    · exact endsControlFree_ok _
    · exact endsControlFree_error (by simp [Failure.ControlFree, Failure.bareTexts, named])
  have schemed : EndsControlFree descriptor.schema := by
    unfold Descriptor.schema
    split
    case h_4 typeName declared =>
      refine endsControlFree_error ?_
      simp [Failure.ControlFree, Failure.bareTexts, named, typed typeName declared]
    all_goals exact endsControlFree_ok _
  exact placed.bind fun location _ => schemed.bind fun schema _ =>
    (endsControlFree_exampleValue named typed).bind fun shown _ =>
      (endsControlFree_required named location).bind fun needed _ =>
        (endsControlFree_minimum named).bind fun least _ => endsControlFree_ok _

theorem endsControlFree_target : EndsControlFree descriptor.target := by
  unfold Descriptor.target Descriptor.location
  cases descriptor.location? with
  | none => exact endsControlFree_error (by simp [Failure.ControlFree, Failure.bareTexts, named])
  | some location =>
    cases declared : descriptor.type with
    | unsupported typeName =>
      refine endsControlFree_error ?_
      simp [Failure.ControlFree, Failure.bareTexts, named, typed typeName declared]
    | int | bool | string => exact endsControlFree_ok _

omit typed

theorem endsControlFree_treat {α : Type} {treatment : Descriptor → Except Failure α}
    (free : EndsControlFree (treatment descriptor)) (policy : EmptyNamePolicy) :
    EndsControlFree (policy.treat treatment descriptor) := by
  unfold EmptyNamePolicy.treat
  split_ifs with nameless
  · cases policy with
    | skip => exact endsControlFree_ok _
    | reject =>
      exact endsControlFree_error (by simp [Failure.ControlFree, Failure.bareTexts, named])
  · exact free.map some

end Descriptor

/-! ### Record types -/

def RecordType.ControlFree (type : RecordType) : Prop :=
  ∀ registration ∈ type, Text.ControlFree registration.name ∧ registration.type.ControlFree

section RecordTypes

variable {type : RecordType} (free : type.ControlFree)

include free

theorem RecordType.controlFree_of_mem_descriptors {descriptor : Descriptor}
    (mem : descriptor ∈ type.descriptors) :
    Text.ControlFree descriptor.field ∧ descriptor.type.ControlFree := by
  obtain ⟨registration, known, -, field, declared⟩ := exists_of_mem_descriptors mem
  rw [field, declared]
  exact free registration known

theorem endsControlFree_describeAll (policy : EmptyNamePolicy) :
    EndsControlFree (describeAll policy type.descriptors).result := by
  rw [result_describeAll]
  refine (endsControlFree_mapM fun descriptor mem => ?_).map _
  obtain ⟨named, typed⟩ := RecordType.controlFree_of_mem_descriptors free mem
  exact Descriptor.endsControlFree_treat named
    (Descriptor.endsControlFree_describe named typed) policy

theorem endsControlFree_plan (policy : EmptyNamePolicy) :
    EndsControlFree (plan policy type.descriptors).result := by
  rw [result_plan]
  refine (endsControlFree_mapM fun descriptor mem => ?_).map _
  obtain ⟨named, typed⟩ := RecordType.controlFree_of_mem_descriptors free mem
  exact Descriptor.endsControlFree_treat named
    (Descriptor.endsControlFree_target named typed) policy

theorem RecordType.endsControlFree_coerce {field : String} (named : Text.ControlFree field)
    (raw : String) : EndsControlFree (type.coerce field raw) := by
  have said {failure : Failure} (only : failure.bareTexts = [field]) : failure.ControlFree := by
    simp [Failure.ControlFree, only, named]
  unfold coerce
  split
  · exact endsControlFree_error (said rfl)
  · rename_i registration found
    obtain ⟨-, typed⟩ := free registration (mem_of_get? found)
    split
    · rename_i typeName declared
      refine endsControlFree_error ?_
      simp [Failure.ControlFree, Failure.bareTexts, named, typed typeName declared]
    · split_ifs with settable
      · exact RequestParams.endsControlFree_coerce named typed raw
      · exact endsControlFree_error (said rfl)

omit free

theorem Target.endsControlFree_resolve {target : Target} (named : Text.ControlFree target.field)
    (request : Request) : EndsControlFree (target.resolve (Source.ofRequest request)) := by
  unfold Target.resolve RequestParams.resolve
  cases target.location with
  | query | header | cookie => exact endsControlFree_ok _
  | path =>
    simp only
    split
    · exact endsControlFree_ok _
    · exact endsControlFree_error (by
        simp [Failure.ofField, Failure.ControlFree, Failure.bareTexts, named])

include free

theorem endsControlFree_readAll (request : Request) (policy : EmptyNamePolicy) :
    EndsControlFree (readAll type (Source.ofRequest request) policy).result := by
  rw [readAll, Journal.result_bind]
  refine (endsControlFree_plan free policy).bind fun targets planned => ?_
  rw [result_readTargets]
  refine endsControlFree_mapM fun target mem => ?_
  obtain ⟨registration, known, same⟩ := registered_of_mem_plan planned mem
  have named : Text.ControlFree target.field := same ▸ (free registration known).1
  rw [result_readTarget]
  exact (Target.endsControlFree_resolve named request).bind fun raw _ =>
    (RecordType.endsControlFree_coerce free named raw).bind fun value _ => endsControlFree_ok _

theorem endsControlFree_decode (request : Request) (options : DecodeOptions) (start : Record) :
    EndsControlFree (decode type (Source.ofRequest request) options start).journal.result := by
  cases read : (readAll type (Source.ofRequest request) options.emptyName).result with
  | error failure =>
    rw [(decode_of_readAll_error read start).2]
    exact endsControlFree_error (endsControlFree_readAll free request _ failure read)
  | ok values =>
    rw [(decode_of_readAll_ok read start).2]
    rcases type.accepted_or_first_rejected values with
      accepted | ⟨before, field, value, after, failure, rfl, accepted, rejected⟩
    · rw [(RecordType.writeAll_of_accepted accepted start).2]
      exact endsControlFree_ok ()
    · rw [(RecordType.writeAll_of_rejected accepted rejected after start).2]
      obtain ⟨targets, -, found⟩ := readAll_eq_ok_iff.mp read
      obtain ⟨raw, coerced⟩ := coerced_of_readTargets found (field, value) (by simp)
      obtain ⟨registration, known, -, rfl⟩ := RecordType.rejects?_of_coerce coerced rejected
      obtain ⟨named, typed⟩ := free registration (RecordType.mem_of_get? known)
      rw [RecordType.name_of_get? known] at named
      refine endsControlFree_error ?_
      simp [Failure.ControlFree, Failure.bareTexts, named, FieldType.controlFree_text typed]

end RecordTypes

/-- Whether the body of a failure has a message, and neither that nor the message of the failure
holds a control character. -/
def Failure.ShowsNoControl (failure : Failure) : Prop :=
  Text.ControlFree failure.message ∧
    ∃ members text, failure.body = .object members ∧
      members.lookup "message" = some (.string text) ∧ Text.ControlFree text

theorem Failure.showsNoControl_iff {failure : Failure} :
    failure.ShowsNoControl ↔ failure.ControlFree := by
  rw [← controlFree_message]
  constructor
  · exact And.left
  · intro free
    exact ⟨free, _, failure.message, rfl, rfl, free⟩

/-- Where neither the names of fields nor those of their types hold a control character, no failure
to decode a request or to describe the fields shows one, whatever the annotations and the request
hold. -/
theorem failures_show_no_control {type : RecordType}
    (named : ∀ registration ∈ type, Text.ControlFree registration.name)
    (typed : ∀ registration ∈ type, ∀ typeName, registration.type = .unsupported typeName →
      Text.ControlFree typeName) :
    (∀ (request : Request) (options : DecodeOptions) (start : Record) (failure : Failure),
      (decode type (Source.ofRequest request) options start).journal.result = .error failure →
        failure.ShowsNoControl) ∧
    ∀ (options : DescribeOptions) (failure : Failure),
      (describeAll options.emptyName type.descriptors).result = .error failure →
        failure.ShowsNoControl := by
  have free : type.ControlFree := fun registration mem =>
    ⟨named registration mem, typed registration mem⟩
  simp only [Failure.showsNoControl_iff]
  exact ⟨fun request options start => endsControlFree_decode free request options start,
    fun options => endsControlFree_describeAll free options.emptyName⟩

def ringingField : RecordType :=
  [⟨"id", .int, some "name: id; kind: query; example: 1\x07", .int⟩]

theorem failures_show_no_control_ringingField :
    let request : Request := { uri := ⟨"/", some "id=%0A%1B%00"⟩ }
    let unread := Failure.typeMismatch "id" "\n\x1b\x00" .int
    let undocumented := Failure.invalidArgument "example" "1\x07" "id"
      "cannot convert \"1\\u\x7b7\x7d\" to int for field 'id'"
    (∀ registration ∈ ringingField, Text.ControlFree registration.name) ∧
      (decode ringingField (Source.ofRequest request) {} ringingField.initial).journal.result =
        .error unread ∧
      unread.ShowsNoControl ∧
      unread.message = "cannot convert \"\\n\\u\x7b1b\x7d\\0\" to int for field 'id'" ∧
      (describeAll .reject ringingField.descriptors).result = .error undocumented ∧
      undocumented.ShowsNoControl := by
  intro request unread undocumented
  have named : ∀ registration ∈ ringingField, Text.ControlFree registration.name := by decide
  have typed : ∀ registration ∈ ringingField, ∀ typeName,
      registration.type = .unsupported typeName → Text.ControlFree typeName := by
    simp [ringingField]
  have mismatch : (decode ringingField (Source.ofRequest request) {}
      ringingField.initial).journal.result = .error unread := by decide +kernel
  have refused : (describeAll .reject ringingField.descriptors).result = .error undocumented := by
    rw [← failure?_eq_some_iff]
    decide +kernel
  obtain ⟨decoding, describing⟩ := failures_show_no_control named typed
  exact ⟨named, mismatch, decoding request {} _ _ mismatch, by decide +kernel, refused,
    describing {} _ refused⟩

end RequestParams
