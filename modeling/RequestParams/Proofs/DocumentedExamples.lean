import RequestParams.Proofs.DecodedFields
import RequestParams.Proofs.DescribedParameters
import RequestParams.Proofs.IntegerTexts

set_option autoImplicit false
set_option relaxedAutoImplicit false

/-!
Documented examples as texts of requests.  The example of a field is decoded to the value that is
documented, be it sent as the annotation has it or as the value is written plainly; a literal that
decoding would refuse for its type is not documented.
-/

namespace RequestParams

open Http (Source)

theorem Value.toJson_injective : Function.Injective Value.toJson := by
  intro value other same
  cases value <;> cases other <;>
    simp_all [Value.toJson, Json.ofInt, Int64.toInt_inj]

theorem text_of_resolve {source : Source} {name raw : String} {location : Location}
    (found : resolve source name location = .ok raw) : source.text name location = raw := by
  cases location with
  | header | cookie => exact Except.ok.inj found
  | path =>
    unfold resolve at found
    cases captured : source.capture name <;> simp_all [Source.text]
  | query =>
    unfold resolve at found
    cases asked : source.query name <;> simp_all [Source.text]

theorem mem_of_firstFailure {checks : List (Option Failure)} {failure : Failure}
    (first : firstFailure checks = some failure) : some failure ∈ checks := by
  obtain ⟨check, mem, rfl⟩ := List.exists_of_findSome?_eq_some first
  exact mem

section Mismatch

variable {type : RecordType} {source : Source} {field text : String} {expected : FieldType}

theorem check_ne_mismatch (type : FieldType) (other : String) :
    some (.typeMismatch field text expected) ≠ type.check other := by
  cases type <;> simp [FieldType.check]

theorem mismatch_notMem_firstPass (policy : EmptyNamePolicy) :
    some (.typeMismatch field text expected) ∉ type.firstPass policy := by
  intro mem
  obtain ⟨descriptor, -, check⟩ := List.mem_flatMap.mp mem
  unfold Descriptor.checks at check
  split at check
  · simp at check
  · simp [check_ne_mismatch] at check

theorem exists_of_mismatch_mem_secondPass (malformed : source.FailsAsMalformed)
    (mem : some (.typeMismatch field text expected) ∈ type.secondPass source) :
    ∃ descriptor ∈ type.descriptors, ∃ target registration,
      descriptor.target? = some target ∧ target.field = field ∧
        type.get? field = some registration ∧ registration.type = expected ∧
        source.text target.parameter target.location = text ∧
        registration.type.readValue text = none := by
  obtain ⟨target, planned, check⟩ := List.mem_flatMap.mp mem
  obtain ⟨descriptor, described, aimed⟩ := List.mem_filterMap.mp planned
  rcases List.mem_cons.mp check with asked | taken
  · unfold Target.requestCheck at asked
    split at asked
    · cases query : source.query target.parameter with
      | ok found => simp [query] at asked
      | error failure =>
        obtain ⟨part, reason, rfl⟩ := malformed _ _ query
        simp [query] at asked
    · split at asked <;> simp at asked
    · simp at asked
    · simp at asked
  · split at taken
    · rename_i registration found
      simp only [Target.fieldChecks, List.mem_cons, List.not_mem_nil, or_false] at taken
      rcases taken with unsupported | unset | unread
      · exact absurd unsupported (check_ne_mismatch _ _)
      · split at unset <;> simp at unset
      · split at unread
        · rename_i none
          simp only [Option.some.injEq, Failure.typeMismatch.injEq] at unread
          obtain ⟨rfl, rfl, rfl⟩ := unread
          exact ⟨descriptor, described, target, registration, aimed, rfl, found, rfl, rfl, none⟩
        · simp at unread
    · simp at taken

theorem exists_of_decode_mismatch {options : DecodeOptions} {start : Record}
    (agree : ∀ registration ∈ type, registration.Agrees) (malformed : source.FailsAsMalformed)
    (failed : (decode type source options start).journal.result =
      .error (.typeMismatch field text expected)) :
    ∃ descriptor ∈ type.descriptors, ∃ target registration,
      firstFailure (descriptor.checks options.emptyName) = none ∧
        descriptor.target? = some target ∧ target.field = field ∧
        type.get? field = some registration ∧ registration.type = expected ∧
        source.text target.parameter target.location = text ∧
        registration.type.readValue text = none := by
  rw [← failure?_eq_some_iff, failure?_decode agree, failure?_readAll malformed,
    firstFailure_append] at failed
  cases first : firstFailure (type.firstPass options.emptyName) with
  | some failure =>
    obtain rfl : failure = .typeMismatch field text expected := by simpa [first] using failed
    exact absurd (mem_of_firstFailure first) (mismatch_notMem_firstPass _)
  | none =>
    rw [first, Option.none_or] at failed
    obtain ⟨descriptor, described, target, registration, second⟩ :=
      exists_of_mismatch_mem_secondPass malformed (mem_of_firstFailure failed)
    exact ⟨descriptor, described, target, registration,
      firstFailure_flatMap_eq_none.mp first descriptor described, second⟩

end Mismatch

namespace Descriptor

variable {descriptor : Descriptor}

theorem eq_of_target? {target : Target} (aimed : descriptor.target? = some target) :
    descriptor.literals.name ≠ "" ∧ target.field = descriptor.field ∧
      target.parameter = descriptor.literals.name ∧
      descriptor.location? = some target.location := by
  unfold target? at aimed
  split at aimed
  · simp at aimed
  · rename_i named
    obtain ⟨location, known, rfl⟩ := Option.map_eq_some_iff.mp aimed
    exact ⟨named, rfl, rfl, known⟩

theorem exists_value_of_describe {parameter : Parameter} {json : Json}
    (described : descriptor.describe = .ok parameter)
    (shown : parameter.exampleValue = some json) :
    ∃ value : Value, value.toJson = json ∧
      descriptor.type.readValue descriptor.literals.exampleText = some value := by
  have documents := documents_of_describe described
  rw [documents.shown] at shown
  split at shown
  · simp at shown
  · obtain ⟨value, read, same⟩ := Option.map_eq_some_iff.mp shown
    exact ⟨value, same, read⟩

theorem describe_of_unread {location : Location} (known : descriptor.location? = some location)
    (supported : descriptor.type.check descriptor.field = none)
    (present : descriptor.literals.exampleText ≠ "")
    (unread : descriptor.type.readValue descriptor.literals.exampleText = none) :
    descriptor.describe = .error (.invalidArgument "example" descriptor.literals.exampleText
      descriptor.field (Failure.typeMismatch descriptor.field descriptor.literals.exampleText
        descriptor.type).message) := by
  have placed : descriptor.kindCheck = none :=
    if_pos (kind_mem_kinds_iff.mpr ⟨location, Location.text_of_read? known⟩)
  rw [← failure?_eq_some_iff, failure?_describe]
  simp [documentChecks, placed, supported, exampleCheck, present, unread]

end Descriptor

section Field

variable {type : RecordType} {source : Source} {options : DecodeOptions} {start : Record}
  {registration : Registration} {descriptor : Descriptor} {raw : String} {location : Location}

/-- Where names are distinct, the only text that decoding can refuse for the type of a field is the
one that the request has for the field's own parameter. -/
theorem readValue_of_decode_mismatch (distinct : (type.map Registration.name).Nodup)
    (agree : ∀ registration ∈ type, registration.Agrees) (malformed : source.FailsAsMalformed)
    (registered : registration ∈ type) (annotated : registration.descriptor? = some descriptor)
    (known : descriptor.location? = some location)
    (resolved : resolve source descriptor.literals.name location = .ok raw) {text : String}
    {expected : FieldType}
    (failed : (decode type source options start).journal.result =
      .error (.typeMismatch registration.name text expected)) :
    descriptor.type.check descriptor.field = none ∧ descriptor.type.readValue raw = none := by
  obtain ⟨other, described, target, taker, passed, aimed, same, taken, rfl, rfl, unread⟩ :=
    exists_of_decode_mismatch agree malformed failed
  obtain ⟨named, field, parameter, place⟩ := Descriptor.eq_of_target? aimed
  obtain ⟨owner, held, own, field', declared⟩ := RecordType.exists_of_mem_descriptors described
  -- The names tell that the field found by its name and the owner of the annotation are the field.
  obtain rfl : owner = registration :=
    List.inj_on_of_nodup_map distinct held registered (field'.symm.trans (field.symm.trans same))
  obtain rfl : other = descriptor := Option.some.inj (own.symm.trans annotated)
  obtain rfl : target.location = location := Option.some.inj (place.symm.trans known)
  obtain rfl : owner = taker :=
    Option.some.inj ((RecordType.get?_of_mem distinct registered).symm.trans taken)
  rw [parameter, text_of_resolve resolved, ← declared] at unread
  refine ⟨?_, unread⟩
  rw [Descriptor.checks, if_neg named] at passed
  simp only [firstFailure_cons, firstFailure_nil, Option.or_none, Option.or_eq_none_iff] at passed
  exact passed.2

end Field

/-- The example that is documented of a field is one value, and a request that has for the field
the literal of the example, or the plain text of the value, is decoded to that value: the text is
never refused for its type, and where decoding succeeds the field holds the value.  A literal that
would be refused so is not documented. -/
theorem documented_example_decodes {type : RecordType} {source : Source} (options : DecodeOptions)
    {start : Record} (distinct : (type.map Registration.name).Nodup)
    (agree : ∀ registration ∈ type, registration.Agrees) (malformed : source.FailsAsMalformed)
    (stored : start.length = type.length) {position : Nat} {registration : Registration}
    (held : type[position]? = some registration) {descriptor : Descriptor}
    (annotated : registration.descriptor? = some descriptor)
    (named : descriptor.isNameless = false) :
    (∀ parameter json, descriptor.describe = .ok parameter →
      parameter.exampleValue = some json →
      ∃ value : Value, (∀ other : Value, other.toJson = json ↔ other = value) ∧
        ∀ raw, resolve source parameter.name parameter.location = .ok raw →
          raw = descriptor.literals.exampleText ∨ raw = value.plainText →
          (∀ text expected, (decode type source options start).journal.result ≠
            .error (.typeMismatch registration.name text expected)) ∧
          ((decode type source options start).journal.result = .ok () →
            (decode type source options start).record[position]? = some (some value))) ∧
      ∀ location text expected, descriptor.location? = some location →
        descriptor.literals.exampleText ≠ "" →
        resolve source descriptor.literals.name location =
          .ok descriptor.literals.exampleText →
        (decode type source options start).journal.result =
          .error (.typeMismatch registration.name text expected) →
        descriptor.describe = .error (.invalidArgument "example"
          descriptor.literals.exampleText registration.name
          (Failure.typeMismatch registration.name descriptor.literals.exampleText
            registration.type).message) := by
  have registered : registration ∈ type := List.mem_of_getElem? held
  obtain ⟨_, _, rfl⟩ := Option.map_eq_some_iff.mp annotated
  constructor
  · intro parameter json described shown
    obtain ⟨value, rfl, read⟩ := Descriptor.exists_value_of_describe described shown
    have documents := Descriptor.documents_of_describe described
    have known := documents.placed ▸ parameter.location.read?_text
    refine ⟨value, fun other => Value.toJson_injective.eq_iff, fun raw resolved sent => ?_⟩
    have taken : registration.type.readValue raw = some value := by
      rcases sent with rfl | rfl
      · exact read
      · have plain := readValue_plainText value
        rwa [type_of_readValue read] at plain
    rw [documents.named] at resolved
    constructor
    · intro text expected failed
      have unread := (readValue_of_decode_mismatch distinct agree malformed registered annotated
        known resolved failed).2
      exact absurd (taken.symm.trans unread) (by simp)
    · intro succeeded
      obtain ⟨found, ⟨place, text, there, resolved', coerced⟩, here⟩ :=
        (getElem?_decode_of_nodup succeeded stored distinct held).2 _ annotated named
      obtain rfl : place = parameter.location := Option.some.inj (there.symm.trans known)
      obtain rfl : text = raw := Except.ok.inj (resolved'.symm.trans resolved)
      rw [coerce_eq_ok_iff, taken] at coerced
      rw [here, Option.some.inj coerced]
  · intro location text expected known present resolved failed
    obtain ⟨supported, unread⟩ := readValue_of_decode_mismatch distinct agree malformed registered
      annotated known resolved failed
    exact Descriptor.describe_of_unread known supported present unread

/-- Two integer fields with examples: one with a sign and zeros, and one that is no integer. -/
def exampleFields : RecordType :=
  [⟨"id", .int, some "name: id; kind: query; example: +007", .int⟩,
    ⟨"size", .int, some "name: size; kind: query; example: 1e3", .int⟩]

theorem documented_example_decodes_exampleFields :
    let id := Descriptor.read "id" .int "name: id; kind: query; example: +007"
    let size := Descriptor.read "size" .int "name: size; kind: query; example: 1e3"
    let attempt (query : String) := decode exampleFields (queried query) {} exampleFields.initial
    (exampleFields.map Registration.name).Nodup ∧
      (∀ registration ∈ exampleFields, registration.Agrees) ∧
      (∀ query, (queried query).FailsAsMalformed) ∧
      id.describe = .ok ⟨"id", .query, none, some (Json.ofInt 7), false, ⟨.integer, none⟩⟩ ∧
      (attempt "id=%2B007&size=2").record[0]? = some (some (.int 7)) ∧
      (∀ text expected, (attempt "id=7&size=1e3").journal.result ≠
        .error (.typeMismatch "id" text expected)) ∧
      (attempt "id=7&size=1e3").journal.result = .error (.typeMismatch "size" "1e3" .int) ∧
      size.describe = .error (.invalidArgument "example" "1e3" "size"
        "cannot convert \"1e3\" to int for field 'size'") := by
  intro id size attempt
  have distinct : (exampleFields.map Registration.name).Nodup := by decide
  have agree : ∀ registration ∈ exampleFields, registration.Agrees := by decide
  have malformed (query : String) : (queried query).FailsAsMalformed := by
    intro name failure asked
    simp [queried, Source.ofRequest] at asked
  have stored : exampleFields.initial.length = exampleFields.length := rfl
  have ids : id.literals = { name := "id", kind := "query", exampleText := "+007" } := by
    decide +kernel
  have sizes : size.literals = { name := "size", kind := "query", exampleText := "1e3" } := by
    decide +kernel
  have described : id.describe =
      .ok ⟨"id", .query, none, some (Json.ofInt 7), false, ⟨.integer, none⟩⟩ := by
    have read : FieldType.int.readValue "+007" = some (.int 7) := by decide +kernel
    rw [Descriptor.describe_eq_ok_iff]
    refine ⟨⟨?_, by decide, ?_, ?_, ?_⟩, ⟨?_, ?_, ?_, ?_, ?_, rfl, ?_⟩⟩ <;> rw [ids]
    · decide
    · exact .inr (by rw [show id.type = .int from rfl, read]; rfl)
    · decide
    · decide
    · decide
    · rfl
    · rw [show id.type = .int from rfl, read]
      rfl
    · decide
    · rfl
  have seven (query raw : String) (resolved : resolve (queried query) "id" .query = .ok raw)
      (sent : raw = "+007" ∨ raw = "7") :
      (∀ text expected, (attempt query).journal.result ≠
          .error (.typeMismatch "id" text expected)) ∧
        ((attempt query).journal.result = .ok () →
          (attempt query).record[0]? = some (some (.int 7))) := by
    have held : exampleFields[0]? =
        some ⟨"id", .int, some "name: id; kind: query; example: +007", .int⟩ := rfl
    have first := (documented_example_decodes {} distinct agree (malformed query) stored held
      (show _ = some id from rfl) (by simp [Descriptor.isNameless, ids])).1 _ _ described rfl
    have plain : (Value.int 7).plainText = "7" := by decide +kernel
    obtain ⟨value, unique, decodes⟩ := first
    obtain rfl := (unique (.int 7)).mp rfl
    rw [ids, plain] at decodes
    simp only [attempt]
    exact decodes raw resolved sent
  have refused : (attempt "id=7&size=1e3").journal.result =
      .error (.typeMismatch "size" "1e3" .int) := by decide +kernel
  have invalid := (documented_example_decodes {} distinct agree (malformed "id=7&size=1e3") stored
    (show exampleFields[1]? = some _ from rfl) (show _ = some size from rfl)
    (by simp [Descriptor.isNameless, sizes])).2 .query "1e3" .int
  have wording : (Failure.typeMismatch "size" "1e3" .int).message =
      "cannot convert \"1e3\" to int for field 'size'" := by decide +kernel
  rw [Descriptor.location?, sizes, wording] at invalid
  refine ⟨distinct, agree, malformed, described, ?_, ?_, refused, ?_⟩
  · exact (seven "id=%2B007&size=2" "+007" (by decide +kernel) (.inl rfl)).2 (by decide +kernel)
  · exact (seven "id=7&size=1e3" "7" (by decide +kernel) (.inr rfl)).1
  · exact invalid (by decide +kernel) (by decide) (by decide +kernel) refused

end RequestParams
