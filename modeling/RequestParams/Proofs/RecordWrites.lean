import Mathlib.Data.List.Induction
import Mathlib.Data.List.Nodup
import RequestParams.Proofs.Traversal

set_option autoImplicit false
set_option relaxedAutoImplicit false

/-!
What decoding does to a record.  A coerced value has the declared type of the first field with its
name, so storage of that type takes it; writes are made in order up to the first that is refused.
-/

namespace RequestParams

/-- Whether a field has no storage that can be written, or the storage of its declared type. -/
def Registration.Agrees (registration : Registration) : Prop :=
  registration.slot = .readOnly ∨ registration.slot = Slot.ofType registration.type

instance (registration : Registration) : Decidable registration.Agrees :=
  inferInstanceAs (Decidable (_ ∨ _))

theorem Slot.accepts_ofType (value : Value) : (Slot.ofType value.type).accepts value = true := by
  cases value <;> rfl

theorem type_of_readValue {type : FieldType} {raw : String} {value : Value}
    (read : type.readValue raw = some value) : value.type = type := by
  cases type with
  | int | bool =>
    obtain ⟨_, _, rfl⟩ := Option.map_eq_some_iff.mp read
    rfl
  | string =>
    obtain rfl := Option.some.inj read
    rfl
  | unsupported typeName => simp [FieldType.readValue] at read

theorem coerce_eq_ok_iff {field : String} {type : FieldType} {raw : String} {value : Value} :
    coerce field type raw = .ok value ↔ type.readValue raw = some value := by
  cases type with
  | unsupported typeName => simp [coerce, FieldType.readValue]
  | int | bool | string =>
    unfold coerce
    simp only
    split <;> rename_i read <;> simp [read]

namespace RecordType

theorem mem_of_get? {type : RecordType} {field : String} {registration : Registration}
    (found : type.get? field = some registration) : registration ∈ type :=
  List.mem_of_find?_eq_some found

theorem name_of_get? {type : RecordType} {field : String} {registration : Registration}
    (found : type.get? field = some registration) : registration.name = field := by
  simpa using List.find?_some found

theorem exists_of_mem_descriptors {type : RecordType} {descriptor : Descriptor}
    (mem : descriptor ∈ type.descriptors) :
    ∃ registration ∈ type, registration.descriptor? = some descriptor ∧
      descriptor.field = registration.name ∧ descriptor.type = registration.type := by
  obtain ⟨registration, known, read⟩ := List.mem_filterMap.mp mem
  obtain ⟨text, _, rfl⟩ := Option.map_eq_some_iff.mp read
  exact ⟨registration, known, read, rfl, rfl⟩

theorem coerce_eq_ok_iff {type : RecordType} {field raw : String} {value : Value} :
    type.coerce field raw = .ok value ↔
      ∃ registration, type.get? field = some registration ∧ registration.isSettable = true ∧
        registration.type.readValue raw = some value := by
  unfold coerce
  cases found : type.get? field with
  | none => simp
  | some registration =>
    cases declared : registration.type with
    | unsupported typeName => simp [declared, FieldType.readValue]
    | int | bool | string =>
      simp only
      by_cases settable : registration.isSettable = true
      · simp [settable, RequestParams.coerce_eq_ok_iff, declared]
      · simp [settable, declared]

theorem rejects?_of_coerce {type : RecordType} {field raw : String} {value : Value}
    {failure : Failure} (coerced : type.coerce field raw = .ok value)
    (rejected : type.rejects? field value = some failure) :
    ∃ registration, type.get? field = some registration ∧ ¬registration.Agrees ∧
      failure = .typeMismatch field value.toJson.compact registration.type := by
  obtain ⟨registration, found, settable, read⟩ := coerce_eq_ok_iff.mp coerced
  have declared := type_of_readValue read
  simp only [rejects?, found, settable, if_true] at rejected
  split at rejected
  · simp at rejected
  · rename_i refused
    refine ⟨registration, found, ?_, (Option.some.inj rejected).symm⟩
    rintro (unset | same)
    · simp [Registration.isSettable, unset] at settable
    · rw [same, ← declared] at refused
      exact refused (Slot.accepts_ofType value)

def writes (type : RecordType) (values : List (String × Value)) (record : Record) : Record :=
  values.foldl (fun record (field, value) => type.write field value record) record

def index (type : RecordType) (field : String) : Nat :=
  type.findIdx fun registration => registration.name = field

theorem get?_of_mem {type : RecordType} (distinct : (type.map Registration.name).Nodup)
    {registration : Registration} (mem : registration ∈ type) :
    type.get? registration.name = some registration := by
  cases found : type.get? registration.name with
  | none =>
    have missing := List.find?_eq_none.mp found registration mem
    simp at missing
  | some other =>
    rw [List.inj_on_of_nodup_map distinct (mem_of_get? found) mem (name_of_get? found)]

theorem name_of_index_eq {type : RecordType} {field : String} {position : Nat}
    {registration : Registration} (here : type.index field = position)
    (held : type[position]? = some registration) :
    registration.name = field := by
  obtain ⟨bound, rfl⟩ := List.getElem?_eq_some_iff.mp held
  subst here
  exact of_decide_eq_true (List.findIdx_getElem (w := bound))

theorem index_eq_of_getElem? {type : RecordType} (distinct : (type.map Registration.name).Nodup)
    {position : Nat} {registration : Registration} (held : type[position]? = some registration) :
    type.index registration.name = position := by
  have mem : registration ∈ type := List.mem_of_getElem? held
  have bound : type.index registration.name < type.length :=
    List.findIdx_lt_length_of_exists ⟨registration, mem, by simp⟩
  have same := name_of_index_eq rfl (List.getElem?_eq_getElem bound)
  refine (List.getElem?_inj (by simpa using bound) distinct).mp ?_
  simp [List.getElem?_map, List.getElem?_eq_getElem bound, same, held]

def lastWritten (type : RecordType) (values : List (String × Value)) (position : Nat) :
    Option Value :=
  (values.reverse.find? fun entry => type.index entry.1 = position).map Prod.snd

theorem getElem?_writes (type : RecordType) (values : List (String × Value)) (record : Record)
    (position : Nat) :
    (type.writes values record)[position]? =
      record[position]?.map fun held => (type.lastWritten values position).or held := by
  induction values using List.reverseRecOn with
  | nil => simp [writes, lastWritten]
  | append_singleton earlier entry ih =>
    have last : type.writes (earlier ++ [entry]) record =
        (type.writes earlier record).set (type.index entry.1) (some entry.2) := by
      simp [writes, write, index]
    rw [last, List.getElem?_set', ih]
    by_cases here : type.index entry.1 = position
    · simp [lastWritten, here, Function.comp_def]
    · simp [lastWritten, here]

theorem lastWritten_of_agree {type : RecordType} {values : List (String × Value)}
    {position : Nat} {value : Value} {entry : String × Value} (present : entry ∈ values)
    (here : type.index entry.1 = position)
    (agree : ∀ entry ∈ values, type.index entry.1 = position → entry.2 = value) :
    type.lastWritten values position = some value := by
  unfold lastWritten
  cases found : values.reverse.find? fun entry => type.index entry.1 = position with
  | none =>
    have missing := List.find?_eq_none.mp found entry (List.mem_reverse.mpr present)
    simp [here] at missing
  | some last =>
    have mem := List.mem_reverse.mp (List.mem_of_find?_eq_some found)
    have same : type.index last.1 = position := by simpa using List.find?_some found
    simp [agree last mem same]

theorem lastWritten_of_absent {type : RecordType} {values : List (String × Value)}
    {position : Nat} (absent : ∀ entry ∈ values, type.index entry.1 ≠ position) :
    type.lastWritten values position = none := by
  have missing : (values.reverse.find? fun entry => type.index entry.1 = position) = none :=
    List.find?_eq_none.mpr (by simpa using absent)
  simp [lastWritten, missing]

theorem assign_of_rejects?_none {type : RecordType} {field : String} {value : Value}
    (accepted : type.rejects? field value = none) (record : Record) :
    type.assign field value record = .ok (type.write field value record) := by
  simp [assign, accepted]

theorem assign_of_rejects?_some {type : RecordType} {field : String} {value : Value}
    {failure : Failure} (rejected : type.rejects? field value = some failure) (record : Record) :
    type.assign field value record = .error failure := by
  simp [assign, rejected]

theorem accepted_or_first_rejected (type : RecordType) (values : List (String × Value)) :
    (∀ entry ∈ values, type.rejects? entry.1 entry.2 = none) ∨
      ∃ before field value after failure, values = before ++ (field, value) :: after ∧
        (∀ entry ∈ before, type.rejects? entry.1 entry.2 = none) ∧
        type.rejects? field value = some failure := by
  induction values with
  | nil => exact .inl (by simp)
  | cons entry rest ih =>
    cases refused : type.rejects? entry.1 entry.2 with
    | some failure => exact .inr ⟨[], entry.1, entry.2, rest, failure, rfl, by simp, refused⟩
    | none =>
      rcases ih with accepted | ⟨before, field, value, after, failure, rfl, accepted, rejected⟩
      · exact .inl (List.forall_mem_cons.mpr ⟨refused, accepted⟩)
      · exact .inr ⟨entry :: before, field, value, after, failure, rfl,
          List.forall_mem_cons.mpr ⟨refused, accepted⟩, rejected⟩

theorem writeAll_of_accepted {type : RecordType} {values : List (String × Value)}
    (accepted : ∀ entry ∈ values, type.rejects? entry.1 entry.2 = none) (record : Record) :
    (type.writeAll values record).record = type.writes values record ∧
      (type.writeAll values record).journal.result = .ok () := by
  induction values generalizing record with
  | nil => exact ⟨rfl, rfl⟩
  | cons entry rest ih =>
    obtain ⟨field, value⟩ := entry
    obtain ⟨taken, others⟩ := List.forall_mem_cons.mp accepted
    have assigned := assign_of_rejects?_none taken record
    simpa [writeAll, tryAssign, assigned, writes] using
      ih others (type.write field value record)

/-- Writing values fails at the first that storage refuses, with the writes before it made. -/
theorem writeAll_of_rejected {type : RecordType} {before : List (String × Value)}
    {field : String} {value : Value} {failure : Failure}
    (accepted : ∀ entry ∈ before, type.rejects? entry.1 entry.2 = none)
    (rejected : type.rejects? field value = some failure) (after : List (String × Value))
    (record : Record) :
    (type.writeAll (before ++ (field, value) :: after) record).record =
        type.writes before record ∧
      (type.writeAll (before ++ (field, value) :: after) record).journal.result =
        .error failure := by
  induction before generalizing record with
  | nil =>
    have refused := assign_of_rejects?_some rejected record
    simp [writeAll, tryAssign, refused, writes]
  | cons entry rest ih =>
    obtain ⟨other, earlier⟩ := entry
    obtain ⟨taken, others⟩ := List.forall_mem_cons.mp accepted
    have assigned := assign_of_rejects?_none taken record
    simpa [writeAll, tryAssign, assigned, writes] using
      ih others (type.write other earlier record)

end RecordType

end RequestParams
