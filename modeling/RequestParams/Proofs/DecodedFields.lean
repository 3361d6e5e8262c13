import RequestParams.Proofs.AtomicDecoding
import RequestParams.Proofs.FirstMatch

set_option autoImplicit false
set_option relaxedAutoImplicit false

/-!
What a successful decoding leaves in a record.  Of the fields with one name the first is written,
and what is written is the parameter of the last annotation with a name; all other storage is left
alone, and so is the storage of fields that are registered besides.
-/

namespace RequestParams

open Http (Source)

/-!
### Fields without an annotation

A record type with one more of them, under a name of its own, decodes every request in the same way;
the storage of the others moves around it and its own is left alone.
-/

namespace RecordType

variable {before after : RecordType} {extra : Registration}

theorem descriptors_insert (unannotated : extra.annotationText = none) :
    descriptors (before ++ extra :: after) = descriptors (before ++ after) := by
  simp [descriptors, Registration.descriptor?, unannotated]

theorem get?_insert {field : String} (other : extra.name ≠ field) :
    get? (before ++ extra :: after) field = get? (before ++ after) field := by
  simp [get?, other]

theorem coerce_insert {field : String} (other : extra.name ≠ field) (raw : String) :
    coerce (before ++ extra :: after) field raw = coerce (before ++ after) field raw := by
  rw [coerce, coerce, get?_insert other]

theorem rejects?_insert {field : String} (other : extra.name ≠ field) (value : Value) :
    rejects? (before ++ extra :: after) field value = rejects? (before ++ after) field value := by
  rw [rejects?, rejects?, get?_insert other]

theorem write_insert (after : RecordType) {field : String} (other : extra.name ≠ field)
    (value : Value) {front : Record} (aligned : front.length = before.length)
    (held : Option Value) (back : Record) :
    ∃ front' back', front'.length = before.length ∧
      write (before ++ after) field value (front ++ back) = front' ++ back' ∧
      write (before ++ extra :: after) field value (front ++ held :: back) =
        front' ++ held :: back' := by
  have passed : (decide (extra.name = field)) = false := by simpa using other
  simp only [write, List.findIdx_append, List.findIdx_cons, passed, cond_false]
  generalize before.findIdx (fun registration => registration.name = field) = low
  generalize after.findIdx (fun registration => registration.name = field) = high
  by_cases early : low < before.length
  · have within : low < front.length := by omega
    refine ⟨front.set low (some value), back, by simpa using aligned, ?_, ?_⟩
    · rw [if_pos early, List.set_append, if_pos within]
    · rw [if_pos early, List.set_append, if_pos within]
  · have beyond : ¬high + before.length < front.length := by omega
    have further : ¬high + 1 + before.length < front.length := by omega
    have offset : high + before.length - front.length = high := by omega
    have shifted : high + 1 + before.length - front.length = high + 1 := by omega
    refine ⟨front, back.set high (some value), aligned, ?_, ?_⟩
    · rw [if_neg early, List.set_append, if_neg beyond, offset]
    · rw [if_neg early, List.set_append, if_neg further, shifted, List.set_cons_succ]

theorem writeAll_insert (after : RecordType) {values : List (String × Value)}
    (others : ∀ entry ∈ values, extra.name ≠ entry.1) {front : Record}
    (aligned : front.length = before.length) (held : Option Value) (back : Record) :
    ∃ front' back', front'.length = before.length ∧
      (writeAll (before ++ after) values (front ++ back)).record = front' ++ back' ∧
      writeAll (before ++ extra :: after) values (front ++ held :: back) =
        ⟨front' ++ held :: back', (writeAll (before ++ after) values (front ++ back)).journal⟩ := by
  induction values generalizing front back with
  | nil => exact ⟨front, back, aligned, rfl, rfl⟩
  | cons entry rest ih =>
    obtain ⟨field, value⟩ := entry
    obtain ⟨other, behind⟩ := List.forall_mem_cons.mp others
    cases refused : rejects? (before ++ after) field value with
    | some failure =>
      have also := (rejects?_insert other value).trans refused
      refine ⟨front, back, aligned, ?_, ?_⟩
      · simp [writeAll, tryAssign, assign, refused]
      · simp [writeAll, tryAssign, assign, refused, also]
    | none =>
      have also := (rejects?_insert other value).trans refused
      obtain ⟨front', back', same, here, there⟩ :=
        write_insert after other value aligned held back
      obtain ⟨front'', back'', length, last, ended⟩ := ih behind same back'
      refine ⟨front'', back'', length, ?_, ?_⟩
      · simpa [writeAll, tryAssign, assign, refused, here] using last
      · simp [writeAll, tryAssign, assign, refused, also, here, there, ended]

end RecordType

section Reading

variable {before after : RecordType} {extra : Registration} {source : Source}

theorem readTarget_insert {target : Target} (other : extra.name ≠ target.field) :
    readTarget (before ++ extra :: after) source target =
      readTarget (before ++ after) source target := by
  simp only [readTarget, RecordType.coerce_insert other]

variable {policy : EmptyNamePolicy} (unannotated : extra.annotationText = none)
  (new : extra.name ∉ (before ++ after).map Registration.name)

include unannotated new

theorem readAll_insert :
    readAll (before ++ extra :: after) source policy = readAll (before ++ after) source policy := by
  rw [readAll, readAll, RecordType.descriptors_insert unannotated]
  refine Journal.bind_congr fun targets planned => readTargets_congr fun target mem => ?_
  refine readTarget_insert fun same => ?_
  obtain ⟨registration, known, named⟩ := registered_of_mem_plan planned mem
  exact new (List.mem_map.mpr ⟨registration, known, named.trans same.symm⟩)

/-- Decoding goes as it does without the field: with the same result, the same events and the same
storage around that of the field. -/
theorem decode_insert (options : DecodeOptions) {front back : Record}
    (aligned : front.length = before.length) (held : Option Value) :
    ∃ front' back', front'.length = before.length ∧
      (decode (before ++ after) source options (front ++ back)).record = front' ++ back' ∧
      decode (before ++ extra :: after) source options (front ++ held :: back) =
        ⟨front' ++ held :: back',
          (decode (before ++ after) source options (front ++ back)).journal⟩ := by
  simp only [decode, readAll_insert unannotated new]
  cases read : (readAll (before ++ after) source options.emptyName).result with
  | error failure => exact ⟨front, back, aligned, rfl, rfl⟩
  | ok values =>
    obtain ⟨targets, planned, found⟩ := readAll_eq_ok_iff.mp read
    have others : ∀ entry ∈ values, extra.name ≠ entry.1 := by
      intro entry mem same
      obtain ⟨raw, coerced⟩ := coerced_of_readTargets found entry mem
      obtain ⟨registration, known, -⟩ := RecordType.coerce_eq_ok_iff.mp coerced
      refine new (List.mem_map.mpr ⟨registration, RecordType.mem_of_get? known, ?_⟩)
      exact (RecordType.name_of_get? known).trans same.symm
    obtain ⟨front', back', length, here, there⟩ :=
      RecordType.writeAll_insert after others aligned held back
    exact ⟨front', back', length, here, by simp only [there]⟩

end Reading

/-! ### Written fields -/

namespace RecordType

def IsFirst (type : RecordType) (position : Nat) : Prop :=
  ∀ registration, type[position]? = some registration →
    ∀ earlier < position, ∀ other, type[earlier]? = some other → other.name ≠ registration.name

/-- The last annotation of the fields with a name that names a parameter. -/
def lastNamed? (type : RecordType) (field : String) : Option Descriptor :=
  (type.descriptors.filter (!·.isNameless)).reverse.find? (·.field = field)

end RecordType

/-- Whether a value is what a request has for an annotated field, coerced to a declared type. -/
def Descriptor.Reads (descriptor : Descriptor) (source : Source) (declared : FieldType)
    (value : Value) : Prop :=
  ∃ location text, descriptor.location? = some location ∧
    RequestParams.resolve source descriptor.literals.name location = .ok text ∧
    coerce descriptor.field declared text = .ok value

variable {type : RecordType} {source : Source}

section Writes

theorem decode_eq_ok_iff {options : DecodeOptions} {start : Record} :
    (decode type source options start).journal.result = .ok () ↔
      ∃ values, (readAll type source options.emptyName).result = .ok values ∧
        ∀ entry ∈ values, type.rejects? entry.1 entry.2 = none := by
  cases read : (readAll type source options.emptyName).result with
  | error failure => simp [(decode_of_readAll_error read start).2]
  | ok values =>
    rw [(decode_of_readAll_ok read start).2]
    constructor
    · intro succeeded
      rcases type.accepted_or_first_rejected values with
        accepted | ⟨before, field, value, after, failure, rfl, accepted, rejected⟩
      · exact ⟨values, rfl, accepted⟩
      · have stopped := (RecordType.writeAll_of_rejected accepted rejected after start).2
        exact absurd (succeeded.symm.trans stopped) (by simp)
    · rintro ⟨_, same, accepted⟩
      obtain rfl := Except.ok.inj same
      exact (RecordType.writeAll_of_accepted accepted start).2

theorem record_decode {options : DecodeOptions} {values : List (String × Value)}
    (read : (readAll type source options.emptyName).result = .ok values)
    (accepted : ∀ entry ∈ values, type.rejects? entry.1 entry.2 = none) (start : Record) :
    (decode type source options start).record = type.writes values start :=
  (decode_of_readAll_ok read start).1.trans (RecordType.writeAll_of_accepted accepted start).1

theorem RecordType.writes_writes (type : RecordType) (values : List (String × Value))
    (start : Record) :
    type.writes values (type.writes values start) = type.writes values start := by
  refine List.ext_getElem? fun position => ?_
  simp only [getElem?_writes, Option.map_map]
  congr 1
  funext held
  cases type.lastWritten values position <;> rfl

end Writes

section Positions

theorem RecordType.isFirst_iff {position : Nat} {registration : Registration}
    (held : type[position]? = some registration) :
    type.IsFirst position ↔ type.index registration.name = position := by
  obtain ⟨bound, rfl⟩ := List.getElem?_eq_some_iff.mp held
  rw [index, List.findIdx_eq bound]
  constructor
  · intro first
    refine ⟨by simp, fun earlier before => ?_⟩
    simpa using first _ held earlier before _ (List.getElem?_eq_getElem (by omega))
  · rintro ⟨-, before⟩ registration here earlier less other there
    obtain ⟨within, rfl⟩ := List.getElem?_eq_some_iff.mp there
    obtain rfl := Option.some.inj (held.symm.trans here)
    simpa using before earlier less

theorem RecordType.get?_of_isFirst {position : Nat} {registration : Registration}
    (held : type[position]? = some registration) (first : type.IsFirst position) :
    type.get? registration.name = some registration := by
  obtain ⟨bound, rfl⟩ := List.getElem?_eq_some_iff.mp held
  refine List.find?_eq_some_iff_getElem.mpr ⟨by simp, position, bound, rfl, ?_⟩
  intro earlier before
  simpa using first _ held earlier before _ (List.getElem?_eq_getElem (by omega))

theorem RecordType.lastWritten_of_isFirst {position : Nat} {registration : Registration}
    (held : type[position]? = some registration) (first : type.IsFirst position)
    (values : List (String × Value)) :
    type.lastWritten values position =
      (values.reverse.find? (·.1 = registration.name)).map Prod.snd := by
  have here := (isFirst_iff held).mp first
  have same (name : String) : type.index name = position ↔ name = registration.name :=
    ⟨fun there => (name_of_index_eq there held).symm, fun named => named ▸ here⟩
  simp only [lastWritten, same]

theorem RecordType.lastWritten_of_not_isFirst {position : Nat} {registration : Registration}
    (held : type[position]? = some registration) (behind : ¬type.IsFirst position)
    (values : List (String × Value)) : type.lastWritten values position = none := by
  refine lastWritten_of_absent fun entry _ there => behind ?_
  rw [isFirst_iff held, name_of_index_eq there held]
  exact there

theorem RecordType.isFirst_of_nodup (distinct : (type.map Registration.name).Nodup)
    (position : Nat) : type.IsFirst position := by
  cases held : type[position]? with
  | none => simp [IsFirst, held]
  | some registration => exact (isFirst_iff held).mpr (index_eq_of_getElem? distinct held)

end Positions

section Reading

theorem Target.resolve_eq_ok_iff {target : Target} {text : String} :
    target.resolve source = .ok text ↔
      RequestParams.resolve source target.parameter target.location = .ok text := by
  unfold Target.resolve
  cases RequestParams.resolve source target.parameter target.location <;> simp [Except.mapError]

theorem Descriptor.reads_of_readTarget {descriptor : Descriptor} {target : Target}
    {entry : String × Value} (planned : descriptor.target = .ok target)
    (read : (readTarget type source target).result = .ok entry) :
    entry.1 = descriptor.field ∧
      ∃ registration, type.get? descriptor.field = some registration ∧
        descriptor.Reads source registration.type entry.2 := by
  obtain ⟨location, known, rfl⟩ := Descriptor.exists_of_target planned
  obtain ⟨same, text, resolved, coerced⟩ := readTarget_eq_ok_iff.mp read
  obtain ⟨registration, found, -, value⟩ := RecordType.coerce_eq_ok_iff.mp coerced
  exact ⟨same, registration, found, location, text, known,
    Target.resolve_eq_ok_iff.mp resolved, coerce_eq_ok_iff.mpr value⟩

theorem forall₂_of_readAll {policy : EmptyNamePolicy} {values : List (String × Value)}
    (read : (readAll type source policy).result = .ok values) :
    List.Forall₂ (fun descriptor entry => entry.1 = descriptor.field ∧
        ∃ registration, type.get? descriptor.field = some registration ∧
          descriptor.Reads source registration.type entry.2)
      (type.descriptors.filter (!·.isNameless)) values := by
  obtain ⟨targets, planned, found⟩ := readAll_eq_ok_iff.mp read
  obtain ⟨treated, passed, rfl⟩ := mapM_of_result_ok (result_plan policy _) planned
  rw [result_readTargets] at found
  rw [mapM_eq_ok_iff] at passed found
  clear planned read
  generalize type.descriptors = descriptors at passed ⊢
  -- A field that is passed over plans no target and has no value, so the three lists run together.
  induction passed generalizing values with
  | nil => simpa using found
  | @cons descriptor target rest others here _ ih =>
    unfold EmptyNamePolicy.treat at here
    cases nameless : descriptor.isNameless with
    | true =>
      obtain rfl : target = none := by
        cases policy <;> simp_all
      simpa [nameless] using ih (by simpa using found)
    | false =>
      obtain ⟨aim, aimed, rfl⟩ : ∃ aim, descriptor.target = .ok aim ∧ some aim = target := by
        cases aimed : descriptor.target <;> simp_all [Except.map]
      rw [List.reduceOption_cons_of_some] at found
      cases found with
      | cons first behind =>
        rw [List.filter_cons_of_pos (by simp [nameless])]
        exact .cons (Descriptor.reads_of_readTarget aimed first) (ih behind)

theorem find?_reverse_of_readAll {policy : EmptyNamePolicy} {values : List (String × Value)}
    (read : (readAll type source policy).result = .ok values) {registration : Registration}
    (found : type.get? registration.name = some registration) :
    match type.lastNamed? registration.name with
    | none => values.reverse.find? (·.1 = registration.name) = none
    | some descriptor => ∃ value,
        values.reverse.find? (·.1 = registration.name) = some (descriptor.field, value) ∧
          descriptor.Reads source registration.type value := by
  have backwards := List.forall₂_reverse_iff.mpr (forall₂_of_readAll read)
  rcases find?_of_forall₂ (p := fun descriptor => descriptor.field = registration.name)
      (q := fun entry => entry.1 = registration.name) backwards
      (fun descriptor entry same => by simp [same.1]) with
    ⟨absent, missing⟩ | ⟨descriptor, ⟨field, value⟩, last, here, rfl, first, known, reads⟩
  · simp only [RecordType.lastNamed?, absent]
    exact missing
  · simp only [RecordType.lastNamed?, last]
    refine ⟨value, here, ?_⟩
    have named : descriptor.field = registration.name := by simpa using List.find?_some last
    rw [named] at known
    obtain rfl := Option.some.inj (found.symm.trans known)
    exact reads

end Reading

section Names

variable {field : String} {descriptor : Descriptor}

theorem RecordType.mem_of_lastNamed? (last : type.lastNamed? field = some descriptor) :
    descriptor ∈ type.descriptors ∧ descriptor.isNameless = false ∧ descriptor.field = field := by
  have known := List.mem_reverse.mp (List.mem_of_find?_eq_some last)
  rw [List.mem_filter] at known
  exact ⟨known.1, by simpa using known.2, by simpa using List.find?_some last⟩

theorem RecordType.lastNamed?_isSome (known : descriptor ∈ type.descriptors)
    (named : descriptor.isNameless = false) :
    (type.lastNamed? descriptor.field).isSome = true := by
  rw [lastNamed?, List.find?_isSome]
  exact ⟨descriptor, List.mem_reverse.mpr (List.mem_filter.mpr ⟨known, by simp [named]⟩), by simp⟩

theorem RecordType.lastNamed?_of_nodup (distinct : (type.map Registration.name).Nodup)
    {registration : Registration} (mem : registration ∈ type) :
    type.lastNamed? registration.name = registration.descriptor?.filter (!·.isNameless) := by
  cases last : type.lastNamed? registration.name with
  | some found =>
    obtain ⟨known, named, same⟩ := mem_of_lastNamed? last
    obtain ⟨other, registered, own, here, -⟩ := exists_of_mem_descriptors known
    obtain rfl := List.inj_on_of_nodup_map distinct registered mem (here.symm.trans same)
    simp [own, Option.filter, named]
  | none =>
    cases own : registration.descriptor? with
    | none => rfl
    | some found =>
      obtain ⟨text, -, rfl⟩ := Option.map_eq_some_iff.mp own
      cases named : (Descriptor.read registration.name registration.type text).isNameless with
      | true => simp [Option.filter, named]
      | false =>
        have known : Descriptor.read registration.name registration.type text ∈
            type.descriptors := List.mem_filterMap.mpr ⟨registration, mem, own⟩
        have present := lastNamed?_isSome known named
        simp [Descriptor.read, last] at present

end Names

section Decoded

variable {options : DecodeOptions} {start : Record}
  (succeeded : (decode type source options start).journal.result = .ok ())

include succeeded

/-- What decoding leaves at the position of a field: what the request has for the last annotation of
its name, if the field is the first with the name and there is such an annotation, and otherwise
what it found there. -/
theorem getElem?_decode (stored : start.length = type.length) {position : Nat}
    {registration : Registration} (held : type[position]? = some registration) :
    (¬(type.IsFirst position ∧ (type.lastNamed? registration.name).isSome = true) →
      (decode type source options start).record[position]? = start[position]?) ∧
    (type.IsFirst position → ∀ descriptor, type.lastNamed? registration.name = some descriptor →
      ∃ value, descriptor.Reads source registration.type value ∧
        (decode type source options start).record[position]? = some (some value)) := by
  obtain ⟨values, read, accepted⟩ := decode_eq_ok_iff.mp succeeded
  rw [record_decode read accepted, RecordType.getElem?_writes]
  by_cases first : type.IsFirst position
  · rw [RecordType.lastWritten_of_isFirst held first]
    have last := find?_reverse_of_readAll read (RecordType.get?_of_isFirst held first)
    cases asked : type.lastNamed? registration.name with
    | none =>
      rw [asked] at last
      simp [last]
    | some descriptor =>
      rw [asked] at last
      obtain ⟨value, here, reads⟩ := last
      refine ⟨fun unasked => absurd ⟨first, rfl⟩ unasked, fun _ other same => ?_⟩
      obtain rfl := Option.some.inj same
      obtain ⟨bound, -⟩ := List.getElem?_eq_some_iff.mp held
      have present : start[position]? = some start[position] := List.getElem?_eq_getElem _
      exact ⟨value, reads, by simp [here, present]⟩
  · rw [RecordType.lastWritten_of_not_isFirst held first]
    exact ⟨fun _ => by simp, fun also => absurd also first⟩

theorem getElem?_decode_of_nodup (stored : start.length = type.length)
    (distinct : (type.map Registration.name).Nodup) {position : Nat}
    {registration : Registration} (held : type[position]? = some registration) :
    ((∀ descriptor ∈ registration.descriptor?, descriptor.isNameless = true) →
      (decode type source options start).record[position]? = start[position]?) ∧
    (∀ descriptor ∈ registration.descriptor?, descriptor.isNameless = false →
      ∃ value, descriptor.Reads source registration.type value ∧
        (decode type source options start).record[position]? = some (some value)) := by
  obtain ⟨kept, changed⟩ := getElem?_decode succeeded stored held
  have own := RecordType.lastNamed?_of_nodup distinct (List.mem_of_getElem? held)
  constructor
  · intro nameless
    refine kept ?_
    rintro ⟨-, asked⟩
    obtain ⟨descriptor, last⟩ := Option.isSome_iff_exists.mp asked
    rw [own, Option.filter_eq_some_iff] at last
    simp [nameless descriptor last.1] at last
  · intro descriptor annotated named
    refine changed (RecordType.isFirst_of_nodup distinct position) descriptor ?_
    rw [own, Option.mem_def.mp annotated]
    simp [Option.filter, named]

theorem exists_written : ∃ written : Nat → Option Value, ∀ other : Record,
    (decode type source options other).journal.result = .ok () ∧
      ∀ position : Nat, (decode type source options other).record[position]? =
        other[position]?.map fun held => (written position).or held := by
  obtain ⟨values, read, accepted⟩ := decode_eq_ok_iff.mp succeeded
  refine ⟨type.lastWritten values, fun other => ⟨?_, fun position => ?_⟩⟩
  · exact decode_eq_ok_iff.mpr ⟨values, read, accepted⟩
  · rw [record_decode read accepted, RecordType.getElem?_writes]

theorem decode_decode :
    (decode type source options (decode type source options start).record).journal.result =
        .ok () ∧
      (decode type source options (decode type source options start).record).record =
        (decode type source options start).record := by
  obtain ⟨values, read, accepted⟩ := decode_eq_ok_iff.mp succeeded
  refine ⟨decode_eq_ok_iff.mpr ⟨values, read, accepted⟩, ?_⟩
  rw [record_decode read accepted, record_decode read accepted, RecordType.writes_writes]

end Decoded

/-- Decoding that succeeds writes the first field of each name, with what the request has for the
name's last annotation with a parameter name, and nothing else.  Where names are distinct, each
named field so has its own parameter and every other field what it had.  The values that are
written are the same whatever the record held, so that a second decoding changes nothing; and
whatever the request, a field besides without an annotation makes no difference. -/
theorem decode_writes_named_fields (type : RecordType) (source : Source) (options : DecodeOptions)
    {start : Record} (stored : start.length = type.length) :
    ((decode type source options start).journal.result = .ok () →
      (∀ (position : Nat) (registration : Registration), type[position]? = some registration →
        (¬(type.IsFirst position ∧ (type.lastNamed? registration.name).isSome = true) →
          (decode type source options start).record[position]? = start[position]?) ∧
        (type.IsFirst position →
          ∀ descriptor, type.lastNamed? registration.name = some descriptor →
            ∃ value, descriptor.Reads source registration.type value ∧
              (decode type source options start).record[position]? = some (some value))) ∧
      ((type.map Registration.name).Nodup →
        ∀ (position : Nat) (registration : Registration), type[position]? = some registration →
          ((∀ descriptor ∈ registration.descriptor?, descriptor.isNameless = true) →
            (decode type source options start).record[position]? = start[position]?) ∧
          (∀ descriptor ∈ registration.descriptor?, descriptor.isNameless = false →
            ∃ value, descriptor.Reads source registration.type value ∧
              (decode type source options start).record[position]? = some (some value))) ∧
      (∃ written : Nat → Option Value, ∀ other : Record,
        (decode type source options other).journal.result = .ok () ∧
          ∀ position : Nat, (decode type source options other).record[position]? =
            other[position]?.map fun held => (written position).or held) ∧
      (decode type source options (decode type source options start).record).journal.result =
          .ok () ∧
        (decode type source options (decode type source options start).record).record =
          (decode type source options start).record) ∧
    ∀ before extra after front held back, type = before ++ after →
      extra.annotationText = none → extra.name ∉ type.map Registration.name →
      start = front ++ back → front.length = before.length →
      ∃ front' back', front'.length = before.length ∧
        (decode type source options start).record = front' ++ back' ∧
        decode (before ++ extra :: after) source options (front ++ held :: back) =
          ⟨front' ++ held :: back', (decode type source options start).journal⟩ := by
  constructor
  · intro succeeded
    exact ⟨fun position registration held => getElem?_decode succeeded stored held,
      fun distinct position registration held =>
        getElem?_decode_of_nodup succeeded stored distinct held,
      exists_written succeeded, decode_decode succeeded⟩
  · rintro before extra after front held back rfl unannotated new rfl aligned
    exact decode_insert unannotated new options aligned held

def repeatedFields : RecordType :=
  [⟨"id", .int, some "name: a; kind: query", .int⟩,
    ⟨"visits", .int, none, .int⟩,
    ⟨"id", .string, some "name: b; kind: query", .string⟩,
    ⟨"shown", .bool, some "kind: query", .bool⟩]

theorem decode_repeatedFields :
    let start : Record := [some (.int 9), some (.int 41), some (.string "x"), some (.bool true)]
    let source := queried "a=1&b=%2B7&b=8"
    let attempt := decode repeatedFields source {} start
    start.length = repeatedFields.length ∧ attempt.journal.result = .ok () ∧
      (∃ value, (Descriptor.read "id" .string "name: b; kind: query").Reads source .int value ∧
        attempt.record[0]? = some (some value)) ∧
      attempt.record[2]? = some (some (.string "x")) ∧
      attempt.record = [some (.int 7), some (.int 41), some (.string "x"), some (.bool true)] ∧
      (decode repeatedFields source {} attempt.record).record = attempt.record ∧
      (decode (⟨"extra", .bool, none, .bool⟩ :: repeatedFields) source {}
        (some (.bool false) :: start)).journal = attempt.journal := by
  intro start source attempt
  have stored : start.length = repeatedFields.length := rfl
  have succeeded : attempt.journal.result = .ok () := by decide +kernel
  have shown : attempt.record =
      [some (.int 7), some (.int 41), some (.string "x"), some (.bool true)] := by decide +kernel
  obtain ⟨writes, inserted⟩ := decode_writes_named_fields repeatedFields source {} stored
  obtain ⟨each, -, -, -, again⟩ := writes succeeded
  refine ⟨stored, succeeded, ?_, ?_, shown, again, ?_⟩
  · refine (each 0 _ rfl).2 ?_ _ (by decide +kernel)
    simp [RecordType.IsFirst]
  · refine (each 2 _ rfl).1 ?_
    rintro ⟨first, -⟩
    exact first _ rfl 0 (by decide) _ rfl rfl
  · obtain ⟨front, back, -, -, beside⟩ := inserted [] ⟨"extra", .bool, none, .bool⟩
      repeatedFields [] (some (.bool false)) start rfl rfl (by decide) rfl rfl
    have same := congrArg Attempt.journal beside
    exact same

end RequestParams
