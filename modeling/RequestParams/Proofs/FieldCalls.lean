import RequestParams.Proofs.DecodedFields

set_option autoImplicit false
set_option relaxedAutoImplicit false

/-!
Binding texts and assigning values to single fields.  A call writes the first field with its name or
fails and leaves the record alone; whether it succeeds does not depend on the record, so that calls
on different fields can change places and each field ends with what the last successful call on it
has written.
-/

namespace RequestParams

inductive Call where
  /-- A raw text is coerced and then written. -/
  | bind (field raw : String)
  | assign (field : String) (value : Value)
deriving DecidableEq

namespace Call

def field : Call → String
  | .bind field _ => field
  | .assign field _ => field

def attempt (type : RecordType) : Call → Record → Attempt
  | .bind field raw, record => type.tryBind field raw record
  | .assign field value, record => type.tryAssign field value record

def value? (registration : Registration) : Call → Option Value
  | .bind _ raw => registration.type.readValue raw
  | .assign _ value => some value

/-- The value that a call writes, if the first field with its name has storage for it. -/
def written? (type : RecordType) (call : Call) : Option Value :=
  (type.get? call.field).bind fun registration =>
    (call.value? registration).filter registration.slot.accepts

end Call

structure CallRun where
  /-- How each call has ended, in order. -/
  results : List (Except Failure Unit)
  record : Record

namespace RecordType

def run (type : RecordType) : List Call → Record → CallRun
  | [], record => ⟨[], record⟩
  | call :: rest, record =>
    let first := call.attempt type record
    let others := run type rest first.record
    ⟨first.journal.result :: others.results, others.record⟩

def lastSuccess? (type : RecordType) (field : String) (calls : List Call) (start : Record) :
    Option Call :=
  ((calls.zip (type.run calls start).results).reverse.find? fun (call, result) =>
    call.field = field ∧ result = .ok ()).map Prod.fst

/-- Whether a registration stands at a position as the first with its name. -/
structure Leads (type : RecordType) (field : String) (position : Nat)
    (registration : Registration) : Prop where
  held : type[position]? = some registration
  first : type.IsFirst position
  named : registration.name = field

end RecordType

/-! ### One call -/

theorem Slot.accepts_iff {slot : Slot} {value : Value} :
    slot.accepts value = true ↔ slot = Slot.ofType value.type := by
  cases slot <;> cases value <;> simp [accepts, ofType, Value.type]

namespace RecordType

variable {type : RecordType} {field : String} {value : Value}

theorem rejects?_eq_none_iff :
    type.rejects? field value = none ↔
      ∃ registration, type.get? field = some registration ∧
        registration.slot.accepts value = true := by
  unfold rejects?
  cases type.get? field with
  | none => simp
  | some registration =>
    simp only [Option.some.injEq, exists_eq_left']
    split_ifs with taken settable <;> simp [taken]

theorem leads_iff {position : Nat} {registration : Registration} :
    type.Leads field position registration ↔
      type.get? field = some registration ∧ position = type.index field := by
  constructor
  · rintro ⟨held, first, rfl⟩
    exact ⟨get?_of_isFirst held first, ((isFirst_iff held).mp first).symm⟩
  · rintro ⟨found, rfl⟩
    have named := name_of_get? found
    obtain ⟨-, position, bound, rfl, before⟩ := List.find?_eq_some_iff_getElem.mp found
    have here : type.index field = position := by
      rw [index, List.findIdx_eq bound]
      refine ⟨by simpa using named, ?_⟩
      intro earlier less
      simpa using before earlier less
    have held : type[type.index field]? = some type[position] := by
      rw [here]
      exact List.getElem?_eq_getElem bound
    refine ⟨held, ?_, named⟩
    rw [isFirst_iff held, named]

end RecordType

namespace Call

variable {type : RecordType} {call : Call} {value : Value}

theorem written?_eq_some_iff :
    call.written? type = some value ↔
      ∃ registration, type.get? call.field = some registration ∧
        call.value? registration = some value ∧ registration.slot.accepts value = true := by
  simp only [written?, Option.bind_eq_some_iff, Option.filter_eq_some_iff]

theorem attempt_of_written (written : call.written? type = some value) (record : Record) :
    call.attempt type record =
      ⟨type.write call.field value record, ⟨[.assigned call.field], .ok ()⟩⟩ := by
  obtain ⟨registration, found, known, taken⟩ := written?_eq_some_iff.mp written
  have accepted : type.rejects? call.field value = none :=
    RecordType.rejects?_eq_none_iff.mpr ⟨registration, found, taken⟩
  have assigned : type.tryAssign call.field value record =
      ⟨type.write call.field value record, ⟨[.assigned call.field], .ok ()⟩⟩ := by
    rw [RecordType.tryAssign, RecordType.assign_of_rejects?_none accepted]
  cases call with
  | assign field other =>
    obtain rfl := Option.some.inj known
    exact assigned
  | bind field raw =>
    have settable : registration.isSettable = true := by
      rw [Slot.accepts_iff] at taken
      cases value <;> simp [Registration.isSettable, taken, Slot.ofType, Value.type]
    have coerced : type.coerce field raw = .ok value :=
      RecordType.coerce_eq_ok_iff.mpr ⟨registration, found, settable, known⟩
    rw [attempt, RecordType.tryBind, coerced]
    exact assigned

/-- Any other call fails, for the same reason on every record, and changes none. -/
theorem exists_attempt_of_not_written (refused : call.written? type = none) :
    ∃ failure, ∀ record, call.attempt type record = ⟨record, ⟨[], .error failure⟩⟩ := by
  have rejected {value : Value} {failure : Failure}
      (rejects : type.rejects? call.field value = some failure) (record : Record) :
      type.tryAssign call.field value record = ⟨record, ⟨[], .error failure⟩⟩ := by
    rw [RecordType.tryAssign, RecordType.assign_of_rejects?_some rejects]
  -- What is rejected is rejected without a look at the record.
  have unwritten (value : Value) (known : ∀ registration, type.get? call.field = some registration →
      call.value? registration = some value) :
      ∃ failure, type.rejects? call.field value = some failure := by
    rw [← Option.ne_none_iff_exists', ne_eq, RecordType.rejects?_eq_none_iff]
    rintro ⟨registration, found, taken⟩
    have written := written?_eq_some_iff.mpr ⟨registration, found, known registration found, taken⟩
    exact absurd (refused.symm.trans written) (by simp)
  cases call with
  | assign field value =>
    obtain ⟨failure, rejects⟩ := unwritten value fun _ _ => rfl
    exact ⟨failure, rejected rejects⟩
  | bind field raw =>
    simp only [attempt, RecordType.tryBind]
    cases coerced : type.coerce field raw with
    | error failure => exact ⟨failure, fun record => rfl⟩
    | ok value =>
      obtain ⟨registration, found, -, read⟩ := RecordType.coerce_eq_ok_iff.mp coerced
      obtain ⟨failure, rejects⟩ := unwritten value fun other same => by
        obtain rfl := Option.some.inj (found.symm.trans same)
        exact read
      exact ⟨failure, rejected rejects⟩

theorem result_attempt_eq (call : Call) (type : RecordType) (record other : Record) :
    (call.attempt type record).journal.result = (call.attempt type other).journal.result := by
  cases written : call.written? type with
  | some value => rw [attempt_of_written written, attempt_of_written written]
  | none =>
    obtain ⟨failure, refused⟩ := exists_attempt_of_not_written written
    rw [refused, refused]

theorem result_attempt_eq_ok_iff {record : Record} :
    (call.attempt type record).journal.result = .ok () ↔ (call.written? type).isSome = true := by
  cases written : call.written? type with
  | some value => simp [attempt_of_written written]
  | none =>
    obtain ⟨failure, refused⟩ := exists_attempt_of_not_written written
    simp [refused]

theorem attempt_ok_iff_leads {record : Record} :
    (call.attempt type record).journal.result = .ok () ↔
      ∃ position registration value, type.Leads call.field position registration ∧
        call.value? registration = some value ∧
        registration.slot = Slot.ofType value.type := by
  rw [result_attempt_eq_ok_iff, Option.isSome_iff_exists]
  simp only [written?_eq_some_iff, Slot.accepts_iff]
  constructor
  · rintro ⟨value, registration, found, known, room⟩
    exact ⟨_, registration, value, RecordType.leads_iff.mpr ⟨found, rfl⟩, known, room⟩
  · rintro ⟨position, registration, value, leads, known, room⟩
    exact ⟨value, registration, (RecordType.leads_iff.mp leads).1, known, room⟩

theorem record_of_attempt_error {record : Record} {failure : Failure}
    (failed : (call.attempt type record).journal.result = .error failure) :
    (call.attempt type record).record = record := by
  cases written : call.written? type with
  | some value => simp [attempt_of_written written] at failed
  | none =>
    obtain ⟨cause, refused⟩ := exists_attempt_of_not_written written
    rw [refused]

theorem record_of_attempt_ok (call : Call) {record : Record} {position : Nat}
    {registration : Registration} (ended : (call.attempt type record).journal.result = .ok ())
    (leads : type.Leads call.field position registration)
    (known : call.value? registration = some value) :
    (call.attempt type record).record = record.set position (some value) := by
  obtain ⟨found, rfl⟩ := RecordType.leads_iff.mp leads
  obtain ⟨other, written⟩ := Option.isSome_iff_exists.mp (result_attempt_eq_ok_iff.mp ended)
  obtain ⟨owner, found', known', -⟩ := written?_eq_some_iff.mp written
  obtain rfl := Option.some.inj (found.symm.trans found')
  obtain rfl := Option.some.inj (known.symm.trans known')
  rw [attempt_of_written written]
  rfl

end Call

/-! ### Calls in a row -/

namespace RecordType

variable {type : RecordType}

def writtenBy (type : RecordType) (calls : List Call) : List (String × Value) :=
  calls.filterMap fun call => (call.written? type).map fun value => (call.field, value)

/-- What calls leave is what they write, one after the other. -/
theorem record_run (calls : List Call) (start : Record) :
    (type.run calls start).record = type.writes (type.writtenBy calls) start := by
  induction calls generalizing start with
  | nil => rfl
  | cons call rest ih =>
    rw [run]
    simp only [ih]
    cases written : call.written? type with
    | some value => simp [Call.attempt_of_written written, writtenBy, written, writes]
    | none =>
      obtain ⟨failure, refused⟩ := Call.exists_attempt_of_not_written written
      simp [refused, writtenBy, written]

theorem results_run (calls : List Call) (start : Record) :
    (type.run calls start).results =
      calls.map fun call => (call.attempt type start).journal.result := by
  have each (calls : List Call) (record : Record) : (type.run calls record).results =
      calls.map fun call => (call.attempt type start).journal.result := by
    induction calls generalizing record with
    | nil => rfl
    | cons call rest ih =>
      rw [run, List.map_cons, ← call.result_attempt_eq type record start]
      simp only [ih]
  exact each calls start

theorem write_comm {first second : String} {registration : Registration}
    (known : type.get? first = some registration) (different : first ≠ second)
    (value value' : Value) (record : Record) :
    type.write second value' (type.write first value record) =
      type.write first value (type.write second value' record) := by
  refine List.set_comm _ _ fun same => different ?_
  have leads := leads_iff.mpr ⟨known, rfl⟩
  exact leads.named.symm.trans (name_of_index_eq same.symm leads.held)

theorem record_run_swap {first second : Call} (different : first.field ≠ second.field)
    (before after : List Call) (start : Record) :
    (type.run (before ++ second :: first :: after) start).record =
      (type.run (before ++ first :: second :: after) start).record := by
  simp only [record_run, writtenBy, List.filterMap_append, List.filterMap_cons]
  cases here : first.written? type with
  | none => rfl
  | some value =>
    cases there : second.written? type with
    | none => rfl
    | some value' =>
      obtain ⟨registration, known, -⟩ := Call.written?_eq_some_iff.mp here
      simp [writes, write_comm known different]

theorem lastSuccess?_eq (field : String) (calls : List Call) (start : Record) :
    type.lastSuccess? field calls start =
      calls.reverse.find? fun call => call.field = field ∧ (call.written? type).isSome = true := by
  have paired : calls.zip (type.run calls start).results =
      calls.map fun call => (call, (call.attempt type start).journal.result) := by
    rw [results_run, List.map_prod_left_eq_zip]
  rw [lastSuccess?, paired, ← List.map_reverse, List.find?_map, Option.map_map]
  simp [Function.comp_def, Call.result_attempt_eq_ok_iff]

theorem find?_writtenBy (field : String) (calls : List Call) (start : Record) :
    ((type.writtenBy calls).reverse.find? (·.1 = field)).map Prod.snd =
      (type.lastSuccess? field calls start).bind (Call.written? type) := by
  rw [lastSuccess?_eq, writtenBy, ← List.filterMap_reverse, List.find?_filterMap]
  have same (call : Call) : ((call.written? type).map fun value => (call.field, value)).any
      (fun entry => decide (entry.1 = field)) =
        decide (call.field = field ∧ (call.written? type).isSome = true) := by
    cases call.written? type <;> simp
  simp only [same]
  cases calls.reverse.find? _ with
  | none => rfl
  | some call => cases written : call.written? type <;> simp [written]

theorem getElem?_run {start : Record} (stored : start.length = type.length) (calls : List Call)
    {position : Nat} {registration : Registration} (held : type[position]? = some registration)
    (first : type.IsFirst position) :
    match type.lastSuccess? registration.name calls start with
    | some call => ∃ value, call.value? registration = some value ∧
        (type.run calls start).record[position]? = some (some value)
    | none => (type.run calls start).record[position]? = start[position]? := by
  have bound : position < start.length := by
    rw [stored]
    exact (List.getElem?_eq_some_iff.mp held).1
  rw [record_run, getElem?_writes, lastWritten_of_isFirst held first,
    find?_writtenBy registration.name calls start, List.getElem?_eq_getElem bound]
  cases last : type.lastSuccess? registration.name calls start with
  | none => rfl
  | some call =>
    rw [lastSuccess?_eq] at last
    have matched := List.find?_some last
    simp only [decide_eq_true_eq] at matched
    obtain ⟨value, written⟩ := Option.isSome_iff_exists.mp matched.2
    obtain ⟨owner, found, known, -⟩ := Call.written?_eq_some_iff.mp written
    rw [matched.1] at found
    obtain rfl := Option.some.inj (found.symm.trans (get?_of_isFirst held first))
    exact ⟨value, known, by simp [written]⟩

theorem getElem?_run_of_not_isFirst (start : Record) (calls : List Call) {position : Nat}
    {registration : Registration} (held : type[position]? = some registration)
    (behind : ¬type.IsFirst position) :
    (type.run calls start).record[position]? = start[position]? := by
  rw [record_run, getElem?_writes, lastWritten_of_not_isFirst held behind]
  simp

end RecordType

/-- A call that fails leaves the record as it was.  One that binds a text succeeds when the text is
coerced to the type of the first field with the name and the value is of the kind of its storage,
one that assigns a value when the value is of that kind, and either then writes the value to that
field and to no other.  Two neighbours in a row of calls on fields of different names can change
places, and a row of calls leaves to the first field of each name what the last successful call on
the name has for it. -/
theorem calls_set_first_fields (type : RecordType) {start : Record}
    (stored : start.length = type.length) :
    (∀ call failure, (Call.attempt type call start).journal.result = .error failure →
      (Call.attempt type call start).record = start) ∧
    (∀ field raw, (type.tryBind field raw start).journal.result = .ok () ↔
      ∃ position registration value, type.Leads field position registration ∧
        coerce field registration.type raw = .ok value ∧
        registration.slot = Slot.ofType value.type) ∧
    (∀ field raw, (type.tryBind field raw start).journal.result = .ok () →
      ∀ position registration value, type.Leads field position registration →
        coerce field registration.type raw = .ok value →
        (type.tryBind field raw start).record = start.set position (some value)) ∧
    (∀ field value, (type.tryAssign field value start).journal.result = .ok () ↔
      ∃ position registration, type.Leads field position registration ∧
        registration.slot = Slot.ofType value.type) ∧
    (∀ field value, (type.tryAssign field value start).journal.result = .ok () →
      ∀ position registration, type.Leads field position registration →
        (type.tryAssign field value start).record = start.set position (some value)) ∧
    (∀ before first second after, Call.field first ≠ Call.field second →
      ∃ earlier one other later, earlier.length = before.length ∧
        (type.run (before ++ first :: second :: after) start).results =
          earlier ++ one :: other :: later ∧
        (type.run (before ++ second :: first :: after) start).results =
          earlier ++ other :: one :: later ∧
        (type.run (before ++ second :: first :: after) start).record =
          (type.run (before ++ first :: second :: after) start).record) ∧
    ∀ (calls : List Call) (position : Nat) (registration : Registration),
      type[position]? = some registration →
        (type.IsFirst position →
          match type.lastSuccess? registration.name calls start with
          | some call => ∃ value, call.value? registration = some value ∧
              (type.run calls start).record[position]? = some (some value)
          | none => (type.run calls start).record[position]? = start[position]?) ∧
        (¬type.IsFirst position →
          (type.run calls start).record[position]? = start[position]?) := by
  refine ⟨fun call failure => Call.record_of_attempt_error, ?_, ?_, ?_, ?_, ?_, ?_⟩
  · intro field raw
    have succeeds : (Call.attempt type (.bind field raw) start).journal.result = .ok () ↔ _ :=
      Call.attempt_ok_iff_leads
    simp only [coerce_eq_ok_iff]
    exact succeeds
  · intro field raw ended position registration value leads coerced
    exact Call.record_of_attempt_ok (.bind field raw) ended leads (coerce_eq_ok_iff.mp coerced)
  · intro field value
    have succeeds : (Call.attempt type (.assign field value) start).journal.result = .ok () ↔ _ :=
      Call.attempt_ok_iff_leads
    refine succeeds.trans ?_
    simp [Call.value?, Call.field]
  · intro field value ended position registration leads
    exact Call.record_of_attempt_ok (.assign field value) ended leads rfl
  · intro before first second after different
    simp only [RecordType.results_run, List.map_append, List.map_cons]
    exact ⟨_, _, _, _, List.length_map _, rfl, rfl,
      RecordType.record_run_swap different before after start⟩
  · intro calls position registration held
    exact ⟨RecordType.getElem?_run stored calls held,
      RecordType.getElem?_run_of_not_isFirst start calls held⟩

/-- An integer field that is stored as a text, and a text field whose name is registered twice. -/
def crossedFields : RecordType :=
  [⟨"id", .int, none, .string⟩, ⟨"tag", .string, none, .string⟩, ⟨"tag", .int, none, .int⟩]

/-- No text can be bound to the first field, for an integer is no text, but a text can be assigned;
the name that is registered twice means its text, which keeps the last value that was taken. -/
theorem calls_set_crossedFields :
    let start : Record := [some (.string ""), some (.string ""), some (.int 5)]
    let calls : List Call := [.bind "id" "7", .assign "id" (.string "seven"), .bind "tag" "a",
      .bind "tag" "b", .assign "tag" (.int 3)]
    let swapped : List Call := [.bind "id" "7", .bind "tag" "a", .assign "id" (.string "seven"),
      .bind "tag" "b", .assign "tag" (.int 3)]
    start.length = crossedFields.length ∧
      (crossedFields.tryBind "id" "7" start).journal.result =
        .error (.typeMismatch "id" "7" .int) ∧
      (crossedFields.tryBind "id" "7" start).record = start ∧
      (crossedFields.tryBind "tag" "a" start).journal.result = .ok () ∧
      (crossedFields.tryBind "tag" "a" start).record = start.set 1 (some (.string "a")) ∧
      (crossedFields.tryAssign "id" (.string "seven") start).journal.result = .ok () ∧
      (crossedFields.tryAssign "id" (.string "seven") start).record =
        start.set 0 (some (.string "seven")) ∧
      (crossedFields.run swapped start).record = (crossedFields.run calls start).record ∧
      crossedFields.lastSuccess? "tag" calls start = some (.bind "tag" "b") ∧
      (crossedFields.run calls start).record[1]? = some (some (.string "b")) ∧
      (crossedFields.run calls start).record[2]? = some (some (.int 5)) := by
  intro start calls swapped
  have stored : start.length = crossedFields.length := rfl
  obtain ⟨kept, binds, bound, assigns, assigned, swaps, settled⟩ :=
    calls_set_first_fields crossedFields stored
  have id : crossedFields.Leads "id" 0 ⟨"id", .int, none, .string⟩ :=
    RecordType.leads_iff.mpr ⟨by decide +kernel, by decide +kernel⟩
  have tag : crossedFields.Leads "tag" 1 ⟨"tag", .string, none, .string⟩ :=
    RecordType.leads_iff.mpr ⟨by decide +kernel, by decide +kernel⟩
  have refused : (crossedFields.tryBind "id" "7" start).journal.result =
      .error (.typeMismatch "id" "7" .int) := by decide +kernel
  have taken := (binds "tag" "a").mpr ⟨1, _, .string "a", tag, rfl, rfl⟩
  have fitting := (assigns "id" (.string "seven")).mpr ⟨0, _, id, rfl⟩
  have last : crossedFields.lastSuccess? "tag" calls start = some (.bind "tag" "b") := by
    decide +kernel
  have behind : ¬crossedFields.IsFirst 2 := fun first => first _ rfl 1 (by decide) _ rfl rfl
  refine ⟨stored, refused, kept (.bind "id" "7") _ refused, taken,
    bound _ _ taken 1 _ _ tag rfl, fitting, assigned _ _ fitting 0 _ id, ?_, last, ?_,
    (settled calls 2 _ rfl).2 behind⟩
  · obtain ⟨-, -, -, -, -, -, -, same⟩ := swaps [.bind "id" "7"] (.assign "id" (.string "seven"))
      (.bind "tag" "a") [.bind "tag" "b", .assign "tag" (.int 3)] (by decide)
    exact same
  · have ended := (settled calls 1 _ tag.held).1 tag.first
    rw [last] at ended
    obtain ⟨value, read, here⟩ := ended
    obtain rfl := Option.some.inj read
    exact here

end RequestParams
