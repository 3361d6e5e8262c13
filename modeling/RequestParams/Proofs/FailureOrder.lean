import RequestParams.Proofs.AtomicDecoding

set_option autoImplicit false
set_option relaxedAutoImplicit false

/-!
Which failure decoding ends with.  Decoding makes its checks in two passes: first over what
annotations and types say of every field, then over what the request has for each field that is
left.  The first check that fails decides, and decoding succeeds when none does.
-/

namespace RequestParams

open Http (Source)

/-- The first failure among checks in their order; a check that passes has none. -/
def firstFailure (checks : List (Option Failure)) : Option Failure := checks.findSome? id

def verdict : Option Failure → Except Failure Unit
  | some failure => .error failure
  | none => .ok ()

def FieldType.check (type : FieldType) (field : String) : Option Failure :=
  match type with
  | .unsupported typeName => some (.unsupportedType field typeName)
  | .int | .bool | .string => none

/-- The checks of an annotated field before the request is looked at.  Of a field without a name
nothing but the name is checked. -/
def Descriptor.checks (policy : EmptyNamePolicy) (descriptor : Descriptor) :
    List (Option Failure) :=
  if descriptor.literals.name = "" then
    [if policy = .reject then some (.emptyName descriptor.field) else none]
  else
    [if Location.read? descriptor.literals.kind = none then
        some (.unsupportedLocation descriptor.field descriptor.literals.kind)
      else none,
      descriptor.type.check descriptor.field]

def Descriptor.target? (descriptor : Descriptor) : Option Target :=
  if descriptor.literals.name = "" then none
  else (Location.read? descriptor.literals.kind).map fun location =>
    ⟨descriptor.field, descriptor.literals.name, location⟩

/-- The text that a request has for a parameter, empty where it has none. -/
def Http.Source.text (source : Source) (name : String) : Location → String
  | .query =>
    match source.query name with
    | .ok found => found.getD ""
    | .error _ => ""
  | .path => (source.capture name).getD ""
  | .header => (source.header name).getD ""
  | .cookie => (source.cookie name).getD ""

namespace Target

def requestCheck (source : Source) (target : Target) : Option Failure :=
  match target.location with
  | .query =>
    match source.query target.parameter with
    | .ok _ => none
    | .error failure => some failure
  | .path =>
    if source.capture target.parameter = none then
      some (.notFound target.field target.parameter)
    else none
  | .header | .cookie => none

def fieldChecks (registration : Registration) (field raw : String) : List (Option Failure) :=
  [registration.type.check field,
    if registration.slot = .readOnly then some (.unsettable field) else none,
    if registration.type.readValue raw = none then
      some (.typeMismatch field raw registration.type)
    else none]

/-- The checks of a parameter: first that it has a text, then the text against the first field
with the name. -/
def checks (type : RecordType) (source : Source) (target : Target) : List (Option Failure) :=
  target.requestCheck source ::
    match type.find? fun registration => registration.name = target.field with
    | some registration =>
      fieldChecks registration target.field (source.text target.parameter target.location)
    | none => []

end Target

namespace RecordType

def firstPass (type : RecordType) (policy : EmptyNamePolicy) : List (Option Failure) :=
  type.descriptors.flatMap (Descriptor.checks policy)

def secondPass (type : RecordType) (source : Source) : List (Option Failure) :=
  (type.descriptors.filterMap Descriptor.target?).flatMap (Target.checks type source)

end RecordType

section Checks

variable {α β : Type}

@[simp] theorem firstFailure_nil : firstFailure [] = none := rfl

@[simp] theorem firstFailure_cons (check : Option Failure) (rest : List (Option Failure)) :
    firstFailure (check :: rest) = check.or (firstFailure rest) := by
  cases check <;> rfl

theorem firstFailure_append (checks others : List (Option Failure)) :
    firstFailure (checks ++ others) = (firstFailure checks).or (firstFailure others) := by
  induction checks with
  | nil => simp
  | cons check rest ih => simp [ih, Option.or_assoc]

theorem firstFailure_flatMap_eq_none {items : List α} {checks : α → List (Option Failure)} :
    firstFailure (items.flatMap checks) = none ↔
      ∀ item ∈ items, firstFailure (checks item) = none := by
  induction items with
  | nil => simp
  | cons item rest ih =>
    rw [List.flatMap_cons, firstFailure_append, Option.or_eq_none_iff, ih, List.forall_mem_cons]

def failure? : Except Failure α → Option Failure
  | .error failure => some failure
  | .ok _ => none

theorem failure?_bind (first : Except Failure α) (next : α → Except Failure β) :
    failure? (first >>= next) =
      match first with
      | .error failure => some failure
      | .ok value => failure? (next value) := by
  cases first <;> rfl

theorem failure?_eq_some_iff {result : Except Failure α} {failure : Failure} :
    failure? result = some failure ↔ result = .error failure := by
  cases result <;> simp [failure?]

theorem eq_verdict (result : Except Failure Unit) : result = verdict (failure? result) := by
  cases result <;> rfl

theorem failure?_mapM {f : α → Except Failure β} {checks : α → List (Option Failure)}
    {items : List α} (each : ∀ item ∈ items, failure? (f item) = firstFailure (checks item)) :
    failure? (items.mapM f) = firstFailure (items.flatMap checks) := by
  induction items with
  | nil => rfl
  | cons item rest ih =>
    obtain ⟨here, others⟩ := List.forall_mem_cons.mp each
    rw [List.flatMap_cons, firstFailure_append, ← here, ← ih others, List.mapM_cons]
    cases f item with
    | error failure => rfl
    | ok value => cases rest.mapM f <;> rfl

end Checks

theorem failure?_treat_target (policy : EmptyNamePolicy) (descriptor : Descriptor) :
    failure? (policy.treat Descriptor.target descriptor) =
      firstFailure (descriptor.checks policy) := by
  unfold EmptyNamePolicy.treat Descriptor.checks Descriptor.isNameless
  by_cases nameless : descriptor.literals.name = ""
  · cases policy <;> simp [nameless, failure?]
  · simp only [nameless, decide_false, Bool.false_eq_true, if_false, Descriptor.target,
      Descriptor.location, Descriptor.location?]
    cases Location.read? descriptor.literals.kind with
    | none => rfl
    | some location => cases descriptor.type <;> rfl

theorem eq_target?_of_treat {policy : EmptyNamePolicy} {descriptor : Descriptor}
    {found : Option Target} (passed : policy.treat Descriptor.target descriptor = .ok found) :
    found = descriptor.target? := by
  unfold EmptyNamePolicy.treat Descriptor.isNameless at passed
  unfold Descriptor.target?
  by_cases nameless : descriptor.literals.name = ""
  · cases policy <;> simp_all
  · simp only [nameless, decide_false, Bool.false_eq_true, if_false, Descriptor.target,
      Descriptor.location, Descriptor.location?] at passed ⊢
    cases known : Location.read? descriptor.literals.kind with
    | none => simp [known, Except.map] at passed
    | some location => cases declared : descriptor.type <;> simp_all [Except.map]

theorem failure?_plan (policy : EmptyNamePolicy) (type : RecordType) :
    failure? (plan policy type.descriptors).result = firstFailure (type.firstPass policy) := by
  rw [result_plan, RecordType.firstPass,
    ← failure?_mapM fun descriptor _ => failure?_treat_target policy descriptor]
  cases type.descriptors.mapM (policy.treat Descriptor.target) <;> rfl

theorem eq_targets_of_plan {policy : EmptyNamePolicy} {descriptors : List Descriptor}
    {targets : List Target} (planned : (plan policy descriptors).result = .ok targets) :
    targets = descriptors.filterMap Descriptor.target? := by
  obtain ⟨found, passed, rfl⟩ := mapM_of_result_ok (result_plan policy descriptors) planned
  clear planned
  rw [mapM_eq_ok_iff] at passed
  induction passed with
  | nil => rfl
  | @cons descriptor target rest others here _ ih =>
    obtain rfl := eq_target?_of_treat here
    cases first : descriptor.target? <;> simp [first, ih]

section Second

variable {type : RecordType} {source : Source}

/-- Whether a request fails for its query, if it fails, as a malformed one. -/
def Http.Source.FailsAsMalformed (source : Source) : Prop :=
  ∀ name failure, source.query name = .error failure →
    ∃ part reason, failure = .malformedRequest part reason

theorem resolve_eq (malformed : source.FailsAsMalformed) (target : Target) :
    target.resolve source =
      match target.requestCheck source with
      | some failure => .error failure
      | none => .ok (source.text target.parameter target.location) := by
  obtain ⟨field, parameter, location⟩ := target
  cases location with
  | header | cookie => rfl
  | path =>
    simp only [Target.resolve, resolve, Target.requestCheck, Source.text]
    cases source.capture parameter <;> rfl
  | query =>
    simp only [Target.resolve, resolve, Target.requestCheck, Source.text]
    cases asked : source.query parameter with
    | ok found => rfl
    | error failure =>
      obtain ⟨part, reason, rfl⟩ := malformed parameter failure asked
      rfl

theorem failure?_coerce {field : String} {registration : Registration}
    (found : type.get? field = some registration) (raw : String) :
    failure? (type.coerce field raw) =
      firstFailure (Target.fieldChecks registration field raw) := by
  obtain ⟨name, declared, annotation, slot⟩ := registration
  simp only [RecordType.coerce, found, Target.fieldChecks]
  cases declared with
  | unsupported typeName => rfl
  | int | bool | string =>
    by_cases fixed : slot = .readOnly
    · simp [Registration.isSettable, fixed, FieldType.check, failure?]
    · simp only [Registration.isSettable, coerce]
      cases FieldType.readValue _ raw <;> simp [fixed, FieldType.check, failure?]

theorem failure?_readTarget (malformed : source.FailsAsMalformed) {target : Target}
    (registered : ∃ registration ∈ type, registration.name = target.field) :
    failure? (readTarget type source target).result =
      firstFailure (target.checks type source) := by
  obtain ⟨registration, found⟩ : ∃ registration, type.get? target.field = some registration := by
    obtain ⟨registration, mem, named⟩ := registered
    rw [← Option.isSome_iff_exists, RecordType.get?, List.find?_isSome]
    exact ⟨registration, mem, by simpa using named⟩
  have checks : target.checks type source = target.requestCheck source ::
      Target.fieldChecks registration target.field
        (source.text target.parameter target.location) := by
    rw [RecordType.get?] at found
    rw [Target.checks, found]
  rw [checks, firstFailure_cons, ← failure?_coerce found, result_readTarget, resolve_eq malformed]
  cases target.requestCheck source with
  | some failure => rfl
  | none =>
    simp only [Option.none_or, bind, Except.bind]
    cases type.coerce target.field (source.text target.parameter target.location) <;> rfl

/-- All values are read as the checks of both passes let the fields pass. -/
theorem failure?_readAll (malformed : source.FailsAsMalformed) (policy : EmptyNamePolicy) :
    failure? (readAll type source policy).result =
      firstFailure (type.firstPass policy ++ type.secondPass source) := by
  rw [firstFailure_append, ← failure?_plan, readAll, Journal.result_bind, failure?_bind]
  cases planned : (plan policy type.descriptors).result with
  | error failure => rfl
  | ok targets =>
    obtain rfl := eq_targets_of_plan planned
    simp only [failure?, Option.none_or, RecordType.secondPass, result_readTargets]
    exact failure?_mapM fun target mem =>
      failure?_readTarget malformed (registered_of_mem_plan planned mem)

theorem failure?_decode (agree : ∀ registration ∈ type, registration.Agrees)
    (options : DecodeOptions) (start : Record) :
    failure? (decode type source options start).journal.result =
      failure? (readAll type source options.emptyName).result := by
  cases read : (readAll type source options.emptyName).result with
  | error failure => rw [(decode_of_readAll_error read start).2]; rfl
  | ok values =>
    have accepted := accepted_of_readAll agree read
    rw [(decode_of_readAll_ok read start).2, (RecordType.writeAll_of_accepted accepted start).2]
    rfl

end Second

/-- Decoding ends as the first of its checks that fails, those of the first pass before those of the
second, and succeeds when none does.  What the first pass refuses is refused for every request,
whatever the second would say of the fields before it. -/
theorem decode_eq_verdict {type : RecordType} {source : Source} (options : DecodeOptions)
    (start : Record) (agree : ∀ registration ∈ type, registration.Agrees)
    (malformed : source.FailsAsMalformed) :
    (decode type source options start).journal.result =
        verdict (firstFailure (type.firstPass options.emptyName ++ type.secondPass source)) ∧
      ∀ before descriptor after failure, type.descriptors = before ++ descriptor :: after →
        (∀ earlier ∈ before, firstFailure (earlier.checks options.emptyName) = none) →
        firstFailure (descriptor.checks options.emptyName) = some failure →
        ∀ other record, (decode type other options record).journal.result = .error failure := by
  constructor
  · rw [← failure?_readAll malformed, ← failure?_decode agree options start]
    exact eq_verdict _
  · intro before descriptor after failure cut passed refused other record
    -- The first pass does not look at the source, so it fails in this way for any other as well.
    have first : firstFailure (type.firstPass options.emptyName) = some failure := by
      have clear : firstFailure (before.flatMap (Descriptor.checks options.emptyName)) = none :=
        firstFailure_flatMap_eq_none.mpr passed
      simp [RecordType.firstPass, cut, firstFailure_append, clear, refused]
    have unread : (readAll type other options.emptyName).result = .error failure := by
      rw [← failure?_plan, failure?_eq_some_iff] at first
      rw [readAll, Journal.result_bind, first]
      rfl
    exact (decode_of_readAll_error unread record).2

def crowdedFields : RecordType :=
  [⟨"id", .int, some "name: id; kind: path", .int⟩,
    ⟨"limit", .unsupported "u8", some "kind: body", .readOnly⟩,
    ⟨"id", .bool, some "name: flag; kind: query", .bool⟩,
    ⟨"note", .string, some "name: note; kind: header", .readOnly⟩]

/-- A text is judged by the first field with the name; before it comes that the query cannot be
read, before that the missing capture of an earlier field, and before both a later field without a
name where the policy refuses it. -/
theorem decode_crowdedFields :
    let bare := Source.ofRequest { uri := ⟨"/", some "flag=true"⟩ }
    let captured := Source.ofRequest { uri := ⟨"/", some "flag=true"⟩, captures := [("id", "5")] }
    let broken := captured.withBrokenQuery "query" "not text"
    (∀ registration ∈ crowdedFields, registration.Agrees) ∧
      bare.FailsAsMalformed ∧ captured.FailsAsMalformed ∧ broken.FailsAsMalformed ∧
      (decode crowdedFields captured {} crowdedFields.initial).journal.result =
        .error (.typeMismatch "id" "true" .int) ∧
      (decode crowdedFields broken {} crowdedFields.initial).journal.result =
        .error (.malformedRequest "query" "not text") ∧
      (decode crowdedFields bare {} crowdedFields.initial).journal.result =
        .error (.notFound "id" "id") ∧
      (decode crowdedFields bare ⟨.reject⟩ crowdedFields.initial).journal.result =
        .error (.emptyName "limit") := by
  intro bare captured broken
  have agree : ∀ registration ∈ crowdedFields, registration.Agrees := by decide
  have well (request : Http.Request) : (Source.ofRequest request).FailsAsMalformed := by
    intro name failure asked
    simp [Source.ofRequest] at asked
  have uncaptured : bare.FailsAsMalformed := well _
  have unreadable : broken.FailsAsMalformed := by
    intro name failure asked
    exact ⟨"query", "not text", (Except.error.inj asked).symm⟩
  refine ⟨agree, uncaptured, well _, unreadable, ?_, ?_, ?_, ?_⟩
  · rw [(decode_eq_verdict {} _ agree (well _)).1]
    decide +kernel
  · rw [(decode_eq_verdict {} _ agree unreadable).1]
    decide +kernel
  · rw [(decode_eq_verdict {} _ agree uncaptured).1]
    decide +kernel
  · have cut : crowdedFields.descriptors = [Descriptor.read "id" .int "name: id; kind: path"] ++
        Descriptor.read "limit" (.unsupported "u8") "kind: body" ::
          [Descriptor.read "id" .bool "name: flag; kind: query",
            Descriptor.read "note" .string "name: note; kind: header"] := rfl
    exact (decode_eq_verdict ⟨.reject⟩ crowdedFields.initial agree uncaptured).2 _ _ _ _ cut
      (by decide +kernel) (by decide +kernel) bare _

end RequestParams
