import RequestParams.Proofs.AtomicDecoding

set_option autoImplicit false
set_option relaxedAutoImplicit false

/-!
Decoding and documentation read the same annotations in the same way.  Both loops treat a field in
the same order of checks, except that documentation also reads the literals of a field whose
location and type are in order.
-/

namespace RequestParams

open Http (Source)

/-- The failure of describing a field as decoding words it. -/
def Failure.whileDecoding : Failure → Failure
  | .invalidLocation field kind => .unsupportedLocation field kind
  | failure => failure

def Failure.whileDescribing : Failure → Failure
  | .unsupportedLocation field kind => .invalidLocation field kind
  | failure => failure

def Target.address (target : Target) : String × Location := (target.parameter, target.location)

def Parameter.address (parameter : Parameter) : String × Location :=
  (parameter.name, parameter.location)

/-- The text that a request holds under a name at a location, coerced for a field. -/
def Target.read (type : RecordType) (source : Source) (target : Target) :
    Except Failure (String × Value) :=
  match RequestParams.resolve source target.parameter target.location with
  | .error failure => .error (failure.ofField target.field)
  | .ok raw => (type.coerce target.field raw).map fun value => (target.field, value)

/-- The name and the location of a parameter whose text has been found and coerced. -/
def Event.resolved? : Event → Option (String × String)
  | .resolved _ parameter location => some (parameter, location)
  | _ => none

namespace Descriptor

variable {descriptor : Descriptor}

def FaultsLiteral (descriptor : Descriptor) (failure : Failure) : Prop :=
  ∃ key literal reason, failure = .invalidArgument key literal descriptor.field reason

theorem exampleValue_error {failure : Failure}
    (failed : descriptor.exampleValue = .error failure) : descriptor.FaultsLiteral failure := by
  simp only [exampleValue] at failed
  split at failed
  · simp at failed
  · split at failed
    · simp at failed
    · exact ⟨_, _, _, (Except.error.inj failed).symm⟩

theorem required_error {location : Location} {failure : Failure}
    (failed : descriptor.required location = .error failure) :
    descriptor.FaultsLiteral failure := by
  simp only [required, requiredMark] at failed
  split at failed
  · simp at failed
  · split at failed
    · simp at failed
    · split at failed
      · simp at failed
      · exact ⟨_, _, _, (Except.error.inj failed).symm⟩

theorem minimum_error {failure : Failure} (failed : descriptor.minimum = .error failure) :
    descriptor.FaultsLiteral failure := by
  simp only [minimum] at failed
  split at failed
  · simp at failed
  · split at failed
    · exact ⟨_, _, _, (Except.error.inj failed).symm⟩
    · split at failed
      · simp at failed
      · exact ⟨_, _, _, (Except.error.inj failed).symm⟩
    · exact ⟨_, _, _, (Except.error.inj failed).symm⟩

theorem describe_of_schema {location : Location} {schema : Schema}
    (placed : descriptor.documentedLocation = .ok location)
    (typed : descriptor.schema = .ok schema) :
    (∃ parameter, descriptor.describe = .ok parameter ∧
        parameter.address = (descriptor.literals.name, location)) ∨
      ∃ failure, descriptor.describe = .error failure ∧ descriptor.FaultsLiteral failure := by
  simp only [describe, placed, typed, bind, Except.bind]
  cases shown : descriptor.exampleValue with
  | error failure => exact .inr ⟨failure, rfl, exampleValue_error shown⟩
  | ok value =>
    cases mark : descriptor.required location with
    | error failure => exact .inr ⟨failure, rfl, required_error mark⟩
    | ok needed =>
      cases bound : descriptor.minimum with
      | error failure => exact .inr ⟨failure, rfl, minimum_error bound⟩
      | ok least => exact .inl ⟨_, rfl, rfl⟩

theorem describe_of_target_ok {target : Target} (planned : descriptor.target = .ok target) :
    (∃ parameter, descriptor.describe = .ok parameter ∧
        parameter.address = target.address) ∨
      ∃ failure, descriptor.describe = .error failure ∧ descriptor.FaultsLiteral failure := by
  unfold Descriptor.target Descriptor.location at planned
  cases known : descriptor.location? with
  | none => simp [known] at planned
  | some location =>
    have placed : descriptor.documentedLocation = .ok location := by
      simp [documentedLocation, known]
    cases declared : descriptor.type with
    | unsupported typeName => simp [known, declared] at planned
    | int | bool | string =>
      simp only [known, declared, Except.ok.injEq] at planned
      subst planned
      exact describe_of_schema placed (by simp only [schema, declared]; rfl)

theorem describe_of_target_error {failure : Failure}
    (refused : descriptor.target = .error failure) :
    descriptor.describe = .error failure.whileDescribing ∧
      failure.whileDescribing.whileDecoding = failure := by
  unfold Descriptor.target Descriptor.location at refused
  cases known : descriptor.location? with
  | none =>
    obtain rfl : Failure.unsupportedLocation descriptor.field descriptor.literals.kind = failure :=
      by simpa [known] using refused
    simp [describe, documentedLocation, known, bind, Except.bind, Failure.whileDescribing,
      Failure.whileDecoding]
  | some location =>
    cases declared : descriptor.type with
    | int | bool | string => simp [known, declared] at refused
    | unsupported typeName =>
      obtain rfl : Failure.unsupportedType descriptor.field typeName = failure := by
        simpa [known, declared] using refused
      simp [describe, documentedLocation, schema, known, declared, bind, Except.bind,
        Failure.whileDescribing, Failure.whileDecoding]

end Descriptor

namespace EmptyNamePolicy

variable {policy : EmptyNamePolicy} {descriptor : Descriptor}

/-- What decoding lets pass, documentation lets pass in the same way or faults in a literal. -/
theorem treat_describe_of_ok {found : Option Target}
    (passed : policy.treat Descriptor.target descriptor = .ok found) :
    (∃ shown, policy.treat Descriptor.describe descriptor = .ok shown ∧
        shown.map Parameter.address = found.map Target.address) ∨
      ∃ failure, policy.treat Descriptor.describe descriptor = .error failure ∧
        descriptor.FaultsLiteral failure := by
  unfold treat at passed ⊢
  by_cases nameless : descriptor.isNameless = true
  · rw [if_pos nameless] at passed ⊢
    cases policy with
    | skip =>
      obtain rfl := Except.ok.inj passed
      exact .inl ⟨none, rfl, rfl⟩
    | reject => simp at passed
  · rw [if_neg nameless] at passed ⊢
    cases planned : descriptor.target with
    | error failure => simp [planned, Except.map] at passed
    | ok target =>
      obtain rfl : some target = found := by simpa [planned, Except.map] using passed
      rcases Descriptor.describe_of_target_ok planned with
        ⟨parameter, shown, agree⟩ | ⟨failure, faulted, literal⟩
      · exact .inl ⟨some parameter, by rw [shown]; rfl, congrArg some agree⟩
      · exact .inr ⟨failure, by rw [faulted]; rfl, literal⟩

theorem treat_describe_of_error {failure : Failure}
    (refused : policy.treat Descriptor.target descriptor = .error failure) :
    policy.treat Descriptor.describe descriptor = .error failure.whileDescribing ∧
      failure.whileDescribing.whileDecoding = failure := by
  unfold treat at refused ⊢
  by_cases nameless : descriptor.isNameless = true
  · rw [if_pos nameless] at refused ⊢
    cases policy with
    | skip => simp at refused
    | reject =>
      obtain rfl := Except.error.inj refused
      exact ⟨rfl, rfl⟩
  · rw [if_neg nameless] at refused ⊢
    cases planned : descriptor.target with
    | ok target => simp [planned, Except.map] at refused
    | error cause =>
      obtain rfl : cause = failure := by simpa [planned, Except.map] using refused
      obtain ⟨described, same⟩ := Descriptor.describe_of_target_error planned
      exact ⟨by rw [described]; rfl, same⟩

theorem treat_target_of_ok {shown : Option Parameter}
    (passed : policy.treat Descriptor.describe descriptor = .ok shown) :
    ∃ found, policy.treat Descriptor.target descriptor = .ok found ∧
      found.map Target.address = shown.map Parameter.address := by
  cases planned : policy.treat Descriptor.target descriptor with
  | error failure =>
    have refused := (treat_describe_of_error planned).1
    exact absurd (passed.symm.trans refused) (by simp)
  | ok found =>
    rcases treat_describe_of_ok planned with ⟨other, same, agree⟩ | ⟨failure, faulted, _⟩
    · obtain rfl := Except.ok.inj (passed.symm.trans same)
      exact ⟨found, rfl, agree.symm⟩
    · exact absurd (passed.symm.trans faulted) (by simp)

theorem treat_target_of_error {failure : Failure}
    (refused : policy.treat Descriptor.describe descriptor = .error failure)
    (unliteral : failure.kind ≠ .invalidArgument) :
    policy.treat Descriptor.target descriptor = .error failure.whileDecoding := by
  cases planned : policy.treat Descriptor.target descriptor with
  | error cause =>
    obtain ⟨described, same⟩ := treat_describe_of_error planned
    obtain rfl := Except.error.inj (refused.symm.trans described)
    rw [same]
  | ok found =>
    rcases treat_describe_of_ok planned with ⟨shown, passed, _⟩ | ⟨cause, faulted, literal⟩
    · exact absurd (refused.symm.trans passed) (by simp)
    · obtain rfl := Except.error.inj (refused.symm.trans faulted)
      obtain ⟨key, text, reason, rfl⟩ := literal
      exact absurd rfl unliteral

theorem mapM_target_of_ok {descriptors : List Descriptor} {shown : List (Option Parameter)}
    (passed : descriptors.mapM (policy.treat Descriptor.describe) = .ok shown) :
    ∃ found, descriptors.mapM (policy.treat Descriptor.target) = .ok found ∧
      found.reduceOption.map Target.address = shown.reduceOption.map Parameter.address := by
  rw [mapM_eq_ok_iff] at passed
  induction passed with
  | nil => exact ⟨[], rfl, rfl⟩
  | @cons descriptor parameter rest parameters first _ ih =>
    obtain ⟨target, here, agree⟩ := treat_target_of_ok first
    obtain ⟨targets, behind, others⟩ := ih
    rw [mapM_eq_ok_iff] at behind
    refine ⟨target :: targets, mapM_eq_ok_iff.mpr (.cons here behind), ?_⟩
    cases target <;> cases parameter <;> simp_all

end EmptyNamePolicy

/-- A loop over annotated fields ends at one of them: it passes those before it, and fails at it
whatever fields come behind. -/
structure StopsAt {α : Type} (loop : List Descriptor → Journal Failure α)
    (before : List Descriptor) (descriptor : Descriptor) (failure : Failure) : Prop where
  /-- The fields before it are passed. -/
  passes : ∃ found, (loop before).result = .ok found
  /-- The field ends the loop. -/
  refuses : ∀ after, (loop (before ++ descriptor :: after)).result = .error failure

theorem stopsAt_of_mapM {α : Type} {loop : List Descriptor → Journal Failure (List α)}
    {step : Descriptor → Except Failure (Option α)}
    (steps : ∀ descriptors, (loop descriptors).result =
      (descriptors.mapM step).map List.reduceOption)
    {before : List Descriptor} {descriptor : Descriptor} {found : List (Option α)}
    {failure : Failure} (passed : before.mapM step = .ok found)
    (ended : step descriptor = .error failure) : StopsAt loop before descriptor failure where
  passes := ⟨found.reduceOption, by rw [steps, passed]; rfl⟩
  refuses after := by
    have failed := mapM_eq_error_iff.mpr ⟨before, descriptor, after, found, rfl, passed, ended⟩
    rw [steps, failed]
    rfl

section Reading

variable {type : RecordType} {source : Source} {targets : List Target}

theorem Target.result_eq_read (target : Target) :
    (readTarget type source target).result = target.read type source := by
  rw [result_readTarget]
  unfold Target.read Target.resolve
  cases RequestParams.resolve source target.parameter target.location with
  | error failure => rfl
  | ok raw =>
    simp only [Except.mapError, bind, Except.bind]
    cases type.coerce target.field raw <;> rfl

theorem result_readAll {policy : EmptyNamePolicy}
    (planned : (plan policy type.descriptors).result = .ok targets) :
    (readAll type source policy).result = targets.mapM (Target.read type source) := by
  rw [readAll, Journal.result_bind, planned]
  refine (result_readTargets type source targets).trans ?_
  simp only [Target.result_eq_read]

theorem resolved_readTarget {target : Target} {entry : String × Value}
    (read : (readTarget type source target).result = .ok entry) :
    (readTarget type source target).events.filterMap Event.resolved? =
      [(target.parameter, target.location.text)] := by
  obtain ⟨-, raw, found, coerced⟩ := readTarget_eq_ok_iff.mp read
  rw [readTarget, Journal.events_bind_of_ok _ found, Journal.events_bind_of_ok _ coerced]
  rfl

theorem resolved_readTargets {values : List (String × Value)}
    (read : (readTargets type source targets).result = .ok values) :
    (readTargets type source targets).events.filterMap Event.resolved? =
      targets.map fun target => (target.parameter, target.location.text) := by
  induction targets generalizing values with
  | nil => rfl
  | cons target rest ih =>
    rw [result_readTargets, mapM_eq_ok_iff] at read
    cases read with
    | @cons _ _ _ others first behind =>
      have after : (readTargets type source rest).result = .ok others := by
        rw [result_readTargets, mapM_eq_ok_iff]
        exact behind
      rw [readTargets, Journal.events_bind_of_ok _ first, Journal.events_bind_of_ok _ after,
        Journal.events_pure, List.append_nil, List.filterMap_append, resolved_readTarget first,
        ih after]
      rfl

theorem resolved_plan (policy : EmptyNamePolicy) (descriptors : List Descriptor) :
    (plan policy descriptors).events.filterMap Event.resolved? = [] := by
  refine List.filterMap_eq_nil_iff.mpr fun event mem => ?_
  induction descriptors with
  | nil => simp [plan] at mem
  | cons descriptor rest ih =>
    unfold plan at mem
    split at mem
    · cases policy with
      | skip =>
        rcases Journal.mem_events_bind mem with noted | ⟨_, behind⟩
        · obtain rfl := List.mem_singleton.mp noted
          rfl
        · exact ih behind
      | reject => simp at mem
    · rcases Journal.mem_events_bind mem with here | ⟨target, later⟩
      · simp at here
      · rcases Journal.mem_events_bind later with behind | ⟨_, last⟩
        · exact ih behind
        · simp at last

theorem resolved_writeAll (values : List (String × Value)) (record : Record) :
    (type.writeAll values record).journal.events.filterMap Event.resolved? = [] := by
  induction values generalizing record with
  | nil => rfl
  | cons entry rest ih =>
    rw [RecordType.writeAll]
    simp only [RecordType.tryAssign]
    cases type.assign entry.1 entry.2 record with
    | error failure => rfl
    | ok written => simpa [Event.resolved?] using ih written

/-- A request that can be read is resolved at the addresses that are planned, in order. -/
theorem resolved_decode {policy : EmptyNamePolicy} {values : List (String × Value)}
    (planned : (plan policy type.descriptors).result = .ok targets)
    (read : (readAll type source policy).result = .ok values) (record : Record) :
    (decode type source ⟨policy⟩ record).journal.events.filterMap Event.resolved? =
      targets.map fun target => (target.parameter, target.location.text) := by
  have found : (readTargets type source targets).result = .ok values := by
    obtain ⟨others, planned', found⟩ := readAll_eq_ok_iff.mp read
    obtain rfl := Except.ok.inj (planned.symm.trans planned')
    exact found
  have resolved : (readAll type source policy).events.filterMap Event.resolved? =
      targets.map fun target => (target.parameter, target.location.text) := by
    rw [readAll, Journal.events_bind_of_ok _ planned, List.filterMap_append, resolved_plan,
      resolved_readTargets found, List.nil_append]
  have written : ((type.writeAll values record).journal >>= fun _ =>
      Journal.note (.decoded values.length)).events.filterMap Event.resolved? = [] := by
    refine List.filterMap_eq_nil_iff.mpr fun event mem => ?_
    rcases Journal.mem_events_bind mem with assigned | ⟨_, noted⟩
    · exact List.filterMap_eq_nil_iff.mp (resolved_writeAll values record) event assigned
    · obtain rfl := List.mem_singleton.mp noted
      rfl
  unfold decode
  simp only [read]
  rw [Journal.events_bind_of_ok _ read, List.filterMap_append, resolved, written, List.append_nil]

end Reading

/-- Decoding and documentation under the same policy read annotated fields alike.  What is
documented is decoded under the same names at the same locations, each looked up there in order, and
nothing else is; what cannot be documented for more than a literal cannot be decoded, and what
cannot be decoded cannot be documented. -/
theorem pipelines_agree (policy : EmptyNamePolicy) (descriptors : List Descriptor) :
    (∀ parameters, (describeAll policy descriptors).result = .ok parameters →
      ∃ targets, (plan policy descriptors).result = .ok targets ∧
        targets.map Target.address = parameters.map Parameter.address ∧
        ∀ type : RecordType, type.descriptors = descriptors → ∀ source,
          (readAll type source policy).result = targets.mapM (Target.read type source) ∧
          ∀ record,
            (∀ failure, targets.mapM (Target.read type source) = .error failure →
              (decode type source ⟨policy⟩ record).journal.result = .error failure) ∧
            (∀ values, targets.mapM (Target.read type source) = .ok values →
              (decode type source ⟨policy⟩ record).journal.events.filterMap Event.resolved? =
                parameters.map fun parameter => (parameter.name, parameter.location.text))) ∧
    (∀ failure, (describeAll policy descriptors).result = .error failure →
      failure.kind ≠ .invalidArgument →
      ∀ type : RecordType, type.descriptors = descriptors → ∀ source record,
        (decode type source ⟨policy⟩ record).journal.result = .error failure.whileDecoding) ∧
    (∀ failure, (plan policy descriptors).result = .error failure →
      ∃ before descriptor after, descriptors = before ++ descriptor :: after ∧
        StopsAt (plan policy) before descriptor failure ∧
        (StopsAt (describeAll policy) before descriptor failure.whileDescribing ∨
          ∃ earlier first later key literal reason, before = earlier ++ first :: later ∧
            StopsAt (describeAll policy) earlier first
              (.invalidArgument key literal first.field reason))) := by
  refine ⟨?_, ?_, ?_⟩
  · intro parameters described
    obtain ⟨shown, passed, rfl⟩ := mapM_of_result_ok (result_describeAll policy _) described
    obtain ⟨found, planned, agree⟩ := EmptyNamePolicy.mapM_target_of_ok passed
    have targets : (plan policy descriptors).result = .ok found.reduceOption := by
      rw [result_plan, planned]
      rfl
    refine ⟨found.reduceOption, targets, agree, ?_⟩
    rintro type rfl source
    have reading : (readAll type source policy).result = _ := result_readAll targets
    refine ⟨reading, fun record => ⟨fun failure failed => ?_, fun values read => ?_⟩⟩
    · exact (decode_of_readAll_error (reading.trans failed) record).2
    · have places := congrArg (List.map (Prod.map id Location.text)) agree
      rw [resolved_decode targets (reading.trans read) record]
      simpa [Function.comp_def, Target.address, Parameter.address] using places
  · intro failure failed unliteral type same source record
    obtain ⟨before, descriptor, after, shown, rfl, passed, refused⟩ :=
      mapM_eq_error_iff.mp (mapM_of_result_error (result_describeAll policy _) failed)
    obtain ⟨found, planned, -⟩ := EmptyNamePolicy.mapM_target_of_ok passed
    have stops := stopsAt_of_mapM (result_plan policy) planned
      (EmptyNamePolicy.treat_target_of_error refused unliteral)
    have unread : (readAll type source policy).result = .error failure.whileDecoding := by
      rw [readAll, Journal.result_bind, same, stops.refuses]
      rfl
    exact (decode_of_readAll_error unread record).2
  · intro failure failed
    obtain ⟨before, descriptor, after, found, rfl, passed, refused⟩ :=
      mapM_eq_error_iff.mp (mapM_of_result_error (result_plan policy _) failed)
    refine ⟨before, descriptor, after, rfl, stopsAt_of_mapM (result_plan policy) passed refused, ?_⟩
    cases described : before.mapM (policy.treat Descriptor.describe) with
    | ok shown =>
      exact .inl (stopsAt_of_mapM (result_describeAll policy) described
        (EmptyNamePolicy.treat_describe_of_error refused).1)
    | error cause =>
      obtain ⟨earlier, first, later, shown, rfl, reached, faulted⟩ :=
        mapM_eq_error_iff.mp described
      obtain ⟨target, planned⟩ :=
        ok_of_mem_of_mapM passed (List.mem_append_right earlier List.mem_cons_self)
      rcases EmptyNamePolicy.treat_describe_of_ok planned with
        ⟨parameter, allowed, _⟩ | ⟨other, rejected, key, literal, reason, rfl⟩
      · exact absurd (faulted.symm.trans allowed) (by simp)
      · obtain rfl := Except.error.inj (faulted.symm.trans rejected)
        exact .inr ⟨earlier, first, later, key, literal, reason, rfl,
          stopsAt_of_mapM (result_describeAll policy) reached faulted⟩

def limitAndId : RecordType :=
  [⟨"limit", .int, some "kind: query", .int⟩,
    ⟨"id", .int, some "name: id; kind: path; example: 5", .int⟩]

def captured : Source := Source.ofRequest { captures := [("id", "7")] }

theorem pipelines_agree_on_mixed_fields :
    let misfit := Descriptor.read "id" .int "name: id; kind: path; example: five"
    let misplaced := Descriptor.read "body" .string "name: b; kind: body"
    (∃ targets, (plan .skip limitAndId.descriptors).result = .ok targets ∧
      targets.map Target.address = [("id", .path)] ∧
      targets.mapM (Target.read limitAndId captured) = .ok [("id", .int 7)] ∧
      (decode limitAndId captured ⟨.skip⟩ limitAndId.initial).journal.events.filterMap
        Event.resolved? = [("id", "path")]) ∧
    (decode [⟨"body", .string, some "name: b; kind: body", .string⟩] (queried "b=1") ⟨.skip⟩
        [some (.string "")]).journal.result = .error (.unsupportedLocation "body" "body") ∧
    ∃ before descriptor after, [misfit, misplaced] = before ++ descriptor :: after ∧
      StopsAt (plan .skip) before descriptor (.unsupportedLocation "body" "body") ∧
      ∃ earlier first later key literal reason, before = earlier ++ first :: later ∧
        StopsAt (describeAll .skip) earlier first
          (.invalidArgument key literal first.field reason) := by
  intro misfit misplaced
  refine ⟨?_, ?_, ?_⟩
  · have shown : (describeAll .skip limitAndId.descriptors).result.map
        (List.map Parameter.address) = .ok [("id", .path)] := by decide +kernel
    have read : (readAll limitAndId captured .skip).result = .ok [("id", .int 7)] := by
      decide +kernel
    cases described : (describeAll .skip limitAndId.descriptors).result with
    | error failure => simp [described, Except.map] at shown
    | ok parameters =>
      have places : parameters.map Parameter.address = [("id", .path)] := by
        simpa [described, Except.map] using shown
      obtain ⟨targets, planned, agree, reads⟩ := (pipelines_agree .skip _).1 parameters described
      obtain ⟨whole, each⟩ := reads limitAndId rfl captured
      have reading := whole.symm.trans read
      refine ⟨targets, planned, agree.trans places, reading, ?_⟩
      rw [(each limitAndId.initial).2 _ reading]
      simpa [Function.comp_def, Parameter.address, Location.text] using
        congrArg (List.map (Prod.map id Location.text)) places
  · have refused : (describeAll .skip [misplaced]).result.map (List.map Parameter.address) =
        .error (.invalidLocation "body" "body") := by decide +kernel
    cases described : (describeAll .skip [misplaced]).result with
    | ok parameters => simp [described, Except.map] at refused
    | error failure =>
      obtain rfl : failure = .invalidLocation "body" "body" := by
        simpa [described, Except.map] using refused
      exact (pipelines_agree .skip _).2.1 _ described (by decide) _ rfl _ _
  · have refused : (plan .skip [misfit, misplaced]).result =
        .error (.unsupportedLocation "body" "body") := by decide +kernel
    obtain ⟨before, descriptor, after, cut, stops, agree⟩ :=
      (pipelines_agree .skip _).2.2 _ refused
    refine ⟨before, descriptor, after, cut, stops, agree.resolve_left ?_⟩
    rintro ⟨-, described⟩
    have first := described after
    rw [← cut] at first
    have literal : (describeAll .skip [misfit, misplaced]).result.map
        (List.map Parameter.address) ≠ .error (.invalidLocation "body" "body") := by
      decide +kernel
    exact literal (by rw [first]; rfl)

end RequestParams
