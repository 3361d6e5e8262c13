import RequestParams.Proofs.FailureOrder

set_option autoImplicit false
set_option relaxedAutoImplicit false

/-!
What describing makes of annotated fields.  A field is described when five checks let it pass, and
the parameter then says what the field's literals say; otherwise the first check that fails decides.
A row of fields is described field by field, up to the first that is refused.
-/

namespace RequestParams

def FloatLiteral.finite? (literal : String) : Option Binary64 :=
  match read literal with
  | some (.number value) => (some (Binary64.ofDecimal value)).filter Binary64.isFinite
  | _ => none

def truthTexts : List String :=
  ["1", "t", "T", "TRUE", "true", "True", "0", "f", "F", "FALSE", "false", "False"]

namespace Descriptor

def kinds : List String := ["query", "path", "header", "cookie"]

/-- Whether a field can be described: its kind is known, its type is one that parameters can have,
and each of its other literals is left out or fits its key. -/
structure Documentable (descriptor : Descriptor) : Prop where
  placed : descriptor.literals.kind ∈ kinds
  typed : descriptor.type ∈ [.int, .bool, .string]
  shown : descriptor.literals.exampleText = "" ∨
    (descriptor.type.readValue descriptor.literals.exampleText).isSome = true
  /-- A path parameter is required, so that its mark is not looked at. -/
  marked : descriptor.literals.kind = "path" ∨ descriptor.literals.required = "" ∨
    descriptor.literals.required ∈ truthTexts
  bounded : descriptor.literals.schemaMin = "" ∨
    (FloatLiteral.finite? descriptor.literals.schemaMin).isSome = true

/-- Whether a parameter says what the literals of a field say. -/
structure Documents (descriptor : Descriptor) (parameter : Parameter) : Prop where
  named : parameter.name = descriptor.literals.name
  placed : parameter.location.text = descriptor.literals.kind
  told : parameter.description =
    if descriptor.literals.description = "" then none else some descriptor.literals.description
  shown : parameter.exampleValue =
    if descriptor.literals.exampleText = "" then none
    else (descriptor.type.readValue descriptor.literals.exampleText).map Value.toJson
  needed : parameter.required = true ↔
    parameter.location = .path ∨ descriptor.literals.required ∈ trueTexts
  typed : descriptor.type.schemaType = some parameter.schema.type
  bounded : parameter.schema.minimum =
    if descriptor.literals.schemaMin = "" then none
    else FloatLiteral.finite? descriptor.literals.schemaMin

def kindCheck (descriptor : Descriptor) : Option Failure :=
  if descriptor.literals.kind ∈ kinds then none
  else some (.invalidLocation descriptor.field descriptor.literals.kind)

def exampleCheck (descriptor : Descriptor) : Option Failure :=
  let literal := descriptor.literals.exampleText
  if literal = "" ∨ (descriptor.type.readValue literal).isSome then none
  else some (.invalidArgument "example" literal descriptor.field
    (Failure.typeMismatch descriptor.field literal descriptor.type).message)

def markCheck (descriptor : Descriptor) : Option Failure :=
  let literal := descriptor.literals.required
  if descriptor.literals.kind = "path" ∨ literal = "" ∨ literal ∈ truthTexts then none
  else some (.invalidArgument "required" literal descriptor.field "not a boolean")

def minimumCheck (descriptor : Descriptor) : Option Failure :=
  let literal := descriptor.literals.schemaMin
  if literal = "" ∨ (FloatLiteral.finite? literal).isSome then none
  else some (.invalidArgument "schemaMin" literal descriptor.field
    (if FloatLiteral.read literal = none then "invalid float literal" else "not a finite number"))

def documentChecks (descriptor : Descriptor) : List (Option Failure) :=
  [descriptor.kindCheck, descriptor.type.check descriptor.field, descriptor.exampleCheck,
    descriptor.markCheck, descriptor.minimumCheck]

variable {descriptor : Descriptor} {location : Location} {parameter : Parameter}

theorem kind_mem_kinds_iff :
    descriptor.literals.kind ∈ kinds ↔ ∃ location : Location,
      location.text = descriptor.literals.kind := by
  constructor
  · intro known
    simp only [kinds, List.mem_cons, List.not_mem_nil, or_false] at known
    rcases known with kind | kind | kind | kind
    exacts [⟨.query, kind.symm⟩, ⟨.path, kind.symm⟩, ⟨.header, kind.symm⟩, ⟨.cookie, kind.symm⟩]
  · rintro ⟨location, kind⟩
    rw [← kind]
    cases location <;> decide

theorem documentedLocation_eq_ok_iff :
    descriptor.documentedLocation = .ok location ↔
      location.text = descriptor.literals.kind := by
  unfold documentedLocation location?
  constructor
  · intro placed
    cases known : Location.read? descriptor.literals.kind with
    | none => simp [known] at placed
    | some found =>
      obtain rfl : found = location := by simpa [known] using placed
      exact Location.text_of_read? known
  · intro kind
    rw [← kind, Location.read?_text]

theorem failure?_documentedLocation :
    failure? descriptor.documentedLocation = descriptor.kindCheck := by
  unfold kindCheck
  split_ifs with known
  · obtain ⟨location, kind⟩ := kind_mem_kinds_iff.mp known
    rw [documentedLocation_eq_ok_iff.mpr kind]
    rfl
  · cases placed : descriptor.documentedLocation with
    | ok location =>
      exact absurd (kind_mem_kinds_iff.mpr ⟨_, documentedLocation_eq_ok_iff.mp placed⟩) known
    | error failure =>
      unfold documentedLocation at placed
      split at placed
      · simp at placed
      · rw [← Except.error.inj placed]
        rfl

theorem schema_eq_ok_iff {schema : Schema} :
    descriptor.schema = .ok schema ↔
      descriptor.type.schemaType = some schema.type ∧ schema.minimum = none := by
  obtain ⟨type, minimum⟩ := schema
  unfold Descriptor.schema FieldType.schemaType
  cases descriptor.type <;> simp [eq_comm]

theorem failure?_schema : failure? descriptor.schema = descriptor.type.check descriptor.field := by
  unfold Descriptor.schema FieldType.check
  cases descriptor.type <;> rfl

theorem exampleValue_eq_ok_iff {shown : Option Value} :
    descriptor.exampleValue = .ok shown ↔
      if descriptor.literals.exampleText = "" then shown = none
      else descriptor.type.readValue descriptor.literals.exampleText = shown ∧ shown.isSome := by
  unfold exampleValue
  simp only
  split_ifs with absent
  · simp [eq_comm]
  · cases coerced : coerce descriptor.field descriptor.type descriptor.literals.exampleText with
    | ok value =>
      rw [coerce_eq_ok_iff] at coerced
      cases shown <;> simp [coerced]
    | error failure =>
      refine iff_of_false (by simp) ?_
      rintro ⟨read, some⟩
      obtain ⟨value, rfl⟩ := Option.isSome_iff_exists.mp some
      rw [coerce_eq_ok_iff.mpr read] at coerced
      simp at coerced

theorem failure?_exampleValue (typed : descriptor.type.check descriptor.field = none) :
    failure? descriptor.exampleValue = descriptor.exampleCheck := by
  unfold exampleValue exampleCheck coerce
  simp only
  cases declared : descriptor.type with
  | unsupported typeName => simp [declared, FieldType.check] at typed
  | int | bool | string =>
    by_cases absent : descriptor.literals.exampleText = ""
    · simp [absent, failure?]
    · cases FieldType.readValue _ descriptor.literals.exampleText <;>
        simp [absent, failure?, invalidLiteral]

theorem mem_truthTexts_iff {text : String} : text ∈ truthTexts ↔ (readBool text).isSome = true := by
  have split : truthTexts = trueTexts ++ falseTexts := rfl
  unfold readBool
  rw [split, List.mem_append]
  split_ifs <;> simp [*]

theorem required_eq_ok_iff {needed : Bool} :
    descriptor.required location = .ok needed ↔
      (location = .path ∨ descriptor.literals.required = "" ∨
        descriptor.literals.required ∈ truthTexts) ∧
      (needed = true ↔ location = .path ∨ descriptor.literals.required ∈ trueTexts) := by
  unfold required requiredMark
  simp only [mem_truthTexts_iff, readBool]
  by_cases there : location = .path
  · cases needed <;> simp [there]
  · by_cases absent : descriptor.literals.required = ""
    · have blank : "" ∉ trueTexts := by decide
      cases needed <;> simp [there, absent, blank]
    · by_cases yes : descriptor.literals.required ∈ trueTexts
      · cases needed <;> simp [there, absent, yes]
      · by_cases no : descriptor.literals.required ∈ falseTexts <;>
          cases needed <;> simp [there, absent, yes, no]

theorem failure?_required (placed : location.text = descriptor.literals.kind) :
    failure? (descriptor.required location) = descriptor.markCheck := by
  have path : location = .path ↔ descriptor.literals.kind = "path" := by
    rw [← placed]
    cases location <;> decide
  unfold required requiredMark markCheck
  simp only [path, mem_truthTexts_iff]
  by_cases there : descriptor.literals.kind = "path"
  · simp [there, failure?]
  · by_cases absent : descriptor.literals.required = ""
    · simp [there, absent, failure?]
    · cases readBool descriptor.literals.required <;> simp [there, absent, failure?, invalidLiteral]

theorem minimum_eq_ok_iff {least : Option Binary64} :
    descriptor.minimum = .ok least ↔
      if descriptor.literals.schemaMin = "" then least = none
      else FloatLiteral.finite? descriptor.literals.schemaMin = least ∧ least.isSome := by
  unfold minimum FloatLiteral.finite?
  simp only
  split_ifs with absent
  · simp [eq_comm]
  · cases FloatLiteral.read descriptor.literals.schemaMin with
    | none => cases least <;> simp
    | some number =>
      cases number with
      | infinity | notANumber => cases least <;> simp
      | number value =>
        by_cases finite : (Binary64.ofDecimal value).isFinite = true <;>
          cases least <;> simp [finite, Option.filter]

theorem failure?_minimum : failure? descriptor.minimum = descriptor.minimumCheck := by
  unfold minimum minimumCheck FloatLiteral.finite?
  simp only
  by_cases absent : descriptor.literals.schemaMin = ""
  · simp [absent, failure?]
  · cases FloatLiteral.read descriptor.literals.schemaMin with
    | none => simp [absent, failure?, invalidLiteral]
    | some number =>
      cases number with
      | infinity | notANumber => simp [absent, failure?, invalidLiteral]
      | number value =>
        by_cases finite : (Binary64.ofDecimal value).isFinite = true <;>
          simp [absent, finite, failure?, invalidLiteral, Option.filter]

theorem failure?_bind_or {α β : Type} {first : Except Failure α} {next : α → Except Failure β}
    {check : Option Failure} (behind : ∀ value, first = .ok value → failure? (next value) = check) :
    failure? (first >>= next) = (failure? first).or check := by
  rw [failure?_bind]
  cases first with
  | error failure => rfl
  | ok value => exact behind value rfl

/-- A field is described as the first of its checks that fails decides. -/
theorem failure?_describe :
    failure? descriptor.describe = firstFailure descriptor.documentChecks := by
  simp only [documentChecks, firstFailure_cons, firstFailure_nil, ← failure?_documentedLocation,
    ← failure?_schema, ← failure?_minimum]
  refine failure?_bind_or fun location placed => failure?_bind_or fun schema typed => ?_
  have supported : descriptor.type.check descriptor.field = none := by
    rw [← failure?_schema, typed]
    rfl
  rw [← failure?_exampleValue supported,
    ← failure?_required (documentedLocation_eq_ok_iff.mp placed)]
  exact failure?_bind_or fun shown _ => failure?_bind_or fun needed _ =>
    failure?_bind_or fun least _ => rfl

theorem firstFailure_documentChecks_eq_none_iff :
    firstFailure descriptor.documentChecks = none ↔ descriptor.Documentable := by
  simp only [documentChecks, firstFailure_cons, firstFailure_nil, Option.or_none,
    Option.or_eq_none_iff, kindCheck, exampleCheck, markCheck, minimumCheck, ite_eq_left_iff,
    reduceCtorEq, imp_false, not_not]
  have typed : descriptor.type.check descriptor.field = none ↔
      descriptor.type ∈ [.int, .bool, .string] := by
    cases descriptor.type <;> simp [FieldType.check]
  rw [typed]
  constructor
  · rintro ⟨placed, typed, shown, marked, bounded⟩
    exact ⟨placed, typed, shown, marked, bounded⟩
  · rintro ⟨placed, typed, shown, marked, bounded⟩
    exact ⟨placed, typed, shown, marked, bounded⟩

theorem exists_describe_iff :
    (∃ parameter, descriptor.describe = .ok parameter) ↔ descriptor.Documentable := by
  rw [← firstFailure_documentChecks_eq_none_iff, ← failure?_describe]
  cases descriptor.describe <;> simp [failure?]

theorem documents_of_describe (described : descriptor.describe = .ok parameter) :
    descriptor.Documents parameter := by
  unfold describe at described
  obtain ⟨location, placed, described⟩ := bind_eq_ok_iff.mp described
  obtain ⟨schema, typed, described⟩ := bind_eq_ok_iff.mp described
  obtain ⟨shown, exampled, described⟩ := bind_eq_ok_iff.mp described
  obtain ⟨needed, marked, described⟩ := bind_eq_ok_iff.mp described
  obtain ⟨least, bounded, described⟩ := bind_eq_ok_iff.mp described
  obtain rfl := Except.ok.inj described
  rw [exampleValue_eq_ok_iff] at exampled
  rw [minimum_eq_ok_iff] at bounded
  refine ⟨rfl, documentedLocation_eq_ok_iff.mp placed, rfl, ?_, (required_eq_ok_iff.mp marked).2,
    (schema_eq_ok_iff.mp typed).1, ?_⟩
  · split_ifs at exampled ⊢ with absent
    · simp [exampled]
    · simp [exampled.1]
  · split_ifs at bounded ⊢ with absent
    · exact bounded
    · exact bounded.1.symm

theorem Documents.unique {other : Parameter} (first : descriptor.Documents parameter)
    (second : descriptor.Documents other) : parameter = other := by
  have place : parameter.location = other.location := by
    have text := first.placed.trans second.placed.symm
    rw [← Option.some_inj, ← Location.read?_text, text, Location.read?_text]
  have need : parameter.required = other.required := by
    rw [Bool.eq_iff_iff, first.needed, second.needed, place]
  have type : parameter.schema.type = other.schema.type :=
    Option.some.inj (first.typed.symm.trans second.typed)
  obtain ⟨_, _, _, _, _, ⟨_, _⟩⟩ := parameter
  obtain ⟨_, _, _, _, _, ⟨_, _⟩⟩ := other
  simp only [Parameter.mk.injEq, Schema.mk.injEq]
  exact ⟨first.named.trans second.named.symm, place, first.told.trans second.told.symm,
    first.shown.trans second.shown.symm, need, type, first.bounded.trans second.bounded.symm⟩

theorem describe_eq_ok_iff :
    descriptor.describe = .ok parameter ↔
      descriptor.Documentable ∧ descriptor.Documents parameter := by
  constructor
  · intro described
    exact ⟨exists_describe_iff.mp ⟨parameter, described⟩, documents_of_describe described⟩
  · rintro ⟨documentable, documents⟩
    obtain ⟨other, described⟩ := exists_describe_iff.mpr documentable
    rwa [documents.unique (documents_of_describe described)]

theorem describe_eq_error_iff {failure : Failure} :
    descriptor.describe = .error failure ↔
      firstFailure descriptor.documentChecks = some failure := by
  rw [← failure?_describe, failure?_eq_some_iff]

end Descriptor

section Fields

variable {policy : EmptyNamePolicy} {descriptors : List Descriptor}

theorem describeAll_cons_eq_ok_iff {descriptor : Descriptor} {parameters : List Parameter} :
    (describeAll policy (descriptor :: descriptors)).result = .ok parameters ↔
      if descriptor.literals.name = "" then
        policy = .skip ∧ (describeAll policy descriptors).result = .ok parameters
      else ∃ parameter others, descriptor.describe = .ok parameter ∧
        (describeAll policy descriptors).result = .ok others ∧
          parameters = parameter :: others := by
  simp only [describeAll, Descriptor.isNameless, decide_eq_true_eq]
  split_ifs with nameless
  · cases policy with
    | skip =>
      simp only [Journal.result_bind, Journal.result_note, true_and]
      rfl
    | reject => simp
  · simp only [Journal.result_bind, Journal.result_ofExcept, Journal.result_pure, bind_eq_ok_iff,
      Except.ok.injEq, exists_and_left]
    simp only [eq_comm]

theorem describeAll_eq_ok_iff {parameters : List Parameter} :
    (describeAll policy descriptors).result = .ok parameters ↔
      (policy = .reject → ∀ descriptor ∈ descriptors, descriptor.literals.name ≠ "") ∧
      List.Forall₂ (fun descriptor parameter => descriptor.describe = .ok parameter)
        (descriptors.filter fun descriptor => descriptor.literals.name ≠ "") parameters := by
  induction descriptors generalizing parameters with
  | nil => cases parameters <;> simp [describeAll]
  | cons descriptor rest ih =>
    rw [describeAll_cons_eq_ok_iff]
    split_ifs with nameless
    · rw [ih]
      cases policy <;> simp [nameless]
    · simp only [ih, List.forall_mem_cons, List.filter_cons, nameless, ne_eq, not_false_eq_true,
        decide_true, if_true, true_and, List.forall₂_cons_left_iff]
      constructor
      · rintro ⟨parameter, others, described, ⟨named, each⟩, rfl⟩
        exact ⟨named, parameter, others, described, each, rfl⟩
      · rintro ⟨named, parameter, others, described, each, rfl⟩
        exact ⟨parameter, others, described, ⟨named, each⟩, rfl⟩

theorem treat_describe_eq_error_iff {descriptor : Descriptor} {failure : Failure} :
    policy.treat Descriptor.describe descriptor = .error failure ↔
      if descriptor.literals.name = "" then
        policy = .reject ∧ failure = .emptyName descriptor.field
      else descriptor.describe = .error failure := by
  unfold EmptyNamePolicy.treat Descriptor.isNameless
  by_cases nameless : descriptor.literals.name = ""
  · cases policy <;> simp [nameless, eq_comm]
  · cases descriptor.describe <;> simp [nameless, Except.map]

theorem describeAll_eq_error_iff {failure : Failure} :
    (describeAll policy descriptors).result = .error failure ↔
      ∃ before descriptor after, descriptors = before ++ descriptor :: after ∧
        (∃ parameters, (describeAll policy before).result = .ok parameters) ∧
        if descriptor.literals.name = "" then
          policy = .reject ∧ failure = .emptyName descriptor.field
        else descriptor.describe = .error failure := by
  simp only [← treat_describe_eq_error_iff]
  constructor
  · intro failed
    obtain ⟨before, descriptor, after, found, cut, passed, refused⟩ :=
      mapM_eq_error_iff.mp (mapM_of_result_error (result_describeAll policy _) failed)
    refine ⟨before, descriptor, after, cut, ⟨found.reduceOption, ?_⟩, refused⟩
    rw [result_describeAll, passed]
    rfl
  · rintro ⟨before, descriptor, after, rfl, ⟨parameters, described⟩, refused⟩
    obtain ⟨found, passed, -⟩ := mapM_of_result_ok (result_describeAll policy _) described
    rw [result_describeAll,
      mapM_eq_error_iff.mpr ⟨before, descriptor, after, found, rfl, passed, refused⟩]
    rfl

end Fields

/-- Fields are described in order.  All are described when each with a name is and the policy lets
those without one pass; otherwise the first that is refused decides.  A field is described when its
literals fit, the parameter then says exactly what they say, and otherwise the first of its checks
that fails is the failure. -/
theorem describeAll_by_checks (policy : EmptyNamePolicy) (descriptors : List Descriptor) :
    (∀ parameters, (describeAll policy descriptors).result = .ok parameters ↔
      (policy = .reject → ∀ descriptor ∈ descriptors, descriptor.literals.name ≠ "") ∧
      List.Forall₂ (fun descriptor parameter => descriptor.describe = .ok parameter)
        (descriptors.filter fun descriptor => descriptor.literals.name ≠ "") parameters) ∧
    (∀ failure, (describeAll policy descriptors).result = .error failure ↔
      ∃ before descriptor after, descriptors = before ++ descriptor :: after ∧
        (∃ parameters, (describeAll policy before).result = .ok parameters) ∧
        if descriptor.literals.name = "" then
          policy = .reject ∧ failure = .emptyName descriptor.field
        else descriptor.describe = .error failure) ∧
    ∀ descriptor : Descriptor,
      ((∃ parameter, descriptor.describe = .ok parameter) ↔ descriptor.Documentable) ∧
      (∀ parameter, descriptor.describe = .ok parameter ↔
        descriptor.Documentable ∧ descriptor.Documents parameter) ∧
      ∀ failure, descriptor.describe = .error failure ↔
        firstFailure descriptor.documentChecks = some failure := by
  refine ⟨fun parameters => describeAll_eq_ok_iff, fun failure => describeAll_eq_error_iff, ?_⟩
  intro descriptor
  exact ⟨Descriptor.exists_describe_iff, fun parameter => Descriptor.describe_eq_ok_iff,
    fun failure => Descriptor.describe_eq_error_iff⟩

example :
    let faults := "name: id; example: five; required: perhaps; schemaMin: 1e999; kind: "
    failure? (Descriptor.read "id" .int (faults ++ "query")).describe =
      some (.invalidArgument "example" "five" "id"
        "cannot convert \"five\" to int for field 'id'") ∧
    failure? (Descriptor.read "id" .string (faults ++ "query")).describe =
      some (.invalidArgument "required" "perhaps" "id" "not a boolean") ∧
    failure? (Descriptor.read "id" .string (faults ++ "path")).describe =
      some (.invalidArgument "schemaMin" "1e999" "id" "not a finite number") := by
  decide +kernel

end RequestParams
