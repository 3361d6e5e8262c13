import RequestParams.Proofs.AtomicDecoding
import RequestParams.Proofs.IntegerTexts
import RequestParams.Proofs.SentParameters

set_option autoImplicit false
set_option relaxedAutoImplicit false

/-!
Decoding undoes sending.  Whatever values are chosen for the annotated fields, a request that
carries their plain texts is decoded to them.
-/

namespace RequestParams

open Http (Request Source)

namespace RecordType

structure Decodable (type : RecordType) : Prop where
  /-- Each field has a name of its own. -/
  distinct : (type.map Registration.name).Nodup
  /-- Storage agrees with declared types. -/
  agree : ∀ registration ∈ type, registration.Agrees
  /-- Each annotation names a parameter at a known location, for a field that can be written. -/
  annotated : ∀ registration ∈ type, ∀ descriptor ∈ registration.descriptor?,
    descriptor.isNameless = false ∧ descriptor.location?.isSome = true ∧
      registration.isSettable = true

/-- The parameters of the annotated fields, with the plain texts of values chosen by name. -/
def parameters (type : RecordType) (chosen : String → Value) : List SentParameter :=
  type.descriptors.filterMap fun descriptor => descriptor.location?.map fun location =>
    ⟨location, descriptor.literals.name, (chosen descriptor.field).plainText⟩

variable {type : RecordType}

def values (type : RecordType) (chosen : String → Value) : List (String × Value) :=
  type.descriptors.map fun descriptor => (descriptor.field, chosen descriptor.field)

end RecordType

variable {type : RecordType} {chosen : String → Value}

theorem named_of_mem_parameters (decodable : type.Decodable) {parameter : SentParameter}
    (mem : parameter ∈ type.parameters chosen) : parameter.Named := by
  obtain ⟨descriptor, annotated, sent⟩ := List.mem_filterMap.mp mem
  obtain ⟨location, _, rfl⟩ := Option.map_eq_some_iff.mp sent
  obtain ⟨registration, known, read, _⟩ := RecordType.exists_of_mem_descriptors annotated
  have named := (decodable.annotated registration known descriptor read).1
  obtain ⟨text, _, rfl⟩ := Option.map_eq_some_iff.mp read
  have clean := Literals.clean_lookup text "name"
  exact ⟨by simpa [Descriptor.isNameless] using named, clean.1, clean.2⟩

theorem readAll_of_each {source : Source} {policy : EmptyNamePolicy}
    (each : ∀ descriptor ∈ type.descriptors, ∃ target raw,
      policy.treat Descriptor.target descriptor = .ok (some target) ∧
        target.field = descriptor.field ∧ target.resolve source = .ok raw ∧
        type.coerce descriptor.field raw = .ok (chosen descriptor.field)) :
    (readAll type source policy).result = .ok (type.values chosen) := by
  obtain ⟨targets, planned, read⟩ : ∃ targets : List Target,
      type.descriptors.mapM (policy.treat Descriptor.target) = .ok (targets.map some) ∧
        (targets.mapM fun target => (readTarget type source target).result) =
          .ok (type.values chosen) := by
    rw [RecordType.values]
    generalize type.descriptors = descriptors at each
    induction descriptors with
    | nil => exact ⟨[], rfl, rfl⟩
    | cons descriptor rest ih =>
      obtain ⟨⟨target, raw, planned, same, found, coerced⟩, others⟩ :=
        List.forall_mem_cons.mp each
      obtain ⟨targets, passed, read⟩ := ih others
      have first : (readTarget type source target).result =
          .ok (descriptor.field, chosen descriptor.field) :=
        readTarget_eq_ok_iff.mpr ⟨same.symm, raw, found, by rw [same]; exact coerced⟩
      refine ⟨target :: targets, ?_, ?_⟩
      · rw [mapM_eq_ok_iff] at passed ⊢
        exact .cons planned passed
      · rw [mapM_eq_ok_iff] at read ⊢
        exact .cons first read
  refine readAll_eq_ok_iff.mpr ⟨targets, ?_, ?_⟩
  · rw [result_plan, planned]
    simp [Except.map, List.reduceOption]
  · rw [result_readTargets, read]

theorem treat_target_of_known {policy : EmptyNamePolicy} {descriptor : Descriptor}
    {location : Location} {value : Value} (named : descriptor.isNameless = false)
    (known : descriptor.location? = some location) (typed : value.type = descriptor.type) :
    policy.treat Descriptor.target descriptor =
      .ok (some ⟨descriptor.field, descriptor.literals.name, location⟩) := by
  have planned : descriptor.target =
      .ok ⟨descriptor.field, descriptor.literals.name, location⟩ := by
    rw [Descriptor.target, Descriptor.location, known, ← typed]
    cases value <;> rfl
  simp [EmptyNamePolicy.treat, named, planned, Except.map]

/-- Every annotated field is found as what was sent for it. -/
theorem found_of_carries (policy : EmptyNamePolicy) {sent : List SentParameter}
    {request : Request} (decodable : type.Decodable)
    (typed : ∀ descriptor ∈ type.descriptors, (chosen descriptor.field).type = descriptor.type)
    (order : sent.Perm (type.parameters chosen)) (distinct : (sent.map SentParameter.key).Nodup)
    (fits : ∀ parameter ∈ sent, parameter.Fits) (carries : Carries sent request) :
    ∀ descriptor ∈ type.descriptors, ∃ target raw,
      policy.treat Descriptor.target descriptor = .ok (some target) ∧
        target.field = descriptor.field ∧ target.resolve (Source.ofRequest request) = .ok raw ∧
        type.coerce descriptor.field raw = .ok (chosen descriptor.field) := by
  intro descriptor mem
  obtain ⟨registration, held, read, sameField, sameType⟩ :=
    RecordType.exists_of_mem_descriptors mem
  obtain ⟨named, located, settable⟩ := decodable.annotated registration held descriptor read
  obtain ⟨location, known⟩ := Option.isSome_iff_exists.mp located
  refine ⟨⟨descriptor.field, descriptor.literals.name, location⟩,
    (chosen descriptor.field).plainText, treat_target_of_known named known (typed descriptor mem),
    rfl, ?_, ?_⟩
  · have inside : ⟨location, descriptor.literals.name, (chosen descriptor.field).plainText⟩ ∈
        type.parameters chosen :=
      List.mem_filterMap.mpr ⟨descriptor, mem, by simp [known]⟩
    have allNamed : ∀ parameter ∈ sent, parameter.Named := fun parameter among =>
      named_of_mem_parameters decodable (order.subset among)
    have resolved := carries.resolve_eq allNamed fits distinct (order.mem_iff.mpr inside)
    rw [Target.resolve, resolved]
    rfl
  · refine RecordType.coerce_eq_ok_iff.mpr ⟨registration, ?_, settable, ?_⟩
    · rw [sameField]
      exact RecordType.get?_of_mem decodable.distinct held
    · rw [← sameType, ← typed descriptor mem]
      exact readValue_plainText _

theorem lastWritten_values (distinct : (type.map Registration.name).Nodup)
    (chosen : String → Value) {position : Nat} {registration : Registration}
    (registered : type[position]? = some registration) :
    type.lastWritten (type.values chosen) position =
      if registration.annotationText.isSome then some (chosen registration.name) else none := by
  have mem : registration ∈ type := List.mem_of_getElem? registered
  cases annotated : registration.annotationText with
  | some text =>
    have own : registration.descriptor? =
        some (Descriptor.read registration.name registration.type text) := by
      simp [Registration.descriptor?, annotated]
    have present : (registration.name, chosen registration.name) ∈ type.values chosen :=
      List.mem_map.mpr ⟨_, List.mem_filterMap.mpr ⟨registration, mem, own⟩, rfl⟩
    refine RecordType.lastWritten_of_agree present
      (RecordType.index_eq_of_getElem? distinct registered) ?_
    intro entry among same
    obtain ⟨descriptor, _, rfl⟩ := List.mem_map.mp among
    rw [RecordType.name_of_index_eq same registered]
  | none =>
    refine RecordType.lastWritten_of_absent ?_
    intro entry among same
    obtain ⟨descriptor, described, rfl⟩ := List.mem_map.mp among
    obtain ⟨other, known, read, sameField, _⟩ := RecordType.exists_of_mem_descriptors described
    have name := RecordType.name_of_index_eq same registered
    obtain rfl := List.inj_on_of_nodup_map distinct mem known (name.trans sameField)
    simp [Registration.descriptor?, annotated] at read

theorem writes_values (distinct : (type.map Registration.name).Nodup) (chosen : String → Value)
    {start : Record} (stored : start.length = type.length) :
    type.writes (type.values chosen) start =
      List.zipWith (fun registration held =>
        if registration.annotationText.isSome then some (chosen registration.name) else held)
        type start := by
  refine List.ext_getElem? fun position => ?_
  rw [RecordType.getElem?_writes, List.getElem?_zipWith]
  cases registered : type[position]? with
  | none =>
    have beyond : start[position]? = none := by
      rw [List.getElem?_eq_none_iff] at registered ⊢
      omega
    simp [beyond]
  | some registration =>
    rw [lastWritten_values distinct chosen registered]
    cases start[position]? with
    | none => rfl
    | some held =>
      by_cases annotated : registration.annotationText.isSome = true <;> simp [annotated]

/-- A request that carries the plain texts of values chosen for all annotated fields, each
parameter with a name of its own at its location, is decoded to these values; every other field
stays as it was.  A type that has values is one that parameters can have. -/
theorem decode_of_carries (options : DecodeOptions) {sent : List SentParameter}
    {request : Request} {start : Record} (decodable : type.Decodable)
    (typed : ∀ descriptor ∈ type.descriptors, (chosen descriptor.field).type = descriptor.type)
    (order : sent.Perm (type.parameters chosen)) (distinct : (sent.map SentParameter.key).Nodup)
    (fits : ∀ parameter ∈ sent, parameter.Fits) (carries : Carries sent request)
    (stored : start.length = type.length) :
    (decode type (Source.ofRequest request) options start).journal.result = .ok () ∧
      (decode type (Source.ofRequest request) options start).record =
        List.zipWith (fun registration held =>
          if registration.annotationText.isSome then some (chosen registration.name) else held)
          type start := by
  have each := found_of_carries options.emptyName decodable typed order distinct fits carries
  have read := readAll_of_each each
  have accepted : ∀ entry ∈ type.values chosen, type.rejects? entry.1 entry.2 = none := by
    intro entry among
    obtain ⟨descriptor, mem, rfl⟩ := List.mem_map.mp among
    obtain ⟨_, raw, _, _, _, coerced⟩ := each descriptor mem
    by_contra refused
    obtain ⟨failure, rejected⟩ := Option.ne_none_iff_exists'.mp refused
    obtain ⟨registration, found, disagrees, _⟩ := RecordType.rejects?_of_coerce coerced rejected
    exact disagrees (decodable.agree registration (RecordType.mem_of_get? found))
  obtain ⟨left, ended⟩ := decode_of_readAll_ok read start
  obtain ⟨written, succeeded⟩ := RecordType.writeAll_of_accepted accepted start
  exact ⟨ended.trans succeeded,
    (left.trans written).trans (writes_values decodable.distinct chosen stored)⟩

def starFields : RecordType :=
  [⟨"star_id", .int, some "kind: path; name: starId", .int⟩,
    ⟨"visits", .int, none, .int⟩,
    ⟨"search", .string, some "kind: query; name: q", .string⟩,
    ⟨"star_name", .string, some "kind: header; name: Star-Name", .string⟩,
    ⟨"session", .string, some "kind: cookie; name: session", .string⟩,
    ⟨"hot", .bool, some "kind: query; name: hot", .bool⟩]

/-- Values for the annotated fields, with separators and quotes in the texts. -/
def starValues : String → Value
  | "star_id" => .int (-5)
  | "search" => .string "é & 100% = +"
  | "star_name" => .string "Süd; \"a\""
  | "session" => .string " \"x=y\" "
  | _ => .bool true

def starParameters : List SentParameter :=
  [⟨.query, "hot", "true"⟩, ⟨.cookie, "session", " \"x=y\" "⟩,
    ⟨.query, "q", "é & 100% = +"⟩, ⟨.header, "Star-Name", "Süd; \"a\""⟩,
    ⟨.path, "starId", "-5"⟩]

def starRequest : Request :=
  let bare : Request := { uri := ⟨"/stars/-5", none⟩ }
  let headed := (bare.withCapture "starId" "-5").withHeader "Star-Name" "Süd; \"a\""
  let queried := headed.withPiece (Http.Query.encodePiece "q" "é & 100% = +")
  let recalled := queried.withCookie "session" "\" \"x=y\" \""
  recalled.withPiece (Http.Query.encodePiece "hot" "true")

theorem carries_starRequest : Carries starParameters starRequest := by
  have bare := Carries.bare "GET" "/stars/-5"
  have headed := (bare.path "starId" "-5").header "Star-Name" "Süd; \"a\""
  have queried := headed.query (Http.Query.written_encode true "q".toList)
    (Http.Query.written_encode false "é & 100% = +".toList)
  have recalled := queried.cookie "session" " \"x=y\" "
  exact recalled.query (Http.Query.written_encode true "hot".toList)
    (Http.Query.written_encode false "true".toList)

theorem decode_starRequest :
    starFields.Decodable ∧
    (∀ descriptor ∈ starFields.descriptors,
      (starValues descriptor.field).type = descriptor.type) ∧
    starParameters.Perm (starFields.parameters starValues) ∧
    (starParameters.map SentParameter.key).Nodup ∧
    (∀ parameter ∈ starParameters, parameter.Fits) ∧
    Carries starParameters starRequest ∧
    (decode starFields (Source.ofRequest starRequest) {}
      (starFields.initial.set 1 (some (.int 41)))).journal.result = .ok () ∧
    (decode starFields (Source.ofRequest starRequest) {}
      (starFields.initial.set 1 (some (.int 41)))).record =
      [some (.int (-5)), some (.int 41), some (.string "é & 100% = +"),
        some (.string "Süd; \"a\""), some (.string " \"x=y\" "), some (.bool true)] := by
  have decodable : starFields.Decodable :=
    ⟨by decide +kernel, by decide +kernel, by decide +kernel⟩
  have typed : ∀ descriptor ∈ starFields.descriptors,
      (starValues descriptor.field).type = descriptor.type := by decide +kernel
  have order : starParameters.Perm (starFields.parameters starValues) := by decide +kernel
  have distinct : (starParameters.map SentParameter.key).Nodup := by decide +kernel
  have fits : ∀ parameter ∈ starParameters, parameter.Fits := by decide +kernel
  have stored : (starFields.initial.set 1 (some (.int 41))).length = starFields.length := rfl
  obtain ⟨succeeded, held⟩ :=
    decode_of_carries {} decodable typed order distinct fits carries_starRequest stored
  exact ⟨decodable, typed, order, distinct, fits, carries_starRequest, succeeded, held⟩

end RequestParams
