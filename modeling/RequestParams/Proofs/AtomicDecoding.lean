import RequestParams.Proofs.RecordWrites

set_option autoImplicit false
set_option relaxedAutoImplicit false

/-!
Decoding is all or nothing.  What fails before the first write leaves the record alone; where the
storage of every field agrees with its declared type, no write can fail.
-/

namespace RequestParams

open Http (Source)

variable {type : RecordType} {source : Source} {policy : EmptyNamePolicy}

theorem readTarget_eq_ok_iff {target : Target} {entry : String × Value} :
    (readTarget type source target).result = .ok entry ↔
      entry.1 = target.field ∧ ∃ raw, target.resolve source = .ok raw ∧
        type.coerce target.field raw = .ok entry.2 := by
  rw [result_readTarget]
  simp only [bind_eq_ok_iff]
  constructor
  · rintro ⟨raw, found, value, coerced, same⟩
    obtain rfl := Except.ok.inj same
    exact ⟨rfl, raw, found, coerced⟩
  · rintro ⟨named, raw, found, coerced⟩
    exact ⟨raw, found, entry.2, coerced, by rw [← named]; rfl⟩

theorem readAll_eq_ok_iff {values : List (String × Value)} :
    (readAll type source policy).result = .ok values ↔
      ∃ targets, (plan policy type.descriptors).result = .ok targets ∧
        (readTargets type source targets).result = .ok values := by
  rw [readAll, Journal.result_bind, bind_eq_ok_iff]

theorem Descriptor.exists_of_target {descriptor : Descriptor} {target : Target}
    (planned : descriptor.target = .ok target) :
    ∃ location, descriptor.location? = some location ∧
      target = ⟨descriptor.field, descriptor.literals.name, location⟩ := by
  unfold Descriptor.target Descriptor.location at planned
  cases known : descriptor.location? with
  | none => simp [known] at planned
  | some location =>
    refine ⟨location, rfl, ?_⟩
    cases declared : descriptor.type <;> simp_all

theorem EmptyNamePolicy.target_of_treat {descriptor : Descriptor} {target : Target}
    (treated : policy.treat Descriptor.target descriptor = .ok (some target)) :
    descriptor.target = .ok target := by
  unfold treat at treated
  split at treated
  · cases policy <;> simp at treated
  · cases planned : descriptor.target <;> simp_all [Except.map]

theorem exists_of_mem_plan {descriptors : List Descriptor} {targets : List Target}
    (planned : (plan policy descriptors).result = .ok targets) {target : Target}
    (mem : target ∈ targets) : ∃ descriptor ∈ descriptors, descriptor.target = .ok target := by
  obtain ⟨treated, passed, rfl⟩ := mapM_of_result_ok (result_plan policy _) planned
  clear planned
  rw [List.reduceOption_mem_iff] at mem
  rw [mapM_eq_ok_iff] at passed
  induction passed with
  | nil => simp at mem
  | @cons descriptor _ _ _ here _ ih =>
    rcases List.mem_cons.mp mem with rfl | behind
    · exact ⟨descriptor, List.mem_cons_self, EmptyNamePolicy.target_of_treat here⟩
    · obtain ⟨other, known, aimed⟩ := ih behind
      exact ⟨other, List.mem_cons_of_mem _ known, aimed⟩

theorem registered_of_mem_plan {targets : List Target}
    (planned : (plan policy type.descriptors).result = .ok targets) {target : Target}
    (mem : target ∈ targets) : ∃ registration ∈ type, registration.name = target.field := by
  obtain ⟨descriptor, described, aimed⟩ := exists_of_mem_plan planned mem
  obtain ⟨registration, known, -, named, -⟩ := RecordType.exists_of_mem_descriptors described
  obtain ⟨location, -, rfl⟩ := Descriptor.exists_of_target aimed
  exact ⟨registration, known, named.symm⟩

theorem coerced_of_readTargets {targets : List Target} {values : List (String × Value)}
    (read : (readTargets type source targets).result = .ok values) :
    ∀ entry ∈ values, ∃ raw, type.coerce entry.1 raw = .ok entry.2 := by
  rw [result_readTargets, mapM_eq_ok_iff] at read
  induction read with
  | nil => simp
  | cons first _ ih =>
    obtain ⟨name, raw, _, coerced⟩ := readTarget_eq_ok_iff.mp first
    exact List.forall_mem_cons.mpr ⟨⟨raw, name ▸ coerced⟩, ih⟩

/-- Where storage agrees with declared types, it takes every value that is read. -/
theorem accepted_of_readAll (agree : ∀ registration ∈ type, registration.Agrees)
    {values : List (String × Value)} (read : (readAll type source policy).result = .ok values) :
    ∀ entry ∈ values, type.rejects? entry.1 entry.2 = none := by
  intro entry mem
  obtain ⟨targets, -, found⟩ := readAll_eq_ok_iff.mp read
  obtain ⟨raw, coerced⟩ := coerced_of_readTargets found entry mem
  by_contra refused
  obtain ⟨failure, rejected⟩ := Option.ne_none_iff_exists'.mp refused
  obtain ⟨registration, known, disagrees, -⟩ := RecordType.rejects?_of_coerce coerced rejected
  exact disagrees (agree registration (RecordType.mem_of_get? known))

theorem decode_of_readAll_error {options : DecodeOptions} {failure : Failure}
    (failed : (readAll type source options.emptyName).result = .error failure) (record : Record) :
    (decode type source options record).record = record ∧
      (decode type source options record).journal.result = .error failure := by
  simp [decode, failed]

theorem decode_of_readAll_ok {options : DecodeOptions} {values : List (String × Value)}
    (read : (readAll type source options.emptyName).result = .ok values) (record : Record) :
    (decode type source options record).record = (type.writeAll values record).record ∧
      (decode type source options record).journal.result =
        (type.writeAll values record).journal.result := by
  simp only [decode, read, Journal.result_bind, Journal.result_note, true_and]
  cases (type.writeAll values record).journal.result <;> rfl

def queried (query : String) : Source := Source.ofRequest { uri := ⟨"/", some query⟩ }

end RequestParams
