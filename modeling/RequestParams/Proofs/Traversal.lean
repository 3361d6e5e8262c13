import Mathlib.Data.List.Forall2
import Mathlib.Data.List.ReduceOption
import RequestParams.Extraction
import RequestParams.Describing

set_option autoImplicit false
set_option relaxedAutoImplicit false

/-!
The loops over annotated fields as traversals.  A traversal succeeds when every item does, item by
item, and otherwise fails with the first failure; the loops that plan, describe and read are
traversals of one step each.
-/

namespace RequestParams

section Except

variable {ε α β γ : Type}

theorem mapM_eq_ok_iff {f : α → Except ε β} {items : List α} {found : List β} :
    items.mapM f = .ok found ↔
      List.Forall₂ (fun item result => f item = .ok result) items found := by
  induction items generalizing found with
  | nil => cases found <;> simp [pure, Except.pure]
  | cons item rest ih =>
    rw [List.mapM_cons]
    simp only [bind_eq_ok_iff, ih]
    constructor
    · rintro ⟨result, first, results, others, same⟩
      obtain rfl := Except.ok.inj same
      exact .cons first others
    · intro each
      cases each with
      | @cons _ result _ results first others => exact ⟨result, first, results, others, rfl⟩

theorem ok_of_mem_of_mapM {f : α → Except ε β} {items : List α} {found : List β} {item : α}
    (passed : items.mapM f = .ok found) (mem : item ∈ items) : ∃ result, f item = .ok result := by
  rw [mapM_eq_ok_iff] at passed
  induction passed with
  | nil => simp at mem
  | @cons _ result _ _ here _ ih =>
    rcases List.mem_cons.mp mem with rfl | behind
    · exact ⟨result, here⟩
    · exact ih behind

theorem exists_append_of_mapM {f : α → Except ε β} {items : List α} {before after : List β}
    {result : β} (found : items.mapM f = .ok (before ++ result :: after)) :
    ∃ first item others, items = first ++ item :: others ∧ first.mapM f = .ok before ∧
      f item = .ok result := by
  rw [mapM_eq_ok_iff] at found
  induction before generalizing items with
  | nil =>
    cases found with
    | @cons item _ others _ here _ => exact ⟨[], item, others, rfl, rfl, here⟩
  | cons earlier rest ih =>
    cases found with
    | @cons head _ _ _ here behind =>
      obtain ⟨first, item, others, rfl, passed, ended⟩ := ih behind
      refine ⟨head :: first, item, others, rfl, ?_, ended⟩
      rw [mapM_eq_ok_iff] at passed ⊢
      exact .cons here passed

theorem mapM_eq_error_iff {f : α → Except ε β} {items : List α} {failure : ε} :
    items.mapM f = .error failure ↔
      ∃ before item after results, items = before ++ item :: after ∧
        before.mapM f = .ok results ∧ f item = .error failure := by
  constructor
  · intro failed
    induction items with
    | nil => simp [pure, Except.pure] at failed
    | cons item rest ih =>
      rw [List.mapM_cons] at failed
      cases first : f item with
      | error other =>
        obtain rfl : other = failure := by simpa [first, bind, Except.bind] using failed
        exact ⟨[], item, rest, [], rfl, rfl, first⟩
      | ok result =>
        cases others : rest.mapM f with
        | ok results => simp [first, others, bind, Except.bind, pure, Except.pure] at failed
        | error other =>
          obtain rfl : other = failure := by
            simpa [first, others, bind, Except.bind] using failed
          obtain ⟨before, last, after, results, rfl, passed, ended⟩ := ih others
          refine ⟨item :: before, last, after, result :: results, rfl, ?_, ended⟩
          rw [mapM_eq_ok_iff] at passed ⊢
          exact .cons first passed
  · rintro ⟨before, item, after, results, rfl, passed, ended⟩
    simp [List.mapM_append, passed, ended, bind, Except.bind]

end Except

section Fields

variable {α : Type}

/-- What a loop over annotated fields does with one of them: a field without a name is passed
over or refused, any other is treated. -/
def EmptyNamePolicy.treat (policy : EmptyNamePolicy) (treatment : Descriptor → Except Failure α)
    (descriptor : Descriptor) : Except Failure (Option α) :=
  if descriptor.isNameless then
    match policy with
    | .skip => .ok none
    | .reject => .error (.emptyName descriptor.field)
  else (treatment descriptor).map some

/-- A loop that treats one field after the other is a traversal. -/
private theorem result_of_steps {policy : EmptyNamePolicy}
    {treatment : Descriptor → Except Failure α} {loop : List Descriptor → Journal Failure (List α)}
    (ended : (loop []).result = .ok [])
    (stepped : ∀ descriptor rest, (loop (descriptor :: rest)).result = do
      let found ← policy.treat treatment descriptor
      let others ← (loop rest).result
      pure (found.toList ++ others))
    (descriptors : List Descriptor) :
    (loop descriptors).result =
      (descriptors.mapM (policy.treat treatment)).map List.reduceOption := by
  induction descriptors with
  | nil => simpa [pure, Except.pure, Except.map] using ended
  | cons descriptor rest ih =>
    rw [stepped, ih, List.mapM_cons]
    cases policy.treat treatment descriptor with
    | error failure => rfl
    | ok found =>
      cases rest.mapM (policy.treat treatment) with
      | error failure => rfl
      | ok others => cases found <;> rfl

private theorem result_round (policy : EmptyNamePolicy) (treatment : Descriptor → Except Failure α)
    (descriptor : Descriptor) (event : Event) (others : Journal Failure (List α)) :
    (if descriptor.isNameless then
      match policy with
      | .skip => do
        Journal.note event
        others
      | .reject => Journal.ofExcept (.error (.emptyName descriptor.field))
    else do
      let found ← Journal.ofExcept (treatment descriptor)
      let rest ← others
      pure (found :: rest)).result = (do
        let found ← policy.treat treatment descriptor
        let rest ← others.result
        pure (found.toList ++ rest)) := by
  unfold EmptyNamePolicy.treat
  by_cases nameless : descriptor.isNameless = true
  · rw [if_pos nameless, if_pos nameless]
    cases policy with
    | skip =>
      simp only [Journal.result_bind, Journal.result_note]
      cases others.result <;> rfl
    | reject => rfl
  · rw [if_neg nameless, if_neg nameless]
    simp only [Journal.result_bind, Journal.result_ofExcept, Journal.result_pure]
    cases treatment descriptor <;> rfl

theorem result_plan (policy : EmptyNamePolicy) (descriptors : List Descriptor) :
    (plan policy descriptors).result =
      (descriptors.mapM (policy.treat Descriptor.target)).map List.reduceOption := by
  refine result_of_steps rfl ?_ descriptors
  intro descriptor rest
  exact result_round policy Descriptor.target descriptor (.notDecoding descriptor.field)
    (plan policy rest)

theorem result_describeAll (policy : EmptyNamePolicy) (descriptors : List Descriptor) :
    (describeAll policy descriptors).result =
      (descriptors.mapM (policy.treat Descriptor.describe)).map List.reduceOption := by
  refine result_of_steps rfl ?_ descriptors
  intro descriptor rest
  exact result_round policy Descriptor.describe descriptor (.notDocumenting descriptor.field)
    (describeAll policy rest)

theorem mapM_of_result_ok {loop : List Descriptor → Journal Failure (List α)}
    {step : Descriptor → Except Failure (Option α)} {descriptors : List Descriptor}
    (steps : (loop descriptors).result = (descriptors.mapM step).map List.reduceOption)
    {found : List α} (passed : (loop descriptors).result = .ok found) :
    ∃ results, descriptors.mapM step = .ok results ∧ results.reduceOption = found := by
  rw [steps] at passed
  cases traversed : descriptors.mapM step with
  | error failure => simp [traversed, Except.map] at passed
  | ok results => exact ⟨results, rfl, by simpa [traversed, Except.map] using passed⟩

theorem mapM_of_result_error {loop : List Descriptor → Journal Failure (List α)}
    {step : Descriptor → Except Failure (Option α)} {descriptors : List Descriptor}
    (steps : (loop descriptors).result = (descriptors.mapM step).map List.reduceOption)
    {failure : Failure} (failed : (loop descriptors).result = .error failure) :
    descriptors.mapM step = .error failure := by
  rw [steps] at failed
  cases traversed : descriptors.mapM step with
  | error cause => simpa [traversed, Except.map] using failed
  | ok results => simp [traversed, Except.map] at failed

end Fields

theorem result_readTarget (type : RecordType) (source : Http.Source) (target : Target) :
    (readTarget type source target).result = (do
      let raw ← target.resolve source
      let value ← type.coerce target.field raw
      pure (target.field, value)) := by
  simp only [readTarget, Journal.result_bind, Journal.result_ofExcept, Journal.result_note,
    Journal.result_pure]
  rfl

theorem result_readTargets (type : RecordType) (source : Http.Source) (targets : List Target) :
    (readTargets type source targets).result =
      targets.mapM fun target => (readTarget type source target).result := by
  induction targets with
  | nil => rfl
  | cons target rest ih =>
    simp only [readTargets, Journal.result_bind, Journal.result_pure, List.mapM_cons, ih]
    rfl

theorem readTargets_congr {type other : RecordType} {source source' : Http.Source}
    {targets : List Target}
    (same : ∀ target ∈ targets, readTarget type source target = readTarget other source' target) :
    readTargets type source targets = readTargets other source' targets := by
  induction targets with
  | nil => rfl
  | cons target rest ih =>
    obtain ⟨here, behind⟩ := List.forall_mem_cons.mp same
    rw [readTargets, readTargets, here, ih behind]

end RequestParams
