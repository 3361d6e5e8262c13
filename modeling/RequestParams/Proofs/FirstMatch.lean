import Mathlib.Data.List.Forall2
import Mathlib.Data.List.Nodup

set_option autoImplicit false
set_option relaxedAutoImplicit false

/-!
Looking up the first entry with a key in a list of keys and values.
-/

namespace RequestParams

section Search

variable {α β : Type}

theorem find?_of_forall₂ {corresponds : α → β → Prop} {p : α → Bool} {q : β → Bool}
    {items : List α} {others : List β} (each : List.Forall₂ corresponds items others)
    (agree : ∀ item other, corresponds item other → p item = q other) :
    items.find? p = none ∧ others.find? q = none ∨
      ∃ item other, items.find? p = some item ∧ others.find? q = some other ∧
        corresponds item other := by
  induction each with
  | nil => exact .inl ⟨rfl, rfl⟩
  | @cons item other rest behind here _ ih =>
    cases held : q other with
    | true =>
      have found := (agree item other here).trans held
      exact .inr ⟨item, other, List.find?_cons_of_pos found, List.find?_cons_of_pos held, here⟩
    | false =>
      have passed := (agree item other here).trans held
      simpa only [List.find?_cons, passed, held] using ih

end Search

section Lookup

variable {α β : Type} [BEq α] [LawfulBEq α]

theorem lookup_of_mem {entries : List (α × β)} {key : α} {value : β}
    (distinct : (entries.map Prod.fst).Nodup) (mem : (key, value) ∈ entries) :
    entries.lookup key = some value := by
  induction entries with
  | nil => simp at mem
  | cons entry rest ih =>
    obtain ⟨first, held⟩ := entry
    rw [List.map_cons, List.nodup_cons] at distinct
    rcases List.mem_cons.mp mem with here | behind
    · obtain ⟨rfl, rfl⟩ := Prod.mk.inj here
      exact List.lookup_cons_self
    · have other : (key == first) = false := by
        rw [beq_eq_false_iff_ne]
        rintro rfl
        exact distinct.1 (List.mem_map.mpr ⟨_, behind, rfl⟩)
      rw [List.lookup_cons, other]
      exact ih distinct.2 behind

theorem lookup_insert {before inserted after : List (α × β)} {key : α}
    (idle : ∀ entry ∈ inserted, entry.1 = key → key ∈ before.map Prod.fst) :
    (before ++ inserted ++ after).lookup key = (before ++ after).lookup key := by
  simp only [List.lookup_append]
  cases first : before.lookup key with
  | some value => rfl
  | none =>
    have fresh : key ∉ before.map Prod.fst := by
      rintro mem
      obtain ⟨entry, known, rfl⟩ := List.mem_map.mp mem
      simpa using List.lookup_eq_none_iff.mp first entry known
    have passed : inserted.lookup key = none := by
      refine List.lookup_eq_none_iff.mpr fun entry mem => ?_
      simpa using fun same : key = entry.1 => fresh (idle entry mem same.symm)
    rw [passed, Option.none_or]

end Lookup

theorem lookup_eq_find? {α β : Type} [DecidableEq α] (entries : List (α × β)) (key : α) :
    entries.lookup key = (entries.find? fun entry => entry.1 = key).map Prod.snd := by
  induction entries with
  | nil => rfl
  | cons entry rest ih =>
    obtain ⟨first, value⟩ := entry
    by_cases here : first = key
    · simp [here]
    · have other : (key == first) = false := by simpa using Ne.symm here
      simp [List.lookup_cons, here, other, ih]

end RequestParams
