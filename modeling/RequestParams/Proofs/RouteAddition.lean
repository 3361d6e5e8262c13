import Mathlib.Data.List.Nodup
import RequestParams.Document

set_option autoImplicit false
set_option relaxedAutoImplicit false

/-!
What adding a route does to a document.  The checks let a route pass when its places are free and
its names are new; the writes then fill exactly these places.
-/

namespace RequestParams

theorem Verb.ofMethod?_eq_some_iff {method : String} {verb : Verb} :
    ofMethod? method = some verb ↔ method = verb.method := by
  constructor
  · intro known
    simpa [eq_comm] using List.find?_some known
  · rintro rfl
    exact ofMethod?_method verb

theorem Route.methods_ne_nil_of_sound {route : Route} (sound : route.fault? = none) :
    route.methods ≠ [] := by
  unfold fault? at sound
  split_ifs at sound with unpathed blank unasked
  exact unasked

namespace Document

variable {document : Document} {route : Route} {parameters : List Parameter}

/-- Whether a method of a route has a free place and a new name, apart from names given before. -/
structure Admits (document : Document) (route : Route) (names : List String) (method : String) :
    Prop where
  /-- A document has a place for the method. -/
  placed : (Verb.ofMethod? method).isSome = true
  /-- The place is free. -/
  free : document.operation? route.path method = none
  /-- The name is not that of a documented operation. -/
  unknown : route.operationId method ∉ document.operationIds
  /-- The name has not been given before. -/
  unnamed : route.operationId method ∉ names

theorem checkMethods_cons_eq_ok_iff {method : String} {rest names all : List String} :
    document.checkMethods route (method :: rest) names = .ok all ↔
      document.Admits route names method ∧
        document.checkMethods route rest (names ++ [route.operationId method]) = .ok all := by
  conv_lhs => unfold checkMethods
  simp only
  split_ifs with unplaced taken known
  · refine iff_of_false (by simp) ?_
    rintro ⟨admitted, -⟩
    have placed := admitted.placed
    rw [Option.isNone_iff_eq_none.mp unplaced] at placed
    simp at placed
  · refine iff_of_false (by simp) ?_
    rintro ⟨admitted, -⟩
    rw [admitted.free] at taken
    simp at taken
  · refine iff_of_false (by simp) ?_
    rintro ⟨admitted, -⟩
    exact known.elim admitted.unknown admitted.unnamed
  · refine ⟨fun checked => ⟨⟨?_, ?_, ?_, ?_⟩, checked⟩, And.right⟩
    · simpa [Option.isSome_iff_ne_none, Option.isNone_iff_eq_none] using unplaced
    · simpa using taken
    · exact fun mem => known (.inl mem)
    · exact fun mem => known (.inr mem)

theorem checkMethods_eq_ok_iff {methods names all : List String} :
    document.checkMethods route methods names = .ok all ↔
      (∀ method ∈ methods, document.Admits route names method) ∧
        (methods.map route.operationId).Nodup ∧ all = names ++ methods.map route.operationId := by
  induction methods generalizing names with
  | nil => simp [checkMethods, eq_comm (a := all)]
  | cons method rest ih =>
    rw [checkMethods_cons_eq_ok_iff, ih, List.forall_mem_cons, List.map_cons, List.nodup_cons]
    constructor
    · rintro ⟨first, others, distinct, rfl⟩
      refine ⟨⟨first, fun other mem => ?_⟩, ⟨fun mem => ?_, distinct⟩, by simp⟩
      · obtain ⟨placed, free, unknown, unnamed⟩ := others other mem
        exact ⟨placed, free, unknown, fun given => unnamed (List.mem_append_left _ given)⟩
      · obtain ⟨other, later, same⟩ := List.mem_map.mp mem
        exact (others other later).unnamed (by simp [same])
    · rintro ⟨⟨first, others⟩, ⟨fresh, distinct⟩, rfl⟩
      refine ⟨first, fun other mem => ?_, distinct, by simp⟩
      obtain ⟨placed, free, unknown, unnamed⟩ := others other mem
      refine ⟨placed, free, unknown, ?_⟩
      rw [List.mem_append, List.mem_singleton]
      rintro (given | same)
      · exact unnamed given
      · exact fresh (same ▸ List.mem_map_of_mem mem)

/-- A route is added when it has no fault, its parameters can be described and its methods are
admitted; its operations are then written. -/
theorem addRoute_eq_ok_iff {next : Document} :
    (document.addRoute route).result = .ok next ↔
      route.fault? = none ∧ ∃ parameters names,
        (describeAll document.options.emptyName route.descriptors).result = .ok parameters ∧
        document.checkMethods route route.methods [] = .ok names ∧
        next = document.write route parameters names := by
  unfold addRoute
  cases route.fault? with
  | some reason => simp
  | none =>
    simp only [Journal.result_bind, Journal.result_ofExcept, Journal.result_note,
      Journal.result_pure, ofParameters, true_and]
    cases (describeAll document.options.emptyName route.descriptors).result with
    | error failure => simp [bind, Except.bind, Except.mapError]
    | ok parameters =>
      cases document.checkMethods route route.methods [] with
      | error failure => simp [bind, Except.bind, Except.mapError]
      | ok names => simp [bind, Except.bind, Except.mapError, eq_comm]

theorem keys_updatePath (path : String) (change : PathItem → PathItem)
    (paths : List (String × PathItem)) :
    (updatePath path change paths).map Prod.fst =
      if path ∈ paths.map Prod.fst then paths.map Prod.fst else paths.map Prod.fst ++ [path] := by
  induction paths with
  | nil => simp [updatePath]
  | cons entry rest ih =>
    obtain ⟨other, item⟩ := entry
    by_cases same : other = path
    · simp [updatePath, same]
    · simp only [updatePath, same, if_false, List.map_cons, ih, List.mem_cons, Ne.symm same,
        false_or]
      split_ifs <;> simp

theorem lookup_updatePath (path other : String) (change : PathItem → PathItem)
    (paths : List (String × PathItem)) :
    (updatePath path change paths).lookup other =
      if other = path then some (change ((paths.lookup path).getD {})) else paths.lookup other := by
  induction paths with
  | nil =>
    by_cases same : other = path
    · simp [updatePath, same]
    · simp [updatePath, same, List.lookup_cons, beq_eq_false_iff_ne.mpr same]
  | cons entry rest ih =>
    obtain ⟨first, item⟩ := entry
    by_cases here : first = path
    · subst here
      by_cases same : other = first
      · simp [updatePath, same]
      · simp [updatePath, same, List.lookup_cons, beq_eq_false_iff_ne.mpr same]
    · have apart := beq_eq_false_iff_ne.mpr (Ne.symm here)
      simp only [updatePath, here, if_false, List.lookup_cons, ih, apart]
      by_cases same : other = path
      · simp [same, apart]
      · simp [same]

theorem operation?_addOperations (methods : List String) (item : PathItem) (verb : Verb) :
    (addOperations route parameters methods item).operation? verb =
      if verb.method ∈ methods then some (operationOf route parameters verb.method)
      else item.operation? verb := by
  induction methods generalizing item with
  | nil => simp [addOperations]
  | cons method rest ih =>
    unfold addOperations at ih ⊢
    rw [List.foldl_cons, ih]
    by_cases later : verb.method ∈ rest
    · simp [later]
    · by_cases here : verb.method = method
      · subst here
        simp [later, Verb.ofMethod?_method]
      · rw [if_neg later, if_neg (by simp [here, later])]
        split
        · rename_i found known
          refine PathItem.operation?_set_of_ne item _ ?_
          rintro rfl
          exact here (Verb.ofMethod?_eq_some_iff.mp known).symm
        · rfl

theorem operation?_write (names : List String) (path method : String) :
    (document.write route parameters names).operation? path method =
      if path = route.path ∧ method ∈ route.methods ∧ (Verb.ofMethod? method).isSome then
        some (operationOf route parameters method)
      else document.operation? path method := by
  simp only [operation?, write, lookup_updatePath]
  cases known : Verb.ofMethod? method with
  | none => simp
  | some verb =>
    obtain rfl := Verb.ofMethod?_eq_some_iff.mp known
    by_cases here : path = route.path
    · subst here
      by_cases mem : verb.method ∈ route.methods
      · simp [operation?_addOperations, mem]
      · cases document.openApi.paths.lookup route.path <;> simp [operation?_addOperations, mem]
    · simp [here]

end Document

end RequestParams
