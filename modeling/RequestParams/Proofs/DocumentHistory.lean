import Mathlib.Data.List.Pairwise
import RequestParams.Proofs.FirstMatch
import RequestParams.Proofs.RouteAddition

set_option autoImplicit false
set_option relaxedAutoImplicit false

/-!
What a document holds after any history of steps.  The accepted routes alone account for it: their
places are distinct, so are the names of their operations, and nothing is written twice.
-/

namespace RequestParams

inductive DocumentStep where
  | addRoute (route : Route)
  /-- Parameters are to be described in another way. -/
  | setOptions (options : DescribeOptions)

/-- A route that was accepted, with its parameters as they were then described. -/
structure AcceptedRoute where
  route : Route
  parameters : List Parameter

namespace AcceptedRoute

def Names (call : AcceptedRoute) (path method : String) : Prop :=
  call.route.path = path ∧ method ∈ call.route.methods

/-- The places that a route takes: its path with each of its methods. -/
def places (call : AcceptedRoute) : List (String × String) :=
  call.route.methods.map fun method => (call.route.path, method)

def operationIds (call : AcceptedRoute) : List String :=
  call.route.methods.map call.route.operationId

theorem mem_places {call : AcceptedRoute} {path method : String} :
    (path, method) ∈ call.places ↔ call.Names path method := by
  simp [places, Names, and_comm]

end AcceptedRoute

namespace Document

/-- The document after a step; a route that is not accepted leaves it as it was. -/
def step (document : Document) : DocumentStep → Document
  | .addRoute route =>
    match (document.addRoute route).result with
    | .ok next => next
    | .error _ => document
  | .setOptions options => document.withOptions options

def run (document : Document) (steps : List DocumentStep) : Document := steps.foldl step document

def accepts? (document : Document) : DocumentStep → Option AcceptedRoute
  | .addRoute route =>
    match (document.addRoute route).result,
      (describeAll document.options.emptyName route.descriptors).result with
    | .ok _, .ok parameters => some ⟨route, parameters⟩
    | _, _ => none
  | .setOptions _ => none

def accepted (document : Document) : List DocumentStep → List AcceptedRoute
  | [] => []
  | step :: rest => (document.accepts? step).toList ++ (document.step step).accepted rest

/-- A document holds what some accepted routes account for, and nothing else. -/
structure Reflects (document : Document) (calls : List AcceptedRoute) : Prop where
  /-- No place is taken twice. -/
  places : (calls.flatMap AcceptedRoute.places).Nodup
  /-- The names of the document are those of the routes' operations, in order. -/
  names : document.operationIds = calls.flatMap AcceptedRoute.operationIds
  named : document.operationIds.Nodup
  /-- Each path has one entry. -/
  keyed : (document.openApi.paths.map Prod.fst).Nodup
  /-- The paths stand in the order in which routes first took them. -/
  ordered : document.openApi.paths.map Prod.fst =
    (calls.map fun call => call.route.path).eraseDups
  inhabited : ∀ call ∈ calls, call.route.methods ≠ []
  /-- Each route's operation stands in each of its places. -/
  written : ∀ call ∈ calls, ∀ path method, call.Names path method →
    document.operation? path method = some (operationOf call.route call.parameters method)
  vacant : ∀ path method, (∀ call ∈ calls, ¬call.Names path method) →
    document.operation? path method = none

theorem reflects_empty (settings : DocumentOptions) : (empty settings).Reflects [] where
  places := by simp
  names := rfl
  named := by simp [empty]
  keyed := by simp [empty]
  ordered := rfl
  inhabited := by simp
  written := by simp
  vacant := by simp [operation?, empty]

theorem Reflects.withOptions {document : Document} {calls : List AcceptedRoute}
    (reflects : document.Reflects calls) (options : DescribeOptions) :
    (document.withOptions options).Reflects calls := by
  obtain ⟨places, names, named, keyed, ordered, inhabited, written, vacant⟩ := reflects
  exact ⟨places, names, named, keyed, ordered, inhabited, written, vacant⟩

private theorem eraseDups_concat (items : List String) (item : String) :
    (items ++ [item]).eraseDups =
      if item ∈ items then items.eraseDups else items.eraseDups ++ [item] := by
  rw [List.eraseDups_append]
  split_ifs with mem <;> simp [List.removeAll, List.eraseDups_cons, mem]

/-- A document that takes one more route reflects the routes with this one behind them. -/
theorem Reflects.addRoute {document next : Document} {calls : List AcceptedRoute} {route : Route}
    {parameters : List Parameter} (reflects : document.Reflects calls)
    (described : (describeAll document.options.emptyName route.descriptors).result =
      .ok parameters)
    (added : (document.addRoute route).result = .ok next) :
    next.Reflects (calls ++ [⟨route, parameters⟩]) := by
  obtain ⟨sound, shown, given, again, checked, rfl⟩ := addRoute_eq_ok_iff.mp added
  obtain rfl : shown = parameters := Except.ok.inj (again.symm.trans described)
  obtain ⟨admitted, distinct, rfl⟩ := checkMethods_eq_ok_iff.mp checked
  -- A place that an earlier route has taken is not free.
  have unnamed : ∀ call ∈ calls, ∀ method ∈ route.methods, ¬call.Names route.path method := by
    intro call mem method asked named
    have taken := reflects.written call mem _ _ named
    rw [(admitted method asked).free] at taken
    simp at taken
  have listed : route.path ∈ document.openApi.paths.map Prod.fst ↔
      route.path ∈ calls.map fun call => call.route.path := by
    rw [reflects.ordered, List.mem_eraseDups]
  constructor
  · rw [List.flatMap_append, List.nodup_append']
    refine ⟨reflects.places, ?_, ?_⟩
    · simpa [AcceptedRoute.places] using
        (distinct.of_map route.operationId).map fun _ _ same => (Prod.mk.inj same).2
    · rintro ⟨path, method⟩ old new
      obtain ⟨call, mem, taken⟩ := List.mem_flatMap.mp old
      have here : (⟨route, shown⟩ : AcceptedRoute).Names path method := by
        simpa [AcceptedRoute.mem_places] using new
      obtain ⟨rfl, asked⟩ := here
      exact unnamed call mem method asked (AcceptedRoute.mem_places.mp taken)
  · simp [write, reflects.names, AcceptedRoute.operationIds]
  · simp only [write, List.nil_append, List.nodup_append']
    refine ⟨reflects.named, distinct, ?_⟩
    intro operationId old new
    obtain ⟨method, asked, rfl⟩ := List.mem_map.mp new
    exact (admitted method asked).unknown old
  · simp only [write, keys_updatePath]
    split_ifs with known
    · exact reflects.keyed
    · exact List.nodup_append'.mpr ⟨reflects.keyed, List.nodup_singleton _, by simpa using known⟩
  · rw [List.map_append, List.map_singleton, eraseDups_concat, ← reflects.ordered]
    simp only [write, keys_updatePath, listed]
  · simp only [List.mem_append, List.mem_singleton]
    rintro call (mem | rfl)
    · exact reflects.inhabited call mem
    · exact route.methods_ne_nil_of_sound sound
  · simp only [List.mem_append, List.mem_singleton]
    rintro call (mem | rfl) path method named
    · rw [operation?_write, if_neg, reflects.written call mem path method named]
      rintro ⟨rfl, asked, -⟩
      exact unnamed call mem method asked named
    · obtain ⟨rfl, asked⟩ := named
      rw [operation?_write, if_pos ⟨rfl, asked, (admitted method asked).placed⟩]
  · intro path method unasked
    rw [operation?_write, if_neg]
    · exact reflects.vacant path method fun call mem => unasked call (List.mem_append_left _ mem)
    · rintro ⟨rfl, asked, -⟩
      exact unasked ⟨route, shown⟩ (by simp) ⟨rfl, asked⟩

theorem accepts?_of_addRoute {document next : Document} {route : Route}
    (added : (document.addRoute route).result = .ok next) :
    ∃ parameters,
      (describeAll document.options.emptyName route.descriptors).result = .ok parameters ∧
        document.accepts? (.addRoute route) = some ⟨route, parameters⟩ := by
  obtain ⟨-, parameters, -, described, -, -⟩ := addRoute_eq_ok_iff.mp added
  exact ⟨parameters, described, by simp only [accepts?, added, described]⟩

/-- What one step keeps: a document reflects the routes that are accepted. -/
theorem Reflects.step {document : Document} {calls : List AcceptedRoute}
    (reflects : document.Reflects calls) (step : DocumentStep) :
    (document.step step).Reflects (calls ++ (document.accepts? step).toList) := by
  cases step with
  | setOptions options =>
    rw [accepts?, Option.toList_none, List.append_nil]
    exact reflects.withOptions options
  | addRoute route =>
    cases added : (document.addRoute route).result with
    | error failure => simpa [Document.step, accepts?, added] using reflects
    | ok next =>
      obtain ⟨parameters, described, accepted⟩ := accepts?_of_addRoute added
      simpa [Document.step, accepted, added] using reflects.addRoute described added

theorem Reflects.run {document : Document} {calls : List AcceptedRoute}
    (reflects : document.Reflects calls) (steps : List DocumentStep) :
    (document.run steps).Reflects (calls ++ document.accepted steps) := by
  induction steps generalizing document calls with
  | nil => simpa [Document.run, accepted] using reflects
  | cons step rest ih =>
    have behind := ih (reflects.step step)
    rwa [List.append_assoc] at behind

namespace Reflects

variable {document : Document} {calls : List AcceptedRoute}

theorem exists_of_operation? (reflects : document.Reflects calls) {path method : String}
    {operation : Operation} (found : document.operation? path method = some operation) :
    ∃ call ∈ calls, call.Names path method ∧
      operation = operationOf call.route call.parameters method := by
  by_contra unexplained
  have vacant := reflects.vacant path method fun call mem named =>
    unexplained ⟨call, mem, named, by
      simpa [reflects.written call mem path method named] using found.symm⟩
  simp [vacant] at found

theorem exists_operation (reflects : document.Reflects calls) {path : String} {item : PathItem}
    (mem : (path, item) ∈ document.openApi.paths) :
    ∃ verb, (item.operation? verb).isSome = true := by
  have listed : path ∈ calls.map fun call => call.route.path := by
    rw [← List.mem_eraseDups, ← reflects.ordered]
    exact List.mem_map_of_mem mem
  obtain ⟨call, accepted, rfl⟩ := List.mem_map.mp listed
  obtain ⟨method, asked⟩ := List.exists_mem_of_ne_nil _ (reflects.inhabited call accepted)
  have written := reflects.written call accepted _ method ⟨rfl, asked⟩
  simp only [operation?, lookup_of_mem reflects.keyed mem, Option.bind_eq_bind,
    Option.bind_some, Option.bind_eq_some_iff] at written
  obtain ⟨verb, -, found⟩ := written
  exact ⟨verb, by simp [found]⟩

theorem index_unique (reflects : document.Reflects calls) {path method : String} {i j : Nat}
    {call other : AcceptedRoute} (first : calls[i]? = some call) (second : calls[j]? = some other)
    (named : call.Names path method) (again : other.Names path method) : i = j := by
  have apart := List.pairwise_iff_getElem.mp (List.nodup_flatMap.mp reflects.places).2
  obtain ⟨low, rfl⟩ := List.getElem?_eq_some_iff.mp first
  obtain ⟨high, rfl⟩ := List.getElem?_eq_some_iff.mp second
  have taken := AcceptedRoute.mem_places.mpr named
  have retaken := AcceptedRoute.mem_places.mpr again
  rcases Nat.lt_trichotomy i j with before | same | behind
  · exact absurd retaken (apart i j low high before taken)
  · exact same
  · exact absurd taken (apart j i high low behind retaken)

theorem place_of_operationId (reflects : document.Reflects calls) {call other : AcceptedRoute}
    (mem : call ∈ calls) (also : other ∈ calls) {method method' : String}
    (asked : method ∈ call.route.methods) (asked' : method' ∈ other.route.methods)
    (same : call.route.operationId method = other.route.operationId method') :
    call = other ∧ method = method' := by
  have named := reflects.named
  rw [reflects.names, List.nodup_flatMap] at named
  have given : call.route.operationId method ∈ call.operationIds := List.mem_map_of_mem asked
  have again : call.route.operationId method ∈ other.operationIds :=
    same ▸ List.mem_map_of_mem asked'
  obtain rfl : call = other := by
    by_contra distinct
    have : Std.Symm (Function.onFun List.Disjoint AcceptedRoute.operationIds) :=
      ⟨fun _ _ apart => List.disjoint_symm apart⟩
    exact named.2.forall mem also distinct given again
  exact ⟨rfl, List.inj_on_of_nodup_map (named.1 call mem) asked asked' same⟩

end Reflects

/-- After any run from an empty document, the names of all operations are distinct and are exactly
those the document keeps; every path has an operation and stands where a route first took it; and
each place holds what the one accepted route for it wrote, described as it was then. -/
theorem run_reflects_accepted (settings : DocumentOptions) (steps : List DocumentStep) :
    let document := (empty settings).run steps
    let calls := (empty settings).accepted steps
    ((∀ path method operation path' method' operation',
        document.operation? path method = some operation →
        document.operation? path' method' = some operation' →
        operation.operationId = operation'.operationId → path = path' ∧ method = method') ∧
      ∀ operationId, operationId ∈ document.operationIds ↔
        ∃ path method operation, document.operation? path method = some operation ∧
          operation.operationId = operationId) ∧
    ((∀ entry ∈ document.openApi.paths, ∃ verb, (entry.2.operation? verb).isSome = true) ∧
      (document.openApi.paths.map Prod.fst).Nodup ∧
      document.openApi.paths.map Prod.fst = (calls.map fun call => call.route.path).eraseDups) ∧
    ∀ path method,
      ((document.operation? path method).isSome = true ↔
        ∃! i : Nat, ∃ call, calls[i]? = some call ∧ call.Names path method) ∧
      ∀ call ∈ calls, call.Names path method →
        document.operation? path method = some {
          operationId := call.route.operationId method
          summary := some call.route.summary
          description := call.route.description
          parameters := call.parameters
          responses := Response.defaults } := by
  intro document calls
  have reflects : document.Reflects calls := (reflects_empty settings).run steps
  refine ⟨⟨?_, ?_⟩, ⟨?_, reflects.keyed, reflects.ordered⟩, ?_⟩
  · intro path method operation path' method' operation' found found' same
    obtain ⟨call, mem, ⟨rfl, asked⟩, rfl⟩ := reflects.exists_of_operation? found
    obtain ⟨other, also, ⟨rfl, asked'⟩, rfl⟩ := reflects.exists_of_operation? found'
    obtain ⟨rfl, rfl⟩ := reflects.place_of_operationId mem also asked asked' same
    exact ⟨rfl, rfl⟩
  · intro operationId
    rw [reflects.names, List.mem_flatMap]
    constructor
    · rintro ⟨call, mem, given⟩
      obtain ⟨method, asked, rfl⟩ := List.mem_map.mp given
      exact ⟨call.route.path, method, _, reflects.written call mem _ _ ⟨rfl, asked⟩, rfl⟩
    · rintro ⟨path, method, operation, found, rfl⟩
      obtain ⟨call, mem, ⟨rfl, asked⟩, rfl⟩ := reflects.exists_of_operation? found
      exact ⟨call, mem, List.mem_map_of_mem asked⟩
  · rintro ⟨path, item⟩ mem
    exact reflects.exists_operation mem
  · intro path method
    refine ⟨⟨?_, ?_⟩, fun call mem named => reflects.written call mem path method named⟩
    · intro found
      obtain ⟨operation, here⟩ := Option.isSome_iff_exists.mp found
      obtain ⟨call, mem, named, -⟩ := reflects.exists_of_operation? here
      obtain ⟨i, stands⟩ := List.mem_iff_getElem?.mp mem
      refine ⟨i, ⟨call, stands, named⟩, ?_⟩
      rintro j ⟨other, elsewhere, again⟩
      exact reflects.index_unique elsewhere stands again named
    · rintro ⟨i, ⟨call, stands, named⟩, -⟩
      rw [reflects.written call (List.mem_of_getElem? stands) path method named]
      rfl

example :
    let stars : Route := { path := "/stars", methods := ["GET", "POST"], summary := "Stars" }
    let again : Route := { stars with methods := ["PUT", "GET"] }
    let document := (empty {}).run [.addRoute stars, .addRoute again]
    document.operationIds = ["stars-get", "stars-post"] ∧
      (document.operation? "/stars" "PUT").isSome = false := by
  decide +kernel

end Document

end RequestParams
