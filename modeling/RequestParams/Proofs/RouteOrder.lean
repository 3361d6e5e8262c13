import Mathlib.Data.List.Nodup
import RequestParams.Proofs.DocumentHistory

set_option autoImplicit false
set_option relaxedAutoImplicit false

/-!
Several routes added one after the other.  Which of them comes first does not matter: a route is
turned away by what it is itself, or by a place or a name that it shares with another route, and
then the later of the two is turned away in either order.
-/

namespace RequestParams

namespace Route

/-- Whether some document takes a route, when parameters are described under a policy. -/
structure Documentable (policy : EmptyNamePolicy) (route : Route) : Prop where
  sound : route.fault? = none
  /-- A document has a place for each method. -/
  placed : ∀ method ∈ route.methods, (Verb.ofMethod? method).isSome = true
  describable : ∃ parameters, (describeAll policy route.descriptors).result = .ok parameters

def described (policy : EmptyNamePolicy) (route : Route) : AcceptedRoute where
  route := route
  parameters := (describeAll policy route.descriptors).result.toOption.getD []

theorem described_of_ok {policy : EmptyNamePolicy} {route : Route} {parameters : List Parameter}
    (shown : (describeAll policy route.descriptors).result = .ok parameters) :
    route.described policy = ⟨route, parameters⟩ := by
  simp [described, shown, Except.toOption]

end Route

namespace AcceptedRoute

/-- Whether no place is taken and no name is given more than once by routes. -/
structure Apart (calls : List AcceptedRoute) : Prop where
  places : (calls.flatMap AcceptedRoute.places).Nodup
  names : (calls.flatMap AcceptedRoute.operationIds).Nodup

variable {calls others : List AcceptedRoute}

theorem Apart.perm (apart : Apart calls) (permuted : calls.Perm others) : Apart others where
  places := (permuted.flatMap_right _).nodup_iff.mp apart.places
  names := (permuted.flatMap_right _).nodup_iff.mp apart.names

theorem Apart.left (apart : Apart (calls ++ others)) : Apart calls where
  places := (List.nodup_append'.mp (List.flatMap_append ▸ apart.places)).1
  names := (List.nodup_append'.mp (List.flatMap_append ▸ apart.names)).1

end AcceptedRoute

namespace Document

open AcceptedRoute (Apart)

def addRoutes (document : Document) (routes : List Route) : Except DocumentFailure Document :=
  routes.foldlM (fun document route => (document.addRoute route).result) document

variable {document other last last' : Document} {calls calls' : List AcceptedRoute}
  {route : Route} {routes routes' : List Route}

theorem addRoutes_cons_eq_ok_iff :
    document.addRoutes (route :: routes) = .ok last ↔
      ∃ next, (document.addRoute route).result = .ok next ∧ next.addRoutes routes = .ok last := by
  unfold addRoutes
  rw [List.foldlM_cons, bind_eq_ok_iff]

theorem eq_of_addRoute (added : (document.addRoute route).result = .ok last) :
    last = { document with
      openApi := { document.openApi with paths := last.openApi.paths }
      operationIds := last.operationIds } := by
  obtain ⟨-, parameters, names, -, -, rfl⟩ := addRoute_eq_ok_iff.mp added
  rfl

theorem eq_of_addRoutes (added : document.addRoutes routes = .ok last) :
    last = { document with
      openApi := { document.openApi with paths := last.openApi.paths }
      operationIds := last.operationIds } := by
  induction routes generalizing document with
  | nil =>
    cases added
    rfl
  | cons route rest ih =>
    obtain ⟨next, first, others⟩ := addRoutes_cons_eq_ok_iff.mp added
    have behind := ih others
    rw [eq_of_addRoute first] at behind
    exact behind

namespace Reflects

theorem apart (reflects : document.Reflects calls) : Apart calls where
  places := reflects.places
  names := reflects.names ▸ reflects.named

theorem operation?_eq_none_iff (reflects : document.Reflects calls) {path method : String} :
    document.operation? path method = none ↔ ∀ call ∈ calls, ¬call.Names path method := by
  refine ⟨fun free call mem named => ?_, reflects.vacant path method⟩
  rw [reflects.written call mem path method named] at free
  simp at free

theorem addRoute_described (reflects : document.Reflects calls)
    (added : (document.addRoute route).result = .ok last) :
    last.Reflects (calls ++ [route.described document.options.emptyName]) := by
  obtain ⟨-, parameters, -, shown, -, -⟩ := addRoute_eq_ok_iff.mp added
  rw [Route.described_of_ok shown]
  exact reflects.addRoute shown added

theorem exists_addRoute_iff (reflects : document.Reflects calls) :
    (∃ next, (document.addRoute route).result = .ok next) ↔
      route.Documentable document.options.emptyName ∧
        Apart (calls ++ [route.described document.options.emptyName]) := by
  constructor
  · rintro ⟨next, added⟩
    refine ⟨?_, (reflects.addRoute_described added).apart⟩
    obtain ⟨sound, parameters, names, shown, checked, -⟩ := addRoute_eq_ok_iff.mp added
    obtain ⟨admitted, -, -⟩ := checkMethods_eq_ok_iff.mp checked
    exact ⟨sound, fun method asked => (admitted method asked).placed, parameters, shown⟩
  · rintro ⟨⟨sound, placed, parameters, shown⟩, apart⟩
    obtain ⟨places, names⟩ := apart
    rw [List.flatMap_append, List.nodup_append', List.flatMap_singleton] at places names
    obtain ⟨-, -, untaken⟩ := places
    obtain ⟨-, distinct, ungiven⟩ := names
    -- The document holds what the earlier routes took and no more, so the checks against it are
    -- checks against them.
    refine ⟨_, addRoute_eq_ok_iff.mpr ⟨sound, parameters, _, shown,
      checkMethods_eq_ok_iff.mpr ⟨fun method asked => ⟨placed method asked, ?_, ?_, ?_⟩,
        distinct, rfl⟩, rfl⟩⟩
    · rw [reflects.operation?_eq_none_iff]
      intro call mem named
      exact untaken (List.mem_flatMap_of_mem mem (AcceptedRoute.mem_places.mpr named))
        (AcceptedRoute.mem_places.mpr ⟨rfl, asked⟩)
    · rw [reflects.names]
      exact fun given => ungiven given (List.mem_map_of_mem asked)
    · simp

theorem addRoutes (reflects : document.Reflects calls)
    (added : document.addRoutes routes = .ok last) :
    last.Reflects (calls ++ routes.map (Route.described document.options.emptyName)) := by
  induction routes generalizing document calls with
  | nil =>
    cases added
    simpa using reflects
  | cons route rest ih =>
    obtain ⟨next, first, others⟩ := addRoutes_cons_eq_ok_iff.mp added
    have behind := ih (reflects.addRoute_described first) others
    rw [eq_of_addRoute first] at behind
    simpa using behind

/-- Several routes are accepted when each can be documented and no two of them, or of those that
were accepted before, share a place or a name. -/
theorem exists_addRoutes_iff (reflects : document.Reflects calls) :
    (∃ last, document.addRoutes routes = .ok last) ↔
      (∀ route ∈ routes, route.Documentable document.options.emptyName) ∧
        Apart (calls ++ routes.map (Route.described document.options.emptyName)) := by
  induction routes generalizing document calls with
  | nil => simp [Document.addRoutes, pure, Except.pure, reflects.apart]
  | cons route rest ih =>
    -- The options are those of the start, so the rest is described as it would be before.
    have later : ∀ {next}, (document.addRoute route).result = .ok next →
        ((∃ last, next.addRoutes rest = .ok last) ↔
          (∀ route ∈ rest, route.Documentable document.options.emptyName) ∧
            Apart (calls ++ (route :: rest).map
              (Route.described document.options.emptyName))) := by
      intro next first
      have behind := ih (reflects.addRoute_described first)
      rw [eq_of_addRoute first] at behind ⊢
      simpa using behind
    rw [List.forall_mem_cons]
    constructor
    · rintro ⟨last, added⟩
      obtain ⟨next, first, others⟩ := addRoutes_cons_eq_ok_iff.mp added
      obtain ⟨documentable, apart⟩ := (later first).mp ⟨last, others⟩
      exact ⟨⟨(reflects.exists_addRoute_iff.mp ⟨next, first⟩).1, documentable⟩, apart⟩
    · rintro ⟨⟨here, documentable⟩, apart⟩
      have begun : Apart (calls ++ [route.described document.options.emptyName]) := by
        rw [List.map_cons, List.append_cons] at apart
        exact apart.left
      obtain ⟨next, first⟩ := reflects.exists_addRoute_iff.mpr ⟨here, begun⟩
      obtain ⟨last, others⟩ := (later first).mpr ⟨documentable, apart⟩
      exact ⟨last, addRoutes_cons_eq_ok_iff.mpr ⟨next, first, others⟩⟩

section Permuted

variable (reflects : document.Reflects calls) (reflects' : other.Reflects calls')
  (permuted : calls.Perm calls')
include reflects reflects' permuted

theorem operation?_eq_of_perm (path method : String) :
    document.operation? path method = other.operation? path method := by
  by_cases named : ∃ call ∈ calls, call.Names path method
  · obtain ⟨call, mem, here⟩ := named
    rw [reflects.written call mem path method here,
      reflects'.written call (permuted.mem_iff.mp mem) path method here]
  · simp only [not_exists, not_and] at named
    rw [reflects.vacant path method named, reflects'.vacant path method
      fun call mem => named call (permuted.mem_iff.mpr mem)]

theorem operationIds_perm : document.operationIds.Perm other.operationIds := by
  rw [reflects.names, reflects'.names]
  exact permuted.flatMap_right _

private theorem mem_paths_of_perm {entry : String × PathItem}
    (mem : entry ∈ document.openApi.paths) : entry ∈ other.openApi.paths := by
  obtain ⟨path, item⟩ := entry
  have listed : path ∈ other.openApi.paths.map Prod.fst := by
    have before := List.mem_map_of_mem (f := Prod.fst) mem
    rw [reflects.ordered, List.mem_eraseDups] at before
    rw [reflects'.ordered, List.mem_eraseDups]
    exact (permuted.map _).mem_iff.mp before
  obtain ⟨⟨path, found⟩, also, rfl⟩ := List.mem_map.mp listed
  have same : item = found := by
    obtain ⟨operations⟩ := item
    obtain ⟨operations'⟩ := found
    congr
    funext verb
    have here := reflects.operation?_eq_of_perm reflects' permuted path verb.method
    simpa [operation?, lookup_of_mem reflects.keyed mem, lookup_of_mem reflects'.keyed also,
      Verb.ofMethod?_method] using here
  rwa [same]

theorem paths_perm : document.openApi.paths.Perm other.openApi.paths := by
  rw [List.perm_ext_iff_of_nodup (.of_map _ reflects.keyed) (.of_map _ reflects'.keyed)]
  intro entry
  exact ⟨reflects.mem_paths_of_perm reflects' permuted,
    reflects'.mem_paths_of_perm reflects permuted.symm⟩

end Permuted

end Reflects

/-- From any document that some run leads to, several routes are all accepted in one order when
they are in any other, and the documents at the end then differ in the order of their paths alone:
each path has the same operation for each method, the names are the same, and so is the rest. -/
theorem addRoutes_perm (settings : DocumentOptions) (steps : List DocumentStep)
    {routes routes' : List Route} (permuted : routes.Perm routes') :
    let document := (empty settings).run steps
    ((∃ last, document.addRoutes routes = .ok last) ↔
      ∃ last', document.addRoutes routes' = .ok last') ∧
    ∀ last last', document.addRoutes routes = .ok last → document.addRoutes routes' = .ok last' →
      last.openApi.paths.Perm last'.openApi.paths ∧
      (∀ path method, last.operation? path method = last'.operation? path method) ∧
      last.operationIds.Perm last'.operationIds ∧
      last' = { last with
        openApi := { last.openApi with paths := last'.openApi.paths }
        operationIds := last'.operationIds } := by
  intro document
  have reflects : document.Reflects _ := (reflects_empty settings).run steps
  have reordered := (permuted.map (Route.described document.options.emptyName)).append_left
    ((empty settings).accepted steps)
  constructor
  · rw [reflects.exists_addRoutes_iff, reflects.exists_addRoutes_iff]
    simp only [permuted.mem_iff]
    exact and_congr_right' ⟨fun apart => apart.perm reordered,
      fun apart => apart.perm reordered.symm⟩
  · intro last last' added added'
    have ends := reflects.addRoutes added
    have ends' := reflects.addRoutes added'
    refine ⟨ends.paths_perm ends' reordered, ends.operation?_eq_of_perm ends' reordered,
      ends.operationIds_perm ends' reordered, ?_⟩
    rw [eq_of_addRoutes added, eq_of_addRoutes added']

def starRoutes : List Route :=
  [{ path := "/stars", methods := ["GET"], summary := "List" },
    { path := "/star", methods := ["PUT", "DELETE"], summary := "Edit" },
    { path := "/planets", methods := ["POST"], summary := "Add" }]

theorem addRoutes_starRoutes_reverse :
    let document := (empty {}).run
      [.addRoute { path := "/star", methods := ["GET"], summary := "Show" }]
    starRoutes.Perm starRoutes.reverse ∧
      ∃ last last', document.addRoutes starRoutes = .ok last ∧
        document.addRoutes starRoutes.reverse = .ok last' ∧
        last.openApi.paths.map Prod.fst = ["/star", "/stars", "/planets"] ∧
        last'.openApi.paths.map Prod.fst = ["/star", "/planets", "/stars"] ∧
        ∀ path method, last.operation? path method = last'.operation? path method := by
  intro document
  have permuted : starRoutes.Perm starRoutes.reverse := (List.reverse_perm _).symm
  obtain ⟨accepted, ends⟩ := addRoutes_perm {} [.addRoute _] permuted
  let keys (ended : Except DocumentFailure Document) : Option (List String) :=
    ended.toOption.map fun last => last.openApi.paths.map Prod.fst
  have forward : keys (document.addRoutes starRoutes) =
      some ["/star", "/stars", "/planets"] := by decide +kernel
  have backward : keys (document.addRoutes starRoutes.reverse) =
      some ["/star", "/planets", "/stars"] := by decide +kernel
  cases added : document.addRoutes starRoutes with
  | error failure => simp [keys, added, Except.toOption] at forward
  | ok last =>
    obtain ⟨last', added'⟩ := accepted.mp ⟨last, added⟩
    rw [added] at forward
    rw [added'] at backward
    exact ⟨permuted, last, last', rfl, added', Option.some.inj forward, Option.some.inj backward,
      (ends last last' added added').2.1⟩

end Document

end RequestParams
