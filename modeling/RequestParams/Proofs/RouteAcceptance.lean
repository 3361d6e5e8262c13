import RequestParams.Proofs.DocumentHistory

set_option autoImplicit false
set_option relaxedAutoImplicit false

/-!
Which routes a document accepts, and what becomes of the others.  A route passes a row of checks, or
the first that fails is its failure; and since all checks come before the first write, a document
that is changed in place is left as it was by every route that fails.
-/

namespace RequestParams.Document

def placedMethods : List String :=
  ["GET", "PUT", "POST", "DELETE", "OPTIONS", "HEAD", "PATCH", "TRACE"]

structure Accepts (document : Document) (route : Route) : Prop where
  pathed : route.path ≠ ""
  summarized : ∃ c ∈ route.summary.toList, Text.isBlank c = false
  asked : route.methods ≠ []
  described : ∃ parameters,
    (describeAll document.options.emptyName route.descriptors).result = .ok parameters
  /-- Each method has a free place, and a name that is new to the document and to the methods of the
  route before it. -/
  admitted : ∀ before method after, route.methods = before ++ method :: after →
    method ∈ placedMethods ∧ document.operation? route.path method = none ∧
      route.operationId method ∉ document.operationIds ∧
      ∀ earlier ∈ before, route.operationId earlier ≠ route.operationId method

/-- The checks of a method of a route that has other methods before it, in order. -/
def methodChecks (document : Document) (route : Route) (before : List String) (method : String) :
    List (Option DocumentFailure) :=
  let operationId := route.operationId method
  [if method ∉ placedMethods then
      some (.invalidRoute route.path (method ++ " cannot be documented"))
    else none,
    if (document.operation? route.path method).isSome then
      some (.invalidRoute route.path (method ++ " is already documented"))
    else none,
    if operationId ∈ document.operationIds ∨ operationId ∈ before.map route.operationId then
      some (.duplicateOperationId operationId)
    else none]

def methodsChecks (document : Document) (route : Route) :
    List String → List String → List (Option DocumentFailure)
  | _, [] => []
  | before, method :: rest =>
    document.methodChecks route before method ++
      document.methodsChecks route (before ++ [method]) rest

def parametersCheck (document : Document) (route : Route) : Option DocumentFailure :=
  match (describeAll document.options.emptyName route.descriptors).result with
  | .ok _ => none
  | .error failure => some (.parameter failure)

def routeChecks (document : Document) (route : Route) : List (Option DocumentFailure) :=
  [if route.path = "" then some (.invalidRoute route.path "path is empty") else none,
    if Text.isBlankText route.summary then some (.invalidRoute route.path "summary is empty")
    else none,
    if route.methods = [] then some (.invalidRoute route.path "no HTTP methods") else none,
    document.parametersCheck route] ++ document.methodsChecks route [] route.methods

variable {document : Document} {route : Route} {failure : DocumentFailure}

theorem mem_placedMethods_iff {method : String} :
    method ∈ placedMethods ↔ (Verb.ofMethod? method).isSome = true := by
  have names : placedMethods = Verb.all.map Verb.method := rfl
  rw [names, List.mem_map, Option.isSome_iff_exists]
  constructor
  · rintro ⟨verb, -, rfl⟩
    exact ⟨verb, Verb.ofMethod?_method verb⟩
  · rintro ⟨verb, known⟩
    exact ⟨verb, Verb.mem_all verb, (Verb.ofMethod?_eq_some_iff.mp known).symm⟩

section Checks

variable {α : Type}

/-- How an attempt ends that makes a row of checks for a value: with the first failure, if any. -/
def settle (checks : List (Option DocumentFailure)) (value : α) : Except DocumentFailure α :=
  match checks.findSome? id with
  | some failure => .error failure
  | none => .ok value

@[simp] theorem settle_nil (value : α) : settle [] value = .ok value := rfl

@[simp] theorem settle_none (checks : List (Option DocumentFailure)) (value : α) :
    settle (none :: checks) value = settle checks value := rfl

@[simp] theorem settle_some (checks : List (Option DocumentFailure)) (value : α) :
    settle (some failure :: checks) value = .error failure := rfl

theorem settle_eq_error_iff {checks : List (Option DocumentFailure)} {value : α} :
    settle checks value = .error failure ↔ checks.findSome? id = some failure := by
  unfold settle
  cases checks.findSome? id <;> simp

theorem settle_eq_ok_iff {checks : List (Option DocumentFailure)} {value result : α} :
    settle checks value = .ok result ↔ (∀ check ∈ checks, check = none) ∧ result = value := by
  rw [← show checks.findSome? id = none ↔ ∀ check ∈ checks, check = none by simp]
  unfold settle
  cases checks.findSome? id <;> simp [eq_comm]

end Checks

theorem checkMethods_eq_settle (before methods : List String) :
    document.checkMethods route methods (before.map route.operationId) =
      settle (document.methodsChecks route before methods)
        ((before ++ methods).map route.operationId) := by
  induction methods generalizing before with
  | nil => simp [checkMethods, methodsChecks]
  | cons method rest ih =>
    have behind := ih (before ++ [method])
    rw [List.map_append, List.map_singleton, List.append_assoc, List.singleton_append] at behind
    have unplaced : method ∉ placedMethods ↔ (Verb.ofMethod? method).isNone = true := by
      rw [mem_placedMethods_iff, Bool.not_eq_true, Option.isSome_eq_false_iff]
    unfold checkMethods methodsChecks methodChecks
    simp only [behind, unplaced, List.cons_append, List.nil_append]
    split_ifs <;> simp

theorem result_addRoute :
    (document.addRoute route).result = settle (document.routeChecks route)
      (document.write route
        ((describeAll document.options.emptyName route.descriptors).result.toOption.getD [])
        (route.methods.map route.operationId)) := by
  unfold addRoute Route.fault? routeChecks
  by_cases unpathed : route.path = ""
  · simp [unpathed]
  by_cases blank : Text.isBlankText route.summary = true
  · simp [unpathed, blank]
  by_cases unasked : route.methods = []
  · simp [unpathed, blank, unasked]
  have checked : document.checkMethods route route.methods [] =
      settle (document.methodsChecks route [] route.methods)
        (route.methods.map route.operationId) := checkMethods_eq_settle [] route.methods
  simp only [unpathed, blank, unasked, if_false, Bool.false_eq_true, List.cons_append,
    List.nil_append, settle_none, Journal.result_bind, ofParameters, Journal.result_ofExcept,
    checked, Journal.result_note, Journal.result_pure, parametersCheck]
  cases (describeAll document.options.emptyName route.descriptors).result with
  | error failure => rfl
  | ok parameters =>
    simp only [settle_none]
    unfold settle
    cases (document.methodsChecks route [] route.methods).findSome? id <;> rfl

theorem addRoute_eq_error_iff :
    (document.addRoute route).result = .error failure ↔
      (document.routeChecks route).findSome? id = some failure := by
  rw [result_addRoute, settle_eq_error_iff]

theorem methodsChecks_pass_iff {before methods : List String} :
    (∀ check ∈ document.methodsChecks route before methods, check = none) ↔
      ∀ first method rest, methods = first ++ method :: rest →
        method ∈ placedMethods ∧ document.operation? route.path method = none ∧
          route.operationId method ∉ document.operationIds ∧
          ∀ earlier ∈ before ++ first, route.operationId earlier ≠ route.operationId method := by
  induction methods generalizing before with
  | nil => simp [methodsChecks]
  | cons method rest ih =>
    have here : (∀ check ∈ document.methodChecks route before method, check = none) ↔
        method ∈ placedMethods ∧ document.operation? route.path method = none ∧
          route.operationId method ∉ document.operationIds ∧
          ∀ earlier ∈ before, route.operationId earlier ≠ route.operationId method := by
      simp [methodChecks]
    rw [methodsChecks, List.forall_mem_append, here, ih]
    constructor
    · rintro ⟨admitted, others⟩ first other behind cut
      cases first with
      | nil =>
        obtain ⟨rfl, rfl⟩ := List.cons.inj cut
        simpa using admitted
      | cons head first =>
        obtain ⟨rfl, rfl⟩ := List.cons.inj cut
        simpa using others first other behind rfl
    · intro each
      refine ⟨by simpa using each [] method rest rfl, ?_⟩
      rintro first other behind rfl
      simpa using each (method :: first) other behind rfl

theorem exists_addRoute_iff_accepts :
    (∃ next, (document.addRoute route).result = .ok next) ↔ document.Accepts route := by
  rw [result_addRoute]
  simp only [settle_eq_ok_iff, exists_and_left, exists_eq, and_true, routeChecks,
    List.forall_mem_append, methodsChecks_pass_iff, List.nil_append]
  have summarized : Text.isBlankText route.summary = false ↔
      ∃ c ∈ route.summary.toList, Text.isBlank c = false := by
    simp [Text.isBlankText, List.all_eq_false]
  have described : document.parametersCheck route = none ↔ ∃ parameters,
      (describeAll document.options.emptyName route.descriptors).result = .ok parameters := by
    unfold parametersCheck
    split <;> rename_i ended <;> simp [ended]
  simp only [List.forall_mem_cons, List.not_mem_nil, false_imp_iff, implies_true, and_true,
    ite_eq_right_iff, reduceCtorEq, imp_false, described, Bool.not_eq_true, summarized]
  constructor
  · rintro ⟨⟨pathed, summarized, asked, described⟩, admitted⟩
    exact ⟨pathed, summarized, asked, described, admitted⟩
  · rintro ⟨pathed, summarized, asked, described, admitted⟩
    exact ⟨⟨pathed, summarized, asked, described⟩, admitted⟩

def changePath (path : String) (change : PathItem → PathItem) (document : Document) : Document :=
  { document with openApi := { document.openApi with
      paths := updatePath path change document.openApi.paths } }

/-- A change of a document in place, which keeps what was written before a failure. -/
abbrev Change (α : Type) := ExceptT DocumentFailure (StateM Document) α

/-- Writes a route that has been checked: first the entry of its path, then one operation after the
other, then the names. -/
def writeInPlace (route : Route) (parameters : List Parameter) (names : List String) :
    Change Unit := do
  modify (changePath route.path id)
  route.methods.forM fun method =>
    modify (changePath route.path (addOperations route parameters [method]))
  modify fun document => { document with operationIds := document.operationIds ++ names }

def addInPlace (route : Route) : Change Unit := do
  let document ← get
  match route.fault? with
  | some reason => throw (.invalidRoute route.path reason)
  | none =>
    let described := (describeAll document.options.emptyName route.descriptors).result
    let parameters ← ofExcept (described.mapError DocumentFailure.parameter)
    let names ← ofExcept (document.checkMethods route route.methods [])
    writeInPlace route parameters names

theorem updatePath_updatePath (path : String) (first second : PathItem → PathItem)
    (paths : List (String × PathItem)) :
    updatePath path second (updatePath path first paths) =
      updatePath path (second ∘ first) paths := by
  induction paths with
  | nil => simp [updatePath]
  | cons entry rest ih =>
    obtain ⟨other, item⟩ := entry
    by_cases same : other = path
    · simp [updatePath, same]
    · simp [updatePath, same, ih]

theorem changePath_changePath (path : String) (first second : PathItem → PathItem)
    (document : Document) : changePath path second (changePath path first document) =
      changePath path (second ∘ first) document := by
  simp [changePath, updatePath_updatePath]

theorem run_forM_changePath (parameters : List Parameter) (methods : List String)
    (item : PathItem → PathItem) :
    (methods.forM fun method => modify
      (changePath route.path (addOperations route parameters [method])) : Change Unit).run.run
        (changePath route.path item document) =
      (.ok (), changePath route.path (addOperations route parameters methods ∘ item) document) := by
  induction methods generalizing item with
  | nil => rfl
  | cons method rest ih =>
    have behind := ih (addOperations route parameters [method] ∘ item)
    rw [← changePath_changePath] at behind
    exact behind

theorem run_writeInPlace (parameters : List Parameter) (names : List String) :
    (writeInPlace route parameters names).run.run document =
      (.ok (), document.write route parameters names) := by
  let operations : Change Unit := route.methods.forM fun method =>
    modify (changePath route.path (addOperations route parameters [method]))
  have written : operations.run.run (changePath route.path id document) =
      (.ok (), changePath route.path (addOperations route parameters route.methods) document) :=
    run_forM_changePath parameters route.methods id
  show (operations >>= fun _ => modify fun document =>
    { document with operationIds := document.operationIds ++ names }).run.run
      (changePath route.path id document) = _
  rw [ExceptT.run_bind, StateT.run_bind, written]
  rfl

/-- In place a route is added as a whole or not at all. -/
theorem run_addInPlace :
    (addInPlace route).run.run document =
      match (document.addRoute route).result with
      | .ok next => (.ok (), next)
      | .error failure => (.error failure, document) := by
  have begun : (addInPlace route).run.run document =
      ((match route.fault? with
      | some reason => throw (.invalidRoute route.path reason)
      | none => do
        let described := (describeAll document.options.emptyName route.descriptors).result
        let parameters ← ofExcept (described.mapError DocumentFailure.parameter)
        let names ← ofExcept (document.checkMethods route route.methods [])
        writeInPlace route parameters names) : Change Unit).run.run document := rfl
  rw [begun]
  unfold addRoute
  cases route.fault? with
  | some reason => rfl
  | none =>
    simp only [Journal.result_bind, ofParameters, Journal.result_ofExcept,
       Journal.result_note, Journal.result_pure]
    cases (describeAll document.options.emptyName route.descriptors).result with
    | error failure => rfl
    | ok parameters =>
      cases document.checkMethods route route.methods [] with
      | error failure => rfl
      | ok names => exact run_writeInPlace parameters names

/-- A document accepts a route exactly when nothing speaks against it, and otherwise fails as the
first of the route's checks.  In place, a route that is accepted is written as a whole; one that is
not leaves the paths, their order, the names and the options as they were, so that whatever is done
later ends as it would have without the attempt. -/
theorem addRoute_by_checks (document : Document) (route : Route) :
    ((∃ next, (document.addRoute route).result = .ok next) ↔ document.Accepts route) ∧
    (∀ failure, (document.addRoute route).result = .error failure ↔
      (document.routeChecks route).findSome? id = some failure) ∧
    (∀ next, (document.addRoute route).result = .ok next →
      (addInPlace route).run.run document = (.ok (), next)) ∧
    ∀ failure, (document.addRoute route).result = .error failure →
      (addInPlace route).run.run document = (.error failure, document) ∧
      ∀ later, document.run (.addRoute route :: later) = document.run later := by
  refine ⟨exists_addRoute_iff_accepts, fun failure => addRoute_eq_error_iff, ?_, ?_⟩
  · intro next added
    rw [run_addInPlace, added]
  · intro failure refused
    refine ⟨by rw [run_addInPlace, refused], fun later => ?_⟩
    have same : document.step (.addRoute route) = document := by simp [step, refused]
    rw [run, List.foldl_cons, same, run]

example :
    let route : Route := { path := "/stars", methods := ["GET", "GET"], summary := "All Stars" }
    ((empty {}).routeChecks route).findSome? id = some (.duplicateOperationId "all-stars-get") ∧
      (((addInPlace route).run.run (empty {})).2.openApi.paths.map Prod.fst) = [] := by
  decide +kernel

end RequestParams.Document
