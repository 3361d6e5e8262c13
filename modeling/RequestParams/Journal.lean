set_option autoImplicit false
set_option relaxedAutoImplicit false

/-!
The journal of what happens while parameters are decoded and documented.  A journalled step has
a result and the events up to it; a step that fails keeps its events and ends the steps.
-/

namespace RequestParams

inductive Level where
  | trace
  | debug
  | warn
deriving DecidableEq

namespace Level

def text : Level → String
  | .trace => "TRACE"
  | .debug => "DEBUG"
  | .warn => "WARN"

end Level

inductive Event where
  /-- A field has its parameter's text, found at a location and coerced. -/
  | resolved (field parameter location : String)
  | assigned (field : String)
  | decoded (fields : Nat)
  | notDecoding (field : String)
  | notDocumenting (field : String)
  | decodingFailed (message path : String)
  | unmatchedParameter (path parameter : String)
  | documented (path : String) (methods parameters : Nat)
deriving DecidableEq

inductive Detail where
  | text (value : String)
  | count (value : Nat)
deriving DecidableEq

namespace Event

def level : Event → Level
  | .resolved .. => .trace
  | .assigned _ => .trace
  | .unmatchedParameter .. => .warn
  | _ => .debug

def message : Event → String
  | .resolved .. => "resolved parameter"
  | .assigned _ => "assigned field"
  | .decoded _ => "decoded request parameters"
  | .notDecoding _ => "skipping annotated field without a name"
  | .notDocumenting _ => "not documenting annotated field without a name"
  | .decodingFailed .. => "parameter decoding failed"
  | .unmatchedParameter .. => "path parameter does not appear in route template"
  | .documented .. => "documented route"

def details : Event → List (String × Detail)
  | .resolved field parameter location =>
    [("field", .text field), ("parameter", .text parameter), ("location", .text location)]
  | .assigned field => [("field", .text field)]
  | .decoded fields => [("fields", .count fields)]
  | .notDecoding field => [("field", .text field)]
  | .notDocumenting field => [("field", .text field)]
  | .decodingFailed message path => [("error", .text message), ("path", .text path)]
  | .unmatchedParameter path parameter => [("path", .text path), ("parameter", .text parameter)]
  | .documented path methods parameters =>
    [("path", .text path), ("methods", .count methods), ("parameters", .count parameters)]

end Event

theorem bind_eq_ok_iff {ε α β : Type} {first : Except ε α} {next : α → Except ε β} {result : β} :
    first >>= next = .ok result ↔ ∃ value, first = .ok value ∧ next value = .ok result := by
  cases first <;> simp [bind, Except.bind]

/-- A result or a failure, and the events up to it. -/
structure Journal (ε α : Type) where
  events : List Event
  result : Except ε α

namespace Journal

variable {ε α β : Type}

def done (value : α) : Journal ε α := ⟨[], .ok value⟩

def ofExcept (result : Except ε α) : Journal ε α := ⟨[], result⟩

def note (event : Event) : Journal ε Unit := ⟨[event], .ok ()⟩

def andThen (first : Journal ε α) (next : α → Journal ε β) : Journal ε β :=
  match first.result with
  | .error failure => ⟨first.events, .error failure⟩
  | .ok value => ⟨first.events ++ (next value).events, (next value).result⟩

instance : Monad (Journal ε) where
  pure := done
  bind := andThen

@[simp] theorem events_pure (value : α) : (pure value : Journal ε α).events = [] := rfl

@[simp] theorem result_pure (value : α) : (pure value : Journal ε α).result = .ok value := rfl

@[simp] theorem events_ofExcept (result : Except ε α) : (ofExcept result).events = [] := rfl

@[simp] theorem result_ofExcept (result : Except ε α) : (ofExcept result).result = result := rfl

@[simp] theorem events_note (event : Event) : (note event : Journal ε Unit).events = [event] :=
  rfl

@[simp] theorem result_note (event : Event) : (note event : Journal ε Unit).result = .ok () :=
  rfl

theorem result_bind (first : Journal ε α) (next : α → Journal ε β) :
    (first >>= next).result = first.result >>= fun value => (next value).result := by
  show (andThen first next).result = _
  unfold andThen
  split <;> rename_i ended <;> simp [ended, bind, Except.bind]

theorem events_bind_of_ok {first : Journal ε α} {value : α} (next : α → Journal ε β)
    (ended : first.result = .ok value) :
    (first >>= next).events = first.events ++ (next value).events := by
  show (andThen first next).events = _
  simp [andThen, ended]

theorem events_bind_of_error {first : Journal ε α} {failure : ε} (next : α → Journal ε β)
    (ended : first.result = .error failure) : (first >>= next).events = first.events := by
  show (andThen first next).events = _
  simp [andThen, ended]

theorem mem_events_bind {first : Journal ε α} {next : α → Journal ε β} {event : Event}
    (mem : event ∈ (first >>= next).events) :
    event ∈ first.events ∨ ∃ value, event ∈ (next value).events := by
  cases ended : first.result with
  | error failure =>
    rw [events_bind_of_error next ended] at mem
    exact .inl mem
  | ok value =>
    rw [events_bind_of_ok next ended] at mem
    exact (List.mem_append.mp mem).imp_right fun behind => ⟨value, behind⟩

theorem bind_congr {first : Journal ε α} {next other : α → Journal ε β}
    (same : ∀ value, first.result = .ok value → next value = other value) :
    first >>= next = first >>= other := by
  show andThen first next = andThen first other
  unfold andThen
  split
  · rfl
  · rename_i value ended
    rw [same value ended]

end Journal

end RequestParams
