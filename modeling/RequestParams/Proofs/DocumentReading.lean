import RequestParams.Proofs.DescribedParameters
import RequestParams.Proofs.DocumentHistory
import RequestParams.Proofs.MemberReading

set_option autoImplicit false
set_option relaxedAutoImplicit false

/-!
The text of a document is read as the document.  Each member is written unless it says nothing,
and what is not written is read as saying nothing.  All that a document holds can be read back: its
paths are distinct, its parameters' examples are values of fields, and their bounds are finite.
-/

namespace RequestParams

open WrittenJson

theorem WrittenNumber.integer?_written {n : Int} (low : -(UInt64.size / 2 : Nat) ≤ n)
    (high : n < UInt64.size) :
    integer? ⟨decide (n < 0), Nat.toDigits 10 n.natAbs, [], none⟩ = some n := by
  unfold integer?
  simp only [Nat.ofDigitChars_ten_toDigits, List.isEmpty_nil, Option.isSome_none, Bool.not_true,
    Bool.or_self, Bool.false_eq_true, if_false]
  by_cases negative : n < 0
  · have size : n.natAbs ≠ 0 ∧ n.natAbs ≤ UInt64.size / 2 := by omega
    rw [if_neg (by simp [negative]), if_pos size]
    congr 1
    omega
  · rw [if_pos (by simp [negative]), if_pos (by omega)]
    congr 1
    omega

section Values

variable {digits : Binary64.DigitReader}

theorem float?_written {x : Binary64} (kept : digits.ReadsBack x) :
    float? digits (Json.ofFloat x).written = some x := by
  have form : (Json.ofFloat x).written = .number x.shortest.written := by
    simp [Json.ofFloat, Json.written, JsonNumber.written, kept.finite]
  rw [form, WrittenJson.float?, kept.read]

theorem value?_toJson (depth : Nat) (value : Value) :
    WrittenJson.value? digits depth value.toJson.written = some value.toJson := by
  cases value with
  | int n =>
    have low := n.le_toInt
    have high := n.toInt_lt
    have integer := WrittenNumber.integer?_written (n := n.toInt) (by
      simp only [UInt64.size]
      omega) (by
      simp only [UInt64.size]
      omega)
    simp [Value.toJson, Json.ofInt, Json.written, JsonNumber.written, WrittenJson.value?,
      WrittenNumber.value?, integer]
  | bool b => simp [Value.toJson, Json.written, WrittenJson.value?]
  | string text =>
    simp [Value.toJson, Json.written, WrittenJson.value?, StringPiece.text?_ofText]

theorem nullFree_ofFloat {x : Binary64} (finite : x.isFinite = true) :
    Json.NullFree (Json.ofFloat x) := by
  rw [Json.NullFree, Json.ofFloat, Json.written, JsonNumber.written, if_pos finite]
  rintro ⟨⟩

theorem nullFree_toJson (value : Value) : Json.NullFree value.toJson := by
  cases value with
  | int n => rintro ⟨⟩
  | bool b => exact Json.nullFree_bool b
  | string text => exact Json.nullFree_string text

theorem variant?_written {α : Type} {reader : String → Option α} {text : String} {a : α}
    (depth : Nat) (known : reader text = some a) :
    variant? depth reader (Json.string text).written = some a := by
  rw [Json.written, variant?, StringPiece.text?_ofText, Option.bind_some, known]

end Values

section

variable {digits : Binary64.DigitReader} {name : String} {members : List (String × Json)}

theorem text?_forms {text : String} (alone : Json.under name members = [.string text]) :
    required? name text? (Json.forms members) = some text :=
  required?_forms alone (text?_written text)

theorem optional_text?_forms {held : Option String}
    (alone : Json.under name members = (held.map Json.string).toList) :
    optional? name text? (Json.forms members) = some held :=
  optional?_forms alone fun text _ => ⟨by simp [Json.written], text?_written text⟩

end

namespace Schema

variable {digits : Binary64.DigitReader}

theorem read?_written (depth : Nat) {schema : Schema}
    (bounded : ∀ minimum ∈ schema.minimum, digits.ReadsBack minimum) :
    read? digits (depth + 1) schema.toJson.written = some schema := by
  have opened : schema.toJson = .object schema.toJson.members := rfl
  have type : required? "type" (variant? depth SchemaType.read?)
      (Json.forms schema.toJson.members) = some schema.type :=
    required?_forms (by simp [toJson]) (variant?_written depth schema.type.read?_text)
  have minimum : optional? "minimum" (float? digits) (Json.forms schema.toJson.members) =
      some schema.minimum := by
    have alone : Json.under "minimum" schema.toJson.members =
        (schema.minimum.map Json.ofFloat).toList := by
      simp [toJson]
    refine optional?_forms alone fun minimum held => ⟨?_, float?_written (bounded _ held)⟩
    exact (nullFree_ofFloat (bounded _ held).finite).ne_null
  rw [opened, read?, fields?_written]
  simp [type, minimum]

theorem nullFree {schema : Schema}
    (bounded : ∀ minimum ∈ schema.minimum, digits.ReadsBack minimum) :
    Json.NullFree schema.toJson := by
  rw [toJson, Json.nullFree_object, List.forall_mem_cons, Json.nullFree_optionalMember]
  exact ⟨Json.nullFree_string _, fun minimum held => nullFree_ofFloat (bounded minimum held).finite⟩

end Schema

namespace Parameter

variable {digits : Binary64.DigitReader}

/-- Whether a parameter can be read back: its example is a value of a field, its bound is finite
and read back. -/
structure Readable (digits : Binary64.DigitReader) (parameter : Parameter) : Prop where
  shown : ∃ value : Option Value, parameter.exampleValue = value.map Value.toJson
  bounded : ∀ minimum ∈ parameter.schema.minimum, digits.ReadsBack minimum

theorem read?_written (depth : Nat) {parameter : Parameter}
    (readable : parameter.Readable digits) :
    read? digits (depth + 2) parameter.toJson.written = some parameter := by
  obtain ⟨shown, bounded⟩ := readable
  have opened : parameter.toJson = .object parameter.toJson.members := rfl
  have name : required? "name" text? (Json.forms parameter.toJson.members) =
      some parameter.name :=
    text?_forms (by simp [toJson])
  have location : required? "in" (variant? (depth + 1) Location.read?)
      (Json.forms parameter.toJson.members) = some parameter.location :=
    required?_forms (by simp [toJson]) (variant?_written _ parameter.location.read?_text)
  have description : optional? "description" text? (Json.forms parameter.toJson.members) =
      some parameter.description :=
    optional_text?_forms (by simp [toJson])
  have exampleValue : optional? "example" (WrittenJson.value? digits (depth + 1))
      (Json.forms parameter.toJson.members) = some parameter.exampleValue := by
    have alone : Json.under "example" parameter.toJson.members =
        (parameter.exampleValue.map id).toList := by
      simp [toJson]
    refine optional?_forms alone fun shownValue held => ?_
    obtain ⟨value, same⟩ := shown
    rw [same] at held
    obtain ⟨value, -, rfl⟩ := Option.mem_map.mp held
    exact ⟨(nullFree_toJson value).ne_null, value?_toJson _ value⟩
  have required : memberOr? "required" false bool? (Json.forms parameter.toJson.members) =
      some parameter.required := by
    have alone : Json.under "required" parameter.toJson.members = [.bool parameter.required] := by
      simp [toJson]
    exact memberOr?_forms alone rfl
  have schema : required? "schema" (Schema.read? digits (depth + 1))
      (Json.forms parameter.toJson.members) = some parameter.schema :=
    required?_forms (by simp [toJson]) (Schema.read?_written depth bounded)
  rw [opened, read?, fields?_written]
  simp [name, location, description, exampleValue, required, schema]

theorem Readable.nullFree {parameter : Parameter} (readable : parameter.Readable digits) :
    Json.NullFree parameter.toJson := by
  obtain ⟨⟨shown, same⟩, bounded⟩ := readable
  rw [toJson, same, Json.nullFree_object]
  simp only [List.forall_mem_append, List.forall_mem_cons, Json.nullFree_optionalMember,
    Json.nullFree_string, Json.nullFree_bool, Schema.nullFree bounded]
  simp [nullFree_toJson]

end Parameter

theorem Response.nullFree (response : Response) : Json.NullFree response.toJson := by
  simp [toJson, Json.nullFree_object]

theorem Response.read?_written (depth : Nat) (response : Response) :
    read? (depth + 1) response.toJson.written = some response := by
  have opened : response.toJson = .object response.toJson.members := rfl
  have description : required? "description" text? (Json.forms response.toJson.members) =
      some response.description :=
    text?_forms (by simp [toJson])
  rw [opened, read?, fields?_written]
  simp [description]

namespace Operation

variable {digits : Binary64.DigitReader}

structure Readable (digits : Binary64.DigitReader) (operation : Operation) : Prop where
  parameters : ∀ parameter ∈ operation.parameters, parameter.Readable digits
  /-- Each status has one answer. -/
  keyed : (operation.responses.map Prod.fst).Nodup

theorem read?_written (depth : Nat) {operation : Operation}
    (readable : operation.Readable digits) :
    read? digits (depth + 4) operation.toJson.written = some operation := by
  have opened : operation.toJson = .object operation.toJson.members := rfl
  have operationId : required? "operationId" text? (Json.forms operation.toJson.members) =
      some operation.operationId :=
    text?_forms (by simp [toJson])
  have summary : optional? "summary" text? (Json.forms operation.toJson.members) =
      some operation.summary :=
    optional_text?_forms (by simp [toJson])
  have description : optional? "description" text? (Json.forms operation.toJson.members) =
      some operation.description :=
    optional_text?_forms (by simp [toJson])
  have parameters : memberOr? "parameters" []
      (list? (depth + 3) (Parameter.read? digits (depth + 2)))
      (Json.forms operation.toJson.members) = some operation.parameters := by
    have alone : Json.under "parameters" operation.toJson.members =
        if operation.parameters = [] then []
        else [.array (operation.parameters.map Parameter.toJson)] := by
      simp [toJson]
    refine memberOr?_list_forms alone fun parameter mem => ?_
    exact Parameter.read?_written depth (readable.parameters parameter mem)
  have responses : required? "responses" (map? (depth + 3) (Response.read? (depth + 2)))
      (Json.forms operation.toJson.members) = some operation.responses :=
    required?_forms (by simp [toJson])
      (map?_written readable.keyed fun entry _ => Response.read?_written (depth + 1) entry.2)
  rw [opened, read?, fields?_written]
  simp [operationId, summary, description, parameters, responses]

theorem nullFree_responses (responses : List (String × Response)) :
    Json.NullFree (.object (responses.map fun (status, response) =>
      (status, response.toJson))) :=
  Json.nullFree_map.mpr fun entry _ => entry.2.nullFree

theorem Readable.nullFree {operation : Operation} (readable : operation.Readable digits) :
    Json.NullFree operation.toJson := by
  have parameters : ∀ parameter ∈ operation.parameters, Json.NullFree parameter.toJson :=
    fun parameter mem => (readable.parameters parameter mem).nullFree
  rw [toJson, Json.nullFree_object]
  simp only [List.forall_mem_append, List.forall_mem_cons, Json.nullFree_optionalMember,
    Json.nullFree_listMember, Json.nullFree_string]
  simpa [nullFree_responses] using parameters

end Operation

namespace PathItem

variable {digits : Binary64.DigitReader}

theorem under_operations (item : PathItem) (verb : Verb) :
    Json.under verb.key item.toJson.members =
      ((item.operation? verb).map Operation.toJson).toList := by
  cases verb <;> simp [toJson, Verb.all, Verb.key]

theorem read?_written (depth : Nat) {item : PathItem}
    (readable : ∀ verb, ∀ operation ∈ item.operation? verb, operation.Readable digits) :
    read? digits (depth + 5) item.toJson.written = some item := by
  have opened : item.toJson = .object item.toJson.members := rfl
  have each (verb : Verb) : optional? verb.key (Operation.read? digits (depth + 4))
      (Json.forms item.toJson.members) = some (item.operation? verb) := by
    refine optional?_forms (item.under_operations verb) fun operation held =>
      ⟨by simp [Operation.toJson, Json.written], ?_⟩
    exact Operation.read?_written depth (readable verb operation held)
  have operations : (Verb.all.map id).mapM (fun verb =>
      (optional? verb.key (Operation.read? digits (depth + 4))
        (Json.forms item.toJson.members)).map fun found => (verb, found)) =
        some (Verb.all.map fun verb => (verb, item.operation? verb)) :=
    mapM_map_eq_some fun verb _ => by rw [id, each verb, Option.map_some]
  have found (verb : Verb) : ((Verb.all.map fun verb => (verb, item.operation? verb)).lookup
      verb).join = item.operation? verb := by
    cases verb <;> rfl
  rw [List.map_id] at operations
  rw [opened, read?, fields?_written]
  simp [operations, found]

theorem nullFree {item : PathItem}
    (readable : ∀ verb, ∀ operation ∈ item.operation? verb, operation.Readable digits) :
    Json.NullFree item.toJson := by
  rw [toJson, Json.nullFree_object, List.forall_mem_flatMap]
  intro verb _
  rw [Json.nullFree_optionalMember]
  exact fun operation held => (readable verb operation held).nullFree

end PathItem

theorem Info.read?_written (depth : Nat) (info : Info) :
    read? (depth + 1) info.toJson.written = some info := by
  have opened : info.toJson = .object info.toJson.members := rfl
  have title : required? "title" text? (Json.forms info.toJson.members) = some info.title :=
    text?_forms (by simp [toJson])
  have version : required? "version" text? (Json.forms info.toJson.members) = some info.version :=
    text?_forms (by simp [toJson])
  rw [opened, read?, fields?_written]
  simp [title, version]

theorem Server.read?_written (depth : Nat) (server : Server) :
    read? (depth + 1) server.toJson.written = some server := by
  have opened : server.toJson = .object server.toJson.members := rfl
  have url : required? "url" text? (Json.forms server.toJson.members) = some server.url :=
    text?_forms (by simp [toJson])
  have description : optional? "description" text? (Json.forms server.toJson.members) =
      some server.description :=
    optional_text?_forms (by simp [toJson])
  rw [opened, read?, fields?_written]
  simp [url, description]

namespace OpenApi

variable {digits : Binary64.DigitReader}

structure Readable (digits : Binary64.DigitReader) (openApi : OpenApi) : Prop where
  /-- Each path has one entry. -/
  keyed : (openApi.paths.map Prod.fst).Nodup
  operations : ∀ entry ∈ openApi.paths, ∀ verb, ∀ operation ∈ entry.2.operation? verb,
    operation.Readable digits

theorem read?_written (depth : Nat) {openApi : OpenApi} (readable : openApi.Readable digits) :
    read? digits (depth + 7) openApi.toJson.written = some openApi := by
  have opened : openApi.toJson = .object openApi.toJson.members := rfl
  have openapi : required? "openapi" text? (Json.forms openApi.toJson.members) =
      some openApi.openapi :=
    text?_forms (by simp [toJson])
  have info : required? "info" (Info.read? (depth + 6)) (Json.forms openApi.toJson.members) =
      some openApi.info :=
    required?_forms (by simp [toJson]) (openApi.info.read?_written (depth + 5))
  have servers : memberOr? "servers" [] (list? (depth + 6) (Server.read? (depth + 5)))
      (Json.forms openApi.toJson.members) = some openApi.servers := by
    have alone : Json.under "servers" openApi.toJson.members =
        if openApi.servers = [] then [] else [.array (openApi.servers.map Server.toJson)] := by
      simp [toJson]
    exact memberOr?_list_forms alone fun server _ => server.read?_written (depth + 4)
  have paths : memberOr? "paths" [] (map? (depth + 6) (PathItem.read? digits (depth + 5)))
      (Json.forms openApi.toJson.members) = some openApi.paths :=
    memberOr?_forms (by simp [toJson]) (map?_written readable.keyed fun entry mem =>
      PathItem.read?_written depth (readable.operations entry mem))
  rw [opened, read?, fields?_written]
  simp [openapi, info, servers, paths]

theorem Readable.readBy?_pretty {openApi : OpenApi} (readable : openApi.Readable digits) :
    readBy? digits read? openApi.toJson.pretty = some openApi := by
  rw [readBy?, Json.read_pretty, Option.bind_some]
  exact read?_written 120 readable

theorem Readable.nullFree_paths {openApi : OpenApi} (readable : openApi.Readable digits) :
    Json.NullFree (.object (openApi.paths.map fun (path, item) => (path, item.toJson))) :=
  Json.nullFree_map.mpr fun entry mem => PathItem.nullFree (readable.operations entry mem)

theorem Readable.nullFree {openApi : OpenApi} (readable : openApi.Readable digits) :
    Json.NullFree openApi.toJson := by
  have info : Json.NullFree openApi.info.toJson := by
    simp [Info.toJson, Json.nullFree_object]
  have servers : ∀ server ∈ openApi.servers, Json.NullFree server.toJson := by
    intro server _
    rw [Server.toJson, Json.nullFree_object, List.forall_mem_cons, Json.nullFree_optionalMember]
    exact ⟨Json.nullFree_string _, fun text _ => Json.nullFree_string text⟩
  rw [toJson, Json.nullFree_object]
  simp only [List.forall_mem_append, List.forall_mem_cons, Json.nullFree_listMember,
    Json.nullFree_string]
  simpa [info, readable.nullFree_paths] using servers

end OpenApi

theorem FloatLiteral.isFinite_of_finite? {literal : String} {x : Binary64}
    (read : finite? literal = some x) : x.isFinite = true := by
  unfold finite? at read
  split at read
  · exact (Option.filter_eq_some_iff.mp read).2
  · simp at read

section

variable {digits : Binary64.DigitReader}

theorem Parameter.readable_of_describe {descriptor : Descriptor} {parameter : Parameter}
    (described : descriptor.describe = .ok parameter)
    (kept : ∀ minimum ∈ parameter.schema.minimum, minimum.isFinite = true →
      digits.ReadsBack minimum) : parameter.Readable digits := by
  have documents := Descriptor.documents_of_describe described
  constructor
  · rw [documents.shown]
    split_ifs
    · exact ⟨none, rfl⟩
    · exact ⟨_, rfl⟩
  · intro minimum held
    refine kept minimum held ?_
    rw [documents.bounded] at held
    split_ifs at held
    · simp at held
    · exact FloatLiteral.isFinite_of_finite? held

def OpenApi.bounds (openApi : OpenApi) : List Binary64 :=
  openApi.paths.flatMap fun entry => Verb.all.flatMap fun verb =>
    (entry.2.operation? verb).toList.flatMap fun operation =>
      operation.parameters.filterMap fun parameter => parameter.schema.minimum

theorem OpenApi.mem_bounds {openApi : OpenApi} {entry : String × PathItem} {verb : Verb}
    {operation : Operation} {parameter : Parameter} {minimum : Binary64}
    (mem : entry ∈ openApi.paths) (held : operation ∈ entry.2.operation? verb)
    (among : parameter ∈ operation.parameters) (bound : minimum ∈ parameter.schema.minimum) :
    minimum ∈ openApi.bounds := by
  refine List.mem_flatMap.mpr ⟨entry, mem, List.mem_flatMap.mpr ⟨verb, verb.mem_all, ?_⟩⟩
  exact List.mem_flatMap.mpr
    ⟨operation, Option.mem_toList.mpr held, List.mem_filterMap.mpr ⟨parameter, among, bound⟩⟩

namespace Document

theorem described_of_mem_accepted {document : Document} {steps : List DocumentStep}
    {call : AcceptedRoute} (mem : call ∈ document.accepted steps) :
    ∃ policy, (describeAll policy call.route.descriptors).result = .ok call.parameters := by
  induction steps generalizing document with
  | nil => simp [accepted] at mem
  | cons step rest ih =>
    rcases List.mem_append.mp mem with here | behind
    · rw [Option.mem_toList] at here
      cases step with
      | setOptions options => simp [accepts?] at here
      | addRoute route =>
        cases added : (document.addRoute route).result with
        | error failure => simp [accepts?, added] at here
        | ok next =>
          obtain ⟨parameters, described, accepted⟩ := accepts?_of_addRoute added
          rw [accepted] at here
          obtain rfl := Option.some.inj here
          exact ⟨_, described⟩
    · exact ih behind

theorem exists_describe_of_mem {policy : EmptyNamePolicy} {descriptors : List Descriptor}
    {parameters : List Parameter}
    (described : (describeAll policy descriptors).result = .ok parameters)
    {parameter : Parameter} (mem : parameter ∈ parameters) :
    ∃ descriptor : Descriptor, descriptor.describe = .ok parameter := by
  obtain ⟨-, each⟩ := describeAll_eq_ok_iff.mp described
  generalize descriptors.filter (fun descriptor => descriptor.literals.name ≠ "") = named at each
  clear described
  induction each with
  | nil => simp at mem
  | cons here _ ih =>
    rcases List.mem_cons.mp mem with rfl | behind
    · exact ⟨_, here⟩
    · exact ih behind

theorem readable_run (settings : DocumentOptions) (steps : List DocumentStep)
    (kept : ∀ minimum ∈ ((empty settings).run steps).openApi.bounds, minimum.isFinite = true →
      digits.ReadsBack minimum) :
    ((empty settings).run steps).openApi.Readable digits := by
  have reflects := (reflects_empty settings).run steps
  refine ⟨reflects.keyed, ?_⟩
  rintro ⟨path, item⟩ entry verb operation held
  have found : ((empty settings).run steps).operation? path verb.method = some operation := by
    simpa [operation?, lookup_of_mem reflects.keyed entry, Verb.ofMethod?_method] using held
  obtain ⟨call, accepted, -, rfl⟩ := reflects.exists_of_operation? found
  rw [List.nil_append] at accepted
  obtain ⟨policy, described⟩ := described_of_mem_accepted accepted
  constructor
  · intro parameter mem
    obtain ⟨descriptor, described⟩ := exists_describe_of_mem described mem
    exact Parameter.readable_of_describe described fun minimum bound =>
      kept minimum (OpenApi.mem_bounds entry held mem bound)
  · simp [operationOf, Response.defaults]

end Document

end

namespace Document

/-- The text of a document that routes were added to in any history is JSON without any null, and is
read as the document by every reader that takes digits for the number nearest to them.  Thus each
bound is written as a number, what is left out is read as absent, and the paths keep their order. -/
theorem text_reads_back (settings : DocumentOptions) (steps : List DocumentStep)
    {digits : Binary64.DigitReader} (nearest : digits.RoundsToNearest) :
    let document := (empty settings).run steps
    (∃ form, SpellsJson form document.text.toList ∧ WrittenJson.read document.text = some form ∧
      ¬form.HoldsNull) ∧
    readBy? digits OpenApi.read? document.text = some document.openApi := by
  intro document
  have readable : document.openApi.Readable digits :=
    readable_run settings steps fun minimum _ finite => nearest.readsBack finite
  exact ⟨⟨_, document.openApi.toJson.spellsJson_pretty, document.openApi.toJson.read_pretty,
    readable.nullFree⟩, readable.readBy?_pretty⟩

def quotedStars : List DocumentStep :=
  [.addRoute {
    path := "/st\"ars\\"
    methods := ["GET"]
    summary := "Étoiles\x01\n"
    descriptors := [.read "id" .int "name: id; kind: query; example: -7; schemaMin: 0.1"] }]

theorem text_reads_back_quotedStars :
    let document := (empty {}).run quotedStars
    (document.operation? "/st\"ars\\" "GET").map (fun operation =>
        operation.parameters.map fun parameter => parameter.schema.minimum) =
      some [some (Binary64.ofDecimal ⟨false, 1, -1⟩)] ∧
    Binary64.nearest? false ['0'] ['1'] 0 = Binary64.ofDigits? false ['0'] ['1'] 0 ∧
    Binary64.DigitReader.RoundsToNearest Binary64.nearest? ∧
    (∃ form, SpellsJson form document.text.toList ∧ WrittenJson.read document.text = some form ∧
      ¬form.HoldsNull) ∧
    readBy? Binary64.nearest? OpenApi.read? document.text = some document.openApi := by
  have nearest : Binary64.DigitReader.RoundsToNearest Binary64.nearest? := fun _ _ _ _ _ => rfl
  exact ⟨by decide +kernel, by decide +kernel, nearest, text_reads_back {} quotedStars nearest⟩

end Document

end RequestParams
