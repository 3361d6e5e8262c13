import RequestParams.Proofs.DerivedRegistrations
import RequestParams.Proofs.Traversal

set_option autoImplicit false
set_option relaxedAutoImplicit false

/-!
Which items a record type can be derived from.  An item is supported if it is a structure whose
fields have names and at most one annotation each, which is given one string literal; each field is
then registered once and in order.  Any other item is refused for its form or for the first of its
fields that is not supported.
-/

namespace RequestParams.Declaration

/-! ### Declared types -/

/-- A type that is a path, perhaps in round or invisible brackets, and ends with a name that has no
arguments. -/
inductive TypeShape.EndsIn (name : String) : TypeShape → Prop
  | path (isGlobal : Bool) (before : List Segment) :
      EndsIn name (.path ⟨isGlobal, before ++ [⟨name, false⟩]⟩)
  | parenthesized {inner : TypeShape} : EndsIn name inner → EndsIn name (.parenthesized inner)
  | grouped {inner : TypeShape} : EndsIn name inner → EndsIn name (.grouped inner)

theorem Path.plainName?_eq_some_iff {path : Path} {name : String} :
    path.plainName? = some name ↔ ∃ before, path.segments = before ++ [⟨name, false⟩] := by
  rw [← List.getLast?_eq_some_iff, plainName?]
  split
  · next last => simp [last]
  · next other =>
    simp only [reduceCtorEq, false_iff]
    exact other name

theorem TypeShape.name?_eq_some_iff {name : String} {shape : TypeShape} :
    shape.name? = some name ↔ shape.EndsIn name := by
  induction shape with
  | path path =>
    rw [TypeShape.name?, Path.plainName?_eq_some_iff]
    constructor
    · rintro ⟨before, segments⟩
      obtain ⟨isGlobal, _⟩ := path
      obtain rfl := segments
      exact .path isGlobal before
    · rintro ⟨_, before⟩
      exact ⟨before, rfl⟩
  | parenthesized inner ih =>
    rw [TypeShape.name?, ih]
    exact ⟨.parenthesized, fun | .parenthesized ends => ends⟩
  | grouped inner ih =>
    rw [TypeShape.name?, ih]
    exact ⟨.grouped, fun | .grouped ends => ends⟩
  | bound | verbatim | other =>
    exact ⟨fun named => by simp [TypeShape.name?] at named, fun ends => by cases ends⟩

/-- The type that a field is registered with, by the type that it is declared with. -/
inductive DeclaredType.RegistersAs (declared : DeclaredType) : FieldType → Prop
  | int : declared.shape.EndsIn "i64" → RegistersAs declared .int
  | bool : declared.shape.EndsIn "bool" → RegistersAs declared .bool
  | string : declared.shape.EndsIn "String" → RegistersAs declared .string
  | unsupported : ¬ declared.shape.EndsIn "i64" → ¬ declared.shape.EndsIn "bool" →
      ¬ declared.shape.EndsIn "String" →
      RegistersAs declared (.unsupported (Tree.joined declared.trees))

theorem DeclaredType.registersAs_fieldType (declared : DeclaredType) :
    declared.RegistersAs declared.fieldType := by
  unfold fieldType
  split
  · next named => exact .int (TypeShape.name?_eq_some_iff.mp named)
  · next named => exact .bool (TypeShape.name?_eq_some_iff.mp named)
  · next named => exact .string (TypeShape.name?_eq_some_iff.mp named)
  · next int bool string =>
    exact .unsupported (fun ends => int (TypeShape.name?_eq_some_iff.mpr ends))
      (fun ends => bool (TypeShape.name?_eq_some_iff.mpr ends))
      (fun ends => string (TypeShape.name?_eq_some_iff.mpr ends))

/-! ### Annotations -/

def Attribute.Gives (mark : Attribute) (text : String) : Prop :=
  ∃ literal, mark.contents = .group [.literal literal] ∧ StringLiteral.value? literal = some text

theorem Attribute.stringLiteral?_eq_some {mark : Attribute} {literal text : String}
    (given : mark.contents = .group [.literal literal])
    (value : StringLiteral.value? literal = some text) :
    mark.stringLiteral? = some literal := by
  simp [stringLiteral?, given, value]

theorem Attribute.stringLiteral?_eq_none {mark : Attribute} (silent : ∀ text, ¬ mark.Gives text) :
    mark.stringLiteral? = none := by
  unfold stringLiteral?
  split
  · next literal given =>
    rw [if_neg]
    rw [Option.isSome_iff_exists]
    exact fun ⟨text, value⟩ => silent text ⟨literal, given, value⟩
  · rfl

namespace Member

/-- The attributes that annotate a field: those whose path is one certain word. -/
def marks (member : Member) : List Attribute :=
  member.attributes.filter fun mark => mark.path = ⟨false, [⟨"param", false⟩]⟩

theorem isWord_of_mem_marks (member : Member) {mark : Attribute} (mem : mark ∈ member.marks) :
    mark.path.isWord "param" = true :=
  (List.mem_filter.mp mem).2

/-- What a field with at most one annotation is annotated with, if with anything. -/
inductive IsAnnotated (member : Member) : Option String → Prop
  | unmarked : member.marks = [] → IsAnnotated member none
  | marked {mark : Attribute} {text : String} :
      member.marks = [mark] → mark.Gives text → IsAnnotated member (some text)

/-- Why a field is not supported.  An annotation that is not a string literal counts before the one
that it stands before, and behind a string literal any other is one too many. -/
inductive Offends (member : Member) : DerivationError → Prop
  | malformed {mark : Attribute} {others : List Attribute} :
      member.marks = mark :: others → (∀ text, ¬ mark.Gives text) →
      Offends member .notAStringLiteral
  | duplicate {mark second : Attribute} {others : List Attribute} {text : String} :
      member.marks = mark :: second :: others → mark.Gives text → Offends member .annotatedTwice

theorem isAnnotated_or_offends (member : Member) :
    (∃ annotation, member.IsAnnotated annotation) ∨ ∃ cause, member.Offends cause := by
  cases marks : member.marks with
  | nil => exact .inl ⟨none, .unmarked marks⟩
  | cons mark others =>
    by_cases gives : ∃ text, mark.Gives text
    · obtain ⟨text, gives⟩ := gives
      cases others with
      | nil => exact .inl ⟨some text, .marked marks gives⟩
      | cons second others => exact .inr ⟨_, .duplicate marks gives⟩
    · exact .inr ⟨_, .malformed marks (not_exists.mp gives)⟩

end Member

private theorem annotationAmong_filter (found : Option String) (attributes : List Attribute) :
    annotationAmong found attributes =
      annotationAmong found (attributes.filter fun mark => mark.path.isWord "param") := by
  -- An annotation changes what was found, so the induction is over all that can be found.
  induction attributes generalizing found with
  | nil => rfl
  | cons mark rest ih =>
    by_cases annotates : mark.path.isWord "param" = true
    · simp [annotationAmong, annotates, ih]
    · simp [annotationAmong, annotates, ih found]

private theorem annotationAmong_marks (member : Member) :
    annotationAmong none member.attributes = annotationAmong none member.marks :=
  annotationAmong_filter none member.attributes

/-! ### Fields -/

def Unmarked (identifier name : String) : Prop :=
  identifier = "r#" ++ name ∨ (identifier = name ∧ ¬ "r#".toList <+: identifier.toList)

theorem DerivedField.unmarked_name (field : DerivedField) :
    Unmarked field.identifier field.name := by
  unfold DerivedField.name
  split
  · next rest raw =>
    refine .inl (String.toList_inj.mp ?_)
    simp [raw]
  · next plain =>
    exact .inr ⟨rfl, fun ⟨rest, raw⟩ => plain rest raw.symm⟩

structure Registers (member : Member) (binding : Binding) : Prop where
  named : Unmarked member.name binding.registration.name
  typed : member.type.RegistersAs binding.registration.type
  annotated : member.IsAnnotated binding.registration.annotationText
  stored : binding.registration.slot = Slot.ofType binding.registration.type
  reached :
    binding.reached = if binding.registration.isSettable then some member.name else none

namespace DerivedField

variable {member : Member}

private theorem ofMember_eq (member : Member) :
    ofMember member = (annotationAmong none member.marks).map fun literal =>
      ⟨member.name, member.type.fieldType, literal⟩ := by
  rw [← annotationAmong_marks, ofMember]
  cases annotationAmong none member.attributes <;> rfl

private theorem registers_binding {field : DerivedField} (named : field.identifier = member.name)
    (typed : field.type = member.type.fieldType)
    (annotated : member.IsAnnotated field.annotationText) : Registers member field.binding where
  named := named ▸ field.unmarked_name
  typed := by
    have declared := member.type.registersAs_fieldType
    rwa [← typed] at declared
  annotated := annotated
  stored := rfl
  reached := named ▸ rfl

theorem ofMember_of_isAnnotated {text? : Option String}
    (annotated : member.IsAnnotated text?) :
    ∃ field, ofMember member = .ok field ∧ field.IsReadable ∧ Registers member field.binding := by
  rw [ofMember_eq]
  cases annotated with
  | unmarked marks =>
    refine ⟨⟨member.name, member.type.fieldType, none⟩, ?_, ?_, ?_⟩
    · rw [marks]
      rfl
    · exact fun _ absent => nomatch absent
    · exact registers_binding rfl rfl (.unmarked marks)
  | @marked mark text marks gives =>
    obtain ⟨literal, contents, value⟩ := id gives
    have annotates : mark.path.isWord "param" = true :=
      member.isWord_of_mem_marks (by simp [marks])
    refine ⟨⟨member.name, member.type.fieldType, some literal⟩, ?_, ?_, ?_⟩
    · simp [marks, annotationAmong, annotates, Attribute.stringLiteral?_eq_some contents value,
        Except.map]
    · intro written same
      obtain rfl := Option.some_inj.mp same
      exact Option.isSome_of_eq_some value
    · refine registers_binding rfl rfl ?_
      rw [annotationText, Option.bind_some, value]
      exact .marked marks gives

theorem ofMember_of_offends {cause : DerivationError} (offends : member.Offends cause) :
    ofMember member = .error cause := by
  rw [ofMember_eq]
  cases offends with
  | @malformed mark others marks silent =>
    have first : mark.path.isWord "param" = true := member.isWord_of_mem_marks (by simp [marks])
    simp [marks, annotationAmong, first, Attribute.stringLiteral?_eq_none silent, Except.map]
  | @duplicate mark second others text marks gives =>
    obtain ⟨literal, contents, value⟩ := gives
    have first : mark.path.isWord "param" = true := member.isWord_of_mem_marks (by simp [marks])
    have further : second.path.isWord "param" = true :=
      member.isWord_of_mem_marks (by simp [marks])
    simp [marks, annotationAmong, first, further,
      Attribute.stringLiteral?_eq_some contents value, Except.map]

theorem isAnnotated_of_ofMember {field : DerivedField} (derived : ofMember member = .ok field) :
    ∃ annotation, member.IsAnnotated annotation := by
  rcases member.isAnnotated_or_offends with annotated | ⟨cause, offends⟩
  · exact annotated
  · simp [ofMember_of_offends offends] at derived

theorem registers_of_ofMember {field : DerivedField} (derived : ofMember member = .ok field) :
    field.IsReadable ∧ Registers member field.binding := by
  obtain ⟨_, annotated⟩ := isAnnotated_of_ofMember derived
  obtain ⟨found, same, registered⟩ := ofMember_of_isAnnotated annotated
  obtain rfl : found = field := by simpa [derived] using same.symm
  exact registered

theorem ofMember_eq_error_iff {cause : DerivationError} :
    ofMember member = .error cause ↔ member.Offends cause := by
  refine ⟨fun failed => ?_, ofMember_of_offends⟩
  rcases member.isAnnotated_or_offends with ⟨_, annotated⟩ | ⟨other, offends⟩
  · obtain ⟨field, derived, -⟩ := ofMember_of_isAnnotated annotated
    simp [derived] at failed
  · obtain rfl : other = cause := by simpa [ofMember_of_offends offends] using failed
    exact offends

end DerivedField

/-! ### Items -/

namespace Item

/-- A structure whose fields have names and at most one annotation each, a string literal. -/
def IsSupported (item : Item) : Prop :=
  ∃ members, item.body = .named members ∧
    ∀ member ∈ members, ∃ annotation, member.IsAnnotated annotation

/-- Why an item is refused: for its form, or for the first of its fields that is not supported. -/
inductive IsRefused (item : Item) : DerivationError → Prop
  | alternatives : item.body = .alternatives → IsRefused item .notAStructure
  | unnamed : item.body = .unnamed → IsRefused item .unnamedFields
  | member {before after : List Member} {member : Member} {cause : DerivationError} :
      item.body = .named (before ++ member :: after) →
      (∀ earlier ∈ before, ∃ annotation, earlier.IsAnnotated annotation) →
      member.Offends cause → IsRefused item cause

end Item

def Describes (member : Member) (descriptor : Descriptor) : Prop :=
  ∃ name type text, Unmarked member.name name ∧ member.type.RegistersAs type ∧
    member.IsAnnotated (some text) ∧ descriptor = Descriptor.read name type text

theorem describes_of_registers {members : List Member} {bindings : List Binding}
    (registered : List.Forall₂ Registers members bindings) :
    List.Forall₂ Describes (members.filter fun member => !member.marks.isEmpty)
      (RecordType.descriptors (bindings.map Binding.registration)) := by
  induction registered with
  | nil => exact .nil
  | @cons member binding members bindings registers _ ih =>
    have annotated := registers.annotated
    generalize text : binding.registration.annotationText = annotation at annotated
    cases annotated with
    | unmarked marks =>
      simpa [RecordType.descriptors, Registration.descriptor?, marks, text] using ih
    | @marked mark written marks gives =>
      have kept : (binding :: bindings).map Binding.registration =
          binding.registration :: bindings.map Binding.registration := rfl
      rw [List.filter_cons_of_pos (by simp [marks]), kept, RecordType.descriptors,
        List.filterMap_cons_some (by rw [Registration.descriptor?, text, Option.map_some])]
      exact .cons ⟨_, _, written, registers.named, registers.typed, .marked marks gives, rfl⟩ ih

namespace Derivation

variable {item : Item} {members : List Member}

private theorem ofItem_named (body : item.body = .named members) :
    ofItem item = (members.mapM DerivedField.ofMember).map fun fields =>
      ⟨item.name, item.generics, fields⟩ := by
  rw [ofItem, body]
  simp only
  cases members.mapM DerivedField.ofMember <;> rfl

private theorem exists_mapM_of_isAnnotated
    (annotated : ∀ member ∈ members, ∃ annotation, member.IsAnnotated annotation) :
    ∃ fields, members.mapM DerivedField.ofMember = .ok fields := by
  cases traversed : members.mapM DerivedField.ofMember with
  | ok fields => exact ⟨fields, rfl⟩
  | error cause =>
    obtain ⟨before, member, after, _, rfl, -, refused⟩ := mapM_eq_error_iff.mp traversed
    obtain ⟨_, supported⟩ := annotated member (by simp)
    obtain ⟨field, derived, -⟩ := DerivedField.ofMember_of_isAnnotated supported
    simp [derived] at refused

theorem ofItem_eq_ok_iff {derivation : Derivation} :
    ofItem item = .ok derivation ↔
      ∃ members, item.body = .named members ∧ derivation.identifier = item.name ∧
        derivation.generics = item.generics ∧
        members.mapM DerivedField.ofMember = .ok derivation.fields := by
  constructor
  · intro derived
    cases body : item.body with
    | alternatives | unnamed => simp [ofItem, body] at derived
    | named members =>
      rw [ofItem_named body] at derived
      cases traversed : members.mapM DerivedField.ofMember with
      | error cause => simp [traversed, Except.map] at derived
      | ok fields =>
        obtain rfl : ⟨item.name, item.generics, fields⟩ = derivation := by
          simpa [traversed, Except.map] using derived
        exact ⟨members, rfl, rfl, rfl, traversed⟩
  · rintro ⟨members, body, named, generic, traversed⟩
    rw [ofItem_named body, traversed, ← named, ← generic]
    rfl

theorem ofItem_eq_error_iff {cause : DerivationError} :
    ofItem item = .error cause ↔ item.IsRefused cause := by
  constructor
  · intro failed
    cases body : item.body with
    | alternatives =>
      obtain rfl : DerivationError.notAStructure = cause := by simpa [ofItem, body] using failed
      exact .alternatives body
    | unnamed =>
      obtain rfl : DerivationError.unnamedFields = cause := by simpa [ofItem, body] using failed
      exact .unnamed body
    | named members =>
      have traversed : members.mapM DerivedField.ofMember = .error cause := by
        rw [ofItem_named body] at failed
        cases result : members.mapM DerivedField.ofMember <;> simp_all [Except.map]
      obtain ⟨before, member, after, fields, rfl, passed, refused⟩ :=
        mapM_eq_error_iff.mp traversed
      -- The members before the refused one were derived, so that none of them offends.
      refine .member body (fun earlier mem => ?_) (DerivedField.ofMember_eq_error_iff.mp refused)
      obtain ⟨field, derived⟩ := ok_of_mem_of_mapM passed mem
      exact DerivedField.isAnnotated_of_ofMember derived
  · rintro (body | body | ⟨body, annotated, offends⟩)
    · rw [ofItem, body]
    · rw [ofItem, body]
    · obtain ⟨fields, passed⟩ := exists_mapM_of_isAnnotated annotated
      have refused := DerivedField.ofMember_of_offends offends
      rw [ofItem_named body, mapM_eq_error_iff.mpr ⟨_, _, _, fields, rfl, passed, refused⟩]
      rfl

theorem exists_ofItem_eq_ok_iff :
    (∃ derivation, ofItem item = .ok derivation) ↔ item.IsSupported := by
  constructor
  · rintro ⟨derivation, derived⟩
    obtain ⟨members, body, -, -, traversed⟩ := ofItem_eq_ok_iff.mp derived
    refine ⟨members, body, fun member mem => ?_⟩
    obtain ⟨field, here⟩ := ok_of_mem_of_mapM traversed mem
    exact DerivedField.isAnnotated_of_ofMember here
  · rintro ⟨members, body, annotated⟩
    obtain ⟨fields, traversed⟩ := exists_mapM_of_isAnnotated annotated
    exact ⟨⟨item.name, item.generics, fields⟩,
      ofItem_eq_ok_iff.mpr ⟨members, body, rfl, rfl, traversed⟩⟩

/-- The implementation for a structure registers its fields, one registration for each and in
order. -/
theorem registers_of_mapM {derivation : Derivation}
    (traversed : members.mapM DerivedField.ofMember = .ok derivation.fields) :
    ∃ bindings, Binding.ofImplementation derivation.implementation = some bindings ∧
      List.Forall₂ Registers members bindings ∧
      bindings.map Binding.registration = derivation.recordType := by
  have each := mapM_eq_ok_iff.mp traversed
  refine ⟨derivation.fields.map DerivedField.binding, ?_, ?_, ?_⟩
  · refine Binding.ofImplementation_implementation fun field mem => ?_
    obtain ⟨before, after, cut⟩ := List.append_of_mem mem
    obtain ⟨_, member, _, _, _, derived⟩ := exists_append_of_mapM (cut ▸ traversed)
    exact (DerivedField.registers_of_ofMember derived).1
  · rw [List.forall₂_map_right_iff]
    exact each.imp fun member field derived => (DerivedField.registers_of_ofMember derived).2
  · rw [List.map_map]
    rfl

end Derivation

/-- A record type can be derived from exactly the supported items.  Evaluated, what is derived
registers each field once and in order, as it is declared and annotated, so that the annotated
fields and no others have descriptors.  Any other item is refused for its form or for the first of
its fields that is not supported. -/
theorem derives_supported_items_field_by_field (item : Item) :
    ((∃ derivation, Derivation.ofItem item = .ok derivation) ↔ item.IsSupported) ∧
      (∀ derivation, Derivation.ofItem item = .ok derivation →
        ∃ members bindings, item.body = .named members ∧
          Binding.ofImplementation derivation.implementation = some bindings ∧
          List.Forall₂ Registers members bindings ∧
          bindings.map Binding.registration = derivation.recordType ∧
          List.Forall₂ Describes (members.filter fun member => !member.marks.isEmpty)
            derivation.recordType.descriptors) ∧
      ∀ cause, Derivation.ofItem item = .error cause ↔ item.IsRefused cause := by
  refine ⟨Derivation.exists_ofItem_eq_ok_iff, fun derivation derived => ?_, fun cause =>
    Derivation.ofItem_eq_error_iff⟩
  obtain ⟨members, body, -, -, traversed⟩ := Derivation.ofItem_eq_ok_iff.mp derived
  obtain ⟨bindings, evaluated, registered, same⟩ := Derivation.registers_of_mapM traversed
  exact ⟨members, bindings, body, evaluated, registered, same,
    same ▸ describes_of_registers registered⟩

/-- A raw identifier, a type in brackets of both kinds and an attribute with another path; then a
field with two annotations of which the first is given nothing. -/
theorem derives_supported_items_field_by_field_brackets :
    let param (contents : AttributeContents) : Attribute := ⟨⟨false, [⟨"param", false⟩]⟩, contents⟩
    let page : Member :=
      ⟨"r#in", [param (.group [.literal "\"kind: path\""])],
        ⟨.parenthesized (.grouped (.path ⟨false, [⟨"i64", false⟩]⟩)), [.word "i64"]⟩⟩
    let tags : Member :=
      ⟨"tags", [⟨⟨false, [⟨"doc", false⟩]⟩, .value⟩],
        ⟨.path ⟨false, [⟨"Vec", true⟩]⟩,
          [.word "Vec", .punct '<' false, .word "u8", .punct '>' false]⟩⟩
    let twice : Member := ⟨"a", [param .nothing, param (.group [.literal "\"\""])], tags.type⟩
    let item (members : List Member) : Item := ⟨"P", ⟨[], []⟩, .named members⟩
    (∃ derivation, Derivation.ofItem (item [page, tags]) = .ok derivation ∧
      Binding.ofImplementation derivation.implementation =
        some [⟨⟨"in", .int, some "kind: path", .int⟩, some "r#in"⟩,
          ⟨⟨"tags", .unsupported "Vec<u8>", none, .readOnly⟩, none⟩] ∧
      List.Forall₂ Describes [page] derivation.recordType.descriptors) ∧
    Derivation.ofItem (item [page, twice, tags]) = .error .notAStringLiteral := by
  intro param page tags twice item
  have pageMarks : page.marks = [param (.group [.literal "\"kind: path\""])] := rfl
  have tagsMarks : tags.marks = [] := rfl
  have annotated : page.IsAnnotated (some "kind: path") :=
    .marked pageMarks ⟨_, rfl, by decide +kernel⟩
  refine ⟨?_, ?_⟩
  · let derivation : Derivation :=
      ⟨"P", ⟨[], []⟩,
        [⟨"r#in", .int, some "\"kind: path\""⟩, ⟨"tags", .unsupported "Vec<u8>", none⟩]⟩
    have derived : Derivation.ofItem (item [page, tags]) = .ok derivation := rfl
    obtain ⟨members, bindings, body, -, -, -, described⟩ :=
      (derives_supported_items_field_by_field (item [page, tags])).2.1 derivation derived
    obtain rfl : [page, tags] = members := Body.named.inj body
    refine ⟨derivation, derived, by decide +kernel, ?_⟩
    simpa [pageMarks, tagsMarks] using described
  · refine ((derives_supported_items_field_by_field (item [page, twice, tags])).2.2 _).mpr ?_
    have twiceMarks : twice.marks = [param .nothing, param (.group [.literal "\"\""])] := rfl
    have silent : ∀ text, ¬ (param .nothing).Gives text := fun _ ⟨_, given, _⟩ => nomatch given
    have earlier : ∀ member ∈ [page], ∃ annotation, member.IsAnnotated annotation := by
      simpa using ⟨_, annotated⟩
    exact @Item.IsRefused.member _ [page] [tags] twice _ rfl earlier (.malformed twiceMarks silent)

end RequestParams.Declaration
