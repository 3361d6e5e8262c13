import Mathlib.Tactic.SplitIfs
import RequestParams.Declaration.Derivation

set_option autoImplicit false
set_option relaxedAutoImplicit false

/-!
What a written implementation registers.  Evaluated, it makes one registration for each derived
field, in order: the one that was derived, with an access to the field itself where it can be
written.
-/

namespace RequestParams.Declaration

/-!
### Evaluation

The calls of an implementation register one field each, in their order; a call for a field that can
be written also has an access to one of the fields of a record.
-/

/-- What a call registers, and the field of a record that its access reaches, if it has one. -/
structure Binding where
  registration : Registration
  reached : Option String
deriving DecidableEq

namespace Tree

def isPunct (char : Char) : Tree → Bool
  | .punct c _ => c = char
  | _ => false

end Tree

/-! ### Arguments -/

namespace Argument

def text? : List Tree → Option String
  | [.literal literal] => StringLiteral.value? literal
  | _ => none

def optionalText? (argument : List Tree) : Option (Option String) :=
  match Tree.allTokens argument with
  | [":", ":", "core", ":", ":", "option", ":", ":", "Option", ":", ":", "Some", "(", literal,
      ")"] => (StringLiteral.value? literal).map some
  | [":", ":", "core", ":", ":", "option", ":", ":", "Option", ":", ":", "<", "&", "'", "static",
      "str", ">", ":", ":", "None"] => some none
  | _ => none

def reached? (argument : List Tree) : Option String :=
  match Tree.allTokens argument with
  | ["|", "record", "|", "&", "mut", "record", ".", identifier] => some identifier
  | _ => none

end Argument

/-! ### Calls -/

namespace Binding

def ofSettable (type : FieldType) (slot : Slot) : List (List Tree) → Option Binding
  | [name, annotation, access] => do
    let registration := ⟨← Argument.text? name, type, ← Argument.optionalText? annotation, slot⟩
    pure ⟨registration, ← Argument.reached? access⟩
  | _ => none

def ofUnsupported : List (List Tree) → Option Binding
  | [name, typeName, annotation] => do
    let name ← Argument.text? name
    let type := .unsupported (← Argument.text? typeName)
    pure ⟨⟨name, type, ← Argument.optionalText? annotation, .readOnly⟩, none⟩
  | _ => none

def ofCall (method : String) (arguments : List (List Tree)) : Option Binding :=
  match method with
  | "int" => ofSettable .int .int arguments
  | "bool" => ofSettable .bool .bool arguments
  | "string" => ofSettable .string .string arguments
  | "unsupported" => ofUnsupported arguments
  | _ => none

/-- What calls behind one another register. -/
def ofCalls : List Tree → Option (List Binding)
  | [] => some []
  | .punct '.' _ :: .word method :: .group .parenthesis arguments :: rest => do
    let binding ← ofCall method (arguments.splitOnP (Tree.isPunct ','))
    let others ← ofCalls rest
    pure (binding :: others)
  | _ => none

/-! ### Implementations -/

def signature : List String :=
  ["fn", "bindings", "(", ")", "-", ">", ":", ":", "paramdoc_core", ":", ":", "Bindings", "<",
    "Self", ">"]

def creation : List String :=
  [":", ":", "paramdoc_core", ":", ":", "Bindings", ":", ":", "<", "Self", ">", ":", ":", "new",
    "(", ")"]

/-- What the body of the method registers: the calls behind the creation. -/
def ofBody (body : List Tree) : Option (List Binding) :=
  let start := body.takeWhile fun tree => !tree.isPunct '.'
  if Tree.allTokens start = creation then ofCalls (body.drop start.length) else none

/-- What an implementation registers: its last braces hold the method alone. -/
def ofImplementation (trees : List Tree) : Option (List Binding) :=
  match trees.getLast? with
  | some (.group .brace method) =>
    match method.getLast? with
    | some (.group .brace body) =>
      if Tree.allTokens method.dropLast = signature then ofBody body else none
    | _ => none
  | _ => none

private def evaluated (text : String) : Option (List Binding) := do
  let derivation ← (Derivation.ofItem (← Item.read text)).toOption
  ofImplementation derivation.implementation

example : evaluated "struct P \x7b #[param(r#\"a\"#)] r#in: (i64), b: [T; 1] \x7d" =
    some [⟨⟨"in", .int, some "a", .int⟩, some "r#in"⟩,
      ⟨⟨"b", .unsupported "[T;1]", none, .readOnly⟩, none⟩] := by
  decide +kernel

end Binding

/-!
### Literals

Every text can be written as a string literal: what is written stands for the text that it was
written from.
-/

namespace StringLiteral

private theorem hexValue_digitChar :
    ∀ digit < 16, hexValue (Nat.digitChar digit) = some digit ∧ Nat.digitChar digit ≠ '}' := by
  decide

private theorem cooked_digitChar (value : Nat) {digit : Nat} (small : digit < 16)
    (rest : List Char) :
    cooked (.codePoint value) (Nat.digitChar digit :: rest) =
      cooked (.codePoint (value * 16 + digit)) rest := by
  obtain ⟨counts, within⟩ := hexValue_digitChar digit small
  rw [cooked, if_neg within, counts]

theorem cooked_toDigits (n : Nat) (rest : List Char) :
    cooked (.codePoint 0) (Nat.toDigits 16 n ++ rest) = cooked (.codePoint n) rest := by
  induction n using Nat.strongRecOn generalizing rest with
  | ind n ih =>
    by_cases small : n < 16
    · rw [Nat.toDigits_of_lt_base small, List.singleton_append, cooked_digitChar 0 small,
        Nat.zero_mul, Nat.zero_add]
    · have last : n % 16 < 16 := Nat.mod_lt n (by decide)
      rw [Nat.toDigits_of_base_le (by decide) (by omega), List.append_assoc, ih _ (by omega),
        List.singleton_append, cooked_digitChar _ last, Nat.div_add_mod']

private theorem cooked_codeEscape (c : Char) (rest : List Char) :
    cooked .plain (Text.codeEscape c ++ rest) = c :: cooked .plain rest := by
  have digits : cooked .plain (Text.codeEscape c ++ rest) =
      cooked (.codePoint 0) (Nat.toDigits 16 c.toNat ++ '}' :: rest) := by
    simp [Text.codeEscape, cooked]
  rw [digits, cooked_toDigits, cooked, if_pos rfl, Char.ofNat_toNat]

theorem cooked_quoteChar (c : Char) (rest : List Char) :
    cooked .plain (Text.quoteChar c ++ rest) = c :: cooked .plain rest := by
  unfold Text.quoteChar
  split_ifs with quote backslash tab ret line null printable
  · simp [cooked, escaped, quote]
  · simp [cooked, escaped, backslash]
  · simp [cooked, escaped, tab]
  · simp [cooked, escaped, ret]
  · simp [cooked, escaped, line]
  · simp [cooked, escaped, null]
  · simp [cooked, backslash, ret]
  · exact cooked_codeEscape c rest

theorem cooked_escape (text rest : List Char) :
    cooked .plain (escape text ++ '"' :: rest) = text := by
  induction text with
  | nil => simp [escape, cooked]
  | cons c text ih =>
    rw [escape]
    split_ifs with null digit
    · simp [cooked, hexValue, ih, null]
    · simp [cooked, escaped, ih, null]
    · rw [List.append_assoc, cooked_quoteChar, ih]

/-- A text that is written as a literal is what the literal stands for. -/
theorem value?_write (text : String) : value? (write text) = some text := by
  have read : value? (write text) =
      some (String.ofList (cooked .plain (escape text.toList ++ ['"']))) := by
    simp [value?, write]
  rw [read, cooked_escape, String.ofList_toList]

end StringLiteral

/-! ### Registrations -/

namespace DerivedField

def IsReadable (field : DerivedField) : Prop :=
  ∀ literal ∈ field.literal, (StringLiteral.value? literal).isSome = true

/-- What the call of a field registers: the registration of the field and, if that can be
written, an access to the field itself. -/
def binding (field : DerivedField) : Binding :=
  ⟨field.registration, if field.registration.isSettable then some field.identifier else none⟩

end DerivedField

namespace Argument

theorem text?_write (text : String) : text? [.literal (StringLiteral.write text)] = some text :=
  StringLiteral.value?_write text

theorem optionalText?_annotationArgument {field : DerivedField} (readable : field.IsReadable) :
    optionalText? (annotationArgument field.literal) = some field.annotationText := by
  unfold DerivedField.annotationText
  cases written : field.literal with
  | none =>
    simp [optionalText?, annotationArgument, rootPath, signs, Tree.allTokens, Tree.tokens]
  | some literal =>
    obtain ⟨text, value⟩ := Option.isSome_iff_exists.mp (readable literal written)
    simp [optionalText?, annotationArgument, rootPath, Tree.allTokens, Tree.tokens,
      Delimiter.opening, Delimiter.closing, value]

theorem reached?_accessor (identifier : String) :
    reached? (accessor identifier) = some identifier := by
  simp [reached?, accessor, signs, Tree.allTokens, Tree.tokens]

end Argument

/-- A comma within an argument would cut it in two. -/
private def IsUncut (argument : List Tree) : Prop :=
  ∀ tree ∈ argument, Tree.isPunct ',' tree = false

private theorem isUncut_literal (literal : String) : IsUncut [.literal literal] := by
  simp [IsUncut, Tree.isPunct]

private theorem isUncut_annotationArgument (literal : Option String) :
    IsUncut (annotationArgument literal) := by
  cases literal <;> simp [IsUncut, annotationArgument, rootPath, signs, Tree.isPunct]

private theorem isUncut_accessor (identifier : String) : IsUncut (accessor identifier) := by
  simp [IsUncut, accessor, signs, Tree.isPunct]

private theorem splitOnP_intersperse {arguments : List (List Tree)} (given : arguments ≠ [])
    (uncut : ∀ argument ∈ arguments, IsUncut argument) :
    (arguments.intersperse [.punct ',' false]).flatten.splitOnP (Tree.isPunct ',') = arguments := by
  induction arguments with
  | nil => contradiction
  | cons argument rest ih =>
    obtain ⟨here, behind⟩ := List.forall_mem_cons.mp uncut
    cases rest with
    | nil => simpa using List.splitOnP_eq_singleton here
    | cons next others =>
      rw [List.intersperse_cons_cons, List.flatten_cons, List.flatten_cons, List.singleton_append,
        List.splitOnP_append_cons_of_forall_mem here _ rfl, ih (List.cons_ne_nil _ _) behind]

namespace Binding

theorem ofCalls_methodCall (method : String) {arguments : List (List Tree)} (given : arguments ≠ [])
    (uncut : ∀ argument ∈ arguments, IsUncut argument) (rest : List Tree) :
    ofCalls (methodCall method arguments ++ rest) =
      (ofCall method arguments).bind fun binding => (ofCalls rest).map (binding :: ·) := by
  simp only [methodCall, List.cons_append, List.nil_append, ofCalls,
    splitOnP_intersperse given uncut]
  cases ofCall method arguments <;> cases ofCalls rest <;> rfl

section Calls

variable {field : DerivedField}

private theorem ofSettable_arguments (readable : field.IsReadable) (type : FieldType)
    (slot : Slot) :
    ofSettable type slot [[.literal (StringLiteral.write field.name)],
        annotationArgument field.literal, accessor field.identifier] =
      some ⟨⟨field.name, type, field.annotationText, slot⟩, some field.identifier⟩ := by
  simp [ofSettable, Argument.text?_write, Argument.optionalText?_annotationArgument readable,
    Argument.reached?_accessor]

private theorem ofUnsupported_arguments (readable : field.IsReadable) (typeName : String) :
    ofUnsupported [[.literal (StringLiteral.write field.name)],
        [.literal (StringLiteral.write typeName)], annotationArgument field.literal] =
      some ⟨⟨field.name, .unsupported typeName, field.annotationText, .readOnly⟩, none⟩ := by
  simp [ofUnsupported, Argument.text?_write, Argument.optionalText?_annotationArgument readable]

theorem ofCalls_call (readable : field.IsReadable) (rest : List Tree) :
    ofCalls (field.call ++ rest) = (ofCalls rest).map (field.binding :: ·) := by
  have name := isUncut_literal (StringLiteral.write field.name)
  have annotation := isUncut_annotationArgument field.literal
  have access := isUncut_accessor field.identifier
  unfold DerivedField.call
  cases type : field.type with
  | int | bool | string =>
    simp only
    rw [ofCalls_methodCall _ (by simp) (by simp [name, annotation, access]), ofCall,
      ofSettable_arguments readable]
    simp [DerivedField.binding, DerivedField.registration, type, Slot.ofType,
      Registration.isSettable]
  | unsupported typeName =>
    have written := isUncut_literal (StringLiteral.write typeName)
    simp only
    rw [ofCalls_methodCall _ (by simp) (by simp [name, annotation, written]), ofCall,
      ofUnsupported_arguments readable]
    simp [DerivedField.binding, DerivedField.registration, type, Slot.ofType,
      Registration.isSettable]

/-- The calls of fields register each of them, in order. -/
theorem ofCalls_flatMap {fields : List DerivedField}
    (readable : ∀ field ∈ fields, field.IsReadable) :
    ofCalls (fields.flatMap DerivedField.call) = some (fields.map DerivedField.binding) := by
  induction fields with
  | nil => rfl
  | cons field rest ih =>
    obtain ⟨here, behind⟩ := List.forall_mem_cons.mp readable
    rw [List.flatMap_cons, ofCalls_call here, ih behind, List.map_cons, Option.map_some]

end Calls

private theorem takeWhile_flatMap (fields : List DerivedField) :
    (fields.flatMap DerivedField.call).takeWhile (fun tree => !tree.isPunct '.') = [] := by
  cases fields with
  | nil => rfl
  | cons field rest =>
    rw [List.flatMap_cons, DerivedField.call]
    split <;> simp [methodCall, Tree.isPunct]

private theorem ofBody_append {start : List Tree} (created : Tree.allTokens start = creation)
    (unstopped : ∀ tree ∈ start, (!tree.isPunct '.') = true) (fields : List DerivedField) :
    ofBody (start ++ fields.flatMap DerivedField.call) =
      ofCalls (fields.flatMap DerivedField.call) := by
  have front : (start ++ fields.flatMap DerivedField.call).takeWhile
      (fun tree => !tree.isPunct '.') = start := by
    rw [List.takeWhile_append_of_pos unstopped, takeWhile_flatMap, List.append_nil]
  simp only [ofBody, front, if_pos created, List.drop_left]

theorem ofImplementation_implementation {derivation : Derivation}
    (readable : ∀ field ∈ derivation.fields, field.IsReadable) :
    ofImplementation derivation.implementation =
      some (derivation.fields.map DerivedField.binding) := by
  unfold ofImplementation Derivation.implementation
  -- The braces of the method end the implementation, and those of its body end the method.
  simp only [List.getLast?_append, List.getLast?_singleton, List.dropLast_concat, Option.or_some,
    Option.getD_some, Option.some_or]
  rw [if_pos, ofBody_append, ofCalls_flatMap readable]
  · simp [creation, rootPath, signs, Tree.allTokens, Tree.tokens, Delimiter.opening,
      Delimiter.closing]
  · simp [rootPath, signs, Tree.isPunct]
  · simp [signature, rootPath, signs, Tree.allTokens, Tree.tokens, Delimiter.opening,
      Delimiter.closing]

end Binding

end RequestParams.Declaration
