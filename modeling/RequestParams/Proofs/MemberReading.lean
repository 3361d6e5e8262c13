import Mathlib.Data.List.Nodup
import RequestParams.OpenApi.Reader
import RequestParams.Proofs.JsonWriting

set_option autoImplicit false
set_option relaxedAutoImplicit false

/-!
Reading the members of a written object.  A member that is left out is read as its default, and one
that is written is read by its reader; entries with distinct keys are read in their order.
-/

namespace RequestParams

namespace Json

def under (name : String) (members : List (String × Json)) : List Json :=
  (members.filter fun member => member.1 = name).map Prod.snd

def members : Json → List (String × Json)
  | object members => members
  | _ => []

@[simp] theorem members_object (members : List (String × Json)) :
    (object members).members = members := rfl

def forms (members : List (String × Json)) : List (String × WrittenJson) :=
  members.map fun (name, value) => (name, value.written)

section

variable (name other : String)

@[simp] theorem under_nil : under name [] = [] := rfl

@[simp] theorem under_cons (value : Json) (rest : List (String × Json)) :
    under name ((other, value) :: rest) =
      if other = name then value :: under name rest else under name rest := by
  unfold under
  rw [List.filter_cons]
  split_ifs with same <;> simp_all

@[simp] theorem under_append (first second : List (String × Json)) :
    under name (first ++ second) = under name first ++ under name second := by
  simp [under]

@[simp] theorem under_optionalMember (value : Option Json) :
    under name (optionalMember other value) = if other = name then value.toList else [] := by
  cases value <;> simp [optionalMember]

@[simp] theorem under_listMember (items : List Json) :
    under name (listMember other items) =
      if other = name ∧ items ≠ [] then [.array items] else [] := by
  unfold listMember
  cases items <;> simp

end

end Json

namespace WrittenJson

variable {α : Type}

theorem mapM_map_eq_some {β γ : Type} {encode : β → γ} {reader : γ → Option α} {result : β → α}
    {items : List β} (read : ∀ item ∈ items, reader (encode item) = some (result item)) :
    (items.map encode).mapM reader = some (items.map result) := by
  induction items with
  | nil => rfl
  | cons item rest ih =>
    rw [List.forall_mem_cons] at read
    rw [List.map_cons, List.mapM_cons, read.1, ih read.2]
    rfl

theorem members?_written (depth : Nat) (members : List (String × Json)) :
    (Json.object members).written.members? (depth + 1) = some (Json.forms members) := by
  rw [Json.written, Json.writtenMembers_eq_map]
  refine mapM_map_eq_some ?_
  rintro ⟨name, value⟩ -
  simp only [StringPiece.text?_ofText, Option.map_some]

theorem fields?_written (names : List String) (depth : Nat) (members : List (String × Json)) :
    (Json.object members).written.fields? names (depth + 1) = some (Json.forms members) := by
  rw [← members?_written depth, Json.written]
  rfl

theorem text?_written (text : String) : text? (Json.string text).written = some text :=
  StringPiece.text?_ofText text

theorem once?_forms (name : String) (members : List (String × Json)) :
    once? name (Json.forms members) =
      match Json.under name members with
      | [] => some none
      | [value] => some (some value.written)
      | _ => none := by
  have kept : (Json.forms members).filter (fun member => member.1 = name) =
      Json.forms (members.filter fun member => member.1 = name) := by
    rw [Json.forms, Json.forms, List.filter_map]
    rfl
  rw [once?, kept, Json.under]
  generalize members.filter (fun member => member.1 = name) = found
  rcases found with _ | ⟨first, _ | ⟨second, rest⟩⟩ <;> rfl

section

variable {name : String} {members : List (String × Json)} {reader : WrittenJson → Option α}

theorem required?_forms {value : Json} {a : α} (alone : Json.under name members = [value])
    (read : reader value.written = some a) :
    required? name reader (Json.forms members) = some a := by
  rw [required?, once?_forms, alone]
  exact read

theorem memberOr?_forms {value : Json} {a default : α} (alone : Json.under name members = [value])
    (read : reader value.written = some a) :
    memberOr? name default reader (Json.forms members) = some a := by
  rw [memberOr?, once?_forms, alone]
  exact read

theorem nullable?_of_present {value : WrittenJson} (present : value ≠ .null) :
    nullable? reader value = (reader value).map some := by
  cases value <;> first | rfl | exact absurd rfl present

theorem optional?_forms {encode : α → Json} {held : Option α}
    (alone : Json.under name members = (held.map encode).toList)
    (read : ∀ a ∈ held, (encode a).written ≠ .null ∧ reader (encode a).written = some a) :
    optional? name reader (Json.forms members) = some held := by
  rw [optional?, memberOr?, once?_forms, alone]
  cases held with
  | none => rfl
  | some a =>
    obtain ⟨present, read⟩ := read a rfl
    simp only [Option.map_some, Option.toList_some]
    rw [nullable?_of_present present, read, Option.map_some]

theorem memberOr?_list_forms {depth : Nat} {encode : α → Json} {items : List α}
    (alone : Json.under name members = if items = [] then [] else [.array (items.map encode)])
    (read : ∀ item ∈ items, reader (encode item).written = some item) :
    memberOr? name [] (list? (depth + 1) reader) (Json.forms members) = some items := by
  rw [memberOr?, once?_forms, alone]
  split_ifs with none
  · rw [none]
  · have each : (items.map fun item => (encode item).written).mapM reader = some (items.map id) :=
      mapM_map_eq_some read
    rw [List.map_id] at each
    simp only [list?, Json.written, Json.writtenItems_eq_map, items?, List.map_map,
      Option.bind_eq_bind, Option.bind_some]
    exact each

end

theorem foldl_insertEntry {before entries : List (String × α)}
    (keyed : ((before ++ entries).map Prod.fst).Nodup) :
    entries.foldl insertEntry before = before ++ entries := by
  induction entries generalizing before with
  | nil => simp
  | cons entry rest ih =>
    have fresh : insertEntry before entry = before ++ [entry] := by
      unfold insertEntry
      rw [if_neg]
      simp only [List.any_eq_true, decide_eq_true_eq]
      rintro ⟨other, mem, same⟩
      rw [List.map_append, List.nodup_append'] at keyed
      exact keyed.2.2 (List.mem_map_of_mem mem) (by simp [same])
    rw [List.foldl_cons, fresh, ih (by simpa using keyed), List.append_assoc,
      List.singleton_append]

theorem mapM_forms {reader : WrittenJson → Option α} {encode : α → Json}
    {entries : List (String × α)}
    (read : ∀ entry ∈ entries, reader (encode entry.2).written = some entry.2) :
    (Json.forms (entries.map fun (key, value) => (key, encode value))).mapM
      (fun (name, value) => (reader value).map fun value => (name, value)) = some entries := by
  rw [Json.forms, List.map_map]
  refine (mapM_map_eq_some ?_).trans (congrArg some entries.map_id)
  rintro ⟨key, value⟩ mem
  simp only [Function.comp_apply, read _ mem, Option.map_some, id]

theorem map?_written {depth : Nat} {reader : WrittenJson → Option α} {encode : α → Json}
    {entries : List (String × α)} (keyed : (entries.map Prod.fst).Nodup)
    (read : ∀ entry ∈ entries, reader (encode entry.2).written = some entry.2) :
    map? (depth + 1) reader
      (Json.object (entries.map fun (key, value) => (key, encode value))).written =
        some entries := by
  rw [map?, members?_written]
  simp only [Option.bind_eq_bind, Option.bind_some]
  rw [mapM_forms read, Option.bind_some,
    foldl_insertEntry (show (([] ++ entries).map Prod.fst).Nodup from keyed)]
  rfl

end WrittenJson

/-- Whether a form is null or has null somewhere inside. -/
inductive WrittenJson.HoldsNull : WrittenJson → Prop
  | here : HoldsNull .null
  | item {form : WrittenJson} {forms : List WrittenJson} (mem : form ∈ forms)
      (inside : HoldsNull form) : HoldsNull (.array forms)
  | member {pieces : List StringPiece} {form : WrittenJson}
      {forms : List (List StringPiece × WrittenJson)} (mem : (pieces, form) ∈ forms)
      (inside : HoldsNull form) : HoldsNull (.object forms)

namespace Json

def NullFree (value : Json) : Prop := ¬value.written.HoldsNull

theorem NullFree.ne_null {value : Json} (free : NullFree value) : value.written ≠ .null :=
  fun same => free (same ▸ .here)

@[simp] theorem nullFree_string (text : String) : NullFree (.string text) := by
  rintro ⟨⟩

@[simp] theorem nullFree_bool (value : Bool) : NullFree (.bool value) := by
  rintro ⟨⟩

theorem nullFree_array {items : List Json} :
    NullFree (.array items) ↔ ∀ item ∈ items, NullFree item := by
  unfold NullFree
  rw [written, writtenItems_eq_map]
  constructor
  · intro free item mem inside
    exact free (.item (List.mem_map_of_mem mem) inside)
  · rintro free (_ | ⟨mem, inside⟩)
    obtain ⟨item, among, rfl⟩ := List.mem_map.mp mem
    exact free item among inside

theorem nullFree_object {members : List (String × Json)} :
    NullFree (.object members) ↔ ∀ member ∈ members, NullFree member.2 := by
  unfold NullFree
  rw [written, writtenMembers_eq_map]
  constructor
  · intro free member mem inside
    exact free (.member (List.mem_map_of_mem mem) inside)
  · rintro free (_ | _ | ⟨mem, inside⟩)
    obtain ⟨member, among, same⟩ := List.mem_map.mp mem
    obtain ⟨-, rfl⟩ := Prod.mk.inj same
    exact free member among inside

section

variable {α : Type} {name : String} {encode : α → Json}

theorem nullFree_optionalMember {held : Option α} :
    (∀ member ∈ optionalMember name (held.map encode), NullFree member.2) ↔
      ∀ a ∈ held, NullFree (encode a) := by
  cases held <;> simp [optionalMember]

theorem nullFree_listMember {items : List α} :
    (∀ member ∈ listMember name (items.map encode), NullFree member.2) ↔
      ∀ item ∈ items, NullFree (encode item) := by
  cases items with
  | nil => simp [listMember]
  | cons item rest => simp [listMember, nullFree_array]

theorem nullFree_map {entries : List (String × α)} :
    NullFree (.object (entries.map fun (key, value) => (key, encode value))) ↔
      ∀ entry ∈ entries, NullFree (encode entry.2) := by
  rw [nullFree_object, List.forall_mem_map]

end

end Json

end RequestParams
