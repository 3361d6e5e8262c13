import RequestParams.Text.Lowercase
import RequestParams.OpenApi

set_option autoImplicit false
set_option relaxedAutoImplicit false

/-!
Routes to be documented, and the placeholders of their templates.
-/

namespace RequestParams

structure Route where
  path : String
  /-- What the route does, in short. -/
  summary : String
  methods : List String := []
  /-- What the route does, at length. -/
  description : Option String := none
  descriptors : List Descriptor := []

namespace Route

/-- The summary as a name: in lower case, with a hyphen for each space. -/
def slug (route : Route) : String :=
  String.ofList ((Text.lowercase route.summary).toList.map fun c => if c = ' ' then '-' else c)

/-- The name of a method's operation; the method is part of it where the route has several. -/
def operationId (route : Route) (method : String) : String :=
  if 1 < route.methods.length then route.slug ++ "-" ++ Text.lowercase method else route.slug

def fault? (route : Route) : Option String :=
  if route.path = "" then some "path is empty"
  else if Text.isBlankText route.summary then some "summary is empty"
  else if route.methods = [] then some "no HTTP methods"
  else none

/-!
### Placeholders

A placeholder is a name in braces, with a pattern behind a colon if need be.  Placeholders are found
from left to right; a brace that begins none is plain text.
-/

def isNameChar (c : Char) : Bool := c ≠ '\x7d' && c ≠ ':'

def readPlaceholder (text : List Char) : Option (List Char × List Char) :=
  let name := text.takeWhile isNameChar
  if name.isEmpty then none
  else
    match text.dropWhile isNameChar with
    | ':' :: pattern =>
      match pattern.dropWhile (· ≠ '\x7d') with
      | _ :: behind => some (name, behind)
      | [] => none
    | _ :: behind => some (name, behind)
    | [] => none

theorem length_dropWhile_le {α : Type} (p : α → Bool) (text : List α) :
    (text.dropWhile p).length ≤ text.length :=
  (List.dropWhile_sublist p).length_le

theorem length_lt_of_readPlaceholder {text name behind : List Char}
    (found : readPlaceholder text = some (name, behind)) : behind.length < text.length := by
  have first := length_dropWhile_le isNameChar text
  unfold readPlaceholder at found
  simp only at found
  split at found
  · simp at found
  · split at found
    · rename_i pattern rest
      have second := length_dropWhile_le (fun c => decide (c ≠ '\x7d')) pattern
      split at found
      · rename_i last behind' ended
        simp only [Option.some.injEq, Prod.mk.injEq] at found
        obtain ⟨_, rfl⟩ := found
        rw [rest] at first
        rw [ended] at second
        simp only [List.length_cons] at first second
        omega
      · simp at found
    · rename_i rest
      simp only [Option.some.injEq, Prod.mk.injEq] at found
      obtain ⟨_, rfl⟩ := found
      rw [rest] at first
      simp only [List.length_cons] at first
      omega
    · simp at found

def placeholderNames : List Char → List (List Char)
  | [] => []
  | c :: rest =>
    if c = '\x7b' then
      match _found : readPlaceholder rest with
      | some (name, behind) => name :: placeholderNames behind
      | none => placeholderNames rest
    else placeholderNames rest
termination_by text => text.length
decreasing_by
  · have := length_lt_of_readPlaceholder _found
    simp only [List.length_cons]
    omega
  · simp
  · simp

def placeholders (path : String) : List String := (placeholderNames path.toList).map String.ofList

def unmatched (path : String) (parameters : List (String × Location)) : List String :=
  (parameters.filter fun parameter => parameter.2 = .path).map Prod.fst
    |>.filter fun name => name ∉ placeholders path

example : placeholders "/a/\x7bid:[0-9]+\x7d\x7bb\x7d/\x7b\x7d\x7bc" = ["id", "b"] := by
  decide +kernel

end Route

end RequestParams
