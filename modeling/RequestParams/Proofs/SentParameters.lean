import RequestParams.Extraction
import RequestParams.Proofs.CookieRoundTrip
import RequestParams.Proofs.QueryLookup

set_option autoImplicit false
set_option relaxedAutoImplicit false

/-!
Requests that carry parameters.  What a request holds at a location is what was sent there, in
order, so that a parameter whose name is its own there is found with its text.
-/

namespace RequestParams

open Http (Request Source)

/-- A parameter as it is sent: where it stands, its name and its text. -/
structure SentParameter where
  location : Location
  name : String
  text : String
deriving DecidableEq

namespace SentParameter

/-- The name under which a parameter is looked up at its location; those of headers are kept in
lower case. -/
def heldName (sent : SentParameter) : String :=
  match sent.location with
  | .header => Http.lowerAscii sent.name
  | _ => sent.name

def key (sent : SentParameter) : Location × String := (sent.location, sent.heldName)

def entry (sent : SentParameter) : String × String := (sent.heldName, sent.text)

def cookieText (sent : SentParameter) : String := sent.name ++ "=" ++ ("\"" ++ sent.text ++ "\"")

/-- Whether the location of a parameter can hold its name and its text. -/
def Fits (sent : SentParameter) : Prop :=
  match sent.location with
  | .query | .path => True
  | .header =>
    (Http.headerName? sent.name).isSome = true ∧ Http.lowerAscii sent.name ≠ "cookie" ∧
      (Text.Utf8.encode sent.text.toList).all Http.isValueByte = true
  | .cookie =>
    '=' ∉ sent.name.toList ∧ ';' ∉ sent.text.toList ∧
      (Text.Utf8.encode sent.cookieText.toList).all Http.isValueByte = true

instance : (sent : SentParameter) → Decidable sent.Fits
  | ⟨.query, _, _⟩ | ⟨.path, _, _⟩ => .isTrue trivial
  | ⟨.header, _, _⟩ => inferInstanceAs (Decidable (_ ∧ _ ∧ _))
  | ⟨.cookie, _, _⟩ => inferInstanceAs (Decidable (_ ∧ _ ∧ _))

/-- Whether the name of a parameter is one that an annotation can give. -/
def Named (sent : SentParameter) : Prop :=
  sent.name ≠ "" ∧ Text.Trimmed sent.name.toList ∧ ';' ∉ sent.name.toList

end SentParameter

def Http.Request.withPiece (request : Request) (piece : String) : Request :=
  let query :=
    match request.uri.query with
    | none => piece
    | some query => query ++ "&" ++ piece
  { request with uri := { request.uri with query := some query } }

/-- The requests that carry parameters and nothing else, the last one sent first. -/
inductive Carries : List SentParameter → Request → Prop where
  | bare (method path : String) : Carries [] { method, uri := ⟨path, none⟩ }
  /-- A query parameter is a piece of its written name and its written text. -/
  | query {sent : List SentParameter} {request : Request} {name text : String}
    {key value : List Char} (others : Carries sent request)
    (named : Http.Query.Written true name.toList key)
    (valued : Http.Query.Written false text.toList value) :
    Carries (⟨.query, name, text⟩ :: sent) (request.withPiece (String.ofList (key ++ '=' :: value)))
  | path {sent : List SentParameter} {request : Request} (name text : String)
    (others : Carries sent request) :
    Carries (⟨.path, name, text⟩ :: sent) (request.withCapture name text)
  | header {sent : List SentParameter} {request : Request} (name text : String)
    (others : Carries sent request) :
    Carries (⟨.header, name, text⟩ :: sent) (request.withHeader name text)
  /-- A cookie parameter is a cookie header with its text in double quotes. -/
  | cookie {sent : List SentParameter} {request : Request} (name text : String)
    (others : Carries sent request) :
    Carries (⟨.cookie, name, text⟩ :: sent) (request.withCookie name ("\"" ++ text ++ "\""))

def Http.Headers.valueText (value : List UInt8) : String := String.ofList (Text.Utf8.decode value)

/-- The names and texts that a request holds at a location; cookies are no headers here. -/
def Http.Request.held (request : Request) : Location → List (String × String)
  | .query => (request.uri.query.map Http.Query.pairs).getD []
  | .path => request.captures
  | .header => (request.headers.filter (·.1 ≠ "cookie")).map (Prod.map id Http.Headers.valueText)
  | .cookie => request.cookies

def Http.Request.HoldsAlso (request others : Request) (sent : SentParameter) : Prop :=
  ∀ location, request.held location =
    others.held location ++ if sent.location = location then [sent.entry] else []

theorem holdsAlso_withPiece (request : Request) {name text : String} {key value : List Char}
    (named : Http.Query.Written true name.toList key)
    (valued : Http.Query.Written false text.toList value) :
    (request.withPiece (String.ofList (key ++ '=' :: value))).HoldsAlso request
      ⟨.query, name, text⟩ := by
  have piece : Http.Query.pairs (String.ofList (key ++ '=' :: value)) =
      [SentParameter.entry ⟨.query, name, text⟩] := by
    rw [Http.Query.pairs_of_written named valued, String.ofList_toList, String.ofList_toList]
    rfl
  intro location
  cases location with
  | query =>
    cases before : request.uri.query with
    | none => simpa [Http.Request.withPiece, Http.Request.held, before] using piece
    | some query =>
      simpa [Http.Request.withPiece, Http.Request.held, before, Http.Query.pairs_append] using piece
  | path | header | cookie => simp [Http.Request.withPiece, Http.Request.held, Http.Request.cookies]

theorem holdsAlso_withCapture (request : Request) (name text : String) :
    (request.withCapture name text).HoldsAlso request ⟨.path, name, text⟩ := by
  intro location
  cases location with
  | path => rfl
  | query | header | cookie =>
    simp [Http.Request.withCapture, Http.Request.held, Http.Request.cookies]

theorem Http.headerName?_of_isSome {name : String} (valid : (headerName? name).isSome = true) :
    headerName? name = some (lowerAscii name) := by
  unfold headerName? at *
  split at valid <;> simp_all

theorem Http.Headers.append_of_valid {name value : String} (headers : Headers)
    (valid : (headerName? name).isSome = true)
    (sendable : (Text.Utf8.encode value.toList).all isValueByte = true) :
    headers.append name value =
      headers ++ [(lowerAscii name, Text.Utf8.encode value.toList)] := by
  simp only [append, append?, headerName?_of_isSome valid, sendable, if_true, Option.getD_some]

theorem holdsAlso_withHeader (request : Request) {name text : String}
    (fits : SentParameter.Fits ⟨.header, name, text⟩) :
    (request.withHeader name text).HoldsAlso request ⟨.header, name, text⟩ := by
  obtain ⟨valid, other, sendable⟩ := fits
  simp only at valid other sendable
  intro location
  cases location with
  | header =>
    simp [Http.Request.withHeader, Http.Request.held, Http.Headers.append_of_valid _ valid sendable,
      other, SentParameter.entry, SentParameter.heldName, Http.Headers.valueText,
      Text.Utf8.decode_encode]
  | cookie =>
    simp [Http.Request.withHeader, Http.Request.held, Http.Headers.append_of_valid _ valid sendable,
      other, Http.Request.cookies, Http.Cookies.ofHeaders_concat]
  | query | path => simp [Http.Request.withHeader, Http.Request.held]

theorem holdsAlso_withCookie (request : Request) {name text : String}
    (named : SentParameter.Named ⟨.cookie, name, text⟩)
    (fits : SentParameter.Fits ⟨.cookie, name, text⟩) :
    (request.withCookie name ("\"" ++ text ++ "\"")).HoldsAlso request ⟨.cookie, name, text⟩ := by
  obtain ⟨present, trimmed, single⟩ := named
  obtain ⟨free, closed, sendable⟩ := fits
  have valid : (Http.headerName? "cookie").isSome = true := by decide
  have lower : Http.lowerAscii "cookie" = "cookie" := by decide
  simp only [SentParameter.cookieText] at *
  have read :
      Http.Cookies.read (name ++ "=" ++ ("\"" ++ text ++ "\"")).toList = [(name, text)] := by
    have letters : name.toList ≠ [] := by simpa using present
    simpa using Http.Cookies.read_quoted trimmed letters free single closed
  intro location
  cases location with
  | header =>
    simp [Http.Request.withCookie, Http.Request.withHeader, Http.Request.held,
      Http.Headers.append_of_valid _ valid sendable, lower]
  | cookie =>
    simpa [Http.Request.withCookie, Http.Request.withHeader, Http.Request.held,
      Http.Headers.append_of_valid _ valid sendable, lower, Http.Request.cookies,
      Http.Cookies.ofHeaders_concat, Text.Utf8.decode_encode, SentParameter.entry,
      SentParameter.heldName] using read
  | query | path => simp [Http.Request.withCookie, Http.Request.withHeader, Http.Request.held]

/-- What a request holds at a location is what was sent there, in order. -/
theorem Carries.held_eq {sent : List SentParameter} {request : Request}
    (carries : Carries sent request) (named : ∀ parameter ∈ sent, parameter.Named)
    (fits : ∀ parameter ∈ sent, parameter.Fits) (location : Location) :
    request.held location =
      ((sent.filter (·.location = location)).map SentParameter.entry).reverse := by
  -- Every step adds its parameter behind what the request holds of the others.
  have grown {first : SentParameter} {others : List SentParameter} {before after : Request}
      (adds : after.HoldsAlso before first)
      (ih : before.held location =
        ((others.filter (·.location = location)).map SentParameter.entry).reverse) :
      after.held location =
        (((first :: others).filter (·.location = location)).map SentParameter.entry).reverse := by
    rw [adds location, ih, List.filter_cons]
    by_cases here : first.location = location <;> simp [here]
  induction carries with
  | bare method path => cases location <;> rfl
  | query _ key value ih =>
    simp only [List.forall_mem_cons] at named fits
    exact grown (holdsAlso_withPiece _ key value) (ih named.2 fits.2)
  | path name text _ ih =>
    simp only [List.forall_mem_cons] at named fits
    exact grown (holdsAlso_withCapture _ name text) (ih named.2 fits.2)
  | header name text _ ih =>
    simp only [List.forall_mem_cons] at named fits
    exact grown (holdsAlso_withHeader _ fits.1) (ih named.2 fits.2)
  | cookie name text _ ih =>
    simp only [List.forall_mem_cons] at named fits
    exact grown (holdsAlso_withCookie _ named.1 fits.1) (ih named.2 fits.2)

private theorem lookup_texts {name : String} (other : name ≠ "cookie") (headers : Http.Headers) :
    ((headers.filter (·.1 ≠ "cookie")).map (Prod.map id Http.Headers.valueText)).lookup name =
      (headers.lookup name).map Http.Headers.valueText := by
  induction headers with
  | nil => rfl
  | cons header rest ih =>
    obtain ⟨first, value⟩ := header
    by_cases cookie : first = "cookie"
    · subst cookie
      have passed : (name == "cookie") = false := by simp [other]
      simpa [List.lookup_cons, passed] using ih
    · by_cases here : name = first
      · simp [cookie, here]
      · have passed : (name == first) = false := by simp [here]
        simpa [cookie, List.lookup_cons, passed] using ih

theorem resolve_of_held {request : Request} {sent : SentParameter} (fits : sent.Fits)
    (found : (request.held sent.location).lookup sent.heldName = some sent.text) :
    resolve (Source.ofRequest request) sent.name sent.location = .ok sent.text := by
  obtain ⟨location, name, text⟩ := sent
  cases location with
  | query =>
    cases query : request.uri.query with
    | none => simp [Http.Request.held, query] at found
    | some query =>
      simp_all [Http.Request.held, resolve, Source.ofRequest, Http.Request.query?,
        Http.Query.get?, SentParameter.heldName]
  | path => simp_all [Http.Request.held, resolve, Source.ofRequest, Http.Captures.get?,
      SentParameter.heldName]
  | header =>
    obtain ⟨valid, other, _⟩ := fits
    simp only [Http.Request.held, SentParameter.heldName, lookup_texts other] at found
    have shown : request.headers.text? name = some text := by
      rw [Http.Headers.text?, Http.Headers.get?, Http.headerName?_of_isSome valid]
      exact found
    simp [resolve, Source.ofRequest, shown]
  | cookie => simp_all [Http.Request.held, resolve, Source.ofRequest, Http.Cookies.get?,
      SentParameter.heldName]

theorem Carries.resolve_eq {sent : List SentParameter} {request : Request}
    (carries : Carries sent request) (named : ∀ parameter ∈ sent, parameter.Named)
    (fits : ∀ parameter ∈ sent, parameter.Fits)
    (distinct : (sent.map SentParameter.key).Nodup) {parameter : SentParameter}
    (mem : parameter ∈ sent) :
    resolve (Source.ofRequest request) parameter.name parameter.location = .ok parameter.text := by
  apply resolve_of_held (fits parameter mem)
  rw [carries.held_eq named fits]
  have here : (sent.filter (·.location = parameter.location)).Sublist sent := List.filter_sublist
  apply lookup_of_mem
  · rw [List.map_reverse, List.nodup_reverse, List.map_map]
    -- At one location, keys differ by the name alone.
    refine List.Nodup.of_map (fun name => (parameter.location, name)) ?_
    have kept := (here.map SentParameter.key).nodup distinct
    rw [List.map_map]
    convert kept using 1
    refine List.map_congr_left fun other inside => ?_
    simp only [List.mem_filter, decide_eq_true_eq] at inside
    simp [SentParameter.key, SentParameter.entry, inside.2]
  · rw [List.mem_reverse, List.mem_map]
    exact ⟨parameter, by simp [mem], rfl⟩

end RequestParams
