import Mathlib.Logic.Relation
import RequestParams.Proofs.AtomicDecoding
import RequestParams.Proofs.CookieRoundTrip
import RequestParams.Proofs.QueryLookup

set_option autoImplicit false
set_option relaxedAutoImplicit false

/-!
Requests with more in them than is asked for.  What nobody asks for, and what stands behind an entry
with the same name, can be put anywhere into a request without a change in what is decoded from it,
whatever text it is.
-/

namespace RequestParams

open Http (Headers Captures Cookies Request Source)

/-- The query of pieces between ampersands; without a piece there is no query. -/
def Http.Query.ofPieces : List String → Option String
  | [] => none
  | piece :: rest => some ("&".intercalate (piece :: rest))

/-- Whether no entry has a key that is asked for, unless an entry before them has the key too. -/
def Idle {α : Type} (asked : String → Prop) (before entries : List (String × α)) : Prop :=
  ∀ entry ∈ entries, asked entry.1 → entry.1 ∈ before.map Prod.fst

instance {α : Type} (asked : String → Prop) [DecidablePred asked]
    (before entries : List (String × α)) : Decidable (Idle asked before entries) :=
  inferInstanceAs (Decidable (∀ entry ∈ entries, asked entry.1 → entry.1 ∈ before.map Prod.fst))

/-- One change of a request in what is not asked for at its location. -/
inductive Http.Request.Padded (asked : Location → String → Prop) : Request → Request → Prop where
  /-- Another method and another path. -/
  | head (request : Request) (method path : String) :
    Padded asked request { request with method, uri := ⟨path, request.uri.query⟩ }
  /-- One more piece of the query, of any text. -/
  | piece {request : Request} {before after : List String} {piece : String}
    (here : request.uri.query = Http.Query.ofPieces (before ++ after))
    (idle : Idle (asked .query) (before.flatMap Http.Query.pairs) (Http.Query.pairs piece)) :
    Padded asked request
      { request with uri := ⟨request.uri.path, Http.Query.ofPieces (before ++ piece :: after)⟩ }
  /-- One more header, but no cookie header.  Names of headers are asked for in any case. -/
  | header {request : Request} {before after : Headers} {name : String} {value : List UInt8}
    (here : request.headers = before ++ after) (other : Http.lowerAscii name ≠ "cookie")
    (idle : Idle (fun lower => ∃ wish, asked .header wish ∧ Http.lowerAscii wish = lower)
      before [(Http.lowerAscii name, value)]) :
    Padded asked request
      { request with headers := before ++ (Http.lowerAscii name, value) :: after }
  /-- One more segment of a cookie header, of any bytes. -/
  | cookie {request : Request} {before after : Headers} {front back : List (List UInt8)}
    {segment : List UInt8}
    (here : request.headers = before ++ ("cookie", [0x3b].intercalate (front ++ back)) :: after)
    (unread : ∀ wish, asked .header wish → Http.lowerAscii wish ≠ "cookie")
    (idle : Idle (asked .cookie)
      (Cookies.ofHeaders before ++
        front.flatMap fun earlier => Cookies.read (Text.Utf8.decode earlier))
      (Cookies.read (Text.Utf8.decode segment))) :
    Padded asked request { request with
      headers := before ++ ("cookie", [0x3b].intercalate (front ++ segment :: back)) :: after }
  /-- One more cookie header, of any bytes. -/
  | cookieHeader {request : Request} {before after : Headers} {value : List UInt8}
    (here : request.headers = before ++ after)
    (unread : ∀ wish, asked .header wish → Http.lowerAscii wish ≠ "cookie")
    (idle : Idle (asked .cookie) (Cookies.ofHeaders before)
      (Cookies.read (Text.Utf8.decode value))) :
    Padded asked request { request with headers := before ++ ("cookie", value) :: after }
  /-- One more capture. -/
  | capture {request : Request} {before after : Captures} {name text : String}
    (here : request.captures = before ++ after) (idle : Idle (asked .path) before [(name, text)]) :
    Padded asked request { request with captures := before ++ (name, text) :: after }

/-- Whether a record type's fields ask for a parameter when they are decoded. -/
def RecordType.Asks (type : RecordType) (policy : EmptyNamePolicy) (location : Location)
    (name : String) : Prop :=
  ∃ targets, (plan policy type.descriptors).result = .ok targets ∧
    ∃ target ∈ targets, target.location = location ∧ target.parameter = name

section Sources

variable {asked : Location → String → Prop} {request other : Request}

theorem Http.Query.get?_ofPieces (pieces : List String) (name : String) :
    ((ofPieces pieces).bind fun query => get? query name) =
      (pieces.flatMap pairs).lookup name := by
  cases pieces with
  | nil => rfl
  | cons piece rest => rw [← pairs_intercalate]; rfl

theorem Idle.lookup_eq {α : Type} {asked : String → Prop} {before entries : List (String × α)}
    (idle : Idle asked before entries) (after : List (String × α)) {key : String}
    (wanted : asked key) : (before ++ entries ++ after).lookup key = (before ++ after).lookup key :=
  lookup_insert fun entry mem same => same ▸ idle entry mem (same ▸ wanted)

theorem Http.Headers.text?_congr {headers others : Headers} {name : String}
    (same : headers.lookup (Http.lowerAscii name) = others.lookup (Http.lowerAscii name)) :
    headers.text? name = others.text? name := by
  unfold text? get? headerName?
  split_ifs with valid
  · simp [same]
  · rfl

theorem Http.Headers.lookup_between {before after : Headers} {name key : String}
    (other : key ≠ name) (value : List UInt8) :
    (before ++ (name, value) :: after).lookup key = (before ++ after).lookup key := by
  have passed : (key == name) = false := by simpa using other
  simp only [List.lookup_append, List.lookup_cons, passed]

/-- One change leaves every parameter that is asked for as it was found. -/
theorem Http.Request.Padded.resolve_eq (padded : Request.Padded asked request other)
    {location : Location} {name : String} (wanted : asked location name) :
    resolve (Source.ofRequest other) name location =
      resolve (Source.ofRequest request) name location := by
  -- Each change is to what one location is read from, or two in the case of cookie headers; any
  -- other location is read from a part of the request that is the same.
  cases padded with
  | head method path => cases location <;> rfl
  | @piece before after piece here idle =>
    cases location with
    | path | header | cookie => rfl
    | query =>
      have same := idle.lookup_eq (after.flatMap Query.pairs) wanted
      simp only [resolve, Source.ofRequest, Request.query?, here, Http.Query.get?_ofPieces,
        List.flatMap_append, List.flatMap_cons, ← same, List.append_assoc]
  | @header before after lower value here separate idle =>
    cases location with
    | query | path => rfl
    | header =>
      have named : ∃ wish, asked .header wish ∧ Http.lowerAscii wish = Http.lowerAscii name :=
        ⟨name, wanted, rfl⟩
      have same := idle.lookup_eq after named
      have found : Http.Headers.text? (before ++ (Http.lowerAscii lower, value) :: after) name =
          request.headers.text? name := Http.Headers.text?_congr (by simpa [here] using same)
      simp only [resolve, Source.ofRequest, found]
    | cookie =>
      simp only [resolve, Source.ofRequest, Request.cookies, here, Cookies.ofHeaders_append,
        Cookies.ofHeaders_cons, if_neg separate, List.nil_append]
  | @cookie before after front back segment here unread idle =>
    cases location with
    | query | path => rfl
    | header =>
      have found : Http.Headers.text? (before ++
            ("cookie", [0x3b].intercalate (front ++ segment :: back)) :: after) name =
          request.headers.text? name := by
        apply Http.Headers.text?_congr
        rw [here, Http.Headers.lookup_between (unread name wanted),
          Http.Headers.lookup_between (unread name wanted)]
      simp only [resolve, Source.ofRequest, found]
    | cookie =>
      have same := idle.lookup_eq
        (back.flatMap (fun segment => Cookies.read (Text.Utf8.decode segment)) ++
          Cookies.ofHeaders after) wanted
      simp only [resolve, Source.ofRequest, Request.cookies, Cookies.get?, here,
        Cookies.ofHeaders_append, Cookies.ofHeaders_cons, if_true,
        Cookies.read_decode_intercalate, List.flatMap_append, List.flatMap_cons]
      simp only [List.append_assoc] at same ⊢
      rw [same]
  | @cookieHeader before after value here unread idle =>
    cases location with
    | query | path => rfl
    | header =>
      have found : Http.Headers.text? (before ++ ("cookie", value) :: after) name =
          request.headers.text? name := by
        apply Http.Headers.text?_congr
        rw [here, Http.Headers.lookup_between (unread name wanted)]
      simp only [resolve, Source.ofRequest, found]
    | cookie =>
      have same := idle.lookup_eq (Cookies.ofHeaders after) wanted
      simp only [resolve, Source.ofRequest, Request.cookies, Cookies.get?, here,
        Cookies.ofHeaders_append, Cookies.ofHeaders_cons, if_true, ← same, List.append_assoc]
  | @capture before after held text here idle =>
    cases location with
    | query | header | cookie => rfl
    | path =>
      have same := idle.lookup_eq after wanted
      simp only [resolve, Source.ofRequest, Captures.get?, here, ← same, List.append_assoc,
        List.singleton_append]

end Sources

section Decoding

variable {type : RecordType} {source other : Source} {policy : EmptyNamePolicy}

theorem readAll_congr
    (same : ∀ location name, type.Asks policy location name →
      resolve source name location = resolve other name location) :
    readAll type source policy = readAll type other policy := by
  refine Journal.bind_congr fun targets planned => readTargets_congr fun target mem => ?_
  rw [readTarget, readTarget, Target.resolve, Target.resolve,
    same target.location target.parameter ⟨targets, planned, target, mem, rfl, rfl⟩]

theorem decode_congr {options : DecodeOptions}
    (same : ∀ location name, type.Asks options.emptyName location name →
      resolve source name location = resolve other name location) (start : Record) :
    decode type source options start = decode type other options start := by
  simp only [decode, readAll_congr same]

end Decoding

/-- Requests that differ only in what is not asked for, by any number of changes made or undone, are
decoded in the same way: with the same result, the same events and the same record. -/
theorem decode_of_padded {type : RecordType} {options : DecodeOptions} {request other : Request}
    (padded : Relation.EqvGen (Request.Padded (type.Asks options.emptyName)) request other)
    (start : Record) :
    decode type (Source.ofRequest other) options start =
      decode type (Source.ofRequest request) options start := by
  induction padded with
  | rel request other changed => exact decode_congr (fun _ _ => changed.resolve_eq) start
  | refl request => rfl
  | symm request other _ ih => exact ih.symm
  | trans request between other _ _ first second => exact second.trans first

def searchFields : RecordType :=
  [⟨"search", .string, some "kind: query; name: q", .string⟩,
    ⟨"session", .string, some "kind: cookie; name: s", .string⟩]

theorem asks_searchFields (location : Location) :
    searchFields.Asks .skip location = fun name =>
      location = .query ∧ name = "q" ∨ location = .cookie ∧ name = "s" := by
  have planned : (plan .skip searchFields.descriptors).result =
      .ok [⟨"search", "q", .query⟩, ⟨"session", "s", .cookie⟩] := by decide +kernel
  funext name
  simp [RecordType.Asks, planned, eq_comm]

theorem decode_searchFields_of_padded :
    let bytes (text : String) := Text.Utf8.encode text.toList
    let request : Request := { uri := ⟨"/", some "q=1"⟩, headers := [("cookie", bytes "s=2")] }
    let other : Request :=
      { method := "POST", uri := ⟨"/x", some "a=%zz&q=1&q=3"⟩,
        headers := [("x-any", [0xff]), ("cookie", bytes "t=\";s=2;s=4")] }
    Relation.EqvGen (Request.Padded (searchFields.Asks .skip)) request other ∧
      decode searchFields (Source.ofRequest other) {} searchFields.initial =
        decode searchFields (Source.ofRequest request) {} searchFields.initial := by
  intro bytes request other
  let asked := searchFields.Asks .skip
  have uncookied : ∀ wish, asked .header wish → Http.lowerAscii wish ≠ "cookie" := by
    intro wish wanted
    simp [asked, asks_searchFields] at wanted
  let moved : Request := { request with method := "POST", uri := ⟨"/x", some "q=1"⟩ }
  let preceded : Request := { moved with uri := ⟨"/x", some "a=%zz&q=1"⟩ }
  let repeated : Request := { moved with uri := ⟨"/x", some "a=%zz&q=1&q=3"⟩ }
  let opened : Request := { repeated with headers := [("cookie", bytes "t=\";s=2")] }
  let recalled : Request := { repeated with headers := [("cookie", bytes "t=\";s=2;s=4")] }
  have first : Request.Padded asked request moved := .head request "POST" "/x"
  have second : Request.Padded asked moved preceded :=
    @Request.Padded.piece asked moved [] ["q=1"] "a=%zz" rfl
      (by simp only [asked, asks_searchFields]; decide +kernel)
  have third : Request.Padded asked preceded repeated :=
    @Request.Padded.piece asked preceded ["a=%zz", "q=1"] [] "q=3" rfl
      (by simp only [asked, asks_searchFields]; decide +kernel)
  have fourth : Request.Padded asked repeated opened :=
    @Request.Padded.cookie asked repeated [] [] [] [bytes "s=2"] (bytes "t=\"") rfl uncookied
      (by simp only [asked, asks_searchFields]; decide +kernel)
  have fifth : Request.Padded asked opened recalled :=
    @Request.Padded.cookie asked opened [] [] [bytes "t=\"", bytes "s=2"] [] (bytes "s=4") rfl
      uncookied (by simp only [asked, asks_searchFields]; decide +kernel)
  have last : Request.Padded asked recalled other :=
    @Request.Padded.header asked recalled [] recalled.headers "X-Any" [0xff] rfl (by decide)
      (by simp [Idle, asked, asks_searchFields])
  have padded : Relation.EqvGen (Request.Padded asked) request other :=
    .trans _ _ _ (.rel _ _ first) <| .trans _ _ _ (.rel _ _ second) <|
      .trans _ _ _ (.rel _ _ third) <| .trans _ _ _ (.rel _ _ fourth) <|
        .trans _ _ _ (.rel _ _ fifth) (.rel _ _ last)
  exact ⟨padded, @decode_of_padded searchFields {} request other padded _⟩

end RequestParams
