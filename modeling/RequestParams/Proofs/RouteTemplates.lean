import RequestParams.Document
import RequestParams.Proofs.TextPieces

set_option autoImplicit false
set_option relaxedAutoImplicit false

/-!
The placeholders of route templates.  A template is built of plain texts and placeholders; its
placeholders are found in order, whatever stands between them, and adding a route warns about each
path parameter that is none of them.
-/

namespace RequestParams

namespace Route

structure IsPlaceholderName (name : List Char) : Prop where
  present : name ≠ []
  unclosed : '}' ∉ name
  unpatterned : ':' ∉ name

/-- How a template is written that has placeholders with these names, in order. -/
inductive SpellsTemplate : List Char → List String → Prop
  | empty : SpellsTemplate [] []
  | plain {text behind : List Char} {names : List String} (unopened : '{' ∉ text)
      (rest : SpellsTemplate behind names) : SpellsTemplate (text ++ behind) names
  | named {name behind : List Char} {names : List String} (valid : IsPlaceholderName name)
      (rest : SpellsTemplate behind names) :
      SpellsTemplate ('{' :: (name ++ '}' :: behind)) (String.ofList name :: names)
  | patterned {name pattern behind : List Char} {names : List String}
      (valid : IsPlaceholderName name) (unclosed : '}' ∉ pattern)
      (rest : SpellsTemplate behind names) :
      SpellsTemplate ('{' :: (name ++ ':' :: (pattern ++ '}' :: behind)))
        (String.ofList name :: names)

variable {name behind text : List Char}

theorem IsPlaceholderName.isNameChar (valid : IsPlaceholderName name) :
    ∀ c ∈ name, isNameChar c = true := by
  intro c mem
  have unclosed : c ≠ '}' := fun same => valid.unclosed (same ▸ mem)
  have unpatterned : c ≠ ':' := fun same => valid.unpatterned (same ▸ mem)
  simp [Route.isNameChar, unclosed, unpatterned]

theorem readPlaceholder_named (valid : IsPlaceholderName name) :
    readPlaceholder (name ++ '}' :: behind) = some (name, behind) := by
  have stop : ∀ c ∈ ('}' :: behind).head?, isNameChar c = false := by simp [isNameChar]
  unfold readPlaceholder
  rw [Text.takeWhile_run valid.isNameChar stop, Text.dropWhile_run valid.isNameChar stop]
  simp [valid.present]

theorem readPlaceholder_patterned {pattern : List Char} (valid : IsPlaceholderName name)
    (unclosed : '}' ∉ pattern) :
    readPlaceholder (name ++ ':' :: (pattern ++ '}' :: behind)) = some (name, behind) := by
  have stop : ∀ c ∈ (':' :: (pattern ++ '}' :: behind)).head?, isNameChar c = false := by
    simp [isNameChar]
  have skipped : (pattern ++ '}' :: behind).dropWhile (fun c => decide (c ≠ '}')) =
      '}' :: behind := by
    refine Text.dropWhile_run (fun c mem => ?_) (by simp)
    exact decide_eq_true fun same => unclosed (same ▸ mem)
  unfold readPlaceholder
  rw [Text.takeWhile_run valid.isNameChar stop, Text.dropWhile_run valid.isNameChar stop]
  simp only [skipped]
  simp [valid.present]

theorem name_of_readPlaceholder (found : readPlaceholder text = some (name, behind)) :
    IsPlaceholderName name ∧ name <+: text ∧ behind <:+ text := by
  have chars : ∀ c ∈ text.takeWhile isNameChar, isNameChar c = true := fun c mem =>
    List.mem_takeWhile_imp mem
  have rest : text.dropWhile isNameChar <:+ text := List.dropWhile_suffix _
  unfold readPlaceholder at found
  simp only at found
  split_ifs at found with absent
  have valid : IsPlaceholderName (text.takeWhile isNameChar) :=
    ⟨by simpa using absent, fun mem => by simpa [isNameChar] using chars _ mem,
      fun mem => by simpa [isNameChar] using chars _ mem⟩
  split at found
  · rename_i pattern opened
    rw [opened] at rest
    have inner : pattern <:+ text := (List.suffix_cons _ _).trans rest
    split at found
    · rename_i behind' closed
      obtain ⟨rfl, rfl⟩ := Prod.mk.inj (Option.some.inj found)
      have last := List.dropWhile_suffix (l := pattern) fun c => decide (c ≠ '}')
      rw [closed] at last
      exact ⟨valid, List.takeWhile_prefix _, ((List.suffix_cons _ _).trans last).trans inner⟩
    · simp at found
  · rename_i closed
    obtain ⟨rfl, rfl⟩ := Prod.mk.inj (Option.some.inj found)
    rw [closed] at rest
    exact ⟨valid, List.takeWhile_prefix _, (List.suffix_cons _ _).trans rest⟩
  · simp at found

theorem placeholderNames_open (found : readPlaceholder text = some (name, behind)) :
    placeholderNames ('{' :: text) = name :: placeholderNames behind := by
  rw [placeholderNames]
  split
  · split <;> simp_all
  · contradiction

theorem placeholderNames_plain (unopened : '{' ∉ text) :
    placeholderNames (text ++ behind) = placeholderNames behind := by
  induction text with
  | nil => rfl
  | cons c rest ih =>
    rw [List.mem_cons, not_or] at unopened
    rw [List.cons_append, placeholderNames, if_neg (Ne.symm unopened.1), ih unopened.2]

theorem placeholderNames_of_spells {names : List String} (spelled : SpellsTemplate text names) :
    (placeholderNames text).map String.ofList = names := by
  induction spelled with
  | empty => rw [placeholderNames, List.map_nil]
  | plain unopened _ ih => rw [placeholderNames_plain unopened, ih]
  | named valid _ ih => rw [placeholderNames_open (readPlaceholder_named valid), List.map_cons, ih]
  | patterned valid unclosed _ ih =>
    rw [placeholderNames_open (readPlaceholder_patterned valid unclosed), List.map_cons, ih]

theorem name_of_mem_placeholderNames (mem : name ∈ placeholderNames text) :
    IsPlaceholderName name ∧ '{' :: name <:+: text := by
  fun_induction placeholderNames text with
  | case1 => simp at mem
  | case2 rest first last found ih =>
    obtain ⟨valid, start, finish⟩ := name_of_readPlaceholder found
    rcases List.mem_cons.mp mem with rfl | later
    · obtain ⟨more, rfl⟩ := start
      exact ⟨valid, [], more, rfl⟩
    · obtain ⟨valid, inside⟩ := ih later
      exact ⟨valid, inside.trans (finish.trans (List.suffix_cons _ _)).isInfix⟩
  | case3 rest _ ih | case4 c rest _ ih =>
    obtain ⟨valid, inside⟩ := ih mem
    exact ⟨valid, inside.trans (List.suffix_cons _ _).isInfix⟩

theorem unmatched_eq (path : String) (parameters : List (String × Location)) :
    unmatched path parameters =
      (parameters.filter fun parameter =>
        parameter.2 = .path ∧ parameter.1 ∉ placeholders path).map Prod.fst := by
  unfold unmatched
  rw [List.filter_map, List.filter_filter]
  congr 2
  funext parameter
  simp [Bool.and_comm]

end Route

namespace Document

variable {document : Document} {route : Route}

/-- The parameters that are described when a route is added; there are none where it is faulty or
its fields cannot be described. -/
def reachedParameters (document : Document) (route : Route) : List Parameter :=
  match route.fault? with
  | some _ => []
  | none =>
    (describeAll document.options.emptyName route.descriptors).result.toOption.getD []

def warned (document : Document) (route : Route) : List Event :=
  (document.addRoute route).events.filter fun event => event.level = .warn

theorem level_of_mem_describeAll {policy : EmptyNamePolicy} {descriptors : List Descriptor}
    {event : Event} (mem : event ∈ (describeAll policy descriptors).events) :
    event.level = .debug := by
  induction descriptors with
  | nil => simp [describeAll] at mem
  | cons descriptor rest ih =>
    unfold describeAll at mem
    split at mem
    · cases policy with
      | skip =>
        rcases Journal.mem_events_bind mem with noted | ⟨_, behind⟩
        · obtain rfl := List.mem_singleton.mp noted
          rfl
        · exact ih behind
      | reject => simp at mem
    · rcases Journal.mem_events_bind mem with here | ⟨parameter, later⟩
      · simp at here
      · rcases Journal.mem_events_bind later with behind | ⟨_, last⟩
        · exact ih behind
        · simp at last

theorem filter_describeAll (policy : EmptyNamePolicy) (descriptors : List Descriptor) :
    (describeAll policy descriptors).events.filter (fun event => event.level = .warn) = [] := by
  refine List.filter_eq_nil_iff.mpr fun event mem => ?_
  simp [level_of_mem_describeAll mem]

theorem filter_warnings (route : Route) (parameters : List Parameter) :
    (warnings route parameters).filter (fun event => event.level = .warn) =
      warnings route parameters := by
  refine List.filter_eq_self.mpr fun event mem => ?_
  obtain ⟨name, -, rfl⟩ := List.mem_map.mp mem
  rfl

private theorem filter_documented {α β : Type} (checked : Except DocumentFailure α)
    (written : α → β) (path : String) (methods parameters : Nat) :
    (Journal.ofExcept checked >>= fun names =>
      Journal.note (.documented path methods parameters) >>= fun _ =>
        (pure (written names) : Journal DocumentFailure β)).events.filter
          (fun event => event.level = .warn) = [] := by
  refine List.filter_eq_nil_iff.mpr fun event mem => ?_
  rcases Journal.mem_events_bind mem with here | ⟨names, behind⟩
  · simp at here
  · rcases Journal.mem_events_bind behind with noted | ⟨_, last⟩
    · obtain rfl := List.mem_singleton.mp noted
      simp [Event.level]
    · simp at last

/-- Adding a route warns of what its template lacks, once its parameters are described, and of
nothing else. -/
theorem warned_eq : document.warned route = warnings route (document.reachedParameters route) := by
  unfold warned reachedParameters addRoute
  cases route.fault? with
  | some reason => rfl
  | none =>
    have silent := filter_describeAll document.options.emptyName route.descriptors
    cases described : (describeAll document.options.emptyName route.descriptors).result with
    | error failure =>
      rw [Journal.events_bind_of_error _ (by rw [ofParameters, described]; rfl)]
      exact silent
    | ok parameters =>
      rw [Journal.events_bind_of_ok _ (by rw [ofParameters, described]; rfl),
        Journal.events_bind_of_ok _ rfl, List.filter_append, List.filter_append, filter_warnings]
      have quiet := filter_documented (document.checkMethods route route.methods [])
        (document.write route parameters) route.path route.methods.length parameters.length
      show (describeAll document.options.emptyName route.descriptors).events.filter _ ++ _ = _
      rw [silent, quiet, List.nil_append, List.append_nil]
      rfl

/-- A template is read as it is written: its placeholders are found in order and with repeats, and
the path parameters of other names are those that it lacks, of which adding a route warns, of each
once.  What is found in any text can name a placeholder and stands behind an opening brace. -/
theorem template_names_and_warnings (path : String) :
    (∀ names, Route.SpellsTemplate path.toList names →
      Route.placeholders path = names ∧
      (∀ parameters, Route.unmatched path parameters =
        (parameters.filter fun parameter =>
          parameter.2 = .path ∧ parameter.1 ∉ names).map Prod.fst) ∧
      ∀ (document : Document) (route : Route), route.path = path →
        document.warned route =
          ((document.reachedParameters route).filter fun parameter =>
            parameter.location = .path ∧ parameter.name ∉ names).map fun parameter =>
              .unmatchedParameter path parameter.name) ∧
    ∀ name ∈ Route.placeholders path,
      Route.IsPlaceholderName name.toList ∧ '{' :: name.toList <:+: path.toList := by
  constructor
  · intro names spelled
    have found : Route.placeholders path = names := Route.placeholderNames_of_spells spelled
    refine ⟨found, fun parameters => ?_, ?_⟩
    · rw [Route.unmatched_eq, found]
    · rintro document route rfl
      rw [warned_eq, warnings, Route.unmatched_eq, found, List.filter_map, List.map_map,
        List.map_map]
      rfl
  · intro name mem
    obtain ⟨letters, found, rfl⟩ := List.mem_map.mp mem
    rw [String.toList_ofList]
    exact Route.name_of_mem_placeholderNames found

/-- A template with a stray brace, a brace in a pattern and in a name, neighbours and a repeat. -/
def bracedTemplate : String := "/s\x7d/\x7bid:\x7b2\x7d\x7ba\x7bb\x7d/\x7bid\x7d"

def bracedNames : List String := ["id", "a\x7bb", "id"]

theorem spells_bracedTemplate : Route.SpellsTemplate bracedTemplate.toList bracedNames := by
  have letters : bracedTemplate.toList = ['/', 's', '}', '/'] ++ '{' :: (['i', 'd'] ++ ':' ::
      (['{', '2'] ++ '}' :: '{' :: (['a', '{', 'b'] ++ '}' :: (['/'] ++ '{' ::
        (['i', 'd'] ++ '}' :: []))))) := by
    decide +kernel
  have id : Route.IsPlaceholderName ['i', 'd'] := ⟨by decide, by decide, by decide⟩
  rw [letters]
  exact .plain (by decide) (.patterned id (by decide)
    (.named ⟨by decide, by decide, by decide⟩ (.plain (by decide) (.named id .empty))))

def bracedRoute : Route where
  path := bracedTemplate
  summary := "Stars"
  methods := ["GET"]
  descriptors := ["name: moon; kind: path", "name: id; kind: path", "name: moon; kind: path",
    "name: moon; kind: query"].map (Descriptor.read "field" .string)

theorem template_names_and_warnings_braced :
    Route.SpellsTemplate bracedTemplate.toList bracedNames ∧ "id" ∈ bracedNames ∧
    bracedRoute.path = bracedTemplate ∧
    Route.placeholders bracedTemplate = bracedNames ∧
    Route.unmatched bracedTemplate
      [("moon", .path), ("id", .path), ("sun", .cookie), ("moon", .path)] = ["moon", "moon"] ∧
    (empty {}).warned bracedRoute = [.unmatchedParameter bracedTemplate "moon",
      .unmatchedParameter bracedTemplate "moon"] ∧
    Route.IsPlaceholderName "id".toList ∧ '{' :: "id".toList <:+: bracedTemplate.toList := by
  obtain ⟨read, names⟩ := template_names_and_warnings bracedTemplate
  obtain ⟨found, lacking, warned⟩ := read bracedNames spells_bracedTemplate
  refine ⟨spells_bracedTemplate, by decide, rfl, found, ?_, ?_, names "id" ?_⟩
  · rw [lacking]
    decide +kernel
  · rw [warned (empty {}) bracedRoute rfl]
    decide +kernel
  · rw [found]
    decide

end Document

end RequestParams
