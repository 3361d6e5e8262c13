import RequestParams.Proofs.DescribedParameters
import RequestParams.Proofs.FloatGrammar

set_option autoImplicit false
set_option relaxedAutoImplicit false

/-!
The least values of parameters.  The literal of a least value is taken when it is written as a
number that is not too great, for the nearest number that a document can hold; every other literal
is refused, either as a number that is not finite or as no number.
-/

namespace RequestParams

open Binary64 (overflow)

def SpellsFinite (text : List Char) : Prop :=
  ∃ negative value, SpellsFloat text negative value ∧ |value| < overflow

/-- Whether a text is written as a number that is rounded to infinity, or named as none that is
finite. -/
def SpellsNonFinite (text : List Char) : Prop :=
  NamesNonFinite text ∨ ∃ negative value, SpellsFloat text negative value ∧ overflow ≤ |value|

def SpellsNothing (text : List Char) : Prop :=
  ¬NamesNonFinite text ∧ ¬∃ negative value, SpellsFloat text negative value

def Parameter.atLeast (parameter : Parameter) (least : Binary64) : Parameter :=
  { parameter with schema := { parameter.schema with minimum := some least } }

namespace Descriptor

def unbounded (descriptor : Descriptor) : Descriptor :=
  { descriptor with literals := { descriptor.literals with schemaMin := "" } }

variable {descriptor : Descriptor} {parameter : Parameter} {negative : Bool} {value : ℚ}

theorem describe_of_unbounded (valid : descriptor.unbounded.describe = .ok parameter) :
    descriptor.describe = descriptor.minimum.map fun least =>
      { parameter with schema := { parameter.schema with minimum := least } } := by
  unfold describe at valid
  obtain ⟨location, placed, valid⟩ := bind_eq_ok_iff.mp valid
  obtain ⟨schema, typed, valid⟩ := bind_eq_ok_iff.mp valid
  obtain ⟨shown, exampled, valid⟩ := bind_eq_ok_iff.mp valid
  obtain ⟨needed, marked, valid⟩ := bind_eq_ok_iff.mp valid
  obtain ⟨least, bounded, valid⟩ := bind_eq_ok_iff.mp valid
  obtain rfl := Except.ok.inj valid
  replace placed : descriptor.documentedLocation = .ok location := placed
  replace typed : descriptor.schema = .ok schema := typed
  replace exampled : descriptor.exampleValue = .ok shown := exampled
  replace marked : descriptor.required location = .ok needed := marked
  simp only [describe, placed, typed, exampled, marked, bind, Except.bind]
  cases descriptor.minimum <;> rfl

theorem describe_eq_ok_iff_atLeast {described : Parameter}
    (valid : descriptor.unbounded.describe = .ok parameter)
    (present : descriptor.literals.schemaMin ≠ "") :
    descriptor.describe = .ok described ↔
      ∃ least, descriptor.minimum = .ok (some least) ∧ described = parameter.atLeast least := by
  rw [describe_of_unbounded valid]
  cases taken : descriptor.minimum with
  | error failure => simp [Except.map]
  | ok least =>
    rw [minimum_eq_ok_iff, if_neg present] at taken
    obtain ⟨least, rfl⟩ := Option.isSome_iff_exists.mp taken.2
    simp [Except.map, Parameter.atLeast, eq_comm]

theorem minimum_eq_ok_some_iff {least : Binary64} (present : descriptor.literals.schemaMin ≠ "") :
    descriptor.minimum = .ok (some least) ↔
      ∃ negative value, SpellsFloat descriptor.literals.schemaMin.toList negative value ∧
        |value| < overflow ∧ least.negative = negative ∧ least.IsNearest value := by
  rw [minimum_eq_ok_iff, if_neg present, Option.isSome_some]
  simp only [and_true, FloatLiteral.finite?]
  constructor
  · intro found
    split at found
    · rename_i x read
      obtain ⟨same, finite⟩ := Option.filter_eq_some_iff.mp found
      obtain rfl := Option.some.inj same
      exact ⟨x.negative, x.value, FloatLiteral.spells_of_read read,
        x.abs_value ▸ Binary64.isFinite_ofDecimal_iff.mp finite, rfl,
        Binary64.isNearest_ofDecimal finite⟩
    · simp at found
  · rintro ⟨negative, value, spelled, small, sign, nearest⟩
    obtain ⟨x, read, same, rfl⟩ := FloatLiteral.read_of_spells spelled
    have finite : (Binary64.ofDecimal x).isFinite = true :=
      Binary64.isFinite_ofDecimal_iff.mpr (x.abs_value ▸ small)
    have unique : Binary64.ofDecimal x = least :=
      (Binary64.isNearest_ofDecimal finite).unique nearest (same.trans sign.symm)
    rw [read, ← unique]
    exact Option.filter_eq_some_iff.mpr ⟨rfl, finite⟩

theorem exists_minimum_of_finite (present : descriptor.literals.schemaMin ≠ "")
    (spelled : SpellsFinite descriptor.literals.schemaMin.toList) :
    ∃ least, descriptor.minimum = .ok (some least) := by
  obtain ⟨negative, value, spelled, small⟩ := spelled
  obtain ⟨x, read, -, rfl⟩ := FloatLiteral.read_of_spells spelled
  have finite : (Binary64.ofDecimal x).isFinite = true :=
    Binary64.isFinite_ofDecimal_iff.mpr (x.abs_value ▸ small)
  exact ⟨Binary64.ofDecimal x, by simp only [minimum, if_neg present, read, finite, if_true]⟩

theorem minimum_of_nonFinite (present : descriptor.literals.schemaMin ≠ "")
    (spelled : SpellsNonFinite descriptor.literals.schemaMin.toList) :
    descriptor.minimum = .error (descriptor.invalidLiteral "schemaMin"
      descriptor.literals.schemaMin "not a finite number") := by
  rcases spelled with named | ⟨negative, value, spelled, large⟩
  · obtain ⟨special, read, other⟩ := FloatLiteral.namesNonFinite_iff.mp named
    cases special with
    | number x => exact absurd rfl (other x)
    | infinity | notANumber => simp only [minimum, if_neg present, read]
  · obtain ⟨x, read, -, rfl⟩ := FloatLiteral.read_of_spells spelled
    have infinite : ¬(Binary64.ofDecimal x).isFinite = true :=
      Binary64.isFinite_ofDecimal_iff.not.mpr (not_lt.mpr (x.abs_value ▸ large))
    simp only [minimum, if_neg present, read, if_neg infinite]

theorem minimum_of_nothing (present : descriptor.literals.schemaMin ≠ "")
    (spelled : SpellsNothing descriptor.literals.schemaMin.toList) :
    descriptor.minimum = .error (descriptor.invalidLiteral "schemaMin"
      descriptor.literals.schemaMin "invalid float literal") := by
  have unread : FloatLiteral.read descriptor.literals.schemaMin = none := by
    cases read : FloatLiteral.read descriptor.literals.schemaMin with
    | none => rfl
    | some special =>
      exfalso
      cases special with
      | number x => exact spelled.2 ⟨_, _, FloatLiteral.spells_of_read read⟩
      | infinity | notANumber =>
        exact spelled.1 (FloatLiteral.namesNonFinite_iff.mpr ⟨_, read, by simp⟩)
  simp only [minimum, if_neg present, unread]

end Descriptor

theorem spells_cases (text : List Char) :
    SpellsFinite text ∨ SpellsNonFinite text ∨ SpellsNothing text := by
  by_cases named : NamesNonFinite text
  · exact .inr (.inl (.inl named))
  by_cases spelled : ∃ negative value, SpellsFloat text negative value
  · obtain ⟨negative, value, spelled⟩ := spelled
    rcases lt_or_ge |value| overflow with small | large
    · exact .inl ⟨negative, value, spelled, small⟩
    · exact .inr (.inl (.inr ⟨negative, value, spelled, large⟩))
  · exact .inr (.inr ⟨named, spelled⟩)

/-- A field that is otherwise valid is described with a least value exactly when the literal is
written as a number below infinity, and the least value is then the one finite number of the
literal's sign that is nearest to it, the even one of two.  It is refused as not finite exactly when
the literal names infinity or no number, or is written as a number that is too great, and as no
number exactly when the literal is written in none of these ways. -/
theorem describe_least_value {descriptor : Descriptor} {parameter : Parameter}
    (valid : descriptor.unbounded.describe = .ok parameter)
    (present : descriptor.literals.schemaMin ≠ "") :
    (∀ described, descriptor.describe = .ok described ↔
      ∃ negative value least, SpellsFloat descriptor.literals.schemaMin.toList negative value ∧
        |value| < overflow ∧ least.negative = negative ∧ least.IsNearest value ∧
        described = parameter.atLeast least) ∧
    ((∃ described, descriptor.describe = .ok described) ↔
      SpellsFinite descriptor.literals.schemaMin.toList) ∧
    (descriptor.describe = .error (.invalidArgument "schemaMin" descriptor.literals.schemaMin
        descriptor.field "not a finite number") ↔
      SpellsNonFinite descriptor.literals.schemaMin.toList) ∧
    (descriptor.describe = .error (.invalidArgument "schemaMin" descriptor.literals.schemaMin
        descriptor.field "invalid float literal") ↔
      SpellsNothing descriptor.literals.schemaMin.toList) := by
  have shape := Descriptor.describe_of_unbounded valid
  have finite (spelled : SpellsFinite descriptor.literals.schemaMin.toList) :
      ∃ described, descriptor.describe = .ok described := by
    obtain ⟨least, taken⟩ := Descriptor.exists_minimum_of_finite present spelled
    exact ⟨_, by rw [shape, taken]; rfl⟩
  have nonFinite (spelled : SpellsNonFinite descriptor.literals.schemaMin.toList) :
      descriptor.describe = .error (descriptor.invalidLiteral "schemaMin"
        descriptor.literals.schemaMin "not a finite number") := by
    rw [shape, Descriptor.minimum_of_nonFinite present spelled]
    rfl
  have nothing (spelled : SpellsNothing descriptor.literals.schemaMin.toList) :
      descriptor.describe = .error (descriptor.invalidLiteral "schemaMin"
        descriptor.literals.schemaMin "invalid float literal") := by
    rw [shape, Descriptor.minimum_of_nothing present spelled]
    rfl
  refine ⟨fun described => ?_, ⟨?_, finite⟩, ⟨?_, nonFinite⟩, ⟨?_, nothing⟩⟩
  · rw [Descriptor.describe_eq_ok_iff_atLeast valid present]
    simp only [Descriptor.minimum_eq_ok_some_iff present]
    constructor
    · rintro ⟨least, ⟨negative, value, spelled, small, sign, nearest⟩, rfl⟩
      exact ⟨negative, value, least, spelled, small, sign, nearest, rfl⟩
    · rintro ⟨negative, value, least, spelled, small, sign, nearest, rfl⟩
      exact ⟨least, ⟨negative, value, spelled, small, sign, nearest⟩, rfl⟩
  -- The three kinds of literals end differently, so that each end tells the kind.
  · rintro ⟨described, ended⟩
    rcases spells_cases descriptor.literals.schemaMin.toList with kind | kind | kind
    · exact kind
    · simp [nonFinite kind] at ended
    · simp [nothing kind] at ended
  · intro ended
    rcases spells_cases descriptor.literals.schemaMin.toList with kind | kind | kind
    · obtain ⟨described, taken⟩ := finite kind
      simp [taken] at ended
    · exact kind
    · simp [nothing kind, Descriptor.invalidLiteral] at ended
  · intro ended
    rcases spells_cases descriptor.literals.schemaMin.toList with kind | kind | kind
    · obtain ⟨described, taken⟩ := finite kind
      simp [taken] at ended
    · simp [nonFinite kind, Descriptor.invalidLiteral] at ended
    · exact kind

def massField (literal : String) : Descriptor where
  field := "mass"
  type := .int
  literals := { name := "mass", kind := "query", schemaMin := literal }

def massParameter : Parameter where
  name := "mass"
  location := .query
  schema := { type := .integer }

theorem spells_minusTenth : SpellsFloat "-.1E0".toList true (Decimal.value ⟨true, 1, -1⟩) := by
  have spelled :
      SpellsUnsigned ['.', '1', 'E', '0'] ((1 : Nat) / 10 ^ ['1'].length * 10 ^ (0 : ℤ)) :=
    @SpellsUnsigned.point [] ['1'] ['E', '0'] 1 0 ⟨by simp, by simp, rfl⟩
      (.present (.inr rfl) (.bare ⟨by simp, by simp, rfl⟩))
  have size : ((1 : Nat) / 10 ^ ['1'].length * 10 ^ (0 : ℤ) : ℚ) = Decimal.size ⟨true, 1, -1⟩ := by
    norm_num [Decimal.size]
  exact .mk .minus (size ▸ spelled)

theorem describe_least_value_mass :
    (massField "-.1E0").unbounded.describe = .ok massParameter ∧
    (massField "-.1E0").literals.schemaMin ≠ "" ∧
    (massField "-.1E0").describe =
      .ok (massParameter.atLeast (Binary64.ofBits 0xbfb999999999999a)) ∧
    (massField "-iNf").describe = .error (.invalidArgument "schemaMin" "-iNf" "mass"
      "not a finite number") := by
  have valid (literal : String) : (massField literal).unbounded.describe = .ok massParameter := rfl
  have finite : (Binary64.ofDecimal ⟨true, 1, -1⟩).isFinite = true := by decide +kernel
  have bits : Binary64.ofBits 0xbfb999999999999a = Binary64.ofDecimal ⟨true, 1, -1⟩ := by
    decide +kernel
  refine ⟨valid _, by decide, ?_, ?_⟩
  · refine ((describe_least_value (valid "-.1E0") (by decide)).1 _).mpr
      ⟨true, _, _, spells_minusTenth, ?_, ?_, ?_, rfl⟩
    · rw [Decimal.abs_value]
      exact Binary64.isFinite_ofDecimal_iff.mp finite
    · rw [bits]
      rfl
    · rw [bits]
      exact Binary64.isNearest_ofDecimal finite
  · refine (describe_least_value (valid "-iNf") (by decide)).2.2.1.mpr (.inl ?_)
    have name : InAnyCase "inf".toList ['i', 'N', 'f'] :=
      .cons (.inl rfl) (.cons (.inr rfl) (.cons (.inl rfl) .nil))
    exact .mk .minus (by decide) name

end RequestParams
