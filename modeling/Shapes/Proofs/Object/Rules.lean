import Mathlib.Logic.Basic
import Mathlib.Tactic.ByContra
import Shapes.Proofs.Fields
import Shapes.Shape.Object

/-!
The presence rules of objects. They speak about a set of present fields, and reading and writing
judge different sets: reading the entries that were given, writing the fields that are held once
defaults stand in for absent entries. This module says when the rules agree on the two.
-/

namespace Shapes

namespace Property

variable {σ : Type} {property : Property σ} {present : String → Bool}

theorem conflict?_eq_none_iff :
    property.conflict? present = none ↔ ∀ other ∈ property.conflicts, present other = false := by
  simp [conflict?, List.find?_eq_none]

theorem isRequired_eq_false_iff :
    property.isRequired present = false ↔
      property.required = false ∧ (∀ other ∈ property.requiredIf, present other = false) ∧
        (property.requiredIfNot = [] ∨ ∃ other ∈ property.requiredIfNot, present other = true) := by
  simp only [isRequired, Bool.or_eq_false_iff, List.any_eq_false, Bool.not_eq_true,
    Bool.and_eq_false_imp, Bool.not_eq_true', List.isEmpty_eq_false_iff, Bool.not_eq_false',
    List.any_eq_true, and_assoc]
  by_cases hempty : property.requiredIfNot = [] <;> simp [hempty]

/-- The rules of a field of that name: when present it excludes no present field, and when absent it
is not required. -/
def Obeys (property : Property σ) (present : String → Bool) (name : String) : Prop :=
  if present name then property.conflict? present = none else property.isRequired present = false

theorem obeys_iff_of_present {name : String} (hpresent : present name = true) :
    property.Obeys present name ↔ property.conflict? present = none := by
  rw [Obeys, if_pos hpresent]

theorem obeys_iff_of_absent {name : String} (habsent : present name = false) :
    property.Obeys present name ↔ property.isRequired present = false := by
  rw [Obeys, if_neg (by simp [habsent])]

end Property

namespace ObjectOf

variable {σ : Type} {o : ObjectOf σ} {given held : String → Bool}

/-- The presence rules of all fields hold. -/
def Obeys (o : ObjectOf σ) (present : String → Bool) : Prop :=
  ∀ field ∈ o.properties, field.2.Obeys present field.1

theorem declares_iff {name : String} :
    o.declares name = true ↔ ∃ property, (name, property) ∈ o.properties := by
  rw [declares, property?, Option.isSome_iff_ne_none, Ne, Fields.get?_eq_none_iff, not_not]
  simp [Fields.names]

/-- No two fields of an object share a name, as its declaration has checked. -/
def Distinct (o : ObjectOf σ) : Prop :=
  Fields.Distinct o.properties

instance (o : ObjectOf σ) : Decidable o.Distinct :=
  inferInstanceAs (Decidable (Fields.Distinct o.properties))

/-- Declaring an object succeeds iff no two of its fields share a name. -/
theorem declare_eq_ok_iff {id : String} {properties : List (String × Property σ)}
    {allowUnknown : Bool} : declare id properties allowUnknown = .ok o ↔
      Fields.Distinct properties ∧ o = ⟨id, properties, allowUnknown⟩ := by
  have hrepeated : firstRepeated? [] (properties.map Prod.fst) = none ↔ Fields.Distinct properties := by
    rw [firstRepeated?_eq_none_iff]
    exact and_iff_left (by simp)
  unfold declare
  split
  · rename_i field hfield
    rw [hfield] at hrepeated
    have hnot : ¬ Fields.Distinct properties := fun hdistinct => by cases hrepeated.2 hdistinct
    simp [hnot]
  · rename_i hnone
    rw [Except.ok.injEq, and_iff_right (hrepeated.1 hnone), eq_comm]

/-- Rules that hold of the given fields hold of the held ones, if fields that exclude each other were
both given, and a field that is not held was not given and finds its conditions unchanged. -/
theorem Obeys.transfer (hobeys : o.Obeys given)
    (hconflicts : ∀ field ∈ o.properties, held field.1 = true → ∀ other ∈ field.2.conflicts,
      held other = true → given field.1 = true ∧ given other = true)
    (habsent : ∀ field ∈ o.properties, held field.1 = false → given field.1 = false ∧
      (∀ other ∈ field.2.requiredIf, held other = true → given other = true) ∧
      ∀ other ∈ field.2.requiredIfNot, given other = true → held other = true) :
    o.Obeys held := by
  intro field hmem
  have hrules := hobeys field hmem
  cases hheld : held field.1 with
  | true =>
    rw [Property.obeys_iff_of_present hheld, Property.conflict?_eq_none_iff]
    intro other hother
    by_contra hpresent
    obtain ⟨hgiven, hgivenOther⟩ :=
      hconflicts field hmem hheld other hother (by simpa using hpresent)
    rw [Property.obeys_iff_of_present hgiven, Property.conflict?_eq_none_iff] at hrules
    simp [hrules other hother] at hgivenOther
  | false =>
    obtain ⟨hgiven, hrequiredIf, hrequiredIfNot⟩ := habsent field hmem hheld
    rw [Property.obeys_iff_of_absent hgiven, Property.isRequired_eq_false_iff] at hrules
    obtain ⟨hrequired, hif, hifNot⟩ := hrules
    rw [Property.obeys_iff_of_absent hheld, Property.isRequired_eq_false_iff]
    refine ⟨hrequired, fun other hother => ?_, ?_⟩
    · by_contra hpresent
      have hgivenOther := hrequiredIf other hother (by simpa using hpresent)
      simp [hif other hother] at hgivenOther
    · rcases hifNot with hempty | ⟨other, hother, hpresent⟩
      · exact Or.inl hempty
      · exact Or.inr ⟨other, hother, hrequiredIfNot other hother hpresent⟩

theorem Obeys.required_eq_false (hobeys : o.Obeys given) {field : String × Property σ}
    (hmem : field ∈ o.properties) (habsent : given field.1 = false) : field.2.required = false := by
  have hrules := hobeys field hmem
  rw [Property.obeys_iff_of_absent habsent, Property.isRequired_eq_false_iff] at hrules
  exact hrules.1

/-- Filling in defaults cannot break the rules: a field that may be filled in neither excludes a
declared field nor is excluded, a field that may stay absent is not required because one was filled
in, nor allowed to be absent by a field that is not declared. -/
structure SafeToFill (o : ObjectOf σ) : Prop where
  excludesNone : ∀ field ∈ o.properties, field.2.required = false → field.2.default ≠ none →
    ∀ other ∈ field.2.conflicts, o.declares other = false
  notExcluded : ∀ field ∈ o.properties, field.2.required = false → field.2.default ≠ none →
    ∀ other ∈ o.properties, field.1 ∉ other.2.conflicts
  requiresNone : ∀ field ∈ o.properties, field.2.required = false → field.2.default ≠ none →
    ∀ other ∈ o.properties, other.2.required = false → other.2.default = none →
      field.1 ∉ other.2.requiredIf
  excused : ∀ field ∈ o.properties, field.2.required = false → field.2.default = none →
    ∀ other ∈ field.2.requiredIfNot, o.declares other = true

/-- If defaults are safe to fill in, the rules hold of the filled object when they hold of the
entries. -/
theorem SafeToFill.obeys (hsafe : o.SafeToFill) (hobeys : o.Obeys given)
    (hheld : ∀ field ∈ o.properties,
      held field.1 = true ↔ given field.1 = true ∨ field.2.default ≠ none)
    (hundeclared : ∀ name, o.declares name = false → held name = false) : o.Obeys held := by
  have hdeclared : ∀ {name}, held name = true → ∃ property, (name, property) ∈ o.properties := by
    intro name hname
    rw [← declares_iff]
    by_contra hnot
    simp [hundeclared name (by simpa using hnot)] at hname
  apply hobeys.transfer
  · intro field hmem hfield other hother hpresent
    obtain ⟨property, hproperty⟩ := hdeclared hpresent
    constructor
    · by_contra habsent
      have habsent : given field.1 = false := by simpa using habsent
      have hdefault := ((hheld field hmem).1 hfield).resolve_left (by simp [habsent])
      have hnot := hsafe.excludesNone field hmem (hobeys.required_eq_false hmem habsent) hdefault
        other hother
      simp [declares_iff.2 ⟨property, hproperty⟩] at hnot
    · by_contra habsent
      have habsent : given other = false := by simpa using habsent
      have hdefault := ((hheld _ hproperty).1 hpresent).resolve_left (by simp [habsent])
      exact hsafe.notExcluded _ hproperty (hobeys.required_eq_false hproperty habsent) hdefault
        field hmem hother
  · intro field hmem hfield
    have hneither := mt (hheld field hmem).2 (by simp [hfield])
    rw [not_or, not_not] at hneither
    have habsent : given field.1 = false := by simpa using hneither.1
    have hrequired := hobeys.required_eq_false hmem habsent
    refine ⟨habsent, fun other hother hpresent => ?_, fun other hother hpresent => ?_⟩
    · obtain ⟨property, hproperty⟩ := hdeclared hpresent
      by_contra hnot
      have hnot : given other = false := by simpa using hnot
      have hdefault := ((hheld _ hproperty).1 hpresent).resolve_left (by simp [hnot])
      exact hsafe.requiresNone _ hproperty (hobeys.required_eq_false hproperty hnot) hdefault field
        hmem hrequired hneither.2 hother
    · obtain ⟨property, hproperty⟩ :=
        declares_iff.1 (hsafe.excused field hmem hrequired hneither.2 other hother)
      exact (hheld _ hproperty).2 (Or.inl hpresent)

/-- The presence rules name declared fields only. -/
def RulesLocal (o : ObjectOf σ) : Prop :=
  ∀ field ∈ o.properties, ∀ other ∈ field.2.requiredIf ++ field.2.requiredIfNot ++ field.2.conflicts,
    o.declares other = true

instance (o : ObjectOf σ) : Decidable o.RulesLocal :=
  inferInstanceAs (Decidable (∀ field ∈ o.properties, ∀ other ∈ _, o.declares other = true))

/-- A field with a default excludes no field, is excluded by none, and no field is required because
of it. -/
def DefaultsApart (o : ObjectOf σ) : Prop :=
  ∀ field ∈ o.properties, field.2.default ≠ none → field.2.conflicts = [] ∧
    ∀ other ∈ o.properties, field.1 ∉ other.2.conflicts ∧ field.1 ∉ other.2.requiredIf

instance (o : ObjectOf σ) : Decidable o.DefaultsApart :=
  inferInstanceAs (Decidable (∀ field ∈ o.properties, field.2.default ≠ none →
    field.2.conflicts = [] ∧ ∀ other ∈ o.properties,
      field.1 ∉ other.2.conflicts ∧ field.1 ∉ other.2.requiredIf))

theorem DefaultsApart.safeToFill (hapart : o.DefaultsApart) (hlocal : o.RulesLocal) :
    o.SafeToFill where
  excludesNone field hmem _ hdefault other hother := by
    rw [(hapart field hmem hdefault).1] at hother
    cases hother
  notExcluded field hmem _ hdefault other hother := ((hapart field hmem hdefault).2 other hother).1
  requiresNone field hmem _ hdefault other hother _ _ :=
    ((hapart field hmem hdefault).2 other hother).2
  excused field hmem _ _ other hother := hlocal field hmem other (by simp [hother])

/-- The rules also hold of any set between the given fields and the filled object. -/
theorem DefaultsApart.obeys (hapart : o.DefaultsApart) (hlocal : o.RulesLocal)
    (hobeys : o.Obeys given)
    (hkept : ∀ field ∈ o.properties, given field.1 = true → held field.1 = true)
    (hfilled : ∀ field ∈ o.properties, held field.1 = true →
      given field.1 = true ∨ field.2.default ≠ none) : o.Obeys held := by
  -- A field that some rule names without excusing another has no default, so it was given.
  have hgiven : ∀ {field other : String × Property σ}, field ∈ o.properties →
      other ∈ o.properties → other.1 ∈ field.2.conflicts ∨ other.1 ∈ field.2.requiredIf →
      held other.1 = true → given other.1 = true := by
    intro field other hmem hother hnamed hpresent
    refine (hfilled other hother hpresent).resolve_right fun hdefault => ?_
    obtain ⟨_, hunnamed⟩ := hapart other hother hdefault
    exact hnamed.elim (hunnamed field hmem).1 (hunnamed field hmem).2
  apply hobeys.transfer
  · intro field hmem hfield name hname hpresent
    obtain ⟨property, hproperty⟩ := declares_iff.1 (hlocal field hmem name (by simp [hname]))
    refine ⟨(hfilled field hmem hfield).resolve_right fun hdefault => ?_,
      hgiven hmem hproperty (Or.inl hname) hpresent⟩
    rw [(hapart field hmem hdefault).1] at hname
    cases hname
  · intro field hmem hfield
    refine ⟨?_, fun name hname hpresent => ?_, fun name hname hpresent => ?_⟩
    · by_contra hnot
      simp [hkept field hmem (by simpa using hnot)] at hfield
    · obtain ⟨property, hproperty⟩ := declares_iff.1 (hlocal field hmem name (by simp [hname]))
      exact hgiven hmem hproperty (Or.inr hname) hpresent
    · obtain ⟨property, hproperty⟩ := declares_iff.1 (hlocal field hmem name (by simp [hname]))
      exact hkept _ hproperty hpresent

end ObjectOf

end Shapes
