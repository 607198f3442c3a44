import Shapes.Proofs.Decimal.Finite
import Shapes.Proofs.Object.Contents
import Shapes.Proofs.Reading
import Shapes.Proofs.Writing

/-!
The discriminator of a choice. Whether the selected object declares the field or not, its document has
the key that selected it, or no entry of that name.
-/

namespace Shapes

namespace Shape

variable {registry : Registry} {budget : Nat} {shape : Shape}

/-- An object writes a value of its own as the entries for the fields that are present. -/
theorem writes_object_iff {o : ObjectShape} (hobject : shape.object? registry = some o) {id : String}
    {fields : Fields Value} {json : Json} :
    Writes registry shape (.object id fields) json ↔
      id = o.id ∧ (∀ name ∈ Fields.names fields, o.declares name = true) ∧
        o.Obeys (Value.isPresent fields) ∧
        ∃ document, json = .object (o.entriesOf (Value.isPresent fields) document) ∧
          ∀ field ∈ o.properties, ∀ content, Value.present? fields field.1 = some content →
            Writes registry field.2.shape content (document field) := by
  rw [← write_eq_ok_iff, result_write_of_object? hobject, ObjectOf.write_eq_ok_iff]
  simp only [write_eq_ok_iff]

/-- A field writes the key that was read from it, unless it is a float that rounds the key. -/
theorem coerce_of_writes {kind : KeyKind} {key : Discriminant} {raw found : Json} {value : Value}
    (hkeeps : shape = .float → ∀ k, key = .int k →
      int64OfFloat? (Number.ofInt64 k).toFloat = some k)
    (hkey : kind.coerce raw = some key) (hreads : Reads registry none budget shape raw value)
    (hwrites : Writes registry shape value found) : kind.coerce found = some key := by
  cases hreads with
  | any =>
    cases hwrites
    exact hkey
  | string =>
    cases hwrites
    exact hkey
  | @int _ n k hinteger =>
    cases hwrites
    cases kind with
    | int =>
      simp only [KeyKind.coerce, hinteger, Option.map_some, Option.some.injEq] at hkey
      subst hkey
      exact KeyKind.coerce_toJson (.int k)
    | string => cases hkey
  | @float _ n =>
    cases hwrites with
    | float hfinite =>
      cases kind with
      | int =>
        simp only [KeyKind.coerce, Option.map_eq_some_iff] at hkey ⊢
        obtain ⟨k, hk, rfl⟩ := hkey
        refine ⟨k, ?_, rfl⟩
        rw [Number.ofFloat?_toFloat] at hfinite
        cases hfinite
        cases n with
        | integer i range =>
          obtain rfl := int64?_eq_some_iff.1 hk
          exact hkeeps rfl k rfl
        | float x finite => exact hk
      | string => cases hkey
  | _ => cases kind <;> cases hkey

/-- The document of a selected object has the key that was read, if the object declares the
discriminator field, and else no such entry. -/
theorem discriminator_of_writes {c : OneOf} {key : Discriminant} {r : Reference} {o : ObjectShape}
    {entries : Fields Json} {raw document : Json} {inner : Value}
    (hobject : r.target? registry = some o) (hdistinct : o.Distinct) (hkeeps : c.Keeps key o)
    (hfield : Fields.get? entries c.field = some raw) (hkey : c.kind.coerce raw = some key)
    (hinner : Reads registry (some c.field) budget (.ref r) (.object entries) inner)
    (hwrites : Writes registry (.ref r) inner document) :
    ∃ written, document = .object written ∧
      ((o.declares c.field = false ∧ Fields.get? written c.field = none) ∨
        ∃ found, Fields.get? written c.field = some found ∧ c.kind.coerce found = some key) := by
  have htarget : (Shape.ref r).object? registry = some o := hobject
  cases hinner with
  | object hown haccepts hread _ =>
    rw [htarget] at hown
    cases hown
    obtain ⟨_, _, _, part, rfl, hparts⟩ := (writes_object_iff htarget).1 hwrites
    refine ⟨_, rfl, ?_⟩
    cases hdeclares : o.declares c.field with
    | false => exact Or.inl ⟨rfl, ObjectOf.get?_entriesOf_of_undeclared hdeclares⟩
    | true =>
      obtain ⟨property, hmem⟩ := ObjectOf.declares_iff.1 hdeclares
      have hpresent := Json.present?_of_coerce hfield hkey
      have hcontent := hread _ hmem budget raw
        (Property.source?_eq_some_iff.2 (Or.inl ⟨hpresent, rfl⟩))
      have hheld := (ObjectOf.present?_fieldsOf_eq_some_iff hdistinct hmem).2
        ⟨rfl, hcontent.isNull_eq_false⟩
      refine Or.inr ⟨part (c.field, property), ?_, ?_⟩
      · rw [ObjectOf.get?_entriesOf hdistinct hmem, ObjectOf.isPresent_fieldsOf hdistinct hmem,
          hcontent.isNull_eq_false]
        rfl
      · have hproperty := Fields.get?_of_mem hdistinct hmem
        exact coerce_of_writes (hkeeps property hproperty) hkey hcontent (hparts _ hmem _ hheld)

end Shape

end Shapes
