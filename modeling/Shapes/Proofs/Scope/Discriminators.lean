import Shapes.Proofs.Scope.Nodes
import Shapes.Proofs.Scope.Freezing
import Shapes.Proofs.Reading
import Shapes.Proofs.Writing

/-!
What freezing makes sure of about discriminator fields. It compares representations, and a choice has the
representation of an untyped document although it only reads objects. So a discriminator field that is
accepted holds the keys unless it is itself a choice, and then nothing ever selects its object.
-/

namespace Shapes

namespace Shape

variable {registry : Registry} {shape : Shape} {key : Discriminant}

/-- A field of that shape can hold a key: the key is read there, and what was read is written as a
document of the key. -/
def HoldsKey (registry : Registry) (shape : Shape) (key : Discriminant) : Prop :=
  ∃ value json, (read registry shape key.toJson).result = .ok value ∧
    (write registry shape value).result = .ok json ∧ key.kind.coerce json = some key

theorem holdsKey_any : HoldsKey registry .any key :=
  ⟨.any key.toJson, key.toJson, readNested_eq_ok_iff.2 .any, rfl, KeyKind.coerce_toJson key⟩

theorem holdsKey_int (k : Int64) : HoldsKey registry .int (.int k) := by
  refine ⟨.int k, .ofInt64 k, readNested_eq_ok_iff.2 (.int (Number.toInt64?_ofInt64 k)), rfl, ?_⟩
  exact KeyKind.coerce_toJson (.int k)

theorem holdsKey_string (s : String) : HoldsKey registry .string (.string s) :=
  ⟨.string s, .string s, rfl, rfl, rfl⟩

/-- Choices read no document that a key is read from. -/
theorem not_reads_oneOf {c : OneOf} {budget : Nat} {raw : Json} {value : Value} {kind : KeyKind}
    (hkey : kind.coerce raw = some key) : ¬ Reads registry none budget (.oneOf c) raw value := by
  intro hreads
  cases hreads with
  | object hobject => cases hobject
  | oneOf => cases kind <;> cases hkey

theorem not_holdsKey_oneOf (c : OneOf) : ¬ HoldsKey registry (.oneOf c) key := by
  rintro ⟨value, _, hread, _, _⟩
  exact not_reads_oneOf (KeyKind.coerce_toJson key) (readNested_eq_ok_iff.1 hread)

/-- A shape whose representation is that of the keys, or open, holds them unless it is a choice. -/
theorem holdsKey_iff
    (hadmits : shape.representation = key.kind.representation ∨ shape.representation = .any) :
    shape.HoldsKey registry key ↔ ∀ c, shape ≠ .oneOf c := by
  constructor
  · rintro hholds c rfl
    exact not_holdsKey_oneOf c hholds
  · intro hchoice
    cases shape with
    | any => exact holdsKey_any
    | int =>
      cases key with
      | int k => exact holdsKey_int k
      | string s =>
        simp [representation, Discriminant.kind, KeyKind.representation] at hadmits
    | string =>
      cases key with
      | int k =>
        simp [representation, Discriminant.kind, KeyKind.representation] at hadmits
      | string s => exact holdsKey_string s
    | oneOf c => exact absurd rfl (hchoice c)
    | _ => cases key <;> simp [representation, Discriminant.kind, KeyKind.representation] at hadmits

/-- No document selects an object that declares the discriminator field as a choice. -/
theorem not_selected_of_oneOf {c d : OneOf} {r : Reference} {o : ObjectShape}
    {property : Property Shape} (htarget : c.target? key = some r)
    (hobject : r.target? registry = some o) (hproperty : o.property? c.field = some property)
    (hshape : property.shape = .oneOf d) (input : Json) (inner : Value) :
    (read registry (.oneOf c) input).result ≠ .ok (.oneOf key inner) := by
  intro hread
  cases reads_of_readNested hread with
  | oneOf hfield hkey hown hinner =>
    rw [htarget] at hown
    cases hown
    cases hinner with
    | object hother _ hfields _ =>
      have hown : r.target? registry = some _ := hother
      rw [hobject] at hown
      cases hown
      have hpresent := Json.present?_of_coerce hfield hkey
      have hcontent := hfields _ (Fields.mem_of_get? hproperty) _ _
        (Property.source?_eq_some_iff.2 (Or.inl ⟨hpresent, rfl⟩))
      rw [hshape] at hcontent
      exact not_reads_oneOf hkey hcontent

end Shape

/-- In a frozen scope a discriminator field that the selected object declares holds the key, unless it is
declared as a choice. -/
theorem Registry.freeze_holdsKey_iff {registry registry' : Registry} {root : String}
    {objects : List ObjectShape} {scope : Scope}
    (hfreeze : (registry.freeze root objects).result = .ok (scope, registry')) {owner : ObjectShape}
    (howner : owner ∈ scope.objects) {c : OneOf}
    (hencloses : (Shape.object owner).Encloses (.oneOf c)) {key : Discriminant} {r : Reference}
    (hvariant : (key, r) ∈ c.variants) (now : Registry) :
    ∃ o, scope.object? r.id = some o ∧ ∀ property, o.property? c.field = some property →
      (property.shape.HoldsKey now key ↔ ∀ d, property.shape ≠ .oneOf d) := by
  have hconsistent := ScopeOf.consistent_of_freeze hfreeze
  have hnode : .oneOf c ∈ scope.nodes := by
    rcases ScopeOf.mem_nodes_of_encloses howner hencloses with heq | hnode
    · cases heq
    · exact hnode
  obtain ⟨o, hobject⟩ :=
    hconsistent.declared r (ScopeOf.mem_references_of_variant hnode hvariant)
  refine ⟨o, hobject, fun property hproperty => Shape.holdsKey_iff ?_⟩
  have hkind : key.kind = c.kind := c.uniform _ hvariant
  rw [hkind]
  exact hconsistent.admits c hnode _ hvariant o hobject property hproperty

namespace Parcels

open Registry Shape

/-- The content of a parcel, by what it says it is. -/
def content : OneOf where
  field := "kind"
  kind := .string
  variants := [(.string "parcel", { id := "Parcel" }), (.string "letter", { id := "Letter" })]
  uniform := by decide
  distinct := by decide

/-- A parcel declares its kind as a choice. -/
def parcel : ObjectShape where
  id := "Parcel"
  properties := [("kind", { shape := .oneOf content }), ("content", { shape := .oneOf content })]

/-- A letter declares its kind as a text. -/
def letter : ObjectShape where
  id := "Letter"
  properties := [("kind", { shape := .string })]

def parcels : Scope := ⟨0, "Parcel", [bindObject 0 parcel, bindObject 0 letter]⟩

def registry : Registry := ⟨1, [parcels]⟩

private theorem freeze_parcels :
    (freeze {} "Parcel" [parcel, letter]).result = .ok (parcels, registry) := rfl

private theorem encloses_content :
    (Shape.object (bindObject 0 parcel)).Encloses (.oneOf (content.bind 0)) :=
  encloses_iff.2 (by simp [parcel, bindObject, bindProperties, bindProperty, Shape.bind, nodes,
    objectNodes, propertiesNodes, propertyNodes])

/-- The kind of a letter holds the key of letters. -/
theorem freeze_holdsKey_iff_letter :
    (freeze {} "Parcel" [parcel, letter]).result = .ok (parcels, registry) ∧
    bindObject 0 parcel ∈ parcels.objects ∧
    (Shape.object (bindObject 0 parcel)).Encloses (.oneOf (content.bind 0)) ∧
    (.string "letter", { id := "Letter", scope := some 0 }) ∈ (content.bind 0).variants ∧
    Shape.string.HoldsKey registry (.string "letter") := by
  have howner : bindObject 0 parcel ∈ parcels.objects := List.mem_cons_self ..
  have hvariant : (.string "letter", { id := "Letter", scope := some 0 }) ∈ (content.bind 0).variants :=
    List.mem_cons_of_mem _ (List.mem_cons_self ..)
  obtain ⟨o, hobject, hholds⟩ :=
    freeze_holdsKey_iff freeze_parcels howner encloses_content hvariant registry
  cases hobject
  refine ⟨freeze_parcels, howner, encloses_content, hvariant, ?_⟩
  exact (hholds { shape := .string } rfl).2 fun d hchoice => by cases hchoice

def nestedInput : Json := .object [("content", .object [("kind", .string "parcel")])]

/-- A scope is frozen although an object that a choice selects declares the discriminator field such that
it holds no key. No document selects that object. -/
theorem frozen_holds_no_key :
    (freeze {} "Parcel" [parcel, letter]).result = .ok (parcels, registry) ∧
    bindObject 0 parcel ∈ parcels.objects ∧
    (Shape.object (bindObject 0 parcel)).Encloses (.oneOf (content.bind 0)) ∧
    (content.bind 0).target? (.string "parcel") = some { id := "Parcel", scope := some 0 } ∧
    parcels.object? "Parcel" = some (bindObject 0 parcel) ∧
    (bindObject 0 parcel).property? "kind" = some { shape := .oneOf (content.bind 0) } ∧
    ¬ (Shape.oneOf (content.bind 0)).HoldsKey registry (.string "parcel") ∧
    (read registry (.scope parcels) nestedInput).result =
      .error (.failed (.inField "content" (.inField "kind"
        (.invalidInput ("object with discriminator field " ++ Text.quote "kind") "string")))) ∧
    ∀ input inner,
      (read registry (.oneOf (content.bind 0)) input).result ≠ .ok (.oneOf (.string "parcel") inner) := by
  have htarget : (content.bind 0).target? (.string "parcel") =
      some { id := "Parcel", scope := some 0 } := rfl
  exact ⟨freeze_parcels, List.mem_cons_self .., encloses_content, htarget, rfl, rfl,
    not_holdsKey_oneOf _, rfl, not_selected_of_oneOf htarget rfl rfl rfl⟩

end Parcels

end Shapes
