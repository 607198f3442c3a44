import Mathlib.Data.List.Nodup
import Shapes.Proofs.Schema.Canonical
import Shapes.Proofs.Schema.Rebuild

/-!
The outline of a schema is what it tells apart from how the keys of its choices are written. The fields and
the objects that are built from a schema have its outlines, so the two have the same schemas in the same
places, and what freezing looks at in the one can be read off the other.
-/

namespace Shapes

namespace Schema

/-- A schema that stands in another, outside the scopes that are nested there. -/
inductive Encloses : Schema → Schema → Prop
  | self {schema : Schema} : Encloses schema schema
  | item {items inner : Schema} (hinner : Encloses items inner) : Encloses (.list items) inner
  | field {o : ObjectSchema} {field : String × Property Schema} {inner : Schema}
      (hmem : field ∈ o.properties) (hinner : Encloses field.2.shape inner) : Encloses (.object o) inner

/-- The representation of the values that a shape of the schema reads. -/
def representation : Schema → Representation
  | .any => .any
  | .bool => .bool
  | .integer => .int
  | .float => .float
  | .string => .string
  | .list items => .list items.representation
  | .object o => .object o.id
  | .ref r => .object r.id
  | .oneOf _ _ => .any
  | .scope s => .object s.root

theorem representation_rewrite (w : Rewriting) (schema : Schema) :
    (rewrite w schema).representation = schema.representation := by
  induction schema using Schema.induction with
  | list items ih => rw [rewrite, representation, representation, ih]
  | object o _ => rw [rewrite, representation, representation, id_rewriteObject]
  | scope s _ => rw [rewrite, representation, representation, rewriteScope_eq]
  | _ => rfl

/-- The keys of choices are forgotten; their number and their targets are not. -/
def forgettingKeys : Rewriting where
  choice _ c := { c with types := c.types.map fun target => ("", target.2) }

/-- The schema without the keys of its choices. -/
def outline (schema : Schema) : Schema :=
  rewrite forgettingKeys schema

end Schema

namespace Shape

open Schema (forgettingKeys rewriteObject rewriteProperty)

variable {shape inner : Shape} {schema part : Schema} {o : ObjectShape} {p : ObjectSchema}

theorem representation_schema (shape : Shape) : shape.schema.representation = shape.representation := by
  induction shape using Shape.induction with
  | list items ih => rw [schema, Schema.representation, representation, ih]
  | object o _ => rw [schema, Schema.representation, representation, id_objectSchema]
  | scope s => rw [schema, Schema.representation, representation, scopeSchema_eq]
  | _ => rfl

/-- A shape has the outline of a schema. -/
def Outlines (shape : Shape) (schema : Schema) : Prop :=
  shape.schema.outline = schema.outline

/-- An object has the outline of the schema of one. -/
def OutlinesObject (o : ObjectShape) (p : ObjectSchema) : Prop :=
  rewriteObject forgettingKeys (objectSchema o) = rewriteObject forgettingKeys p

theorem outlines_object_iff : (Shape.object o).Outlines (.object p) ↔ OutlinesObject o p := by
  rw [Outlines, schema, Schema.outline, Schema.outline, Schema.rewrite, Schema.rewrite,
    Schema.object.injEq, OutlinesObject]

theorem outlines_list_iff {items : Shape} {part : Schema} :
    (Shape.list items).Outlines (.list part) ↔ items.Outlines part := by
  rw [Outlines, schema, Schema.outline, Schema.outline, Schema.rewrite, Schema.rewrite,
    Schema.list.injEq, Outlines, Schema.outline, Schema.outline]

theorem outlines_oneOf_iff {c : OneOf} {kind : KeyKind} {d : OneOfSchema} :
    (Shape.oneOf c).Outlines (.oneOf kind d) ↔ c.kind = kind ∧ c.field = d.field ∧
      (c.variants.map fun variant => variant.2.schema) = d.types.map Prod.snd := by
  have htargets : (c.variants.map fun variant => ("", variant.2.schema)) =
      (d.types.map fun target => ("", target.2)) ↔
        (c.variants.map fun variant => variant.2.schema) = d.types.map Prod.snd := by
    constructor
    · intro hnamed
      have hunnamed := congrArg (List.map Prod.snd) hnamed
      rw [List.map_map, List.map_map] at hunnamed
      exact hunnamed
    · intro htargets
      have hnamed := congrArg (List.map fun target => ("", target)) htargets
      rw [List.map_map, List.map_map] at hnamed
      exact hnamed
  rw [Outlines, schema, Schema.outline, Schema.outline, Schema.rewrite, Schema.rewrite,
    Schema.oneOf.injEq, ← htargets]
  simp only [forgettingKeys, OneOf.schema, OneOfSchema.mk.injEq, List.map_map]
  rfl

/-- What the outline of a field holds. -/
def outlineField (field : String × Property Schema) : String × Property Schema :=
  (field.1, rewriteProperty forgettingKeys field.2)

theorem outlinesObject_iff : OutlinesObject o p ↔ o.id = p.id ∧
    (o.properties.map fun field => outlineField (fieldSchema field)) = p.properties.map outlineField ∧
      o.allowUnknown = p.allowUnknown := by
  rw [OutlinesObject, Schema.rewriteObject_eq, Schema.rewriteObject_eq, objectSchema_eq,
    ObjectOf.mk.injEq, List.map_map]
  rfl

theorem outlines_of_rewriteProperty_eq {property : Property Shape} {other : Property Schema}
    (heq : rewriteProperty forgettingKeys (propertySchema property) = rewriteProperty forgettingKeys other) :
    property.shape.Outlines other.shape := by
  rw [propertySchema_eq, Schema.rewriteProperty_eq, Schema.rewriteProperty_eq] at heq
  exact (Property.mk.inj heq).1

theorem OutlinesObject.id_eq (houtlines : OutlinesObject o p) : o.id = p.id :=
  (outlinesObject_iff.1 houtlines).1

theorem Outlines.representation_eq (houtlines : shape.Outlines schema) :
    shape.representation = schema.representation := by
  rw [← representation_schema, ← Schema.representation_rewrite forgettingKeys]
  exact (congrArg Schema.representation houtlines).trans (Schema.representation_rewrite _ _)

/-- Whatever stands in a shape has the outline of something that stands in the schema. -/
theorem Outlines.exists_part (houtlines : shape.Outlines schema) (hencloses : shape.Encloses inner) :
    ∃ part, schema.Encloses part ∧ inner.Outlines part := by
  induction hencloses generalizing schema with
  | self => exact ⟨schema, .self, houtlines⟩
  | item _ ih =>
    cases schema with
    | list items =>
      obtain ⟨part, hpart, hinner⟩ := ih (outlines_list_iff.1 houtlines)
      exact ⟨part, .item hpart, hinner⟩
    | _ => cases houtlines
  | field hmem _ ih =>
    cases schema with
    | object p =>
      have hfields := (outlinesObject_iff.1 (outlines_object_iff.1 houtlines)).2.1
      obtain ⟨other, hother, hfield⟩ := List.mem_map.1 (hfields ▸ List.mem_map_of_mem hmem)
      obtain ⟨part, hpart, hinner⟩ := ih (outlines_of_rewriteProperty_eq (Prod.mk.inj hfield).2.symm)
      exact ⟨part, .field hother hpart, hinner⟩
    | _ => cases houtlines

/-- Whatever stands in a schema is outlined by something that stands in the shape. -/
theorem Outlines.exists_inner (houtlines : shape.Outlines schema) (hencloses : schema.Encloses part) :
    ∃ inner, shape.Encloses inner ∧ inner.Outlines part := by
  induction hencloses generalizing shape with
  | self => exact ⟨shape, .self, houtlines⟩
  | item _ ih =>
    cases shape with
    | list items =>
      obtain ⟨inner, hinner, hpart⟩ := ih (outlines_list_iff.1 houtlines)
      exact ⟨inner, .item hinner, hpart⟩
    | _ => cases houtlines
  | field hmem _ ih =>
    cases shape with
    | object o =>
      have hfields := (outlinesObject_iff.1 (outlines_object_iff.1 houtlines)).2.1
      obtain ⟨other, hother, hfield⟩ := List.mem_map.1 (hfields ▸ List.mem_map_of_mem hmem)
      obtain ⟨inner, hinner, hpart⟩ := ih (outlines_of_rewriteProperty_eq (Prod.mk.inj hfield).2)
      exact ⟨inner, .field hother hinner, hpart⟩
    | _ => cases houtlines

/-- Fields of one name have one outline, or are declared neither here nor there. -/
theorem OutlinesObject.property?_eq (houtlines : OutlinesObject o p) (name : String) :
    (o.property? name).map (fun property => rewriteProperty forgettingKeys (propertySchema property)) =
      (p.property? name).map (rewriteProperty forgettingKeys) := by
  have hfields := (outlinesObject_iff.1 houtlines).2.1
  rw [ObjectOf.property?, ObjectOf.property?, ← Fields.get?_map, ← Fields.get?_map]
  exact congrArg (Fields.get? · name) hfields

end Shape

namespace Schema

open Shape (Outlines OutlinesObject outlineField)

variable {registry later : Registry}

/-- Nothing is known of keys in an outline, so it does not matter how they were written. -/
theorem forgettingKeys_after_canonicalKeys : forgettingKeys.after canonicalKeys = forgettingKeys := by
  simp only [Rewriting.after, forgettingKeys, canonicalKeys, List.map_map, Function.comp_def]
  rfl

theorem outlineField_canonical (field : String × Property Schema) :
    outlineField (field.1, rewriteProperty canonicalKeys field.2) = outlineField field := by
  rw [outlineField, rewriteProperty_after (rewrite_after ..), forgettingKeys_after_canonicalKeys, outlineField]

theorem rewriteObject_canonical (o : ObjectSchema) :
    rewriteObject forgettingKeys (rewriteObject canonicalKeys o) = rewriteObject forgettingKeys o := by
  rw [rewriteObject_after fun field _ => rewrite_after .., forgettingKeys_after_canonicalKeys]

theorem outline_of_buildProperties {properties : List (String × Property Schema)}
    {built : List (String × Property Shape)}
    (hbuild : (buildProperties properties registry).result = .ok (built, later)) :
    (built.map fun field => outlineField (Shape.fieldSchema field)) = properties.map outlineField := by
  have hfields := congrArg (List.map outlineField) (fieldSchemas_of_buildProperties hbuild)
  rw [List.map_map, List.map_map] at hfields
  exact hfields.trans (List.map_congr_left fun field _ => outlineField_canonical field)

/-- The objects of a scope stand under their ids, and what is built has their outlines. -/
theorem outline_of_buildObjects {objects : List (String × ObjectSchema)}
    {built : List ObjectShape}
    (hbuild : (buildObjects objects registry).result = .ok (built, later)) :
    (∀ entry ∈ objects, entry.1 = entry.2.id) ∧ List.Forall₂ (fun o entry => OutlinesObject o entry.2)
      built objects := by
  have hentries := objectSchemas_of_buildObjects hbuild
  constructor
  · intro entry hmem
    obtain ⟨o, -, heq⟩ := List.mem_map.1 (hentries ▸ List.mem_map_of_mem hmem)
    obtain ⟨hkey, hschema⟩ := Prod.mk.inj heq
    rw [← hkey, ← Shape.id_objectSchema, hschema, id_rewriteObject]
  · rw [← List.forall₂_eq_eq_eq, List.forall₂_map_left_iff, List.forall₂_map_right_iff] at hentries
    refine hentries.imp fun o entry heq => ?_
    rw [OutlinesObject, (Prod.mk.inj heq).2, rewriteObject_canonical]

end Schema

namespace OneOfSchema

variable {kind : KeyKind} {field : String} {types : Fields RefSchema} {c : OneOfSchema} {d : OneOf}

/-- Entries are read as variants if all their names are keys. -/
private theorem exists_variants (field : String) (hkeys : ∀ target ∈ types, (kind.parse? target.1).isSome) :
    ∃ found, variants kind field types = .ok found := by
  induction types with
  | nil => exact ⟨_, rfl⟩
  | cons target rest ih =>
    obtain ⟨name, r⟩ := target
    obtain ⟨hkey, hrest⟩ := List.forall_mem_cons.1 hkeys
    obtain ⟨others, hothers⟩ := ih hrest
    rw [variants]
    split
    · rename_i hnone
      rw [hnone] at hkey
      cases hkey
    · rw [hothers]
      exact ⟨_, rfl⟩

/-- A choice can be built iff all names are keys and no key is named twice. -/
theorem exists_toOneOf_iff : (∃ d, c.toOneOf kind = .ok d) ↔
    (∀ target ∈ c.types, (kind.parse? target.1).isSome) ∧
      (c.types.map fun target => kind.parse? target.1).Nodup := by
  have hdistinct : ∀ {found : List (Discriminant × Reference)},
      (found.map fun variant => some variant.1) = (c.types.map fun target => kind.parse? target.1) →
      ((found.map Prod.fst).Nodup ↔ (c.types.map fun target => kind.parse? target.1).Nodup) := by
    intro found hkeys
    have hinjective : Function.Injective (some : Discriminant → Option Discriminant) :=
      fun _ _ => Option.some.inj
    rw [← hkeys, ← List.nodup_map_iff hinjective, List.map_map]
    rfl
  constructor
  · rintro ⟨d, hbuild⟩
    unfold toOneOf at hbuild
    split at hbuild
    · cases hbuild
    · rename_i found hfound
      obtain ⟨hnodup, -⟩ := OneOf.declare_eq_ok_iff.1 hbuild
      have hkeys := (variants_eq_ok hfound).1
      refine ⟨fun target hmem => ?_, (hdistinct hkeys).1 hnodup⟩
      obtain ⟨variant, -, hkey⟩ := List.mem_map.1 (hkeys ▸ List.mem_map_of_mem hmem :
        kind.parse? target.1 ∈ found.1.map fun variant => some variant.1)
      rw [← hkey]
      rfl
  · rintro ⟨hkeys, hnodup⟩
    obtain ⟨found, hfound⟩ := exists_variants c.field hkeys
    refine ⟨⟨c.field, kind, found.1, found.2, (hdistinct (variants_eq_ok hfound).1).2 hnodup⟩, ?_⟩
    rw [toOneOf, hfound]
    exact OneOf.declare_eq_ok_iff.2 ⟨_, rfl⟩

end OneOfSchema

namespace Schema

open Shape (Outlines OutlinesObject)

/-- Objects stand in the outline of a scope as they do in the outline of its schema. -/
theorem entries_eq_of_outlines {built : List ObjectShape} {objects : List (String × ObjectSchema)}
    (houtlines : List.Forall₂ (fun o entry => OutlinesObject o entry.2) built objects)
    (hkeys : ∀ entry ∈ objects, entry.1 = entry.2.id) :
    (built.map fun o => (o.id, rewriteObject forgettingKeys (Shape.objectSchema o))) =
      objects.map fun entry => (entry.1, rewriteObject forgettingKeys entry.2) := by
  induction houtlines with
  | nil => rfl
  | cons houtline _ ih =>
    obtain ⟨hkey, hkeys⟩ := List.forall_mem_cons.1 hkeys
    rw [List.map_cons, List.map_cons, ih hkeys, houtline.id_eq, hkey, houtline]

end Schema

end Shapes
