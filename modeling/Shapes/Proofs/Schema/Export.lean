import Mathlib.Data.List.Forall2
import Shapes.Proofs.Scope.Freezing
import Shapes.Schema.Export

/-!
What a schema tells of the shapes that have it. They may differ in the handles of their scopes and in the
scopes that their references are bound to. What freezing judges, and how far defaults may be nested, does
not depend on these.
-/

namespace Shapes

section Lists

variable {α β γ : Type} {f : α → β} {items others : List α}

/-- Items in the same place of lists with the same images have the same image. -/
theorem apply_eq_of_mem_zip (himages : items.map f = others.map f) {pair : α × α}
    (hmem : pair ∈ items.zip others) : f pair.1 = f pair.2 := by
  have hpaired : List.Forall₂ (fun a b => f a = f b) items others := by
    rw [← List.forall₂_map_right_iff, ← List.forall₂_map_left_iff, List.forall₂_eq_eq_eq]
    exact himages
  exact List.forall₂_zip hpaired hmem

/-- Lists with the same images under a function have the same images under what it determines. -/
theorem map_eq_of_map_eq {g g' : α → γ} (himages : items.map f = others.map f)
    (hdetermined : ∀ a ∈ items, ∀ b ∈ others, f a = f b → g a = g' b) :
    items.map g = others.map g' := by
  induction items generalizing others with
  | nil =>
    obtain rfl := List.map_eq_nil_iff.1 himages.symm
    rfl
  | cons a rest ih =>
    obtain ⟨b, others, rfl, hb, hothers⟩ := List.map_eq_cons_iff.1 himages.symm
    have hrest := ih hothers.symm fun item hitem other hother =>
      hdetermined item (List.mem_cons_of_mem a hitem) other (List.mem_cons_of_mem b hother)
    rw [List.map_cons, List.map_cons, hrest, hdetermined a (by simp) b (by simp) hb.symm]

/-- The first image there is, of lists with the same images. -/
theorem findSome?_eq_of_map_eq {g g' : α → Option γ} (himages : items.map g = others.map g') :
    items.findSome? g = others.findSome? g' := by
  have hid : ∀ (g : α → Option γ) (list : List α), list.findSome? g = (list.map g).findSome? id := by
    intro g list
    rw [List.findSome?_map]
    rfl
  rw [hid, hid, himages]

end Lists

/-- The text of a key is read as the key. -/
theorem KeyKind.parse?_text (key : Discriminant) : key.kind.parse? key.text = some key := by
  cases key with
  | int k => simp [Discriminant.kind, Discriminant.text, KeyKind.parse?, Text.int64?_ofInt64]
  | string s => rfl

theorem Discriminant.eq_of_text_eq {key other : Discriminant} (hkind : key.kind = other.kind)
    (htext : key.text = other.text) : key = other := by
  have hparse := KeyKind.parse?_text key
  rw [hkind, htext, KeyKind.parse?_text] at hparse
  exact (Option.some.inj hparse).symm

namespace OneOf

variable {c d : OneOf}

/-- Choices of one schema have the same keys in the same order. -/
theorem keys_eq_of_schema_eq (hkind : c.kind = d.kind) (hschema : c.schema = d.schema) :
    c.keys = d.keys := by
  have hvariants := (OneOfSchema.mk.inj hschema).2
  refine map_eq_of_map_eq hvariants fun v hv w hw hentry => ?_
  refine Discriminant.eq_of_text_eq ?_ (Prod.mk.inj hentry).1
  rw [c.uniform v hv, d.uniform w hw, hkind]

end OneOf

namespace Shape

variable {a b : Shape} {o p : ObjectShape}

/-- The schema of a declared field. -/
def fieldSchema (field : String × Property Shape) : String × Property Schema :=
  (field.1, propertySchema field.2)

theorem propertySchema_eq (property : Property Shape) :
    propertySchema property = ⟨property.shape.schema, property.required, property.default,
      property.requiredIf, property.requiredIfNot, property.conflicts, property.label⟩ := by
  cases property
  rfl

theorem objectSchema_eq (o : ObjectShape) :
    objectSchema o = ⟨o.id, o.properties.map fieldSchema, o.allowUnknown⟩ := by
  obtain ⟨id, properties, allowUnknown⟩ := o
  simp only [objectSchema, ObjectOf.mk.injEq, true_and, and_true]
  induction properties with
  | nil => rfl
  | cons field rest ih =>
    obtain ⟨name, property⟩ := field
    rw [propertiesSchema, ih]
    rfl

@[simp] theorem id_objectSchema (o : ObjectShape) : (objectSchema o).id = o.id := by
  rw [objectSchema_eq]

theorem objectSchema_eq_iff : objectSchema o = objectSchema p ↔
    o.id = p.id ∧ o.properties.map fieldSchema = p.properties.map fieldSchema ∧
      o.allowUnknown = p.allowUnknown := by
  rw [objectSchema_eq, objectSchema_eq, ObjectOf.mk.injEq]

theorem scopeSchema_eq (s : Scope) :
    scopeSchema s = ⟨s.objects.map fun o => (o.id, objectSchema o), s.root⟩ := by
  obtain ⟨handle, root, objects⟩ := s
  simp only [scopeSchema, ScopeSchemaOf.mk.injEq, and_true]
  induction objects with
  | nil => rfl
  | cons o rest ih =>
    rw [objectsSchema, ih]
    rfl

theorem scopeSchema_eq_iff {s t : Scope} : scopeSchema s = scopeSchema t ↔
    s.root = t.root ∧ s.objects.map objectSchema = t.objects.map objectSchema := by
  rw [scopeSchema_eq, scopeSchema_eq, ScopeSchemaOf.mk.injEq, and_comm, and_congr_right_iff]
  intro _
  constructor
  · intro hentries
    exact map_eq_of_map_eq hentries fun o _ p _ hentry => (Prod.mk.inj hentry).2
  · intro hobjects
    refine map_eq_of_map_eq hobjects fun o _ p _ hschema => ?_
    rw [hschema, (objectSchema_eq_iff.1 hschema).1]

theorem propertySchema_eq_iff {property other : Property Shape} :
    propertySchema property = propertySchema other ↔
      property.shape.schema = other.shape.schema ∧ property.required = other.required ∧
        property.default = other.default ∧ property.requiredIf = other.requiredIf ∧
        property.requiredIfNot = other.requiredIfNot ∧ property.conflicts = other.conflicts ∧
        property.label = other.label := by
  rw [propertySchema_eq, propertySchema_eq, Property.mk.injEq]

theorem shape_schema_eq_of_fieldSchema_eq {field other : String × Property Shape}
    (hfield : fieldSchema field = fieldSchema other) : field.2.shape.schema = other.2.shape.schema :=
  (propertySchema_eq_iff.1 (Prod.mk.inj hfield).2).1

/-- Binding does not show in the schema. -/
theorem schema_bind (handle : Handle) (shape : Shape) : (bind handle shape).schema = shape.schema := by
  induction shape using Shape.induction with
  | list items ih => rw [bind, schema, schema, ih]
  | object o ih =>
    rw [bind, schema, schema, bindObject_eq, objectSchema_eq, objectSchema_eq, List.map_map]
    congr 2
    refine List.map_congr_left fun field hmem => ?_
    have hshape := ih field hmem
    obtain ⟨name, property⟩ := field
    cases property
    simp only [Function.comp, fieldSchema, bindProperty, propertySchema, hshape]
  | oneOf c => simp [bind, schema, OneOf.bind, OneOf.schema, Reference.bind, Reference.schema]
  | _ => rfl

theorem objectSchema_bindObject (handle : Handle) (o : ObjectShape) :
    objectSchema (bindObject handle o) = objectSchema o :=
  Schema.object.inj (schema_bind handle (.object o))

theorem representation_eq_of_schema_eq (hschema : a.schema = b.schema) :
    a.representation = b.representation := by
  induction a using Shape.induction generalizing b with
  | list items ih =>
    cases b with
    | list others => rw [representation, representation, ih (Schema.list.inj hschema)]
    | _ => cases hschema
  | object o _ =>
    cases b with
    | object p => rw [representation, representation, (objectSchema_eq_iff.1 (Schema.object.inj hschema)).1]
    | _ => cases hschema
  | ref r =>
    cases b with
    | ref q => rw [representation, representation, (RefSchema.mk.inj (Schema.ref.inj hschema)).1]
    | _ => cases hschema
  | scope s =>
    cases b with
    | scope t => rw [representation, representation, (scopeSchema_eq_iff.1 (Schema.scope.inj hschema)).1]
    | _ => cases hschema
  | _ => cases b <;> first | rfl | cases hschema

/-- Shapes of one schema have the same shapes inside, down to nested scopes, up to their schemas. -/
theorem map_schema_nodes_eq (hschema : a.schema = b.schema) :
    a.nodes.map schema = b.nodes.map schema := by
  induction a using Shape.induction generalizing b with
  | list items ih =>
    cases b with
    | list others =>
      rw [nodes, nodes, List.map_cons, List.map_cons, hschema, ih (Schema.list.inj hschema)]
    | _ => cases hschema
  | object o ih =>
    cases b with
    | object p =>
      rw [nodes, nodes, List.map_cons, List.map_cons, hschema, objectNodes_eq, objectNodes_eq,
        List.map_flatMap, List.map_flatMap, List.flatMap_def, List.flatMap_def]
      have hfields := (objectSchema_eq_iff.1 (Schema.object.inj hschema)).2.1
      rw [map_eq_of_map_eq hfields fun field hmem other _ hfield =>
        ih field hmem (shape_schema_eq_of_fieldSchema_eq hfield)]
    | _ => cases hschema
  | _ => cases b <;> first | exact congrArg (fun schema => [schema]) hschema | cases hschema

theorem map_schema_objectNodes_eq (hschema : objectSchema o = objectSchema p) :
    (objectNodes o).map schema = (objectNodes p).map schema := by
  have hnodes : (Shape.object o).nodes.map schema = (Shape.object p).nodes.map schema :=
    map_schema_nodes_eq (congrArg Schema.object hschema)
  rw [nodes, nodes, List.map_cons, List.map_cons] at hnodes
  exact (List.cons.inj hnodes).2

theorem propertyDefaults_eq (property : Property Shape) : propertyDefaults property =
    property.default.toList.map (property.shape, ·) ++ property.shape.defaults := by
  obtain ⟨shape, required, default, requiredIf, requiredIfNot, conflicts, label⟩ := property
  cases default <;> rfl

theorem objectDefaults_eq (o : ObjectShape) :
    objectDefaults o = o.properties.flatMap fun field => propertyDefaults field.2 := by
  obtain ⟨id, properties, allowUnknown⟩ := o
  rw [objectDefaults]
  induction properties with
  | nil => rfl
  | cons field rest ih => rw [propertiesDefaults, ih, List.flatMap_cons]

theorem scopeDefaults_eq (s : Scope) : scopeDefaults s = s.objects.flatMap objectDefaults := by
  obtain ⟨handle, root, objects⟩ := s
  rw [scopeDefaults]
  induction objects with
  | nil => rfl
  | cons o rest ih => rw [objectsDefaults, ih, List.flatMap_cons]

private theorem map_schema_objectDefaults_eq (hschema : objectSchema o = objectSchema p)
    (hshapes : ∀ field ∈ o.properties, ∀ b, field.2.shape.schema = Shape.schema b →
      field.2.shape.defaults.map (Prod.map schema id) = b.defaults.map (Prod.map schema id)) :
    (objectDefaults o).map (Prod.map schema id) = (objectDefaults p).map (Prod.map schema id) := by
  rw [objectDefaults_eq, objectDefaults_eq, List.map_flatMap, List.map_flatMap, List.flatMap_def,
    List.flatMap_def]
  refine congrArg List.flatten (map_eq_of_map_eq (objectSchema_eq_iff.1 hschema).2.1 ?_)
  intro field hmem other _ hfield
  have hshape := shape_schema_eq_of_fieldSchema_eq hfield
  obtain ⟨_, _, hdefault, _⟩ := propertySchema_eq_iff.1 (Prod.mk.inj hfield).2
  rw [propertyDefaults_eq, propertyDefaults_eq, List.map_append, List.map_append,
    hshapes field hmem _ hshape, hdefault, List.map_map, List.map_map]
  simp only [Function.comp_def, Prod.map, hshape]

/-- Shapes of one schema have the same defaults, those in nested scopes included, up to the schemas of
what reads them. -/
theorem map_schema_defaults_eq (hschema : a.schema = b.schema) :
    a.defaults.map (Prod.map schema id) = b.defaults.map (Prod.map schema id) := by
  induction a using Shape.inductionThroughScopes generalizing b with
  | list items ih =>
    cases b with
    | list others =>
      rw [defaults, defaults]
      exact ih (Schema.list.inj hschema)
    | _ => cases hschema
  | object o ih =>
    cases b with
    | object p =>
      exact map_schema_objectDefaults_eq (Schema.object.inj hschema) fun field hmem b => ih field hmem
    | _ => cases hschema
  | scope s ih =>
    cases b with
    | scope t =>
      rw [defaults, defaults, scopeDefaults_eq, scopeDefaults_eq, List.map_flatMap, List.map_flatMap,
        List.flatMap_def, List.flatMap_def]
      have hobjects := (scopeSchema_eq_iff.1 (Schema.scope.inj hschema)).2
      refine congrArg List.flatten (map_eq_of_map_eq hobjects fun o ho p _ hobject => ?_)
      exact map_schema_objectDefaults_eq hobject fun field hmem b => ih o ho field hmem
    | _ => cases hschema
  | _ => cases b <;> first | rfl | cases hschema

theorem length_defaults_eq (hschema : a.schema = b.schema) :
    a.defaults.length = b.defaults.length := by
  simpa using congrArg List.length (map_schema_defaults_eq hschema)

end Shape

namespace ObjectOf

theorem property?_objectSchema (o : ObjectShape) (name : String) :
    (Shape.objectSchema o).property? name = (o.property? name).map Shape.propertySchema := by
  rw [Shape.objectSchema_eq]
  exact Fields.get?_map Shape.propertySchema o.properties name

end ObjectOf

namespace Shape

variable {objects others : List ObjectShape}

/-- Objects of the same schemas are found under the same ids. -/
theorem find?_of_map_objectSchema_eq (hobjects : objects.map objectSchema = others.map objectSchema)
    (id : String) : (objects.find? (·.id == id)).map objectSchema =
      (others.find? (·.id == id)).map objectSchema := by
  have hfind : ∀ list : List ObjectShape, (list.find? (·.id == id)).map objectSchema =
      (list.map objectSchema).find? (·.id == id) := by
    intro list
    rw [List.find?_map]
    simp only [Function.comp_def, id_objectSchema]
  rw [hfind, hfind, hobjects]

theorem any_id_eq_of_map_objectSchema_eq
    (hobjects : objects.map objectSchema = others.map objectSchema) (id : String) :
    objects.any (·.id == id) = others.any (·.id == id) := by
  rw [← List.isSome_find?, ← List.isSome_find?, ← Option.isSome_map (f := objectSchema),
    find?_of_map_objectSchema_eq hobjects, Option.isSome_map]

private theorem targetFault?_eq_of_schema_eq
    (hobjects : objects.map objectSchema = others.map objectSchema) {c d : OneOf}
    (hkind : c.kind = d.kind) (hfield : c.field = d.field) {r q : Reference} (hid : r.id = q.id) :
    targetFault? objects c r = targetFault? others d q := by
  have hfound := find?_of_map_objectSchema_eq hobjects r.id
  unfold targetFault?
  rw [← hid]
  cases hobject : objects.find? (·.id == r.id) with
  | none =>
    rw [hobject, Option.map_none, eq_comm, Option.map_eq_none_iff] at hfound
    rw [hfound]
  | some o =>
    rw [hobject, Option.map_some, eq_comm, Option.map_eq_some_iff] at hfound
    obtain ⟨p, hother, hschema⟩ := hfound
    have hproperty := congrArg (ObjectOf.property? · d.field) hschema
    simp only [ObjectOf.property?_objectSchema] at hproperty
    rw [hother]
    dsimp only
    rw [hkind, hfield]
    cases hdeclared : p.property? d.field with
    | none =>
      rw [hdeclared, Option.map_none, eq_comm, Option.map_eq_none_iff] at hproperty
      rw [hproperty]
    | some property =>
      rw [hdeclared, Option.map_some, eq_comm, Option.map_eq_some_iff] at hproperty
      obtain ⟨given, hgiven, hgivenSchema⟩ := hproperty
      rw [hgiven]
      dsimp only
      rw [representation_eq_of_schema_eq (propertySchema_eq_iff.1 hgivenSchema).1,
        (objectSchema_eq_iff.1 hschema).1]

theorem fault?_eq_of_schema_eq {a b : Shape}
    (hobjects : objects.map objectSchema = others.map objectSchema) (hschema : a.schema = b.schema) :
    a.fault? objects = b.fault? others := by
  cases a with
  | ref r =>
    cases b with
    | ref q =>
      have hid : r.id = q.id := (RefSchema.mk.inj (Schema.ref.inj hschema)).1
      rw [fault?, fault?, hid, any_id_eq_of_map_objectSchema_eq hobjects]
    | _ => cases hschema
  | oneOf c =>
    cases b with
    | oneOf d =>
      obtain ⟨hkind, hchoice⟩ := Schema.oneOf.inj hschema
      obtain ⟨hfield, hvariants⟩ := OneOfSchema.mk.inj hchoice
      refine findSome?_eq_of_map_eq (map_eq_of_map_eq hvariants fun v _ w _ hentry => ?_)
      exact targetFault?_eq_of_schema_eq hobjects hkind hfield
        (RefSchema.mk.inj (Prod.mk.inj hentry).2).1
    | _ => cases hschema
  | _ => cases b <;> first | rfl | cases hschema

end Shape

namespace Registry

/-- What freezing objects comes to depends on their schemas only. -/
theorem fault?_eq_of_map_objectSchema_eq {root : String} {objects others : List ObjectShape}
    (hobjects : objects.map Shape.objectSchema = others.map Shape.objectSchema) :
    fault? root objects = fault? root others := by
  have hids : objects.map ObjectOf.id = others.map ObjectOf.id :=
    map_eq_of_map_eq hobjects fun o _ p _ hobject => (Shape.objectSchema_eq_iff.1 hobject).1
  have hroot : objects.any (·.id == root) = others.any (·.id == root) :=
    Shape.any_id_eq_of_map_objectSchema_eq hobjects root
  have hnodes : (objects.flatMap Shape.objectNodes).map Shape.schema =
      (others.flatMap Shape.objectNodes).map Shape.schema := by
    rw [List.map_flatMap, List.map_flatMap, List.flatMap_def, List.flatMap_def]
    exact congrArg List.flatten (map_eq_of_map_eq hobjects fun o _ p _ hobject =>
      Shape.map_schema_objectNodes_eq hobject)
  have hfaults : (objects.flatMap Shape.objectNodes).findSome? (Shape.fault? objects) =
      (others.flatMap Shape.objectNodes).findSome? (Shape.fault? others) :=
    findSome?_eq_of_map_eq (map_eq_of_map_eq hnodes fun a _ b _ hschema =>
      Shape.fault?_eq_of_schema_eq hobjects hschema)
  rw [fault?, fault?, hids, hroot, hfaults]

end Registry

end Shapes
