import Shapes.Proofs.Schema.Build

/-!
The schemas inside a schema, and schemas with their defaults and choices rewritten. Rewriting keeps all
names and their order, so the two of them are walked in step.
-/

namespace Shapes

namespace Schema

/-- A schema that stands anywhere in another, through nested scopes. The objects of a scope stand in it as
objects. -/
inductive Contains : Schema → Schema → Prop
  | self {schema : Schema} : Contains schema schema
  | item {items inner : Schema} (hinner : Contains items inner) : Contains (.list items) inner
  | field {o : ObjectSchema} {field : String × Property Schema} {inner : Schema}
      (hmem : field ∈ o.properties) (hinner : Contains field.2.shape inner) : Contains (.object o) inner
  | member {s : ScopeSchema} {entry : String × ObjectSchema} {inner : Schema}
      (hmem : entry ∈ s.objects) (hinner : Contains (.object entry.2) inner) : Contains (.scope s) inner

/-- A property of all schemas in a schema, the schema itself included. -/
def Everywhere (P : Schema → Prop) (schema : Schema) : Prop :=
  ∀ inner, schema.Contains inner → P inner

section Everywhere

variable {P : Schema → Prop} {items : Schema} {o : ObjectSchema} {s : ScopeSchema}

theorem everywhere_list_iff :
    (Schema.list items).Everywhere P ↔ P (.list items) ∧ items.Everywhere P := by
  constructor
  · exact fun hall => ⟨hall _ .self, fun inner hinner => hall inner (.item hinner)⟩
  · rintro ⟨hself, hitems⟩ inner hcontains
    cases hcontains with
    | self => exact hself
    | item hinner => exact hitems inner hinner

theorem everywhere_object_iff : (Schema.object o).Everywhere P ↔
    P (.object o) ∧ ∀ field ∈ o.properties, field.2.shape.Everywhere P := by
  constructor
  · exact fun hall => ⟨hall _ .self, fun field hmem inner hinner => hall inner (.field hmem hinner)⟩
  · rintro ⟨hself, hfields⟩ inner hcontains
    cases hcontains with
    | self => exact hself
    | field hmem hinner => exact hfields _ hmem inner hinner

theorem everywhere_scope_iff : (Schema.scope s).Everywhere P ↔
    P (.scope s) ∧ ∀ entry ∈ s.objects, (Schema.object entry.2).Everywhere P := by
  constructor
  · exact fun hall => ⟨hall _ .self, fun entry hmem inner hinner => hall inner (.member hmem hinner)⟩
  · rintro ⟨hself, hmembers⟩ inner hcontains
    cases hcontains with
    | self => exact hself
    | member hmem hinner => exact hmembers _ hmem inner hinner

theorem everywhere_oneOf_iff {kind : KeyKind} {c : OneOfSchema} :
    (Schema.oneOf kind c).Everywhere P ↔ P (.oneOf kind c) := by
  constructor
  · exact fun hall => hall _ .self
  · intro hself inner hcontains
    cases hcontains with
    | self => exact hself

end Everywhere

/-- What is put in place of the defaults and of the choices in a schema. -/
structure Rewriting where
  default : Option Json → Option Json := id
  choice : KeyKind → OneOfSchema → OneOfSchema := fun _ c => c

mutual

/-- The schema with its defaults and choices rewritten, in nested scopes as well. -/
def rewrite (w : Rewriting) : Schema → Schema
  | .list items => .list (rewrite w items)
  | .object o => .object (rewriteObject w o)
  | .oneOf kind c => .oneOf kind (w.choice kind c)
  | .scope s => .scope (rewriteScope w s)
  | schema => schema
termination_by structural schema => schema

def rewriteObject (w : Rewriting) : ObjectOf Schema → ObjectOf Schema
  | ⟨id, properties, allowUnknown⟩ => ⟨id, rewriteProperties w properties, allowUnknown⟩
termination_by structural object => object

def rewriteProperties (w : Rewriting) :
    List (String × Property Schema) → List (String × Property Schema)
  | [] => []
  | (name, property) :: rest => (name, rewriteProperty w property) :: rewriteProperties w rest
termination_by structural properties => properties

def rewriteProperty (w : Rewriting) : Property Schema → Property Schema
  | ⟨schema, required, default, requiredIf, requiredIfNot, conflicts, label⟩ =>
    ⟨rewrite w schema, required, w.default default, requiredIf, requiredIfNot, conflicts, label⟩
termination_by structural property => property

def rewriteScope (w : Rewriting) : ScopeSchemaOf Schema → ScopeSchemaOf Schema
  | ⟨objects, root⟩ => ⟨rewriteObjects w objects, root⟩
termination_by structural scope => scope

def rewriteObjects (w : Rewriting) :
    List (String × ObjectOf Schema) → List (String × ObjectOf Schema)
  | [] => []
  | (key, o) :: rest => (key, rewriteObject w o) :: rewriteObjects w rest
termination_by structural objects => objects

end

variable {w : Rewriting}

theorem rewriteProperty_eq (w : Rewriting) (property : Property Schema) :
    rewriteProperty w property = { property with
      shape := rewrite w property.shape
      default := w.default property.default } := by
  cases property
  rfl

theorem rewriteObject_eq (w : Rewriting) (o : ObjectSchema) :
    rewriteObject w o = { o with
      properties := o.properties.map fun field => (field.1, rewriteProperty w field.2) } := by
  obtain ⟨id, properties, allowUnknown⟩ := o
  simp only [rewriteObject, ObjectOf.mk.injEq, true_and, and_true]
  induction properties with
  | nil => rfl
  | cons field rest ih => rw [rewriteProperties, ih, List.map_cons]

theorem rewriteScope_eq (w : Rewriting) (s : ScopeSchema) :
    rewriteScope w s = { s with
      objects := s.objects.map fun entry => (entry.1, rewriteObject w entry.2) } := by
  obtain ⟨objects, root⟩ := s
  simp only [rewriteScope, ScopeSchemaOf.mk.injEq, and_true]
  induction objects with
  | nil => rfl
  | cons entry rest ih => rw [rewriteObjects, ih, List.map_cons]

@[simp] theorem id_rewriteObject (w : Rewriting) (o : ObjectSchema) : (rewriteObject w o).id = o.id := by
  rw [rewriteObject_eq]

private theorem map_snd_eq_self_iff {α : Type} {g : α → α} {entries : List (String × α)} :
    entries.map (fun entry => (entry.1, g entry.2)) = entries ↔ ∀ entry ∈ entries, g entry.2 = entry.2 := by
  induction entries with
  | nil => simp
  | cons entry rest ih =>
    rw [List.map_cons, List.cons_eq_cons, ih, List.forall_mem_cons]
    exact and_congr_left fun _ => ⟨fun heq => (Prod.mk.inj heq).2, fun heq => by rw [heq]⟩

/-- Two rewritings as one. -/
def Rewriting.after (w first : Rewriting) : Rewriting where
  default := w.default ∘ first.default
  choice kind c := w.choice kind (first.choice kind c)

theorem rewriteProperty_after {first : Rewriting} {property : Property Schema}
    (hshape : rewrite w (rewrite first property.shape) = rewrite (w.after first) property.shape) :
    rewriteProperty w (rewriteProperty first property) = rewriteProperty (w.after first) property := by
  rw [rewriteProperty_eq, rewriteProperty_eq, rewriteProperty_eq, hshape]
  rfl

theorem rewriteObject_after {first : Rewriting} {o : ObjectSchema}
    (hfields : ∀ field ∈ o.properties,
      rewrite w (rewrite first field.2.shape) = rewrite (w.after first) field.2.shape) :
    rewriteObject w (rewriteObject first o) = rewriteObject (w.after first) o := by
  rw [rewriteObject_eq, rewriteObject_eq, rewriteObject_eq, List.map_map]
  congr 1
  exact List.map_congr_left fun field hmem => congrArg _ (rewriteProperty_after (hfields field hmem))

theorem rewrite_after (w first : Rewriting) (schema : Schema) :
    rewrite w (rewrite first schema) = rewrite (w.after first) schema := by
  induction schema using Schema.induction with
  | list items ih => rw [rewrite, rewrite, rewrite, ih]
  | object o ih => rw [rewrite, rewrite, rewrite, rewriteObject_after ih]
  | scope s ih =>
    rw [rewrite, rewrite, rewrite, rewriteScope_eq, rewriteScope_eq, rewriteScope_eq, List.map_map]
    congr 2
    exact List.map_congr_left fun entry hmem => congrArg _ (rewriteObject_after (ih entry hmem))
  | _ => rfl

/-- A rewriting leaves what stands at the top of a schema as it is. -/
def Rewriting.Keeps (w : Rewriting) : Schema → Prop
  | .object o => ∀ field ∈ o.properties, w.default field.2.default = field.2.default
  | .oneOf kind c => w.choice kind c = c
  | _ => True

private theorem rewriteObject_eq_self_iff {o : ObjectSchema} : rewriteObject w o = o ↔
    w.Keeps (.object o) ∧ ∀ field ∈ o.properties, rewrite w field.2.shape = field.2.shape := by
  have hproperty : ∀ property : Property Schema, rewriteProperty w property = property ↔
      w.default property.default = property.default ∧ rewrite w property.shape = property.shape := by
    intro property
    cases property
    simp [rewriteProperty, and_comm]
  have hobject : rewriteObject w o = o ↔
      o.properties.map (fun field => (field.1, rewriteProperty w field.2)) = o.properties := by
    rw [rewriteObject_eq]
    cases o
    simp
  rw [hobject, map_snd_eq_self_iff, Rewriting.Keeps, ← forall₂_and]
  exact forall₂_congr fun field _ => hproperty field.2

/-- Rewriting changes nothing iff it keeps every schema there is. -/
theorem rewrite_eq_self_iff {schema : Schema} : rewrite w schema = schema ↔
    schema.Everywhere w.Keeps := by
  induction schema using Schema.induction with
  | list items ih =>
    rw [rewrite, Schema.list.injEq, ih, everywhere_list_iff]
    exact (and_iff_right trivial).symm
  | object o ih =>
    rw [rewrite, Schema.object.injEq, rewriteObject_eq_self_iff, everywhere_object_iff]
    exact and_congr_right fun _ => forall₂_congr ih
  | oneOf kind c =>
    rw [rewrite, Schema.oneOf.injEq, everywhere_oneOf_iff]
    exact and_iff_right rfl
  | scope s ih =>
    have hscope : rewriteScope w s = s ↔
        s.objects.map (fun entry => (entry.1, rewriteObject w entry.2)) = s.objects := by
      rw [rewriteScope_eq]
      cases s
      simp
    rw [rewrite, Schema.scope.injEq, hscope, map_snd_eq_self_iff, everywhere_scope_iff]
    rw [show w.Keeps (.scope s) ↔ True from Iff.rfl, true_and]
    refine forall₂_congr fun entry hmem => ?_
    rw [rewriteObject_eq_self_iff, everywhere_object_iff]
    exact and_congr_right fun _ => forall₂_congr (ih entry hmem)
  | _ =>
    refine iff_of_true rfl fun inner hcontains => ?_
    cases hcontains
    trivial

end Schema

end Shapes
