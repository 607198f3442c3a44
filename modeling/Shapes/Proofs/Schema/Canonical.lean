import Shapes.Proofs.Schema.Rewriting

/-!
The canonical form of a schema writes the integer keys of its choices in decimals, without a plus sign and
without leading zeros. It is the schema of whatever is built: all else that a schema tells is copied from it,
in its order.
-/

namespace Shapes

/-- A name of an entry as the key that it denotes is written. -/
def KeyKind.canonical : KeyKind → String → String
  | .int, name => ((Text.int64? name).map Text.ofInt64).getD name
  | .string, name => name

/-- The key that a name denotes is written canonically. -/
theorem KeyKind.text_of_parse? {kind : KeyKind} {name : String} {key : Discriminant}
    (hparse : kind.parse? name = some key) : key.text = kind.canonical name := by
  cases kind with
  | int =>
    obtain ⟨k, hk, rfl⟩ := Option.map_eq_some_iff.1 hparse
    rw [canonical, hk]
    rfl
  | string =>
    cases hparse
    rfl

namespace Schema

open Shape (objectSchema fieldSchema propertySchema scopeSchema)

/-- Keys are written canonically. -/
def canonicalKeys : Rewriting where
  choice kind c := { c with types := c.types.map fun target => (kind.canonical target.1, target.2) }

/-- The schema with its integer keys in decimals, at every depth and in nested scopes. -/
def canonical (schema : Schema) : Schema :=
  rewrite canonicalKeys schema

/-- All integer keys in a schema are the decimals of integers. -/
def CanonicallyKeyed (schema : Schema) : Prop :=
  schema.Everywhere fun inner =>
    match inner with
    | .oneOf .int c => ∀ target ∈ c.types, ∃ k, target.1 = Text.ofInt64 k
    | _ => True

/-- There is nothing to rewrite in a schema with canonical keys. -/
theorem CanonicallyKeyed.canonical_eq {schema : Schema} (hkeyed : schema.CanonicallyKeyed) :
    schema.canonical = schema := by
  refine rewrite_eq_self_iff.2 fun inner hcontains => ?_
  have hinner := hkeyed inner hcontains
  cases inner with
  | object o => exact fun _ _ => rfl
  | oneOf kind c =>
    obtain ⟨field, types⟩ := c
    have hsame : ∀ target ∈ types, (kind.canonical target.1, target.2) = target := by
      intro target hmem
      cases kind with
      | int =>
        obtain ⟨k, hk⟩ := hinner target hmem
        have hcanonical : KeyKind.int.canonical target.1 = target.1 := by
          rw [KeyKind.canonical, hk, Text.int64?_ofInt64]
          rfl
        rw [hcanonical]
      | string => rfl
    simp only [Rewriting.Keeps, canonicalKeys, OneOfSchema.mk.injEq, true_and]
    rw [List.map_congr_left hsame, List.map_id']
  | _ => trivial

end Schema

/-- What is built of a choice has its canonical form as schema. -/
theorem OneOfSchema.schema_of_toOneOf {kind : KeyKind} {c : OneOfSchema} {d : OneOf}
    (hbuild : c.toOneOf kind = .ok d) : d.kind = kind ∧ d.schema = Schema.canonicalKeys.choice kind c := by
  unfold toOneOf at hbuild
  split at hbuild
  · cases hbuild
  · rename_i found hfound
    obtain ⟨distinct, rfl⟩ := OneOf.declare_eq_ok_iff.1 hbuild
    obtain ⟨hkeys, htargets⟩ := variants_eq_ok hfound
    refine ⟨rfl, congrArg (OneOfSchema.mk c.field) (List.ext_getElem? fun index => ?_)⟩
    have hkey := congrArg (·[index]?) hkeys
    have htarget := congrArg (·[index]?) htargets
    simp only [List.getElem?_map] at hkey htarget ⊢
    cases hvariant : found.1[index]? with
    | none =>
      rw [hvariant, Option.map_none, eq_comm, Option.map_eq_none_iff] at hkey
      rw [hkey]
      rfl
    | some variant =>
      rw [hvariant, Option.map_some, eq_comm, Option.map_eq_some_iff] at hkey htarget
      obtain ⟨target, hentry, hkey⟩ := hkey
      rw [hentry] at htarget ⊢
      obtain ⟨_, ⟨⟩, hreference⟩ := htarget
      rw [Option.map_some, Option.map_some, KeyKind.text_of_parse? hkey, ← hreference]
      rfl

namespace Schema

open Shape (objectSchema fieldSchema propertySchema scopeSchema)

variable {registry later : Registry} {shape : Shape} {schema : Schema}

/-- What a schema builds has its canonical form as schema. -/
def BuildsCanonical (schema : Schema) : Prop :=
  ∀ registry shape later, (schema.build registry).result = .ok (shape, later) →
    shape.schema = schema.canonical

private theorem canonical_of_buildProperties {properties : List (String × Property Schema)}
    {built : List (String × Property Shape)}
    (hfields : ∀ field ∈ properties, field.2.shape.BuildsCanonical)
    (hbuild : (buildProperties properties registry).result = .ok (built, later)) :
    built.map fieldSchema = properties.map fun field => (field.1, rewriteProperty canonicalKeys field.2) := by
  induction properties generalizing registry built with
  | nil =>
    obtain ⟨rfl, rfl⟩ := Build.pure_eq_ok_iff.1 hbuild
    rfl
  | cons field rest ih =>
    obtain ⟨name, schema, required, default, requiredIf, requiredIfNot, conflicts, label⟩ := field
    simp only [buildProperties, buildProperty, bind_assoc, pure_bind, Build.bind_eq_ok_iff,
      Build.pure_eq_ok_iff] at hbuild
    obtain ⟨shape, between, hshape, others, _, hothers, rfl, rfl⟩ := hbuild
    have hschema := hfields _ (List.mem_cons_self ..) _ _ _ hshape
    rw [List.map_cons, List.map_cons, ih (fun field hmem => hfields field (List.mem_cons_of_mem _ hmem))
      hothers]
    refine congrArg (· :: _) ?_
    rw [fieldSchema, Shape.propertySchema_eq, rewriteProperty_eq, hschema]
    rfl

private theorem canonical_of_buildObject {o : ObjectSchema} {built : ObjectShape}
    (hfields : ∀ field ∈ o.properties, field.2.shape.BuildsCanonical)
    (hbuild : (buildObject o registry).result = .ok (built, later)) :
    objectSchema built = rewriteObject canonicalKeys o := by
  obtain ⟨id, properties, allowUnknown⟩ := o
  simp only [buildObject, Build.bind_eq_ok_iff, Build.ofExcept_eq_ok_iff] at hbuild
  obtain ⟨fields, _, hproperties, hdeclare, rfl⟩ := hbuild
  obtain ⟨-, rfl⟩ := ObjectOf.declare_eq_ok_iff.1 hdeclare
  rw [Shape.objectSchema_eq, rewriteObject_eq, canonical_of_buildProperties hfields hproperties]

/-- The entries of a scope, in its canonical form. -/
def canonicalEntry (entry : String × ObjectSchema) : String × ObjectSchema :=
  (entry.1, rewriteObject canonicalKeys entry.2)

private theorem canonical_of_buildObjects {objects : List (String × ObjectSchema)}
    {built : List ObjectShape}
    (hfields : ∀ entry ∈ objects, ∀ field ∈ entry.2.properties, field.2.shape.BuildsCanonical)
    (hbuild : (buildObjects objects registry).result = .ok (built, later)) :
    (built.map fun o => (o.id, objectSchema o)) = objects.map canonicalEntry := by
  induction objects generalizing registry built with
  | nil =>
    obtain ⟨rfl, rfl⟩ := Build.pure_eq_ok_iff.1 hbuild
    rfl
  | cons entry rest ih =>
    obtain ⟨key, o⟩ := entry
    rw [buildObjects] at hbuild
    split at hbuild
    · rename_i hkey
      simp only [Build.bind_eq_ok_iff, Build.pure_eq_ok_iff] at hbuild
      obtain ⟨object, between, hobject, others, _, hothers, rfl, rfl⟩ := hbuild
      have hschema := canonical_of_buildObject (hfields _ (List.mem_cons_self ..)) hobject
      have hid : object.id = key := by
        rw [← Shape.id_objectSchema, hschema, id_rewriteObject, hkey]
      rw [List.map_cons, List.map_cons, canonicalEntry, hid, hschema,
        ih (fun entry hmem => hfields entry (List.mem_cons_of_mem _ hmem)) hothers]
    · cases hbuild

private theorem canonical_of_buildScope {s : ScopeSchema} {built : Scope}
    (hfields : ∀ entry ∈ s.objects, ∀ field ∈ entry.2.properties, field.2.shape.BuildsCanonical)
    (hbuild : (buildScope s registry).result = .ok (built, later)) :
    scopeSchema built = rewriteScope canonicalKeys s := by
  obtain ⟨objects, root⟩ := s
  simp only [buildScope, Build.bind_eq_ok_iff] at hbuild
  obtain ⟨frozen, between, hobjects, hfreeze⟩ := hbuild
  have hfreeze : (between.freeze root frozen).result = .ok (built, later) := hfreeze
  obtain ⟨-, rfl, -⟩ := Registry.freeze_eq_ok_iff.1 hfreeze
  rw [Shape.scopeSchema_eq, rewriteScope_eq, ScopeSchemaOf.mk.injEq]
  refine ⟨Eq.trans ?_ (canonical_of_buildObjects hfields hobjects), rfl⟩
  rw [List.map_map]
  refine List.map_congr_left fun o _ => ?_
  rw [Function.comp_apply, Shape.objectSchema_bindObject, Shape.bindObject_eq]

theorem buildsCanonical (schema : Schema) : schema.BuildsCanonical := by
  induction schema using Schema.induction with
  | list items ih =>
    intro registry shape later hbuild
    simp only [build, Build.bind_eq_ok_iff, Build.pure_eq_ok_iff] at hbuild
    obtain ⟨built, _, hitems, rfl, rfl⟩ := hbuild
    exact congrArg Schema.list (ih _ _ _ hitems)
  | object o ih =>
    intro registry shape later hbuild
    simp only [build, Build.bind_eq_ok_iff, Build.pure_eq_ok_iff] at hbuild
    obtain ⟨built, _, hobject, rfl, rfl⟩ := hbuild
    exact congrArg Schema.object (canonical_of_buildObject ih hobject)
  | oneOf kind c =>
    intro registry shape later hbuild
    simp only [build, Build.bind_eq_ok_iff, Build.pure_eq_ok_iff, Build.ofExcept_eq_ok_iff] at hbuild
    obtain ⟨built, _, ⟨hchoice, rfl⟩, rfl, rfl⟩ := hbuild
    obtain ⟨hkind, hschema⟩ := OneOfSchema.schema_of_toOneOf hchoice
    rw [Shape.schema, hkind, hschema]
    rfl
  | scope s ih =>
    intro registry shape later hbuild
    simp only [build, Build.bind_eq_ok_iff, Build.pure_eq_ok_iff] at hbuild
    obtain ⟨built, _, hscope, rfl, rfl⟩ := hbuild
    exact congrArg Schema.scope (canonical_of_buildScope ih hscope)
  | _ =>
    intro registry shape later hbuild
    obtain ⟨rfl, rfl⟩ := Build.pure_eq_ok_iff.1 hbuild
    rfl

/-- The fields that are built have the canonical forms of theirs as schemas. -/
theorem fieldSchemas_of_buildProperties {properties : List (String × Property Schema)}
    {built : List (String × Property Shape)}
    (hbuild : (buildProperties properties registry).result = .ok (built, later)) :
    built.map fieldSchema = properties.map fun field => (field.1, rewriteProperty canonicalKeys field.2) :=
  canonical_of_buildProperties (fun field _ => field.2.shape.buildsCanonical) hbuild

/-- The objects that are built for a scope are those of its canonical form, each under its id. -/
theorem objectSchemas_of_buildObjects {objects : List (String × ObjectSchema)} {built : List ObjectShape}
    (hbuild : (buildObjects objects registry).result = .ok (built, later)) :
    (built.map fun o => (o.id, objectSchema o)) = objects.map canonicalEntry :=
  canonical_of_buildObjects (fun _ _ field _ => field.2.shape.buildsCanonical) hbuild

end Schema

end Shapes
