import Shapes.Proofs.Schema.Rewriting

/-!
Building shapes back from their own schemas. A shape that can be used passes every check once more, so its
schema builds, and what it builds has that very schema. The same is so of its schema with other defaults.
-/

namespace Shapes

namespace OneOf

/-- The variants of a choice are read back from its schema, with unbound references. -/
private theorem variants_map_schema {kind : KeyKind} (field : String)
    {variants : List (Discriminant × Reference)} (huniform : ∀ v ∈ variants, v.1.kind = kind) :
    ∃ found, OneOfSchema.variants kind field (variants.map fun v => (v.1.text, v.2.schema)) = .ok found ∧
      found.1 = variants.map fun v => (v.1, v.2.schema.toReference) := by
  induction variants with
  | nil => exact ⟨_, rfl, rfl⟩
  | cons v rest ih =>
    obtain ⟨key, r⟩ := v
    obtain ⟨found, hfound, hvalue⟩ := ih fun w hw => huniform w (List.mem_cons_of_mem _ hw)
    have hkind : key.kind = kind := huniform _ (List.mem_cons_self ..)
    subst hkind
    rw [List.map_cons, OneOfSchema.variants]
    split
    · rename_i hnone
      rw [KeyKind.parse?_text] at hnone
      cases hnone
    · rename_i other hother
      rw [KeyKind.parse?_text] at hother
      cases hother
      rw [hfound]
      refine ⟨_, rfl, ?_⟩
      rw [List.map_cons, ← hvalue]

/-- The schema of a choice describes a choice of that schema. -/
theorem toOneOf_schema (c : OneOf) :
    ∃ d, c.schema.toOneOf c.kind = .ok d ∧ d.kind = c.kind ∧ d.schema = c.schema := by
  obtain ⟨⟨found, huniform⟩, hfound, rfl⟩ := variants_map_schema c.field c.uniform
  have hdistinct : ((c.variants.map fun v => (v.1, v.2.schema.toReference)).map Prod.fst).Nodup := by
    rw [List.map_map]
    exact c.distinct
  refine ⟨⟨c.field, c.kind, _, huniform, hdistinct⟩, ?_, rfl, ?_⟩
  · simp only [OneOfSchema.toOneOf, schema, hfound]
    exact declare_eq_ok_iff.2 ⟨hdistinct, rfl⟩
  · rw [schema, schema, List.map_map]
    rfl

end OneOf

namespace Schema

open Shape (objectSchema fieldSchema propertySchema scopeSchema)

/-- The schema builds a shape of that very schema, whatever scopes are alive. -/
def Rebuilt (schema : Schema) : Prop :=
  ∀ registry, ∃ copy later, (schema.build registry).result = .ok (copy, later) ∧ copy.schema = schema

theorem rebuilt_properties {properties : List (String × Property Schema)}
    (hfields : ∀ field ∈ properties, field.2.shape.Rebuilt) (registry : Registry) :
    ∃ copies later, (buildProperties properties registry).result = .ok (copies, later) ∧
      copies.map fieldSchema = properties := by
  induction properties generalizing registry with
  | nil => exact ⟨[], registry, rfl, rfl⟩
  | cons field rest ih =>
    obtain ⟨name, schema, required, default, requiredIf, requiredIfNot, conflicts, label⟩ := field
    obtain ⟨copy, between, hcopy, hschema⟩ := hfields _ (List.mem_cons_self ..) registry
    obtain ⟨copies, later, hcopies, hschemas⟩ :=
      ih (fun field hmem => hfields field (List.mem_cons_of_mem _ hmem)) between
    refine ⟨(name, ⟨copy, required, default, requiredIf, requiredIfNot, conflicts, label⟩) :: copies,
      later, ?_, ?_⟩
    · simp only [buildProperties, buildProperty, bind_assoc, pure_bind, Build.bind_eq_ok_iff,
        Build.pure_eq_ok_iff]
      exact ⟨copy, between, hcopy, copies, later, hcopies, rfl, rfl⟩
    · rw [List.map_cons, hschemas]
      simp only [fieldSchema, propertySchema, hschema]

theorem rebuilt_object {o : ObjectSchema} (hdistinct : Fields.Distinct o.properties)
    (hfields : ∀ field ∈ o.properties, field.2.shape.Rebuilt) (registry : Registry) :
    ∃ copy later, (buildObject o registry).result = .ok (copy, later) ∧ objectSchema copy = o := by
  obtain ⟨id, properties, allowUnknown⟩ := o
  obtain ⟨copies, later, hcopies, hschemas⟩ := rebuilt_properties hfields registry
  have hdeclared : Fields.Distinct copies := by
    have hnames : (copies.map fieldSchema).map Prod.fst = copies.map Prod.fst := by
      rw [List.map_map]
      rfl
    rw [Fields.Distinct, Fields.names, ← hnames, hschemas]
    exact hdistinct
  refine ⟨⟨id, copies, allowUnknown⟩, later, ?_, ?_⟩
  · rw [buildObject]
    simp only [Build.bind_eq_ok_iff, Build.ofExcept_eq_ok_iff]
    exact ⟨copies, later, hcopies, ObjectOf.declare_eq_ok_iff.2 ⟨hdeclared, rfl⟩, rfl⟩
  · rw [Shape.objectSchema_eq, hschemas]

theorem rebuilt_objects {objects : List (String × ObjectSchema)}
    (hkeys : ∀ entry ∈ objects, entry.1 = entry.2.id)
    (hdistinct : ∀ entry ∈ objects, Fields.Distinct entry.2.properties)
    (hfields : ∀ entry ∈ objects, ∀ field ∈ entry.2.properties, field.2.shape.Rebuilt)
    (registry : Registry) :
    ∃ copies later, (buildObjects objects registry).result = .ok (copies, later) ∧
      copies.map objectSchema = objects.map Prod.snd := by
  induction objects generalizing registry with
  | nil => exact ⟨[], registry, rfl, rfl⟩
  | cons entry rest ih =>
    obtain ⟨key, o⟩ := entry
    obtain ⟨hkey, hkeys⟩ := List.forall_mem_cons.1 hkeys
    obtain ⟨hown, hdistinct⟩ := List.forall_mem_cons.1 hdistinct
    obtain ⟨hfirst, hfields⟩ := List.forall_mem_cons.1 hfields
    obtain ⟨copy, between, hcopy, hschema⟩ := rebuilt_object hown hfirst registry
    obtain ⟨copies, later, hcopies, hschemas⟩ := ih hkeys hdistinct hfields between
    refine ⟨copy :: copies, later, ?_, by rw [List.map_cons, List.map_cons, hschema, hschemas]⟩
    rw [buildObjects, if_pos hkey]
    simp only [Build.bind_eq_ok_iff, Build.pure_eq_ok_iff]
    exact ⟨copy, between, hcopy, copies, later, hcopies, rfl, rfl⟩

theorem rebuilt_scope {s : ScopeSchema} (hkeys : ∀ entry ∈ s.objects, entry.1 = entry.2.id)
    (hdistinct : ∀ entry ∈ s.objects, Fields.Distinct entry.2.properties)
    (hfields : ∀ entry ∈ s.objects, ∀ field ∈ entry.2.properties, field.2.shape.Rebuilt)
    (hfault : ∀ copies, copies.map objectSchema = s.objects.map Prod.snd →
      Registry.fault? s.root copies = none) (registry : Registry) :
    ∃ copy later, (buildScope s registry).result = .ok (copy, later) ∧ scopeSchema copy = s := by
  obtain ⟨objects, root⟩ := s
  obtain ⟨copies, between, hcopies, hschemas⟩ := rebuilt_objects hkeys hdistinct hfields registry
  obtain ⟨copy, later, hfreeze⟩ : ∃ copy later,
      (between.freeze root copies).result = .ok (copy, later) :=
    ⟨_, _, Registry.freeze_eq_ok_iff.2 ⟨hfault copies hschemas, rfl, rfl⟩⟩
  obtain ⟨_, hcopy, _⟩ := Registry.freeze_eq_ok_iff.1 hfreeze
  refine ⟨copy, later, ?_, ?_⟩
  · rw [buildScope]
    simp only [Build.bind_eq_ok_iff]
    exact ⟨copies, between, hcopies, hfreeze⟩
  · subst hcopy
    have hentries : (copies.map fun o => (o.id, objectSchema o)) = objects := by
      have hpairs : (copies.map fun o => (o.id, objectSchema o)) =
          (copies.map objectSchema).map fun o => (o.id, o) := by
        rw [List.map_map]
        exact List.map_congr_left fun o _ => by rw [Function.comp_apply, Shape.id_objectSchema]
      rw [hpairs, hschemas, List.map_map, List.map_congr_left (g := id)]
      · exact List.map_id _
      · exact fun entry hmem => by rw [Function.comp_apply, ← hkeys entry hmem, id]
    rw [Shape.scopeSchema_eq, List.map_map, ← hentries]
    congr 1
    refine List.map_congr_left fun o _ => ?_
    rw [Function.comp_apply, Shape.objectSchema_bindObject, Shape.bindObject_eq]

end Schema

namespace Shape

open Schema (rewrite rewriteObject Rewriting)

/-- The schema of a shape builds a shape of that schema, whatever scopes are alive. -/
def Rebuilds (shape : Shape) : Prop :=
  ∀ registry, ∃ copy later, (shape.schema.build registry).result = .ok (copy, later) ∧
    copy.schema = shape.schema

variable {w : Rewriting} {o : ObjectShape} {s : Scope}

theorem distinct_objectSchema (hdistinct : o.Distinct) : Fields.Distinct (objectSchema o).properties := by
  simpa [objectSchema_eq, ObjectOf.Distinct, Fields.Distinct, Fields.names, fieldSchema,
    Function.comp_def] using hdistinct

theorem distinct_rewriteObject (w : Rewriting) (hdistinct : o.Distinct) :
    Fields.Distinct (rewriteObject w (objectSchema o)).properties := by
  simpa [Schema.rewriteObject_eq, Fields.Distinct, Fields.names, Function.comp_def] using
    distinct_objectSchema hdistinct

theorem rebuilt_of_mem_rewriteObject
    (hfields : ∀ field ∈ o.properties, (rewrite w field.2.shape.schema).Rebuilt) :
    ∀ field ∈ (rewriteObject w (objectSchema o)).properties, field.2.shape.Rebuilt := by
  intro field hmem
  rw [Schema.rewriteObject_eq, objectSchema_eq, List.map_map] at hmem
  obtain ⟨given, hgiven, rfl⟩ := List.mem_map.1 hmem
  simpa [fieldSchema, propertySchema_eq, Schema.rewriteProperty_eq] using hfields given hgiven

/-- The schema of a scope is rebuilt with other defaults if those of the fields are, and if the objects could
be frozen with them. -/
theorem rebuilt_rewriteScope (hdistinct : ∀ o ∈ s.objects, o.Distinct)
    (hfields : ∀ o ∈ s.objects, ∀ field ∈ o.properties, (rewrite w field.2.shape.schema).Rebuilt)
    (hfault : ∀ copies,
      copies.map objectSchema = s.objects.map (fun o => rewriteObject w (objectSchema o)) →
        Registry.fault? s.root copies = none) (registry : Registry) :
    ∃ copy later,
      (Schema.buildScope (Schema.rewriteScope w (scopeSchema s)) registry).result = .ok (copy, later) ∧
        scopeSchema copy = Schema.rewriteScope w (scopeSchema s) := by
  have hobjects : (Schema.rewriteScope w (scopeSchema s)).objects =
      s.objects.map fun o => (o.id, rewriteObject w (objectSchema o)) := by
    rw [Schema.rewriteScope_eq, scopeSchema_eq, List.map_map]
    rfl
  have hentries : ∀ {P : String × ObjectSchema → Prop},
      (∀ o ∈ s.objects, P (o.id, rewriteObject w (objectSchema o))) →
        ∀ entry ∈ (Schema.rewriteScope w (scopeSchema s)).objects, P entry := by
    intro P hall
    rw [hobjects]
    exact List.forall_mem_map.2 hall
  refine Schema.rebuilt_scope (hentries fun o _ => ?_) (hentries fun o ho => ?_) (hentries fun o ho => ?_)
    (fun copies hcopies => ?_) registry
  · rw [Schema.id_rewriteObject, id_objectSchema]
  · exact distinct_rewriteObject w (hdistinct o ho)
  · exact rebuilt_of_mem_rewriteObject (hfields o ho)
  · rw [hobjects, List.map_map] at hcopies
    rw [Schema.rewriteScope_eq, scopeSchema_eq]
    exact hfault copies hcopies

/-- The schema of a shape that can be used is rebuilt with whatever defaults, if these do not matter to the
objects of live scopes. -/
theorem Usable.rebuilt_rewrite {home : Registry} {shape : Shape} (husable : shape.Usable home)
    (hsound : home.Sound) (hchoices : ∀ kind c, w.choice kind c = c)
    (hfault : ∀ s ∈ home.live, ∀ copies,
      copies.map objectSchema = s.objects.map (fun o => rewriteObject w (objectSchema o)) →
        Registry.fault? s.root copies = none) : (rewrite w shape.schema).Rebuilt := by
  induction shape using Shape.inductionThroughScopes with
  | list items ih =>
    intro registry
    obtain ⟨copy, later, hcopy, hschema⟩ := ih (usable_list_iff.1 husable) registry
    refine ⟨.list copy, later, ?_, by rw [schema, schema, rewrite, hschema]⟩
    simp only [schema, rewrite, Schema.build, Build.bind_eq_ok_iff, Build.pure_eq_ok_iff]
    exact ⟨copy, later, hcopy, rfl, rfl⟩
  | object o ih =>
    intro registry
    obtain ⟨hdistinct, hparts⟩ := usable_object_iff_fields.1 husable
    obtain ⟨copy, later, hcopy, hschema⟩ := Schema.rebuilt_object (distinct_rewriteObject w hdistinct)
      (rebuilt_of_mem_rewriteObject fun field hmem => ih field hmem (hparts field hmem)) registry
    refine ⟨.object copy, later, ?_, by rw [schema, schema, rewrite, hschema]⟩
    simp only [schema, rewrite, Schema.build, Build.bind_eq_ok_iff, Build.pure_eq_ok_iff]
    exact ⟨copy, later, hcopy, rfl, rfl⟩
  | oneOf c =>
    intro registry
    obtain ⟨copy, hcopy, hkind, hschema⟩ := c.toOneOf_schema
    refine ⟨.oneOf copy, registry, ?_, by rw [schema, schema, rewrite, hchoices, hkind, hschema]⟩
    simp only [schema, rewrite, hchoices, Schema.build, Build.bind_eq_ok_iff, Build.pure_eq_ok_iff,
      Build.ofExcept_eq_ok_iff]
    exact ⟨copy, registry, ⟨hcopy, rfl⟩, rfl, rfl⟩
  | scope s ih =>
    intro registry
    have hlive := usable_scope_iff.1 husable
    obtain ⟨copy, later, hcopy, hschema⟩ := rebuilt_rewriteScope
      (fun o ho => hsound.declared s hlive o (Or.inl ho))
      (fun o ho field hmem => ih o ho field hmem
        (usable_of_holds hsound ((Registry.Holds.object hlive ho).field hmem)))
      (hfault s hlive) registry
    refine ⟨.scope copy, later, ?_, by rw [schema, schema, rewrite, hschema]⟩
    simp only [schema, rewrite, Schema.build, Build.bind_eq_ok_iff, Build.pure_eq_ok_iff]
    exact ⟨copy, later, hcopy, rfl, rfl⟩
  | _ => exact fun registry => ⟨_, registry, rfl, rfl⟩

/-- A shape that can be used is built back from its schema. -/
theorem Usable.rebuilds {home : Registry} {shape : Shape} (husable : shape.Usable home)
    (hsound : home.Sound) : shape.Rebuilds := by
  have hsame : ∀ schema, rewrite {} schema = schema := by
    intro schema
    refine Schema.rewrite_eq_self_iff.2 fun inner _ => ?_
    cases inner with
    | object o => exact fun _ _ => rfl
    | oneOf kind c => exact rfl
    | _ => trivial
  have hsameObject : ∀ o, rewriteObject {} o = o := by
    intro o
    exact Schema.object.inj (hsame (.object o))
  have hrebuilt : (rewrite {} shape.schema).Rebuilt := by
    refine husable.rebuilt_rewrite hsound (fun _ _ => rfl) fun s hlive copies hcopies => ?_
    simp only [hsameObject] at hcopies
    rw [Registry.fault?_eq_of_map_objectSchema_eq hcopies]
    exact (hsound.consistent s hlive).fault?_eq_none
  rw [hsame] at hrebuilt
  exact hrebuilt

end Shape

/-- A live scope is built back from its schema. -/
theorem Registry.Sound.rebuilds_scope {home : Registry} {s : Scope} (hsound : home.Sound)
    (hlive : s ∈ home.live) (registry : Registry) :
    ∃ copy later, (Schema.buildScope (Shape.scopeSchema s) registry).result = .ok (copy, later) ∧
      Shape.scopeSchema copy = Shape.scopeSchema s := by
  obtain ⟨shape, later, hbuild, hschema⟩ := (Shape.usable_scope_iff.2 hlive).rebuilds hsound registry
  simp only [Shape.schema, Schema.build, Build.bind_eq_ok_iff, Build.pure_eq_ok_iff] at hbuild
  obtain ⟨copy, _, hcopy, rfl, rfl⟩ := hbuild
  exact ⟨copy, _, hcopy, Schema.scope.inj hschema⟩

end Shapes
