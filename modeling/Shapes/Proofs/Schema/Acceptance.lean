import Shapes.Proofs.Schema.Outline

/-!
Which schemas are built: those whose integer keys are integers, each written once, and whose scopes are
closed. References and choices outside of every scope are not judged, as nothing says yet where they will
be bound.
-/

namespace Shapes

/-- All keys are integers, and no two of them are the same integer. -/
def OneOfSchema.Numbered (c : OneOfSchema) : Prop :=
  (∀ target ∈ c.types, (Text.int64? target.1).isSome) ∧
    (c.types.map fun target => Text.int64? target.1).Nodup

instance (c : OneOfSchema) : Decidable c.Numbered :=
  inferInstanceAs (Decidable (_ ∧ _))

/-- One integer may not be written in two ways. -/
example : ¬ OneOfSchema.Numbered ⟨"course", [("1", ⟨"Soup", none⟩), ("+1", ⟨"Cake", none⟩)]⟩ := by
  decide

namespace ScopeSchemaOf

def object? (s : ScopeSchema) (id : String) : Option ObjectSchema :=
  Fields.get? s.objects id

/-- What is asked of a schema in the objects of a scope. A reference names an object of the scope; so does
every target of a choice, and the object does not declare the discriminator field with contents that
cannot be the keys. -/
def Serves (s : ScopeSchema) : Schema → Prop
  | .ref r => ∃ o, s.object? r.id = some o
  | .oneOf kind c => ∀ target ∈ c.types, ∃ o, s.object? target.2.id = some o ∧
      ∀ property, o.property? c.field = some property →
        property.shape.representation = kind.representation ∨ property.shape.representation = .any
  | _ => True

/-- A scope whose objects stand under their ids, with a root among them and nothing in them that points
outside. What is inside a nested scope is the nested scope's affair. -/
structure Closed (s : ScopeSchema) : Prop where
  keyed : ∀ entry ∈ s.objects, entry.1 = entry.2.id
  rooted : ∃ o, s.object? s.root = some o
  serves : ∀ entry ∈ s.objects, ∀ part, (Schema.object entry.2).Encloses part → s.Serves part

end ScopeSchemaOf

namespace Schema

/-- No name is used twice among the fields of an object, the keys of a choice or those of a scope. -/
def Keyed (schema : Schema) : Prop :=
  schema.Everywhere fun inner =>
    match inner with
    | .object o => Fields.Distinct o.properties
    | .oneOf _ c => Fields.Distinct c.types
    | .scope s => Fields.Distinct s.objects
    | _ => True

/-- Wherever a choice by integers or a scope stands in the schema, it is in order. -/
def WellFormed (schema : Schema) : Prop :=
  schema.Everywhere fun inner =>
    match inner with
    | .oneOf .int c => c.Numbered
    | .scope s => s.Closed
    | _ => True

end Schema

/-- Wrapping up what was built cannot fail. -/
private theorem Build.exists_bind_pure_iff {α β : Type} {x : Build α} {f : α → β} {registry : Registry} :
    (∃ b later, ((x >>= fun a => pure (f a)) registry).result = .ok (b, later)) ↔
      ∃ a later, (x registry).result = .ok (a, later) := by
  simp only [bind_eq_ok_iff, pure_eq_ok_iff]
  constructor
  · rintro ⟨_, _, a, later, hbuilt, _, _⟩
    exact ⟨a, later, hbuilt⟩
  · rintro ⟨a, later, hbuilt⟩
    exact ⟨_, _, a, later, hbuilt, rfl, rfl⟩

section Outlines

open Shape (OutlinesObject)

variable {built : List ObjectShape} {objects : List (String × ObjectSchema)}

/-- An object is found under an id where an object of its outline stands under that key. -/
theorem exists_find?_iff_of_outlines (id : String) {P : ObjectShape → Prop} {Q : ObjectSchema → Prop}
    (hkeys : ∀ entry ∈ objects, entry.1 = entry.2.id)
    (houtlines : List.Forall₂ (fun o entry => OutlinesObject o entry.2) built objects)
    (hagree : ∀ o p, OutlinesObject o p → (P o ↔ Q p)) :
    (∃ o, built.find? (·.id == id) = some o ∧ P o) ↔ ∃ p, Fields.get? objects id = some p ∧ Q p := by
  induction houtlines with
  | nil => simp
  | @cons o entry rest others houtline _ ih =>
    obtain ⟨key, p⟩ := entry
    obtain ⟨hkey, hrest⟩ := List.forall_mem_cons.1 hkeys
    obtain rfl : key = p.id := hkey
    have hid : o.id = p.id := houtline.id_eq
    rw [List.find?_cons, Fields.get?_cons]
    by_cases hfound : id = p.id
    · simp [hid, hfound, hagree o p houtline]
    · have hmiss : (o.id == id) = false := by
        rw [hid]
        exact beq_false_of_ne (Ne.symm hfound)
      rw [hmiss, if_neg hfound]
      exact ih hrest

/-- Objects of one outline allow the same contents in a field. -/
theorem allows_iff_of_outlines {o : ObjectShape} {p : ObjectSchema} (houtline : OutlinesObject o p)
    (name : String) (Allowed : Representation → Prop) :
    (∀ property, o.property? name = some property → Allowed property.shape.representation) ↔
      ∀ property, p.property? name = some property → Allowed property.shape.representation := by
  have hproperty := houtline.property?_eq name
  cases hgiven : o.property? name with
  | none =>
    rw [hgiven, Option.map_none, eq_comm, Option.map_eq_none_iff] at hproperty
    simp [hproperty]
  | some property =>
    rw [hgiven, Option.map_some, eq_comm, Option.map_eq_some_iff] at hproperty
    obtain ⟨other, hother, heq⟩ := hproperty
    have hshape : property.shape.Outlines other.shape :=
      Shape.outlines_of_rewriteProperty_eq heq.symm
    simp only [hother, Option.some.injEq, forall_eq', hshape.representation_eq]

/-- A shape has no fault among objects iff the schema that it outlines is served by the scope of them. -/
theorem fault?_eq_none_iff_serves {s : ScopeSchema} {inner : Shape} {part : Schema}
    (hkeys : ∀ entry ∈ s.objects, entry.1 = entry.2.id)
    (houtlines : List.Forall₂ (fun o entry => OutlinesObject o entry.2) built s.objects)
    (hinner : inner.Outlines part) : inner.fault? built = none ↔ s.Serves part := by
  cases inner with
  | ref r =>
    cases part with
    | ref q =>
      have hid : r.id = q.id := (RefSchema.mk.inj (Schema.ref.inj hinner)).1
      have hdeclared := exists_find?_iff_of_outlines r.id (P := fun _ => True) (Q := fun _ => True)
        hkeys houtlines fun _ _ _ => Iff.rfl
      simp only [and_true] at hdeclared
      rw [Shape.fault?_eq_none_iff, ScopeSchemaOf.Serves, ScopeSchemaOf.object?, ← hid, ← hdeclared]
      simp [Shape.ownReferences]
    | _ => cases hinner
  | oneOf c =>
    cases part with
    | oneOf kind d =>
      obtain ⟨rfl, hfield, htargets⟩ := Shape.outlines_oneOf_iff.1 hinner
      have hsame : ∀ Served : String → Prop, (∀ variant ∈ c.variants, Served variant.2.id) ↔
          ∀ target ∈ d.types, Served target.2.id := by
        intro Served
        calc (∀ variant ∈ c.variants, Served variant.2.id)
          _ ↔ ∀ r ∈ c.variants.map fun variant => variant.2.schema, Served r.id :=
            (List.forall_mem_map (f := fun variant : Discriminant × Reference => variant.2.schema)
              (P := fun r => Served r.id)).symm
          _ ↔ ∀ r ∈ d.types.map Prod.snd, Served r.id := by rw [htargets]
          _ ↔ ∀ target ∈ d.types, Served target.2.id :=
            List.forall_mem_map (P := fun r : RefSchema => Served r.id)
      rw [Shape.fault?, List.findSome?_eq_none_iff]
      refine Iff.trans ?_ (hsame fun id => ∃ p, s.object? id = some p ∧ ∀ property,
        p.property? d.field = some property →
          property.shape.representation = c.kind.representation ∨ property.shape.representation = .any)
      refine forall₂_congr fun variant _ => ?_
      rw [Shape.targetFault?_eq_none_iff]
      refine exists_find?_iff_of_outlines variant.2.id hkeys houtlines fun o p houtline => ?_
      rw [OneOf.Admits, hfield]
      exact allows_iff_of_outlines houtline d.field
        fun declared => declared = c.kind.representation ∨ declared = .any
    | _ => cases hinner
  | _ =>
    cases part with
    | ref _ => cases hinner
    | oneOf _ _ => cases hinner
    | _ => exact iff_of_true rfl trivial

/-- Objects that outline those of a scope can be frozen iff the scope is closed. -/
theorem fault?_eq_none_iff_closed {s : ScopeSchema}
    (hdistinct : Fields.Distinct s.objects) (hkeys : ∀ entry ∈ s.objects, entry.1 = entry.2.id)
    (houtlines : List.Forall₂ (fun o entry => OutlinesObject o entry.2) built s.objects) :
    Registry.fault? s.root built = none ↔ s.Closed := by
  have hentries := Schema.entries_eq_of_outlines houtlines hkeys
  have hids : built.map ObjectOf.id = s.objects.map Prod.fst := by
    have hnames := congrArg (List.map Prod.fst) hentries
    rw [List.map_map, List.map_map] at hnames
    exact hnames
  have hroot : (∃ o ∈ built, o.id = s.root) ↔ ∃ p, s.object? s.root = some p := by
    have hdeclared := exists_find?_iff_of_outlines s.root (P := fun _ => True) (Q := fun _ => True)
      hkeys houtlines fun _ _ _ => Iff.rfl
    simp only [and_true] at hdeclared
    rw [ScopeSchemaOf.object?, ← hdeclared, ← Option.isSome_iff_exists, List.find?_isSome]
    simp only [beq_iff_eq]
  have hnodes : (∀ node ∈ built.flatMap Shape.objectNodes, node.fault? built = none) ↔
      ∀ entry ∈ s.objects, ∀ part, (Schema.object entry.2).Encloses part → s.Serves part := by
    constructor
    · intro hfaultless entry hentry part hpart
      obtain ⟨o, ho, hsame⟩ := List.mem_map.1 (hentries ▸ List.mem_map_of_mem hentry)
      have houtline : OutlinesObject o entry.2 := (Prod.mk.inj hsame).2
      obtain ⟨inner, hinner, houtlined⟩ := (Shape.outlines_object_iff.2 houtline).exists_inner hpart
      refine (fault?_eq_none_iff_serves hkeys houtlines houtlined).1 ?_
      rcases List.mem_cons.1 (Shape.encloses_iff.1 hinner) with rfl | hnode
      · rfl
      · exact hfaultless inner (List.mem_flatMap.2 ⟨o, ho, hnode⟩)
    · intro hserves node hmem
      obtain ⟨o, ho, hnode⟩ := List.mem_flatMap.1 hmem
      obtain ⟨entry, hentry, hsame⟩ := List.mem_map.1 (hentries ▸ List.mem_map_of_mem ho)
      have houtline : OutlinesObject o entry.2 := (Prod.mk.inj hsame).2.symm
      have hencloses : (Shape.object o).Encloses node :=
        Shape.encloses_iff.2 (List.mem_cons_of_mem _ hnode)
      obtain ⟨part, hpart, houtlined⟩ := (Shape.outlines_object_iff.2 houtline).exists_part hencloses
      exact (fault?_eq_none_iff_serves hkeys houtlines houtlined).2 (hserves entry hentry part hpart)
  rw [Registry.fault?_eq_none_iff, hids, hroot, hnodes]
  constructor
  · rintro ⟨-, hrooted, hserves⟩
    exact ⟨hkeys, hrooted, hserves⟩
  · intro hclosed
    exact ⟨hdistinct, hclosed.rooted, hclosed.serves⟩

end Outlines

namespace Schema

variable {schema : Schema} {o : ObjectSchema} {s : ScopeSchema}

/-- A schema is built exactly if it is in order everywhere, in whatever registry. -/
def Judged (schema : Schema) : Prop :=
  ∀ registry, (∃ shape later, (schema.build registry).result = .ok (shape, later)) ↔ schema.WellFormed

private theorem exists_buildProperties_iff {properties : List (String × Property Schema)}
    (hfields : ∀ field ∈ properties, field.2.shape.Judged) (registry : Registry) :
    (∃ built later, (buildProperties properties registry).result = .ok (built, later)) ↔
      ∀ field ∈ properties, field.2.shape.WellFormed := by
  induction properties generalizing registry with
  | nil => exact iff_of_true ⟨[], registry, rfl⟩ nofun
  | cons field rest ih =>
    obtain ⟨name, schema, required, default, requiredIf, requiredIfNot, conflicts, label⟩ := field
    obtain ⟨hfield, hrest⟩ := List.forall_mem_cons.1 hfields
    rw [List.forall_mem_cons]
    simp only [buildProperties, buildProperty, bind_assoc, pure_bind, Build.bind_eq_ok_iff,
      Build.pure_eq_ok_iff]
    constructor
    · rintro ⟨_, _, shape, between, hshape, others, _, hothers, rfl, rfl⟩
      exact ⟨(hfield registry).1 ⟨shape, between, hshape⟩, (ih hrest between).1 ⟨others, _, hothers⟩⟩
    · rintro ⟨hschema, hothers⟩
      obtain ⟨shape, between, hshape⟩ := (hfield registry).2 hschema
      obtain ⟨others, later, hothers⟩ := (ih hrest between).2 hothers
      exact ⟨_, _, shape, between, hshape, others, later, hothers, rfl, rfl⟩

private theorem exists_buildObject_iff (hdistinct : Fields.Distinct o.properties)
    (hfields : ∀ field ∈ o.properties, field.2.shape.Judged) (registry : Registry) :
    (∃ built later, (buildObject o registry).result = .ok (built, later)) ↔
      ∀ field ∈ o.properties, field.2.shape.WellFormed := by
  rw [← exists_buildProperties_iff hfields registry]
  obtain ⟨id, properties, allowUnknown⟩ := o
  simp only [buildObject, Build.bind_eq_ok_iff, Build.ofExcept_eq_ok_iff]
  constructor
  · rintro ⟨_, _, fields, later, hproperties, _, _⟩
    exact ⟨fields, later, hproperties⟩
  · rintro ⟨fields, later, hproperties⟩
    have houtline := outline_of_buildProperties hproperties
    have hnames := congrArg (List.map Prod.fst) houtline
    rw [List.map_map, List.map_map] at hnames
    have hdeclared : Fields.Distinct fields := (congrArg List.Nodup hnames).mpr hdistinct
    exact ⟨_, later, fields, later, hproperties, ObjectOf.declare_eq_ok_iff.2 ⟨hdeclared, rfl⟩, rfl⟩

private theorem exists_buildObjects_iff {objects : List (String × ObjectSchema)}
    (hdistinct : ∀ entry ∈ objects, Fields.Distinct entry.2.properties)
    (hfields : ∀ entry ∈ objects, ∀ field ∈ entry.2.properties, field.2.shape.Judged)
    (registry : Registry) :
    (∃ built later, (buildObjects objects registry).result = .ok (built, later)) ↔
      (∀ entry ∈ objects, entry.1 = entry.2.id) ∧
        ∀ entry ∈ objects, ∀ field ∈ entry.2.properties, field.2.shape.WellFormed := by
  induction objects generalizing registry with
  | nil => exact iff_of_true ⟨[], registry, rfl⟩ ⟨nofun, nofun⟩
  | cons entry rest ih =>
    obtain ⟨key, o⟩ := entry
    obtain ⟨hdeclared, hdistinct⟩ := List.forall_mem_cons.1 hdistinct
    obtain ⟨hobject, hfields⟩ := List.forall_mem_cons.1 hfields
    have ih := ih hdistinct hfields
    rw [List.forall_mem_cons, List.forall_mem_cons, buildObjects]
    constructor
    · rintro ⟨built, later, hbuild⟩
      split at hbuild
      · rename_i hkey
        simp only [Build.bind_eq_ok_iff, Build.pure_eq_ok_iff] at hbuild
        obtain ⟨object, between, hbuilt, others, _, hothers, -, -⟩ := hbuild
        obtain ⟨hkeys, hrest⟩ := (ih between).1 ⟨others, _, hothers⟩
        exact ⟨⟨hkey, hkeys⟩,
          (exists_buildObject_iff hdeclared hobject registry).1 ⟨object, between, hbuilt⟩, hrest⟩
      · cases hbuild
    · rintro ⟨⟨hkey, hkeys⟩, hfirst, hrest⟩
      obtain ⟨object, between, hbuilt⟩ :=
        (exists_buildObject_iff hdeclared hobject registry).2 hfirst
      obtain ⟨others, later, hothers⟩ := (ih between).2 ⟨hkeys, hrest⟩
      rw [if_pos hkey]
      simp only [Build.bind_eq_ok_iff, Build.pure_eq_ok_iff]
      exact ⟨_, _, object, between, hbuilt, others, later, hothers, rfl, rfl⟩

private theorem exists_buildScope_iff (hkeys : Fields.Distinct s.objects)
    (hdistinct : ∀ entry ∈ s.objects, Fields.Distinct entry.2.properties)
    (hfields : ∀ entry ∈ s.objects, ∀ field ∈ entry.2.properties, field.2.shape.Judged)
    (registry : Registry) :
    (∃ built later, (buildScope s registry).result = .ok (built, later)) ↔
      s.Closed ∧ ∀ entry ∈ s.objects, ∀ field ∈ entry.2.properties, field.2.shape.WellFormed := by
  obtain ⟨objects, root⟩ := s
  simp only [buildScope, Build.bind_eq_ok_iff]
  constructor
  · rintro ⟨_, _, frozen, between, hobjects, hfreeze⟩
    obtain ⟨hids, houtlines⟩ :=
      outline_of_buildObjects hobjects
    refine ⟨?_, ((exists_buildObjects_iff hdistinct hfields registry).1 ⟨frozen, between, hobjects⟩).2⟩
    exact (fault?_eq_none_iff_closed hkeys hids houtlines).1 (Registry.freeze_eq_ok_iff.1 hfreeze).1
  · rintro ⟨hclosed, hwellFormed⟩
    obtain ⟨frozen, between, hobjects⟩ :=
      (exists_buildObjects_iff hdistinct hfields registry).2 ⟨hclosed.keyed, hwellFormed⟩
    obtain ⟨hids, houtlines⟩ :=
      outline_of_buildObjects hobjects
    have hfault := (fault?_eq_none_iff_closed hkeys hids houtlines).2 hclosed
    exact ⟨_, _, frozen, between, hobjects, Registry.freeze_eq_ok_iff.2 ⟨hfault, rfl, rfl⟩⟩

private theorem exists_toOneOf_iff_wellFormed {kind : KeyKind} {c : OneOfSchema}
    (hdistinct : Fields.Distinct c.types) :
    (∃ d, c.toOneOf kind = .ok d) ↔ (Schema.oneOf kind c).WellFormed := by
  rw [OneOfSchema.exists_toOneOf_iff, WellFormed, everywhere_oneOf_iff]
  cases kind with
  | int =>
    have hinjective : Function.Injective (Option.map Discriminant.int) :=
      Option.map_injective fun _ _ => Discriminant.int.inj
    have hparse : (c.types.map fun target => KeyKind.int.parse? target.1) =
        (c.types.map fun target => Text.int64? target.1).map (Option.map .int) := by
      rw [List.map_map]
      rfl
    rw [hparse, List.nodup_map_iff hinjective]
    simp only [KeyKind.parse?, Option.isSome_map, OneOfSchema.Numbered]
  | string =>
    have hinjective : Function.Injective fun name => some (Discriminant.string name) :=
      fun _ _ heq => Discriminant.string.inj (Option.some.inj heq)
    have hparse : (c.types.map fun target => KeyKind.string.parse? target.1) =
        c.types.names.map fun name => some (Discriminant.string name) := by
      rw [Fields.names, List.map_map]
      rfl
    rw [hparse, List.nodup_map_iff hinjective]
    exact iff_of_true ⟨fun _ _ => rfl, hdistinct⟩ trivial

private theorem wellFormed_object_iff :
    (Schema.object o).WellFormed ↔ ∀ field ∈ o.properties, field.2.shape.WellFormed := by
  rw [WellFormed, everywhere_object_iff]
  exact and_iff_right trivial

private theorem Keyed.judged {schema : Schema} (hkeyed : schema.Keyed) : schema.Judged := by
  induction schema using Schema.induction with
  | list items ih =>
    intro registry
    rw [WellFormed, everywhere_list_iff, build]
    exact Build.exists_bind_pure_iff.trans
      ((ih (everywhere_list_iff.1 hkeyed).2 registry).trans (and_iff_right trivial).symm)
  | object o ih =>
    intro registry
    obtain ⟨hdistinct, hfields⟩ := everywhere_object_iff.1 hkeyed
    rw [wellFormed_object_iff, build]
    exact Build.exists_bind_pure_iff.trans (exists_buildObject_iff hdistinct
      (fun field hmem => ih field hmem (hfields field hmem)) registry)
  | oneOf kind c =>
    intro registry
    rw [← exists_toOneOf_iff_wellFormed (everywhere_oneOf_iff.1 hkeyed), build]
    refine Build.exists_bind_pure_iff.trans ?_
    simp only [Build.ofExcept_eq_ok_iff]
    constructor
    · rintro ⟨d, _, hbuilt, -⟩
      exact ⟨d, hbuilt⟩
    · rintro ⟨d, hbuilt⟩
      exact ⟨d, registry, hbuilt, rfl⟩
  | scope s ih =>
    intro registry
    obtain ⟨hkeys, hmembers⟩ := everywhere_scope_iff.1 hkeyed
    have hobjects := fun entry hentry => everywhere_object_iff.1 (hmembers entry hentry)
    have hscope := exists_buildScope_iff hkeys (fun entry hentry => (hobjects entry hentry).1)
      (fun entry hentry field hmem =>
        ih entry hentry field hmem ((hobjects entry hentry).2 field hmem)) registry
    rw [build]
    refine Build.exists_bind_pure_iff.trans (hscope.trans ?_)
    rw [WellFormed, everywhere_scope_iff]
    exact and_congr_right fun _ => forall₂_congr fun entry _ => wellFormed_object_iff.symm
  | _ =>
    intro registry
    refine iff_of_true ⟨_, registry, rfl⟩ fun inner hcontains => ?_
    cases hcontains
    trivial

/-- The schemas that are built are the ones that are in order everywhere: the keys of every choice by
integers are integers, each written once, and every scope is closed. References and choices outside of
scopes are built whatever they name. -/
theorem exists_build_iff_wellFormed {schema : Schema} (hkeyed : schema.Keyed) (registry : Registry) :
    (∃ shape later, (schema.build registry).result = .ok (shape, later)) ↔ schema.WellFormed :=
  hkeyed.judged registry

end Schema

namespace Menus

def dish (id : String) : ObjectSchema where
  id := id
  properties := [
    ("course", { shape := .integer, required := true }),
    ("goesWith", { shape := .ref { id := id } })]

/-- A scope with a choice in a list, and a reference outside of every scope beside it. -/
def menu : Schema :=
  .object {
    id := "Dinner"
    properties := [
      ("menu", {
        shape := .scope {
          objects := [
            ("Menu", {
              id := "Menu"
              properties := [("dishes", {
                shape := .list (.oneOf .int
                  ⟨"course", [("1", { id := "Soup" }), ("2", { id := "Cake" })]⟩) })] }),
            ("Soup", dish "Soup"),
            ("Cake", dish "Cake")]
          root := "Menu" } }),
      ("host", { shape := .ref { id := "Person" } })] }

theorem keyed_dish (id : String) : (Schema.object (dish id)).Keyed := by
  refine Schema.everywhere_object_iff.2 ⟨(by decide : ["course", "goesWith"].Nodup), ?_⟩
  simp only [dish, List.forall_mem_cons]
  refine ⟨?_, ?_, nofun⟩
  all_goals
    intro inner hcontains
    cases hcontains
    trivial

theorem keyed_menu : menu.Keyed := by
  simp only [menu, Schema.Keyed, Schema.everywhere_object_iff, Schema.everywhere_scope_iff,
    Schema.everywhere_list_iff, Schema.everywhere_oneOf_iff, List.forall_mem_cons]
  refine ⟨by decide, ⟨by decide, ⟨by decide, ⟨trivial, by decide⟩, nofun⟩, ?_, ?_, nofun⟩, ?_, nofun⟩
  · exact Schema.everywhere_object_iff.1 (keyed_dish "Soup")
  · exact Schema.everywhere_object_iff.1 (keyed_dish "Cake")
  · intro inner hcontains
    cases hcontains
    trivial

theorem wellFormed_menu : menu.Keyed ∧ menu.WellFormed :=
  ⟨keyed_menu, (Schema.exists_build_iff_wellFormed keyed_menu ⟨0, []⟩).1 ⟨_, _, rfl⟩⟩

end Menus

end Shapes
