import Shapes.Proofs.Schema.Export
import Shapes.Proofs.Scope.Closed
import Shapes.Schema.Build

/-!
Building shapes from schemas. A build is followed by an invariant: whatever holds of plain shapes, passes to
lists, objects and later states, and is there for each scope when it is frozen, holds of what is built. In
particular what is built can be used in the registry that building ends with, which came about from the first
one by freezing alone.
-/

namespace Shapes

namespace Registry

/-- A registry came about from another by changes that let go of no live scope. -/
structure Grows (registry later : Registry) : Prop where
  steps : Relation.ReflTransGen Step registry later
  keeps : ∀ s ∈ registry.live, s ∈ later.live

variable {registry between later : Registry}

theorem Grows.refl (registry : Registry) : registry.Grows registry :=
  ⟨.refl, fun _ hlive => hlive⟩

theorem Grows.trans (hfirst : registry.Grows between) (hsecond : between.Grows later) :
    registry.Grows later :=
  ⟨hfirst.steps.trans hsecond.steps, fun s hlive => hsecond.keeps s (hfirst.keeps s hlive)⟩

theorem grows_of_freeze {root : String} {objects : List ObjectShape} {scope : Scope}
    (husable : ∀ o ∈ objects, Shape.Usable registry (.object o))
    (hfreeze : (registry.freeze root objects).result = .ok (scope, later)) : registry.Grows later := by
  refine ⟨.single (.freeze husable hfreeze), fun s hlive => ?_⟩
  obtain ⟨_, _, rfl⟩ := freeze_eq_ok_iff.1 hfreeze
  exact List.mem_append_left _ hlive

end Registry

namespace Shape

variable {registry later : Registry} {items : Shape} {o : ObjectShape} {s : Scope}

theorem Usable.of_grows {shape : Shape} (husable : shape.Usable registry)
    (hgrows : registry.Grows later) : shape.Usable later :=
  ⟨husable.declared, fun s hmem => hgrows.keeps s (husable.alive s hmem)⟩

/-- A shape can be used if nothing is inside of it and it is not an object or a scope. -/
theorem usable_of_nodes_eq {shape : Shape} (hnodes : shape.nodes = [shape])
    (hobject : ∀ o, shape ≠ .object o) (hscope : ∀ s, shape ≠ .scope s) : shape.Usable registry := by
  refine ⟨fun o hmem => ?_, fun s hmem => ?_⟩
  · rw [hnodes, List.mem_singleton] at hmem
    exact absurd hmem.symm (hobject o)
  · rw [hnodes, List.mem_singleton] at hmem
    exact absurd hmem.symm (hscope s)

theorem usable_list_iff : (Shape.list items).Usable registry ↔ items.Usable registry := by
  have hmem : ∀ node, node ∈ (Shape.list items).nodes ↔ node = .list items ∨ node ∈ items.nodes :=
    fun node => by rw [nodes, List.mem_cons]
  constructor
  · intro husable
    exact ⟨fun o hnode => husable.declared o ((hmem _).2 (Or.inr hnode)),
      fun s hnode => husable.alive s ((hmem _).2 (Or.inr hnode))⟩
  · intro husable
    refine ⟨fun o hnode => ?_, fun s hnode => ?_⟩
    · rcases (hmem _).1 hnode with heq | hnode
      · cases heq
      · exact husable.declared o hnode
    · rcases (hmem _).1 hnode with heq | hnode
      · cases heq
      · exact husable.alive s hnode

/-- An object can be used iff it was declared and the shapes of its fields can be used. -/
theorem usable_object_iff_fields : (Shape.object o).Usable registry ↔
    o.Distinct ∧ ∀ field ∈ o.properties, field.2.shape.Usable registry := by
  rw [usable_object_iff]
  constructor
  · rintro ⟨hown, hinner, hscopes⟩
    exact ⟨hown, fun field hfield =>
      ⟨fun inner hmem => hinner inner (mem_objectNodes.2 ⟨field, hfield, hmem⟩),
        fun s hmem => hscopes s (mem_objectNodes.2 ⟨field, hfield, hmem⟩)⟩⟩
  · rintro ⟨hown, hfields⟩
    refine ⟨hown, fun inner hmem => ?_, fun s hmem => ?_⟩
    · obtain ⟨field, hfield, hmem⟩ := mem_objectNodes.1 hmem
      exact (hfields field hfield).declared inner hmem
    · obtain ⟨field, hfield, hmem⟩ := mem_objectNodes.1 hmem
      exact (hfields field hfield).alive s hmem

theorem usable_scope_iff : (Shape.scope s).Usable registry ↔ s ∈ registry.live := by
  constructor
  · intro husable
    exact husable.alive s (mem_nodes_self _)
  · intro hlive
    refine ⟨fun o hmem => ?_, fun t hmem => ?_⟩
    · cases List.mem_singleton.1 hmem
    · cases List.mem_singleton.1 hmem
      exact hlive

end Shape

namespace Build

variable {α β : Type} {registry later : Registry}

theorem pure_eq_ok_iff {a b : α} :
    ((pure a : Build α) registry).result = .ok (b, later) ↔ a = b ∧ registry = later := by
  show Except.ok (a, registry) = Except.ok (b, later) ↔ _
  rw [Except.ok.injEq, Prod.mk.injEq]

theorem bind_eq_ok_iff {x : Build α} {f : α → Build β} {b : β} :
    ((x >>= f) registry).result = .ok (b, later) ↔
      ∃ a between, (x registry).result = .ok (a, between) ∧ (f a between).result = .ok (b, later) := by
  show (x registry >>= fun ended => f ended.1 ended.2).result = _ ↔ _
  rw [Traced.result_bind_eq_ok]
  exact Prod.exists

theorem ofExcept_eq_ok_iff {result : Except BuildError α} {a : α} :
    (ofExcept result registry).result = .ok (a, later) ↔ result = .ok a ∧ registry = later := by
  show result.map (fun found => (found, registry)) = .ok (a, later) ↔ _
  cases result with
  | error error => simp [Except.map]
  | ok found => simp [Except.map]

end Build

namespace Shape

/-- A shape that is built as it stands: nothing is inside of it, and its references are unbound. -/
inductive Plain : Shape → Prop
  | any : Plain .any
  | bool : Plain .bool
  | int : Plain .int
  | float : Plain .float
  | string : Plain .string
  | ref {id : String} {label : Option Label} : Plain (.ref ⟨id, label, none⟩)
  | oneOf {c : OneOf} (hunbound : ∀ variant ∈ c.variants, variant.2.scope = none) : Plain (.oneOf c)

theorem Plain.usable {registry : Registry} {shape : Shape} (hplain : shape.Plain) :
    shape.Usable registry := by
  cases hplain <;> exact usable_of_nodes_eq rfl nofun nofun

end Shape

namespace OneOf

/-- Declaring a choice succeeds iff no key is used twice. -/
theorem declare_eq_ok_iff {field : String} {kind : KeyKind} {variants : List (Discriminant × Reference)}
    {uniform : ∀ v ∈ variants, v.1.kind = kind} {c : OneOf} :
    declare field kind variants uniform = .ok c ↔
      ∃ distinct, c = ⟨field, kind, variants, uniform, distinct⟩ := by
  unfold declare
  split
  · rename_i key hrepeated
    have hnot : ¬ (variants.map Prod.fst).Nodup := by
      intro hnodup
      rw [firstRepeated?_eq_none_iff.2 ⟨hnodup, by simp⟩] at hrepeated
      cases hrepeated
    simp [hnot]
  · rename_i hnone
    have hnodup := (firstRepeated?_eq_none_iff.1 hnone).1
    simp [hnodup, eq_comm]

end OneOf

namespace OneOfSchema

/-- The variants that are read from entries have their targets, unbound, under the keys that their names
give. -/
theorem variants_eq_ok {kind : KeyKind} {field : String} {types : List (String × RefSchema)}
    {found : { variants : List (Discriminant × Reference) // ∀ variant ∈ variants, variant.1.kind = kind }}
    (hfound : variants kind field types = .ok found) :
    (found.1.map fun variant => some variant.1) = (types.map fun target => kind.parse? target.1) ∧
      found.1.map Prod.snd = types.map fun target => target.2.toReference := by
  induction types generalizing found with
  | nil =>
    cases hfound
    exact ⟨rfl, rfl⟩
  | cons target rest ih =>
    obtain ⟨name, r⟩ := target
    rw [variants] at hfound
    split at hfound
    · cases hfound
    · rename_i key hkey
      cases hrest : variants kind field rest with
      | error error =>
        rw [hrest] at hfound
        cases hfound
      | ok others =>
        rw [hrest] at hfound
        cases hfound
        obtain ⟨hkeys, htargets⟩ := ih hrest
        constructor
        · rw [List.map_cons, List.map_cons, hkeys, hkey]
        · rw [List.map_cons, List.map_cons, htargets]

theorem plain_of_toOneOf {kind : KeyKind} {schema : OneOfSchema} {c : OneOf}
    (hchoice : schema.toOneOf kind = .ok c) : (Shape.oneOf c).Plain := by
  rw [toOneOf] at hchoice
  split at hchoice
  · cases hchoice
  · rename_i found hfound
    obtain ⟨distinct, rfl⟩ := OneOf.declare_eq_ok_iff.1 hchoice
    refine .oneOf fun variant hmem => ?_
    have htarget := List.mem_map_of_mem (f := Prod.snd) hmem
    rw [(variants_eq_ok hfound).2] at htarget
    obtain ⟨target, -, heq⟩ := List.mem_map.1 htarget
    rw [← heq]
    rfl

end OneOfSchema

namespace Schema

private theorem sizeOf_lt_of_mem {o : ObjectSchema} {field : String × Property Schema}
    (hmem : field ∈ o.properties) : sizeOf field.2.shape < sizeOf (Schema.object o) := by
  have hlt := List.sizeOf_lt_of_mem hmem
  obtain ⟨id, properties, allowUnknown⟩ := o
  obtain ⟨name, property⟩ := field
  cases property
  simp only [Schema.object.sizeOf_spec, ObjectOf.mk.sizeOf_spec, Prod.mk.sizeOf_spec,
    Property.mk.sizeOf_spec] at hlt ⊢
  omega

private theorem sizeOf_lt_of_mem_objects {s : ScopeSchema} {entry : String × ObjectSchema}
    (hmem : entry ∈ s.objects) : sizeOf (Schema.object entry.2) < sizeOf (Schema.scope s) := by
  have hlt := List.sizeOf_lt_of_mem hmem
  obtain ⟨objects, root⟩ := s
  obtain ⟨key, o⟩ := entry
  simp only [Schema.object.sizeOf_spec, Schema.scope.sizeOf_spec, ScopeSchemaOf.mk.sizeOf_spec,
    Prod.mk.sizeOf_spec] at hlt ⊢
  omega

/-- Induction over a schema, through the scopes in it. -/
@[elab_as_elim]
theorem induction {P : Schema → Prop} (any : P .any) (bool : P .bool) (integer : P .integer)
    (float : P .float) (string : P .string) (list : ∀ items, P items → P (.list items))
    (object : ∀ o, (∀ field ∈ o.properties, P field.2.shape) → P (.object o))
    (ref : ∀ r, P (.ref r)) (oneOf : ∀ kind c, P (.oneOf kind c))
    (scope : ∀ s, (∀ entry ∈ s.objects, ∀ field ∈ entry.2.properties, P field.2.shape) → P (.scope s))
    (schema : Schema) : P schema := by
  induction hsize : sizeOf schema using Nat.strongRecOn generalizing schema with
  | _ size ih =>
    subst hsize
    cases schema with
    | any => exact any
    | bool => exact bool
    | integer => exact integer
    | float => exact float
    | string => exact string
    | list items => exact list items (ih _ (by simp) items rfl)
    | object o => exact object o fun field hmem => ih _ (sizeOf_lt_of_mem hmem) _ rfl
    | ref r => exact ref r
    | oneOf kind c => exact oneOf kind c
    | scope s =>
      refine scope s fun entry hentry field hmem => ih _ ?_ _ rfl
      exact Nat.lt_trans (sizeOf_lt_of_mem hmem) (sizeOf_lt_of_mem_objects hentry)

end Schema

/-- A way to follow builds. A build goes through states, which know the registry and grow from one to the
next, and in the state that it ends in something holds of what was built. -/
structure BuildInvariant (σ : Type) where
  registry : σ → Registry
  Grows : σ → σ → Prop
  Holds : σ → Shape → Prop
  refl : ∀ x, Grows x x
  trans : ∀ {x y z}, Grows x y → Grows y z → Grows x z
  keeps : ∀ {x y shape}, Grows x y → Holds x shape → Holds y shape
  plain : ∀ {x shape}, shape.Plain → Holds x shape
  list : ∀ {x items}, Holds x items → Holds x (.list items)
  object : ∀ {x} {o : ObjectShape}, o.Distinct → (∀ field ∈ o.properties, Holds x field.2.shape) →
    Holds x (.object o)
  freeze : ∀ {x root} {objects : List ObjectShape} {scope later},
    (∀ o ∈ objects, Holds x (.object o)) →
    ((registry x).freeze root objects).result = .ok (scope, later) →
    ∃ y, registry y = later ∧ Grows x y ∧ Holds y (.scope scope)

namespace BuildInvariant

open Schema

variable {σ : Type} (invariant : BuildInvariant σ) {x : σ} {later : Registry}

/-- Every state from which the schema is built leads to one in which what is built holds. -/
def Follows (schema : Schema) : Prop :=
  ∀ x shape later, (schema.build (invariant.registry x)).result = .ok (shape, later) →
    ∃ y, invariant.registry y = later ∧ invariant.Grows x y ∧ invariant.Holds y shape

variable {invariant}

private theorem follows_buildProperties {properties : List (String × Property Schema)}
    {built : List (String × Property Shape)}
    (hfields : ∀ field ∈ properties, invariant.Follows field.2.shape)
    (hbuild : (buildProperties properties (invariant.registry x)).result = .ok (built, later)) :
    ∃ y, invariant.registry y = later ∧ invariant.Grows x y ∧
      ∀ field ∈ built, invariant.Holds y field.2.shape := by
  induction properties generalizing x built with
  | nil =>
    obtain ⟨rfl, rfl⟩ := Build.pure_eq_ok_iff.1 hbuild
    exact ⟨x, rfl, invariant.refl x, nofun⟩
  | cons field rest ih =>
    obtain ⟨name, schema, required, default, requiredIf, requiredIfNot, conflicts, label⟩ := field
    simp only [buildProperties, buildProperty, bind_assoc, pure_bind, Build.bind_eq_ok_iff,
      Build.pure_eq_ok_iff] at hbuild
    obtain ⟨shape, between, hshape, others, _, hothers, rfl, rfl⟩ := hbuild
    obtain ⟨y, rfl, hfirst, hholds⟩ := hfields _ (List.mem_cons_self ..) _ _ _ hshape
    obtain ⟨z, rfl, hrest, hall⟩ :=
      ih (fun field hmem => hfields field (List.mem_cons_of_mem _ hmem)) hothers
    refine ⟨z, rfl, invariant.trans hfirst hrest, fun field hmem => ?_⟩
    rcases List.mem_cons.1 hmem with rfl | hmem
    · exact invariant.keeps hrest hholds
    · exact hall field hmem

private theorem follows_buildObject {o : ObjectSchema} {built : ObjectShape}
    (hfields : ∀ field ∈ o.properties, invariant.Follows field.2.shape)
    (hbuild : (buildObject o (invariant.registry x)).result = .ok (built, later)) :
    ∃ y, invariant.registry y = later ∧ invariant.Grows x y ∧ invariant.Holds y (.object built) := by
  obtain ⟨id, properties, allowUnknown⟩ := o
  simp only [buildObject, Build.bind_eq_ok_iff, Build.ofExcept_eq_ok_iff] at hbuild
  obtain ⟨fields, _, hproperties, hdeclare, rfl⟩ := hbuild
  obtain ⟨y, hy, hgrows, hholds⟩ := follows_buildProperties hfields hproperties
  obtain ⟨hdistinct, rfl⟩ := ObjectOf.declare_eq_ok_iff.1 hdeclare
  exact ⟨y, hy, hgrows, invariant.object hdistinct hholds⟩

private theorem follows_buildObjects {objects : List (String × ObjectSchema)}
    {built : List ObjectShape}
    (hfields : ∀ entry ∈ objects, ∀ field ∈ entry.2.properties, invariant.Follows field.2.shape)
    (hbuild : (buildObjects objects (invariant.registry x)).result = .ok (built, later)) :
    ∃ y, invariant.registry y = later ∧ invariant.Grows x y ∧
      ∀ o ∈ built, invariant.Holds y (.object o) := by
  induction objects generalizing x built with
  | nil =>
    obtain ⟨rfl, rfl⟩ := Build.pure_eq_ok_iff.1 hbuild
    exact ⟨x, rfl, invariant.refl x, nofun⟩
  | cons entry rest ih =>
    obtain ⟨key, o⟩ := entry
    rw [buildObjects] at hbuild
    split at hbuild
    · simp only [Build.bind_eq_ok_iff, Build.pure_eq_ok_iff] at hbuild
      obtain ⟨object, between, hobject, others, _, hothers, rfl, rfl⟩ := hbuild
      obtain ⟨y, rfl, hfirst, hholds⟩ := follows_buildObject (hfields _ (List.mem_cons_self ..)) hobject
      obtain ⟨z, rfl, hrest, hall⟩ :=
        ih (fun entry hmem => hfields entry (List.mem_cons_of_mem _ hmem)) hothers
      refine ⟨z, rfl, invariant.trans hfirst hrest, fun o hmem => ?_⟩
      rcases List.mem_cons.1 hmem with rfl | hmem
      · exact invariant.keeps hrest hholds
      · exact hall o hmem
    · cases hbuild

private theorem follows_buildScope_of_fields {s : ScopeSchema} {built : Scope}
    (hfields : ∀ entry ∈ s.objects, ∀ field ∈ entry.2.properties, invariant.Follows field.2.shape)
    (hbuild : (buildScope s (invariant.registry x)).result = .ok (built, later)) :
    ∃ y, invariant.registry y = later ∧ invariant.Grows x y ∧ invariant.Holds y (.scope built) := by
  obtain ⟨objects, root⟩ := s
  simp only [buildScope, Build.bind_eq_ok_iff] at hbuild
  obtain ⟨frozen, between, hobjects, hfreeze⟩ := hbuild
  obtain ⟨y, rfl, hgrows, hholds⟩ := follows_buildObjects hfields hobjects
  obtain ⟨z, hz, hlast, hscope⟩ := invariant.freeze hholds hfreeze
  exact ⟨z, hz, invariant.trans hgrows hlast, hscope⟩

/-- What holds of plain shapes, passes to lists, objects and later states, and is there for a scope when it
is frozen, holds of everything that is built. -/
theorem follows (invariant : BuildInvariant σ) (schema : Schema) : invariant.Follows schema := by
  induction schema using Schema.induction with
  | list items ih =>
    intro x shape later hbuild
    simp only [build, Build.bind_eq_ok_iff, Build.pure_eq_ok_iff] at hbuild
    obtain ⟨built, _, hitems, rfl, rfl⟩ := hbuild
    obtain ⟨y, hy, hgrows, hholds⟩ := ih _ _ _ hitems
    exact ⟨y, hy, hgrows, invariant.list hholds⟩
  | object o ih =>
    intro x shape later hbuild
    simp only [build, Build.bind_eq_ok_iff, Build.pure_eq_ok_iff] at hbuild
    obtain ⟨built, _, hobject, rfl, rfl⟩ := hbuild
    exact follows_buildObject ih hobject
  | scope s ih =>
    intro x shape later hbuild
    simp only [build, Build.bind_eq_ok_iff, Build.pure_eq_ok_iff] at hbuild
    obtain ⟨built, _, hscope, rfl, rfl⟩ := hbuild
    exact follows_buildScope_of_fields ih hscope
  | oneOf kind c =>
    intro x shape later hbuild
    simp only [build, Build.bind_eq_ok_iff, Build.pure_eq_ok_iff, Build.ofExcept_eq_ok_iff] at hbuild
    obtain ⟨built, _, ⟨hchoice, rfl⟩, rfl, rfl⟩ := hbuild
    exact ⟨x, rfl, invariant.refl x, invariant.plain (OneOfSchema.plain_of_toOneOf hchoice)⟩
  | _ =>
    intro x shape later hbuild
    obtain ⟨rfl, rfl⟩ := Build.pure_eq_ok_iff.1 hbuild
    exact ⟨x, rfl, invariant.refl x, invariant.plain (by constructor)⟩

theorem follows_buildScope (invariant : BuildInvariant σ) {s : ScopeSchema} {built : Scope}
    (hbuild : (buildScope s (invariant.registry x)).result = .ok (built, later)) :
    ∃ y, invariant.registry y = later ∧ invariant.Grows x y ∧ invariant.Holds y (.scope built) :=
  follows_buildScope_of_fields (fun _ _ field _ => invariant.follows field.2.shape) hbuild

/-- Building only freezes scopes, and what is built can be used. -/
def usable : BuildInvariant Registry where
  registry registry := registry
  Grows := Registry.Grows
  Holds registry shape := shape.Usable registry
  refl := Registry.Grows.refl
  trans := Registry.Grows.trans
  keeps hgrows husable := husable.of_grows hgrows
  plain := Shape.Plain.usable
  list := Shape.usable_list_iff.2
  object hdistinct hfields := Shape.usable_object_iff_fields.2 ⟨hdistinct, hfields⟩
  freeze husable hfreeze := ⟨_, rfl, Registry.grows_of_freeze husable hfreeze,
    Shape.usable_scope_iff.2 (Registry.mem_live_of_freeze_eq hfreeze)⟩

end BuildInvariant

namespace Schema

variable {registry later : Registry}

/-- What a schema builds can be used, in a registry that lost no scope. -/
def BuildsUsable (schema : Schema) : Prop :=
  ∀ registry shape later, (schema.build registry).result = .ok (shape, later) →
    registry.Grows later ∧ shape.Usable later

/-- Building a schema only freezes scopes, and what is built owns live scopes only. -/
theorem buildsUsable (schema : Schema) : schema.BuildsUsable := by
  intro registry shape later hbuild
  obtain ⟨_, rfl, hgrows, husable⟩ := BuildInvariant.usable.follows schema _ _ _ hbuild
  exact ⟨hgrows, husable⟩

theorem usable_of_buildScope {s : ScopeSchema} {built : Scope}
    (hbuild : (buildScope s registry).result = .ok (built, later)) :
    registry.Grows later ∧ built ∈ later.live := by
  obtain ⟨_, rfl, hgrows, husable⟩ := BuildInvariant.usable.follows_buildScope (x := registry) hbuild
  exact ⟨hgrows, Shape.usable_scope_iff.1 husable⟩

end Schema

end Shapes
