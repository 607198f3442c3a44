import Shapes.Proofs.Schema.Acceptance
import Shapes.Proofs.Schema.Wire

/-!
The defaults in a schema do not matter to whether it is built, as freezing looks at names and
representations only. So what can be used is also built back from its document, where defaults that are
`null` are missing.
-/

namespace Shapes

namespace Schema

variable {w : Rewriting} {s : ScopeSchema} {o : ObjectSchema} {schema part : Schema}

/-- Whatever stands in a rewritten schema is rewritten from something that stands in the schema. -/
theorem exists_of_encloses_rewrite (hencloses : (rewrite w schema).Encloses part) :
    ∃ given, schema.Encloses given ∧ part = rewrite w given := by
  generalize hwhole : rewrite w schema = whole at hencloses
  induction hencloses generalizing schema with
  | self => exact ⟨schema, .self, hwhole.symm⟩
  | item _ ih =>
    cases schema with
    | list items =>
      obtain ⟨given, hgiven, hpart⟩ := ih (Schema.list.inj hwhole)
      exact ⟨given, .item hgiven, hpart⟩
    | _ => cases hwhole
  | field hmem _ ih =>
    cases schema with
    | object o =>
      obtain rfl := Schema.object.inj hwhole
      rw [rewriteObject_eq] at hmem
      obtain ⟨field, hfield, rfl⟩ := List.mem_map.1 hmem
      rw [rewriteProperty_eq] at ih
      obtain ⟨given, hgiven, hpart⟩ := ih rfl
      exact ⟨given, .field hfield hgiven, hpart⟩
    | _ => cases hwhole

theorem property?_rewriteObject (w : Rewriting) (o : ObjectSchema) (name : String) :
    (rewriteObject w o).property? name = (o.property? name).map (rewriteProperty w) := by
  rw [ObjectOf.property?, rewriteObject_eq]
  exact Fields.get?_map (rewriteProperty w) o.properties name

theorem object?_rewriteScope (w : Rewriting) (s : ScopeSchema) (id : String) :
    (rewriteScope w s).object? id = (s.object? id).map (rewriteObject w) := by
  rw [ScopeSchemaOf.object?, rewriteScope_eq]
  exact Fields.get?_map (rewriteObject w) s.objects id

/-- What a scope asks of its schemas, it asks of them with other defaults. -/
theorem serves_rewrite (hchoices : ∀ kind c, w.choice kind c = c) (hserves : s.Serves schema) :
    (rewriteScope w s).Serves (rewrite w schema) := by
  cases schema with
  | ref r =>
    obtain ⟨o, hobject⟩ := hserves
    exact ⟨rewriteObject w o, by rw [object?_rewriteScope, hobject, Option.map_some]⟩
  | oneOf kind c =>
    rw [rewrite, hchoices]
    intro target hmem
    obtain ⟨o, hobject, hallowed⟩ := hserves target hmem
    refine ⟨rewriteObject w o, by rw [object?_rewriteScope, hobject, Option.map_some], ?_⟩
    intro property hproperty
    rw [property?_rewriteObject] at hproperty
    obtain ⟨given, hgiven, rfl⟩ := Option.map_eq_some_iff.1 hproperty
    rw [rewriteProperty_eq, representation_rewrite]
    exact hallowed given hgiven
  | _ => trivial

/-- A closed scope is closed with other defaults. -/
theorem closed_rewriteScope (hchoices : ∀ kind c, w.choice kind c = c) (hclosed : s.Closed) :
    (rewriteScope w s).Closed where
  keyed := by
    rw [rewriteScope_eq]
    refine List.forall_mem_map.2 fun entry hmem => ?_
    rw [id_rewriteObject]
    exact hclosed.keyed entry hmem
  rooted := by
    obtain ⟨o, hroot⟩ := hclosed.rooted
    refine ⟨rewriteObject w o, ?_⟩
    rw [object?_rewriteScope, rewriteScope_eq, hroot, Option.map_some]
  serves := by
    intro entry hentry part hencloses
    rw [rewriteScope_eq] at hentry
    obtain ⟨given, hgiven, rfl⟩ := List.mem_map.1 hentry
    have hgivenEncloses : (rewrite w (.object given.2)).Encloses part := hencloses
    obtain ⟨inner, hinner, rfl⟩ := exists_of_encloses_rewrite hgivenEncloses
    exact serves_rewrite hchoices (hclosed.serves given hgiven inner hinner)

end Schema

namespace Shape

open Schema (rewrite rewriteObject rewriteScope Rewriting)

variable {w : Rewriting}

/-- Objects outline the schemas that they have. -/
theorem outlines_of_map_objectSchema_eq {copies : List ObjectShape}
    {objects : List (String × ObjectSchema)} (hschemas : copies.map objectSchema = objects.map Prod.snd) :
    List.Forall₂ (fun o entry => OutlinesObject o entry.2) copies objects := by
  have hequal : List.Forall₂ (fun o entry => objectSchema o = entry.2) copies objects := by
    rw [← List.forall₂_map_right_iff (f := Prod.snd) (R := fun o schema => objectSchema o = schema),
      ← List.forall₂_map_left_iff (f := objectSchema) (R := fun a b => a = b), hschemas]
    exact List.forall₂_refl _
  exact hequal.imp fun o entry heq => by rw [OutlinesObject, heq]

/-- The objects of a frozen scope could be frozen with other defaults. -/
theorem fault?_of_rewritten {s : Scope} (hconsistent : s.Consistent)
    (hchoices : ∀ kind c, w.choice kind c = c) {copies : List ObjectShape}
    (hcopies : copies.map objectSchema = s.objects.map fun o => rewriteObject w (objectSchema o)) :
    Registry.fault? s.root copies = none := by
  have hobjects : (scopeSchema s).objects = s.objects.map fun o => (o.id, objectSchema o) := by
    rw [scopeSchema_eq]
  have hrewritten : (rewriteScope w (scopeSchema s)).objects =
      s.objects.map fun o => (o.id, rewriteObject w (objectSchema o)) := by
    rw [Schema.rewriteScope_eq, hobjects, List.map_map]
    rfl
  have hroot : (rewriteScope w (scopeSchema s)).root = s.root := by
    rw [Schema.rewriteScope_eq, scopeSchema_eq]
  have hdistinct : Fields.Distinct (scopeSchema s).objects := by
    rw [Fields.Distinct, Fields.names, hobjects, List.map_map]
    exact hconsistent.distinct
  have hkeys : ∀ entry ∈ (scopeSchema s).objects, entry.1 = entry.2.id := by
    rw [hobjects]
    exact List.forall_mem_map.2 fun o _ => (id_objectSchema o).symm
  have houtlines : List.Forall₂ (fun o entry => OutlinesObject o entry.2) s.objects
      (scopeSchema s).objects := by
    refine outlines_of_map_objectSchema_eq ?_
    rw [hobjects, List.map_map]
    rfl
  have hclosed : (scopeSchema s).Closed := by
    refine (fault?_eq_none_iff_closed hdistinct hkeys houtlines).1 ?_
    rw [scopeSchema_eq]
    exact hconsistent.fault?_eq_none
  rw [← hroot]
  refine (fault?_eq_none_iff_closed ?_ ?_ (outlines_of_map_objectSchema_eq ?_)).2
    (Schema.closed_rewriteScope hchoices hclosed)
  · rw [Fields.Distinct, Fields.names, hrewritten, List.map_map]
    exact hconsistent.distinct
  · exact (Schema.closed_rewriteScope hchoices hclosed).keyed
  · rw [hrewritten, List.map_map]
    exact hcopies

/-- A shape that can be used is built back from what its document is read as. -/
theorem Usable.rebuilt_withoutNulls {home : Registry} {shape : Shape} (husable : shape.Usable home)
    (hsound : home.Sound) : shape.schema.withoutNulls.Rebuilt :=
  husable.rebuilt_rewrite hsound (fun _ _ => rfl) fun s hlive _ hcopies =>
    fault?_of_rewritten (hsound.consistent s hlive) (fun _ _ => rfl) hcopies

end Shape

end Shapes
