import Shapes.Proofs.Schema.Bisimulation
import Shapes.Proofs.Schema.Rebuild

/-!
Scopes survive their export. A scope builds back from its schema, and while both are alive the copy cannot
be told from the original: they have one schema, and they read and write alike.
-/

namespace Shapes

namespace Shape

variable {registry : Registry} {s : Scope} {shape inner : Shape} {o : ObjectShape}

/-- The references in a shape are among those of a scope, and the scopes nested in it are alive. -/
structure BoundIn (registry : Registry) (s : Scope) (shape : Shape) : Prop where
  references : ∀ r ∈ shape.references, r ∈ s.references
  alive : ∀ nested, .scope nested ∈ shape.nodes → nested ∈ registry.live

theorem BoundIn.of_mem_nodes (hbound : shape.BoundIn registry s) (hmem : inner ∈ shape.nodes) :
    inner.BoundIn registry s := by
  refine ⟨fun r hr => ?_, fun nested hnested => hbound.alive nested (mem_nodes_trans hmem hnested)⟩
  obtain ⟨node, hnode, hown⟩ := List.mem_flatMap.1 hr
  exact hbound.references r (List.mem_flatMap.2 ⟨node, mem_nodes_trans hmem hnode, hown⟩)

theorem BoundIn.variant {c : OneOf} (hbound : (Shape.oneOf c).BoundIn registry s)
    {variant : Discriminant × Reference} (hmem : variant ∈ c.variants) :
    (Shape.ref variant.2).BoundIn registry s := by
  refine ⟨fun r hr => hbound.references r ?_, fun nested hnested => ?_⟩
  · obtain rfl := List.mem_singleton.1 hr
    rw [references_oneOf]
    exact List.mem_map.2 ⟨variant, hmem, rfl⟩
  · cases List.mem_singleton.1 hnested

/-- The objects of a live scope are bound in it. -/
theorem boundIn_of_mem_objects (hsound : registry.Sound) (hlive : s ∈ registry.live)
    (hmem : o ∈ s.objects) : (Shape.object o).BoundIn registry s := by
  refine ⟨fun r hr => ?_, fun nested hnested => ?_⟩
  · obtain ⟨node, hnode, hown⟩ := List.mem_flatMap.1 hr
    rw [nodes, List.mem_cons] at hnode
    rcases hnode with rfl | hnode
    · cases hown
    · exact ScopeOf.mem_references_iff.2 ⟨node, ScopeOf.mem_nodes_iff.2 ⟨o, hmem, hnode⟩, hown⟩
  · rw [nodes, List.mem_cons] at hnested
    rcases hnested with heq | hnested
    · cases heq
    · exact hsound.nested s hlive nested (ScopeOf.mem_nodes_iff.2 ⟨o, hmem, hnested⟩)

/-- A live scope holds no references itself. -/
theorem boundIn_scope (hlive : s ∈ registry.live) (home : Scope) :
    (Shape.scope s).BoundIn registry home := by
  refine ⟨fun r hr => ?_, fun nested hnested => ?_⟩
  · cases hr
  · cases List.mem_singleton.1 hnested
    exact hlive

end Shape

namespace Registry

variable {registry : Registry} {s t : Scope} {a b : Shape}

/-- Shapes of one schema, each bound in a live scope, which are of one schema as well. -/
def Alike (registry : Registry) (a b : Shape) : Prop :=
  a.schema = b.schema ∧ ∃ s ∈ registry.live, ∃ t ∈ registry.live,
    Shape.scopeSchema s = Shape.scopeSchema t ∧ a.BoundIn registry s ∧ b.BoundIn registry t

theorem alike_scope (hs : s ∈ registry.live) (ht : t ∈ registry.live)
    (hschema : Shape.scopeSchema s = Shape.scopeSchema t) : registry.Alike (.scope s) (.scope t) :=
  ⟨congrArg Schema.scope hschema, s, hs, t, ht, hschema, Shape.boundIn_scope hs s,
    Shape.boundIn_scope ht t⟩

/-- Live scopes of one schema have alike objects under one id. -/
theorem Sound.alike_of_object? (hsound : registry.Sound) (hs : s ∈ registry.live)
    (ht : t ∈ registry.live) (hschema : Shape.scopeSchema s = Shape.scopeSchema t) {id : String}
    {o : ObjectShape} (hobject : s.object? id = some o) :
    ∃ p, t.object? id = some p ∧ registry.Alike (.object o) (.object p) := by
  have hfound := Shape.find?_of_map_objectSchema_eq (Shape.scopeSchema_eq_iff.1 hschema).2 id
  rw [ScopeOf.object?] at hobject
  rw [hobject, Option.map_some, eq_comm, Option.map_eq_some_iff] at hfound
  obtain ⟨p, hp, hobjects⟩ := hfound
  refine ⟨p, hp, congrArg Schema.object hobjects.symm, s, hs, t, ht, hschema, ?_, ?_⟩
  · exact Shape.boundIn_of_mem_objects hsound hs (List.mem_of_find?_eq_some hobject)
  · exact Shape.boundIn_of_mem_objects hsound ht (List.mem_of_find?_eq_some hp)

/-- Being alike is kept at all parts: references stay in their scopes, which are of one schema. -/
theorem Sound.bisimulation (hsound : registry.Sound) : Shape.Bisimulation registry registry.Alike where
  schema halike := halike.1
  item := by
    rintro items others ⟨hschema, s, hs, t, ht, hscopes, hbound, hbound'⟩
    refine ⟨Schema.list.inj hschema, s, hs, t, ht, hscopes, hbound.of_mem_nodes ?_,
      hbound'.of_mem_nodes ?_⟩
    · exact List.mem_cons_of_mem _ (Shape.mem_nodes_self items)
    · exact List.mem_cons_of_mem _ (Shape.mem_nodes_self others)
  field := by
    rintro o p ⟨hschema, s, hs, t, ht, hscopes, hbound, hbound'⟩ fields hmem
    have hfields := (Shape.objectSchema_eq_iff.1 (Schema.object.inj hschema)).2.1
    have hfield : ∀ {object : ObjectShape} {field}, field ∈ object.properties →
        field.2.shape ∈ (Shape.object object).nodes := by
      intro object field hfield
      rw [Shape.nodes]
      exact List.mem_cons_of_mem _
        (Shape.mem_objectNodes.2 ⟨field, hfield, Shape.mem_nodes_self field.2.shape⟩)
    obtain ⟨hleft, hright⟩ := List.of_mem_zip hmem
    exact ⟨Shape.shape_schema_eq_of_fieldSchema_eq (apply_eq_of_mem_zip hfields hmem), s, hs, t, ht,
      hscopes, hbound.of_mem_nodes (hfield hleft), hbound'.of_mem_nodes (hfield hright)⟩
  variant := by
    rintro c d ⟨hschema, s, hs, t, ht, hscopes, hbound, hbound'⟩ variants hmem
    have hvariants := (OneOfSchema.mk.inj (Schema.oneOf.inj hschema).2).2
    have hentry := Prod.mk.inj (apply_eq_of_mem_zip hvariants hmem)
    obtain ⟨hleft, hright⟩ := List.of_mem_zip hmem
    exact ⟨congrArg Schema.ref hentry.2, s, hs, t, ht, hscopes, hbound.variant hleft,
      hbound'.variant hright⟩
  target := by
    rintro r q ⟨hschema, s, hs, t, ht, hscopes, hbound, hbound'⟩
    have hid : r.id = q.id := (RefSchema.mk.inj (Schema.ref.inj hschema)).1
    have hr := hbound.references r (List.mem_singleton.2 rfl)
    have hq := hbound'.references q (List.mem_singleton.2 rfl)
    obtain ⟨_, o, ho, htarget⟩ := hsound.target?_of_mem hs hr
    obtain ⟨_, p, hp, htarget'⟩ := hsound.target?_of_mem ht hq
    obtain ⟨found, hfound, halike⟩ := hsound.alike_of_object? hs ht hscopes ho
    rw [hid, hp] at hfound
    cases hfound
    exact ⟨o, p, htarget, htarget', halike⟩
  root := by
    rintro s t ⟨hschema, _, _, _, _, _, hbound, hbound'⟩
    have hs := hbound.alive s (Shape.mem_nodes_self _)
    have ht := hbound'.alive t (Shape.mem_nodes_self _)
    have hscopes := Schema.scope.inj hschema
    obtain ⟨o, ho⟩ := (hsound.consistent s hs).rooted
    obtain ⟨p, hp, halike⟩ := hsound.alike_of_object? hs ht hscopes ho
    refine ⟨o, p, ho, ?_, halike⟩
    rw [ScopeOf.rootObject?, ← (Shape.scopeSchema_eq_iff.1 hscopes).1]
    exact hp

variable {registry' now : Registry} {root : String} {objects : List ObjectShape} {scope : Scope}

/-- A scope that was frozen builds back from its schema, at any later time. The copy has the schema of the
scope, and for as long as both are alive they read every document and write every value alike: with the
same outcome, error or not, and the same announcements. -/
theorem exists_copy (hreachable : registry.Reachable)
    (husable : ∀ o ∈ objects, Shape.Usable registry (.object o))
    (hfreeze : (registry.freeze root objects).result = .ok (scope, registry'))
    (hnow : Relation.ReflTransGen Step registry' now) :
    ∃ copy after, (Schema.buildScope (Shape.scopeSchema scope) now).result = .ok (copy, after) ∧
      Shape.scopeSchema copy = Shape.scopeSchema scope ∧ copy ∈ after.live ∧ now.Grows after ∧
      ∀ later, Relation.ReflTransGen Step after later →
        (later.find? scope.handle).isSome → (later.find? copy.handle).isSome →
          (∀ input, Shape.read later (.scope copy) input = Shape.read later (.scope scope) input) ∧
          ∀ value, Shape.write later (.scope copy) value = Shape.write later (.scope scope) value := by
  have hfrozen : registry'.Sound := (Step.freeze husable hfreeze).sound hreachable.sound
  have hscope := mem_live_of_freeze_eq hfreeze
  obtain ⟨copy, after, hbuild, hschema⟩ := hfrozen.rebuilds_scope hscope now
  obtain ⟨hgrows, hcopy⟩ := Schema.usable_of_buildScope hbuild
  refine ⟨copy, after, hbuild, hschema, hcopy, hgrows, fun later hlater hscopeAlive hcopyAlive => ?_⟩
  have hafter : after.Sound := sound_of_steps (hnow.trans hgrows.steps) hfrozen
  have hsound : later.Sound := sound_of_steps hlater hafter
  have hscopeLive := hfrozen.mem_live_of_isSome hscope ((hnow.trans hgrows.steps).trans hlater) hscopeAlive
  have hcopyLive := hafter.mem_live_of_isSome hcopy hlater hcopyAlive
  have halike : later.Alike (.scope copy) (.scope scope) := alike_scope hcopyLive hscopeLive hschema
  exact ⟨hsound.bisimulation.read_eq halike, hsound.bisimulation.write_eq halike⟩

end Registry

namespace Routes

open Registry Shape

/-- A point has a nested scope for itself. -/
def point : ObjectShape where
  id := "Point"
  properties := [("x", { shape := .int, required := true }), ("y", { shape := .int })]

def points : Scope := ⟨0, "Point", [point]⟩

def town : ObjectShape where
  id := "Town"
  properties := [
    ("twin", {
      shape := .oneOf {
        field := "rank"
        kind := .int
        variants := [(.int 1, { id := "Town" }), (.int (-20), { id := "Station" })]
        uniform := by decide
        distinct := by decide } }),
    ("people", { shape := .int, default := some (.ofInt64 0) })]

def station : ObjectShape where
  id := "Station"
  properties := [
    ("tracks", { shape := .float, label := some ⟨some "Tracks", none, none⟩ }),
    ("opened", { shape := .string, requiredIf := ["tracks"] })]
  allowUnknown := true

/-- A route goes on as another route. -/
def route : ObjectShape where
  id := "Route"
  properties := [
    ("from", { shape := .scope points }),
    ("stops", {
      shape := .list (.oneOf {
        field := "kind"
        kind := .string
        variants := [(.string "town", { id := "Town" }), (.string "station", { id := "Station" })]
        uniform := by decide
        distinct := by decide })
      default := some (.array []) }),
    ("circular", { shape := .bool, conflicts := ["next"] }),
    ("next", {
      shape := .ref { id := "Route", label := some ⟨none, some "The route from here", none⟩ }
      requiredIfNot := ["circular"] })]

def scope : Scope := ⟨1, "Route", [route, town, station].map (bindObject 1)⟩

def registry : Registry := ⟨2, [points, scope]⟩

/-- The same route with points of its own. -/
def routeCopy : ObjectShape :=
  { route with properties := ("from", { shape := .scope { points with handle := 2 } }) ::
      route.properties.drop 1 }

def copy : Scope := ⟨3, "Route", [routeCopy, town, station].map (bindObject 3)⟩

def after : Registry := ⟨4, [points, scope, { points with handle := 2 }, copy]⟩

theorem exists_copy_routes :
    (Schema.buildScope (scopeSchema scope) registry).result = .ok (copy, after) ∧
      scopeSchema copy = scopeSchema scope ∧
      (∀ input, read after (.scope copy) input = read after (.scope scope) input) ∧
      ∀ value, write after (.scope copy) value = write after (.scope scope) value := by
  have hpoint : ∀ o ∈ [point], (Shape.object o).Usable {} := by
    simp [usable_object_iff, ObjectOf.Distinct, Fields.Distinct, Fields.names, point, objectNodes,
      propertiesNodes, propertyNodes, nodes]
  have hpoints : (freeze {} "Point" [point]).result = .ok (points, ⟨1, [points]⟩) := rfl
  have hroute : ∀ o ∈ [route, town, station], (Shape.object o).Usable ⟨1, [points]⟩ := by
    simp [usable_object_iff, ObjectOf.Distinct, Fields.Distinct, Fields.names, route, town, station,
      objectNodes, propertiesNodes, propertyNodes, nodes]
  have hscope : (freeze ⟨1, [points]⟩ "Route" [route, town, station]).result = .ok (scope, registry) :=
    rfl
  have hcopy : (Schema.buildScope (scopeSchema scope) registry).result = .ok (copy, after) := rfl
  obtain ⟨built, ended, hbuilt, hschema, -, -, hsame⟩ :=
    exists_copy (.single (.freeze hpoint hpoints)) hroute hscope .refl
  obtain ⟨rfl, rfl⟩ := Prod.mk.inj (Except.ok.inj (hcopy.symm.trans hbuilt))
  exact ⟨hcopy, hschema, hsame after .refl rfl rfl⟩

end Routes

end Shapes
