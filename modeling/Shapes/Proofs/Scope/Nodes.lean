import Mathlib.Data.List.Basic
import Shapes.Proofs.Object.Rules
import Shapes.Shape.Traversal

/-!
The shapes inside a shape and the references among them. Walking and binding cover the same places:
the nodes of a bound shape are the bound nodes, and every reference among them is bound.
-/

namespace Shapes

namespace Shape

private theorem sizeOf_lt_of_mem {o : ObjectShape} {field : String × Property Shape}
    (hmem : field ∈ o.properties) : sizeOf field.2.shape < sizeOf (Shape.object o) := by
  have hlt := List.sizeOf_lt_of_mem hmem
  obtain ⟨id, properties, allowUnknown⟩ := o
  obtain ⟨name, property⟩ := field
  cases property
  simp only [Shape.object.sizeOf_spec, ObjectOf.mk.sizeOf_spec, Prod.mk.sizeOf_spec,
    Property.mk.sizeOf_spec] at hlt ⊢
  omega

private theorem sizeOf_lt_of_mem_objects {s : Scope} {o : ObjectShape} (hmem : o ∈ s.objects) :
    sizeOf (Shape.object o) < sizeOf (Shape.scope s) := by
  have hlt := List.sizeOf_lt_of_mem hmem
  obtain ⟨handle, root, objects⟩ := s
  simp only [Shape.object.sizeOf_spec, Shape.scope.sizeOf_spec, ScopeOf.mk.sizeOf_spec] at hlt ⊢
  omega

/-- Induction over a shape down to references, through nested scopes. -/
@[elab_as_elim]
theorem inductionThroughScopes {P : Shape → Prop} (any : P .any) (bool : P .bool) (int : P .int)
    (float : P .float) (string : P .string) (list : ∀ items, P items → P (.list items))
    (object : ∀ o, (∀ field ∈ o.properties, P field.2.shape) → P (.object o))
    (ref : ∀ r, P (.ref r)) (oneOf : ∀ c, P (.oneOf c))
    (scope : ∀ s, (∀ o ∈ s.objects, ∀ field ∈ o.properties, P field.2.shape) → P (.scope s))
    (shape : Shape) : P shape := by
  induction hsize : sizeOf shape using Nat.strongRecOn generalizing shape with
  | _ size ih =>
    subst hsize
    cases shape with
    | any => exact any
    | bool => exact bool
    | int => exact int
    | float => exact float
    | string => exact string
    | list items => exact list items (ih _ (by simp) items rfl)
    | object o => exact object o fun field hmem => ih _ (sizeOf_lt_of_mem hmem) _ rfl
    | ref r => exact ref r
    | oneOf c => exact oneOf c
    | scope s =>
      refine scope s fun o ho field hmem => ih _ ?_ _ rfl
      exact Nat.lt_trans (sizeOf_lt_of_mem hmem) (sizeOf_lt_of_mem_objects ho)

/-- Induction over a shape down to references and nested scopes. -/
@[elab_as_elim]
theorem induction {P : Shape → Prop} (any : P .any) (bool : P .bool) (int : P .int)
    (float : P .float) (string : P .string) (list : ∀ items, P items → P (.list items))
    (object : ∀ o, (∀ field ∈ o.properties, P field.2.shape) → P (.object o))
    (ref : ∀ r, P (.ref r)) (oneOf : ∀ c, P (.oneOf c)) (scope : ∀ s, P (.scope s))
    (shape : Shape) : P shape :=
  inductionThroughScopes any bool int float string list object ref oneOf (fun s _ => scope s) shape

theorem objectNodes_eq (o : ObjectShape) :
    objectNodes o = o.properties.flatMap fun field => field.2.shape.nodes := by
  obtain ⟨id, properties, allowUnknown⟩ := o
  rw [objectNodes]
  induction properties with
  | nil => rfl
  | cons field rest ih =>
    obtain ⟨name, property⟩ := field
    rw [propertiesNodes, ih, List.flatMap_cons]
    cases property
    rfl

theorem mem_objectNodes {o : ObjectShape} {node : Shape} :
    node ∈ objectNodes o ↔ ∃ field ∈ o.properties, node ∈ field.2.shape.nodes := by
  rw [objectNodes_eq, List.mem_flatMap]

/-- A shape that occurs in another, outside the scopes that are nested there. -/
inductive Encloses : Shape → Shape → Prop
  | self {shape : Shape} : Encloses shape shape
  | item {items inner : Shape} (hinner : Encloses items inner) : Encloses (.list items) inner
  | field {o : ObjectShape} {field : String × Property Shape} {inner : Shape}
      (hmem : field ∈ o.properties) (hinner : Encloses field.2.shape inner) :
      Encloses (.object o) inner

theorem mem_nodes_self (shape : Shape) : shape ∈ shape.nodes := by
  cases shape <;> simp [nodes]

/-- The walk comes to all places of a shape. -/
theorem encloses_iff {shape node : Shape} : shape.Encloses node ↔ node ∈ shape.nodes := by
  constructor
  · intro hencloses
    induction hencloses with
    | self => exact mem_nodes_self _
    | item _ ih =>
      rw [nodes, List.mem_cons]
      exact Or.inr ih
    | field hmem _ ih =>
      rw [nodes, List.mem_cons]
      exact Or.inr (mem_objectNodes.2 ⟨_, hmem, ih⟩)
  · intro hmem
    induction shape using Shape.induction with
    | list items ih =>
      rw [nodes, List.mem_cons] at hmem
      rcases hmem with rfl | hmem
      · exact .self
      · exact .item (ih hmem)
    | object o ih =>
      rw [nodes, List.mem_cons] at hmem
      rcases hmem with rfl | hmem
      · exact .self
      · obtain ⟨field, hfield, hmem⟩ := mem_objectNodes.1 hmem
        exact .field hfield (ih field hfield hmem)
    | _ =>
      obtain rfl := List.mem_singleton.1 hmem
      exact .self

/-- What is inside a shape inside another is inside the other. -/
theorem mem_nodes_trans {shape inner node : Shape} (hinner : inner ∈ shape.nodes)
    (hnode : node ∈ inner.nodes) : node ∈ shape.nodes := by
  induction shape using Shape.induction with
  | list items ih =>
    rw [nodes, List.mem_cons] at hinner ⊢
    rcases hinner with rfl | hinner
    · rwa [nodes, List.mem_cons] at hnode
    · exact Or.inr (ih hinner)
  | object o ih =>
    rw [nodes, List.mem_cons] at hinner ⊢
    rcases hinner with rfl | hinner
    · rwa [nodes, List.mem_cons] at hnode
    · obtain ⟨field, hfield, hmem⟩ := mem_objectNodes.1 hinner
      exact Or.inr (mem_objectNodes.2 ⟨field, hfield, ih field hfield hmem⟩)
  | _ =>
    obtain rfl := List.mem_singleton.1 hinner
    exact hnode

@[simp] theorem shape_bindProperty (handle : Handle) (property : Property Shape) :
    (bindProperty handle property).shape = bind handle property.shape := by
  cases property
  rfl

theorem bindObject_eq (handle : Handle) (o : ObjectShape) :
    bindObject handle o = { o with
      properties := o.properties.map fun field => (field.1, bindProperty handle field.2) } := by
  obtain ⟨id, properties, allowUnknown⟩ := o
  simp only [bindObject, ObjectOf.mk.injEq, true_and, and_true]
  induction properties with
  | nil => rfl
  | cons field rest ih =>
    obtain ⟨name, property⟩ := field
    rw [bindProperties, ih, List.map_cons]

/-- Binding keeps the walk: the nodes of the bound shape are the bound nodes. -/
theorem nodes_bind (handle : Handle) (shape : Shape) :
    (bind handle shape).nodes = shape.nodes.map (bind handle) := by
  induction shape using Shape.induction with
  | list items ih => rw [bind, nodes, nodes, List.map_cons, bind, ih]
  | object o ih =>
    rw [bind, nodes, nodes, List.map_cons, bind, objectNodes_eq, objectNodes_eq, bindObject_eq,
      List.flatMap_map, List.map_flatMap]
    simp only [shape_bindProperty]
    rw [List.flatMap_congr ih]
  | _ => rfl

theorem objectNodes_bind (handle : Handle) (o : ObjectShape) :
    objectNodes (bindObject handle o) = (objectNodes o).map (bind handle) := by
  have hnodes := nodes_bind handle (.object o)
  rw [bind, nodes, nodes, List.map_cons] at hnodes
  exact (List.cons.inj hnodes).2

theorem representation_bind (handle : Handle) (shape : Shape) :
    (bind handle shape).representation = shape.representation := by
  induction shape using Shape.induction with
  | list items ih => rw [bind, representation, representation, ih]
  | object o _ => rw [bind, representation, representation, bindObject_eq]
  | _ => rfl

theorem distinct_bindObject {handle : Handle} {o : ObjectShape} (hdistinct : o.Distinct) :
    (bindObject handle o).Distinct := by
  rw [bindObject_eq]
  simpa [ObjectOf.Distinct, Fields.Distinct, Fields.names, Function.comp_def] using hdistinct

/-- The references that a shape is or chooses among, the shapes inside it apart. -/
def ownReferences : Shape → List Reference
  | .ref r => [r]
  | .oneOf c => c.variants.map Prod.snd
  | _ => []

theorem ownReferences_bind (handle : Handle) (shape : Shape) :
    (bind handle shape).ownReferences = shape.ownReferences.map (Reference.bind handle) := by
  cases shape <;> simp [bind, ownReferences, OneOf.bind]

/-- The references in a shape, without those of nested scopes. -/
def references (shape : Shape) : List Reference :=
  shape.nodes.flatMap ownReferences

theorem references_oneOf (c : OneOf) : (Shape.oneOf c).references = c.variants.map Prod.snd := by
  simp [references, nodes, ownReferences]

theorem mem_references_object_iff {o : ObjectShape} {r : Reference} :
    r ∈ (Shape.object o).references ↔ ∃ field ∈ o.properties, r ∈ field.2.shape.references := by
  have hown : (Shape.object o).references = (objectNodes o).flatMap ownReferences := rfl
  rw [hown, objectNodes_eq, List.flatMap_assoc]
  exact List.mem_flatMap

theorem objectHandles_eq (o : ObjectShape) :
    objectHandles o = o.properties.flatMap fun field => field.2.shape.handles := by
  obtain ⟨id, properties, allowUnknown⟩ := o
  rw [objectHandles]
  induction properties with
  | nil => rfl
  | cons field rest ih =>
    obtain ⟨name, property⟩ := field
    rw [propertiesHandles, ih, List.flatMap_cons]
    cases property
    rfl

theorem mem_objectHandles {o : ObjectShape} {handle : Handle} :
    handle ∈ objectHandles o ↔ ∃ field ∈ o.properties, handle ∈ field.2.shape.handles := by
  rw [objectHandles_eq, List.mem_flatMap]

theorem scopeHandles_eq (s : Scope) :
    scopeHandles s = s.handle :: s.objects.flatMap objectHandles := by
  obtain ⟨handle, root, objects⟩ := s
  rw [scopeHandles]
  congr 1
  induction objects with
  | nil => rfl
  | cons o rest ih => rw [objectsHandles, ih, List.flatMap_cons]

theorem mem_scopeHandles {s : Scope} {handle : Handle} :
    handle ∈ scopeHandles s ↔ handle = s.handle ∨ ∃ o ∈ s.objects, handle ∈ objectHandles o := by
  rw [scopeHandles_eq, List.mem_cons, List.mem_flatMap]

/-- A shape owns the scopes nested in it. -/
theorem mem_handles_of_mem_nodes {shape : Shape} {s : Scope} (hmem : .scope s ∈ shape.nodes) :
    s.handle ∈ shape.handles := by
  induction shape using Shape.induction with
  | list items ih =>
    rw [nodes, List.mem_cons] at hmem
    rcases hmem with heq | hmem
    · cases heq
    · exact ih hmem
  | object o ih =>
    rw [nodes, List.mem_cons] at hmem
    rcases hmem with heq | hmem
    · cases heq
    · obtain ⟨field, hfield, hinner⟩ := mem_objectNodes.1 hmem
      exact mem_objectHandles.2 ⟨field, hfield, ih field hfield hinner⟩
  | scope own =>
    cases List.mem_singleton.1 hmem
    exact mem_scopeHandles.2 (Or.inl rfl)
  | _ => cases List.mem_singleton.1 hmem

end Shape

namespace ScopeOf

/-- The shapes in the objects of a scope, without the content of nested scopes. -/
def nodes (s : Scope) : List Shape :=
  s.objects.flatMap Shape.objectNodes

/-- The references in the objects of a scope, without those of nested scopes. -/
def references (s : Scope) : List Reference :=
  s.nodes.flatMap Shape.ownReferences

variable {s : Scope} {node inner : Shape}

theorem mem_nodes_iff : node ∈ s.nodes ↔ ∃ o ∈ s.objects, node ∈ Shape.objectNodes o :=
  List.mem_flatMap

theorem mem_references_iff {r : Reference} :
    r ∈ s.references ↔ ∃ node ∈ s.nodes, r ∈ node.ownReferences :=
  List.mem_flatMap

/-- The shapes that occur in the objects of a scope, other than these objects. -/
theorem mem_nodes_of_encloses {o : ObjectShape} (ho : o ∈ s.objects)
    (hencloses : (Shape.object o).Encloses node) : node = .object o ∨ node ∈ s.nodes := by
  have hmem := Shape.encloses_iff.1 hencloses
  rw [Shape.nodes, List.mem_cons] at hmem
  exact hmem.imp_right fun hmem => mem_nodes_iff.2 ⟨o, ho, hmem⟩

theorem mem_references_of_mem_objects {o : ObjectShape} {r : Reference} (ho : o ∈ s.objects)
    (hmem : r ∈ (Shape.object o).references) : r ∈ s.references := by
  have hmem : r ∈ (Shape.objectNodes o).flatMap Shape.ownReferences := hmem
  obtain ⟨node, hnode, hown⟩ := List.mem_flatMap.1 hmem
  exact mem_references_iff.2 ⟨node, mem_nodes_iff.2 ⟨o, ho, hnode⟩, hown⟩

theorem mem_references_of_variant {c : OneOf} (hmem : .oneOf c ∈ s.nodes)
    {variant : Discriminant × Reference} (hvariant : variant ∈ c.variants) :
    variant.2 ∈ s.references :=
  mem_references_iff.2 ⟨_, hmem, List.mem_map.2 ⟨variant, hvariant, rfl⟩⟩

theorem mem_nodes_trans (hnode : node ∈ s.nodes) (hinner : inner ∈ node.nodes) : inner ∈ s.nodes := by
  obtain ⟨o, ho, hmem⟩ := mem_nodes_iff.1 hnode
  obtain ⟨field, hfield, hmem⟩ := Shape.mem_objectNodes.1 hmem
  exact mem_nodes_iff.2
    ⟨o, ho, Shape.mem_objectNodes.2 ⟨field, hfield, Shape.mem_nodes_trans hmem hinner⟩⟩

/-- A scope owns the scopes nested in it. -/
theorem mem_scopeHandles_of_mem_nodes {nested : Scope} (hmem : .scope nested ∈ s.nodes) :
    nested.handle ∈ Shape.scopeHandles s := by
  obtain ⟨o, ho, hmem⟩ := mem_nodes_iff.1 hmem
  obtain ⟨field, hfield, hmem⟩ := Shape.mem_objectNodes.1 hmem
  exact Shape.mem_scopeHandles.2 (Or.inr
    ⟨o, ho, Shape.mem_objectHandles.2 ⟨field, hfield, Shape.mem_handles_of_mem_nodes hmem⟩⟩)

end ScopeOf

end Shapes
