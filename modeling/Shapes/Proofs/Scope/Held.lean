import Shapes.Proofs.Scope.History

/-!
What occurs in live scopes, and what a usable shape reaches: nothing but its own parts and the parts of
live scopes. So what is known of live scopes holds of all shapes that reading and writing come to.
-/

namespace Shapes

namespace Registry

variable {registry : Registry} {shape inner : Shape} {o : ObjectShape}

/-- A live scope, or a shape that occurs in the objects of one. -/
inductive Holds (registry : Registry) : Shape → Prop
  | scope {s : Scope} (hlive : s ∈ registry.live) : Holds registry (.scope s)
  | object {s : Scope} {o : ObjectShape} (hlive : s ∈ registry.live) (hmem : o ∈ s.objects) :
      Holds registry (.object o)
  | node {s : Scope} {shape : Shape} (hlive : s ∈ registry.live) (hmem : shape ∈ s.nodes) :
      Holds registry shape
  | target {s : Scope} {r : Reference} (hlive : s ∈ registry.live) (hmem : r ∈ s.references) :
      Holds registry (.ref r)

theorem Holds.of_mem_nodes (hholds : registry.Holds shape) (hmem : inner ∈ shape.nodes) :
    registry.Holds inner := by
  cases hholds with
  | scope hlive =>
    cases List.mem_singleton.1 hmem
    exact .scope hlive
  | object hlive ho =>
    rw [Shape.nodes, List.mem_cons] at hmem
    rcases hmem with rfl | hmem
    · exact .object hlive ho
    · exact .node hlive (ScopeOf.mem_nodes_iff.2 ⟨_, ho, hmem⟩)
  | node hlive hnode => exact .node hlive (ScopeOf.mem_nodes_trans hnode hmem)
  | target hlive hr =>
    cases List.mem_singleton.1 hmem
    exact .target hlive hr

/-- The fields of an object that is held are held. -/
theorem Holds.field (hholds : registry.Holds (.object o)) {field : String × Property Shape}
    (hmem : field ∈ o.properties) : registry.Holds field.2.shape := by
  refine hholds.of_mem_nodes ?_
  rw [Shape.nodes, List.mem_cons]
  exact Or.inr (Shape.mem_objectNodes.2 ⟨field, hmem, Shape.mem_nodes_self _⟩)

/-- An object that a reference stands for is one of a live scope. -/
theorem exists_mem_objects_of_target? {r : Reference} (htarget : r.target? registry = some o) :
    ∃ s ∈ registry.live, o ∈ s.objects := by
  obtain ⟨s, hscope, hobject⟩ := Option.bind_eq_some_iff.1 htarget
  obtain ⟨handle, _, hfind⟩ := Option.bind_eq_some_iff.1 hscope
  exact ⟨s, (mem_of_find? hfind).1, List.mem_of_find?_eq_some hobject⟩

theorem holds_of_target? {r : Reference} (htarget : r.target? registry = some o) :
    registry.Holds (.object o) := by
  obtain ⟨s, hlive, ho⟩ := exists_mem_objects_of_target? htarget
  exact .object hlive ho

namespace Sound

variable (hsound : registry.Sound)

include hsound

theorem mem_live_of_holds {s : Scope} (hholds : registry.Holds (.scope s)) : s ∈ registry.live := by
  cases hholds with
  | scope hlive => exact hlive
  | node hlive hmem => exact hsound.nested _ hlive s hmem

theorem distinct_of_holds (hholds : registry.Holds (.object o)) : o.Distinct := by
  cases hholds with
  | object hlive hmem => exact hsound.declared _ hlive o (Or.inl hmem)
  | node hlive hmem => exact hsound.declared _ hlive o (Or.inr hmem)

/-- A reference in a live scope stands for the object that this scope declares. -/
theorem target?_of_mem {s : Scope} {r : Reference} (hlive : s ∈ registry.live)
    (hmem : r ∈ s.references) :
    r.scope? registry = some s ∧ ∃ o, s.object? r.id = some o ∧ r.target? registry = some o := by
  have hconsistent := hsound.consistent s hlive
  have hscope : r.scope? registry = some s := by
    rw [Reference.scope?, hconsistent.bound r hmem, Option.bind_some, hsound.find?_eq_some hlive]
  obtain ⟨o, hobject⟩ := hconsistent.declared r hmem
  refine ⟨hscope, o, hobject, ?_⟩
  rw [Reference.target?, hscope, Option.bind_some, hobject]

theorem target?_of_holds {r : Reference} (hholds : registry.Holds (.ref r)) :
    ∃ o, r.target? registry = some o := by
  obtain ⟨s, hlive, hmem⟩ : ∃ s ∈ registry.live, r ∈ s.references := by
    cases hholds with
    | node hlive hmem =>
      exact ⟨_, hlive, ScopeOf.mem_references_iff.2 ⟨_, hmem, List.mem_singleton.2 rfl⟩⟩
    | target hlive hmem => exact ⟨_, hlive, hmem⟩
  obtain ⟨_, o, _, htarget⟩ := hsound.target?_of_mem hlive hmem
  exact ⟨o, htarget⟩

theorem rootObject?_of_holds {s : Scope} (hholds : registry.Holds (.scope s)) :
    ∃ o, s.rootObject? = some o :=
  (hsound.consistent s (hsound.mem_live_of_holds hholds)).rooted

/-- An object that a choice of a live scope may select can hold the keys of the choice. -/
theorem admits_of_holds {c : OneOf} (hholds : registry.Holds (.oneOf c))
    {variant : Discriminant × Reference} (hvariant : variant ∈ c.variants)
    (htarget : variant.2.target? registry = some o) : c.Admits o := by
  cases hholds with
  | @node s _ hlive hmem =>
    obtain ⟨_, own, hown, hresolved⟩ :=
      hsound.target?_of_mem hlive (ScopeOf.mem_references_of_variant hmem hvariant)
    rw [htarget] at hresolved
    cases hresolved
    exact (hsound.consistent s hlive).admits c hmem variant hvariant o hown

theorem exact_of_holds {c : OneOf} (hholds : registry.Holds (.oneOf c)) : c.Exact registry :=
  fun _ hvariant _ htarget => (hsound.admits_of_holds hholds hvariant htarget).keeps _

/-- The object of a shape that is held is held. -/
theorem holds_of_object? (hholds : registry.Holds shape) (hobject : shape.object? registry = some o) :
    registry.Holds (.object o) := by
  cases shape with
  | object own =>
    cases hobject
    exact hholds
  | ref r => exact holds_of_target? hobject
  | scope s =>
    exact .object (hsound.mem_live_of_holds hholds) (List.mem_of_find?_eq_some hobject)
  | _ => cases hobject

theorem holds_of_reaches (hholds : registry.Holds shape) (hreaches : shape.Reaches registry inner) :
    registry.Holds inner := by
  induction hreaches with
  | refl => exact hholds
  | item _ ih =>
    refine ih.of_mem_nodes ?_
    rw [Shape.nodes, List.mem_cons]
    exact Or.inr (Shape.mem_nodes_self _)
  | variant _ hvariant ih =>
    cases ih with
    | node hlive hmem => exact .target hlive (ScopeOf.mem_references_of_variant hmem hvariant)
  | field _ hobject hmem ih => exact (hsound.holds_of_object? ih hobject).field hmem

/-- The objects that a held shape reaches occur in live scopes. -/
theorem mem_of_reachesObject (hholds : registry.Holds shape)
    (hreached : shape.ReachesObject registry o) :
    ∃ s ∈ registry.live, o ∈ s.objects ∨ .object o ∈ s.nodes := by
  obtain ⟨inner, hreaches, hobject⟩ := hreached
  cases hsound.holds_of_object? (hsound.holds_of_reaches hholds hreaches) hobject with
  | object hlive hmem => exact ⟨_, hlive, Or.inl hmem⟩
  | node hlive hmem => exact ⟨_, hlive, Or.inr hmem⟩

end Sound

end Registry

namespace Shape

variable {registry : Registry} {shape inner : Shape} {o : ObjectShape}

/-- A shape that is held can be used. -/
theorem usable_of_holds (hsound : registry.Sound) (hholds : registry.Holds shape) :
    shape.Usable registry where
  declared _ hmem := hsound.distinct_of_holds (hholds.of_mem_nodes hmem)
  alive _ hmem := hsound.mem_live_of_holds (hholds.of_mem_nodes hmem)

namespace Usable

/-- The object of a node of a usable shape is a node itself, or held. -/
theorem holds_of_object? (husable : shape.Usable registry) (hmem : inner ∈ shape.nodes)
    (hobject : inner.object? registry = some o) :
    .object o ∈ shape.nodes ∨ registry.Holds (.object o) := by
  cases inner with
  | object own =>
    cases hobject
    exact Or.inl hmem
  | ref r => exact Or.inr (Registry.holds_of_target? hobject)
  | scope s => exact Or.inr (.object (husable.alive s hmem) (List.mem_of_find?_eq_some hobject))
  | _ => cases hobject

/-- A usable shape reaches its own nodes, what live scopes hold, and references. -/
theorem holds_of_reaches (husable : shape.Usable registry) (hsound : registry.Sound)
    (hreaches : shape.Reaches registry inner) :
    inner ∈ shape.nodes ∨ registry.Holds inner ∨ ∃ r, inner = .ref r := by
  induction hreaches with
  | refl => exact Or.inl (mem_nodes_self _)
  | @item items _ ih =>
    have hitems : items ∈ (Shape.list items).nodes := by
      rw [nodes, List.mem_cons]
      exact Or.inr (mem_nodes_self _)
    rcases ih with hmem | hholds | ⟨r, heq⟩
    · exact Or.inl (mem_nodes_trans hmem hitems)
    · exact Or.inr (Or.inl (hholds.of_mem_nodes hitems))
    · cases heq
  | variant _ _ _ => exact Or.inr (Or.inr ⟨_, rfl⟩)
  | @field inner o field _ hobject hmem ih =>
    have howner : .object o ∈ shape.nodes ∨ registry.Holds (.object o) := by
      rcases ih with hnode | hholds | ⟨r, rfl⟩
      · exact husable.holds_of_object? hnode hobject
      · exact Or.inr (hsound.holds_of_object? hholds hobject)
      · exact Or.inr (Registry.holds_of_target? hobject)
    rcases howner with hnode | hholds
    · refine Or.inl (mem_nodes_trans hnode ?_)
      rw [nodes, List.mem_cons]
      exact Or.inr (mem_objectNodes.2 ⟨field, hmem, mem_nodes_self _⟩)
    · exact Or.inr (Or.inl (hholds.field hmem))

/-- The objects that a usable shape reaches are nodes of it, or held. -/
theorem holds_of_reachesObject (husable : shape.Usable registry) (hsound : registry.Sound)
    (hreached : shape.ReachesObject registry o) :
    .object o ∈ shape.nodes ∨ registry.Holds (.object o) := by
  obtain ⟨inner, hreaches, hobject⟩ := hreached
  rcases husable.holds_of_reaches hsound hreaches with hmem | hholds | ⟨r, rfl⟩
  · exact husable.holds_of_object? hmem hobject
  · exact Or.inr (hsound.holds_of_object? hholds hobject)
  · exact Or.inr (Registry.holds_of_target? hobject)

theorem distinct (husable : shape.Usable registry) (hsound : registry.Sound)
    (hreached : shape.ReachesObject registry o) : o.Distinct := by
  rcases husable.holds_of_reachesObject hsound hreached with hnode | hholds
  · exact husable.declared o hnode
  · exact hsound.distinct_of_holds hholds

/-- All choices that are reached are exact, if those among the own nodes are. -/
theorem exact (husable : shape.Usable registry) (hsound : registry.Sound)
    (hexact : ∀ c, .oneOf c ∈ shape.nodes → c.Exact registry) {c : OneOf}
    (hreaches : shape.Reaches registry (.oneOf c)) : c.Exact registry := by
  rcases husable.holds_of_reaches hsound hreaches with hmem | hholds | ⟨r, heq⟩
  · exact hexact c hmem
  · exact hsound.exact_of_holds hholds
  · cases heq

end Usable

end Shape

end Shapes
