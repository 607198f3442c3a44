import Shapes.Proofs.Reach
import Shapes.Proofs.Scope.Nodes
import Shapes.Shape.Freeze

/-!
What freezing checks and what it makes of it: every reference in the objects of a frozen scope is bound
to the scope and names one of its objects, and no object contradicts a choice that selects it.
-/

namespace Shapes

namespace Fields

theorem get?_map {α β : Type} (f : α → β) (fields : Fields α) (name : String) :
    get? (fields.map fun entry => (entry.1, f entry.2)) name = (get? fields name).map f := by
  induction fields with
  | nil => rfl
  | cons entry rest ih =>
    obtain ⟨known, value⟩ := entry
    rw [List.map_cons, get?_cons, get?_cons, ih]
    split <;> rfl

end Fields

namespace OneOf

theorem admits_bind {handle : Handle} {c : OneOf} {o : ObjectShape} (hadmits : c.Admits o) :
    (c.bind handle).Admits (Shape.bindObject handle o) := by
  intro property hproperty
  rw [Shape.bindObject_eq] at hproperty
  change Fields.get? (o.properties.map _) c.field = some property at hproperty
  rw [Fields.get?_map (Shape.bindProperty handle)] at hproperty
  obtain ⟨given, hgiven, rfl⟩ := Option.map_eq_some_iff.1 hproperty
  rw [Shape.shape_bindProperty, Shape.representation_bind]
  exact hadmits given hgiven

end OneOf

namespace Shape

variable {objects : List ObjectShape}

theorem targetFault?_eq_none_iff {c : OneOf} {target : Reference} :
    targetFault? objects c target = none ↔
      ∃ o, objects.find? (·.id == target.id) = some o ∧ c.Admits o := by
  unfold targetFault?
  cases hobject : objects.find? (·.id == target.id) with
  | none => simp
  | some o =>
    simp only [Option.some.injEq, exists_eq_left', OneOf.Admits]
    cases hproperty : o.property? c.field with
    | none => simp
    | some property => simp [or_iff_not_imp_left]

/-- A shape has no fault iff its references name objects and the objects that it chooses among can hold
the keys. -/
theorem fault?_eq_none_iff {node : Shape} :
    node.fault? objects = none ↔
      (∀ r ∈ node.ownReferences, ∃ o, objects.find? (·.id == r.id) = some o) ∧
        ∀ c, node = .oneOf c → ∀ variant ∈ c.variants, ∀ o,
          objects.find? (·.id == variant.2.id) = some o → c.Admits o := by
  cases node with
  | ref r =>
    simp only [fault?, ownReferences, List.mem_singleton, forall_eq, reduceCtorEq, false_imp_iff,
      implies_true, and_true, ite_eq_left_iff, Bool.not_eq_true, imp_false, Bool.not_eq_false]
    rw [← Option.isSome_iff_exists, List.find?_isSome, List.any_eq_true]
  | oneOf c =>
    simp only [fault?, ownReferences, List.findSome?_eq_none_iff, targetFault?_eq_none_iff,
      List.forall_mem_map, oneOf.injEq, forall_eq']
    constructor
    · intro hall
      refine ⟨fun variant hmem => ?_, fun variant hmem o hobject => ?_⟩
      · obtain ⟨o, hobject, _⟩ := hall variant hmem
        exact ⟨o, hobject⟩
      · obtain ⟨other, hother, hadmits⟩ := hall variant hmem
        rw [hobject] at hother
        cases hother
        exact hadmits
    · rintro ⟨hdeclared, hadmits⟩ variant hmem
      obtain ⟨o, hobject⟩ := hdeclared variant hmem
      exact ⟨o, hobject, hadmits variant hmem o hobject⟩
  | _ => simp [fault?, ownReferences]

end Shape

namespace Registry

variable {registry registry' : Registry} {root : String} {objects : List ObjectShape} {scope : Scope}

theorem fault?_eq_none_iff :
    fault? root objects = none ↔ (objects.map ObjectOf.id).Nodup ∧ (∃ o ∈ objects, o.id = root) ∧
      ∀ node ∈ objects.flatMap Shape.objectNodes, node.fault? objects = none := by
  unfold fault?
  cases hrepeated : firstRepeated? [] (objects.map ObjectOf.id) with
  | some id =>
    have hnot : ¬ (objects.map ObjectOf.id).Nodup := by
      intro hnodup
      rw [firstRepeated?_eq_none_iff.2 ⟨hnodup, by simp⟩] at hrepeated
      cases hrepeated
    simp [hnot]
  | none =>
    have hnodup := (firstRepeated?_eq_none_iff.1 hrepeated).1
    by_cases hroot : ∃ o ∈ objects, o.id = root
    · rw [if_pos (by simpa using hroot)]
      simp only [hnodup, hroot, true_and, List.findSome?_eq_none_iff]
    · rw [if_neg (by simpa using hroot)]
      simp [hroot]

/-- Freezing succeeds iff the objects have no fault; the new scope binds them under the next handle. -/
theorem freeze_eq_ok_iff :
    (freeze registry root objects).result = .ok (scope, registry') ↔
      fault? root objects = none ∧
        scope = ⟨registry.next, root, objects.map (Shape.bindObject registry.next)⟩ ∧
        registry' = ⟨registry.next + 1, registry.live ++ [scope]⟩ := by
  unfold freeze
  cases fault? root objects with
  | some error => simp
  | none =>
    simp only [Traced.result_bind_eq_ok, Traced.result_announce, Traced.result_pure, Except.ok.injEq,
      Prod.mk.injEq, true_and, exists_const]
    constructor
    · rintro ⟨rfl, rfl⟩
      exact ⟨rfl, rfl⟩
    · rintro ⟨rfl, rfl⟩
      exact ⟨rfl, rfl⟩

end Registry

namespace ScopeOf

/-- What a frozen scope is known to satisfy. -/
structure Consistent (s : Scope) : Prop where
  distinct : (s.objects.map ObjectOf.id).Nodup
  rooted : ∃ o, s.rootObject? = some o
  bound : ∀ r ∈ s.references, r.scope = some s.handle
  declared : ∀ r ∈ s.references, ∃ o, s.object? r.id = some o
  admits : ∀ c, .oneOf c ∈ s.nodes → ∀ variant ∈ c.variants, ∀ o,
    s.object? variant.2.id = some o → c.Admits o

/-- The objects of a consistent scope could be frozen again. -/
theorem Consistent.fault?_eq_none {s : Scope} (hconsistent : s.Consistent) :
    Registry.fault? s.root s.objects = none := by
  obtain ⟨o, hroot⟩ := hconsistent.rooted
  refine Registry.fault?_eq_none_iff.2 ⟨hconsistent.distinct, ⟨o, ?_, ?_⟩, fun node hmem => ?_⟩
  · exact List.mem_of_find?_eq_some hroot
  · simpa using List.find?_some hroot
  · refine Shape.fault?_eq_none_iff.2 ⟨fun r hr => ?_, fun c hchoice variant hvariant target htarget => ?_⟩
    · exact hconsistent.declared r (mem_references_iff.2 ⟨node, hmem, hr⟩)
    · subst hchoice
      exact hconsistent.admits c hmem variant hvariant target htarget

/-- The scope that objects are frozen into, under a handle. -/
private theorem object?_map_bind {handle : Handle} {root id : String} {objects : List ObjectShape} :
    object? ⟨handle, root, objects.map (Shape.bindObject handle)⟩ id =
      (objects.find? (·.id == id)).map (Shape.bindObject handle) := by
  rw [object?, List.find?_map]
  simp only [Function.comp_def, Shape.bindObject_eq]

private theorem nodes_map_bind {handle : Handle} {root : String} {objects : List ObjectShape} :
    nodes ⟨handle, root, objects.map (Shape.bindObject handle)⟩ =
      (objects.flatMap Shape.objectNodes).map (Shape.bind handle) := by
  rw [nodes, List.flatMap_map, List.map_flatMap]
  exact List.flatMap_congr fun o _ => Shape.objectNodes_bind handle o

/-- A scope that was frozen is consistent, wherever its objects were bound before. -/
theorem consistent_of_freeze {registry registry' : Registry} {root : String}
    {objects : List ObjectShape} {scope : Scope}
    (hfreeze : (registry.freeze root objects).result = .ok (scope, registry')) :
    scope.Consistent := by
  obtain ⟨hfault, rfl, _⟩ := Registry.freeze_eq_ok_iff.1 hfreeze
  obtain ⟨hdistinct, ⟨o, ho, hroot⟩, hnodes⟩ := Registry.fault?_eq_none_iff.1 hfault
  have hgiven : ∀ r ∈ references ⟨registry.next, root, objects.map (Shape.bindObject registry.next)⟩,
      ∃ node ∈ objects.flatMap Shape.objectNodes, ∃ given ∈ node.ownReferences,
        given.bind registry.next = r := by
    intro r hmem
    obtain ⟨bound, hbound, hmem⟩ := mem_references_iff.1 hmem
    rw [nodes_map_bind] at hbound
    obtain ⟨node, hnode, rfl⟩ := List.mem_map.1 hbound
    rw [Shape.ownReferences_bind] at hmem
    exact ⟨node, hnode, List.mem_map.1 hmem⟩
  refine ⟨?_, ?_, fun r hmem => ?_, fun r hmem => ?_, fun c hmem variant hvariant target htarget => ?_⟩
  · simpa [Function.comp_def, Shape.bindObject_eq] using hdistinct
  · have hfound : (objects.find? (·.id == root)).isSome := by
      rw [List.find?_isSome]
      exact ⟨o, ho, by simpa using hroot⟩
    obtain ⟨found, hfound⟩ := Option.isSome_iff_exists.1 hfound
    refine ⟨Shape.bindObject registry.next found, ?_⟩
    rw [rootObject?, object?_map_bind, hfound]
    rfl
  · obtain ⟨_, _, given, _, rfl⟩ := hgiven r hmem
    rfl
  · obtain ⟨node, hnode, given, hown, rfl⟩ := hgiven r hmem
    obtain ⟨found, hfound⟩ := (Shape.fault?_eq_none_iff.1 (hnodes node hnode)).1 given hown
    refine ⟨Shape.bindObject registry.next found, ?_⟩
    rw [object?_map_bind]
    exact congrArg _ hfound
  · rw [nodes_map_bind] at hmem
    obtain ⟨node, hnode, heq⟩ := List.mem_map.1 hmem
    cases node with
    | oneOf own =>
      cases heq
      obtain ⟨given, hown, rfl⟩ := List.mem_map.1 hvariant
      rw [object?_map_bind] at htarget
      obtain ⟨found, hfound, rfl⟩ := Option.map_eq_some_iff.1 htarget
      exact OneOf.admits_bind
        ((Shape.fault?_eq_none_iff.1 (hnodes _ hnode)).2 own rfl given hown found hfound)
    | _ => cases heq

end ScopeOf

end Shapes
