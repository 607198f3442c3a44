import Mathlib.Logic.Relation
import Shapes.Proofs.Scope.Freezing

/-!
How registries come about: scopes are frozen and let go of, nested scopes never before the scopes that
own them. What this keeps true is stated once, for every registry that can be reached.
-/

namespace Shapes

/-- A shape that can be handed to a registry: its objects were declared, and the scopes nested in it
are alive, as the shape owns them. -/
structure Shape.Usable (registry : Registry) (shape : Shape) : Prop where
  declared : ∀ o, .object o ∈ shape.nodes → o.Distinct
  alive : ∀ s, .scope s ∈ shape.nodes → s ∈ registry.live

theorem Shape.usable_object_iff {registry : Registry} {o : ObjectShape} :
    (Shape.object o).Usable registry ↔ o.Distinct ∧
      (∀ inner, .object inner ∈ Shape.objectNodes o → inner.Distinct) ∧
      ∀ s, .scope s ∈ Shape.objectNodes o → s ∈ registry.live := by
  have hmem : ∀ node, node ∈ (Shape.object o).nodes ↔ node = .object o ∨ node ∈ Shape.objectNodes o :=
    fun node => by rw [Shape.nodes, List.mem_cons]
  constructor
  · intro husable
    exact ⟨husable.declared o ((hmem _).2 (Or.inl rfl)),
      fun inner hinner => husable.declared inner ((hmem _).2 (Or.inr hinner)),
      fun s hs => husable.alive s ((hmem _).2 (Or.inr hs))⟩
  · rintro ⟨hown, hinner, hscopes⟩
    refine ⟨fun inner hnode => ?_, fun s hnode => ?_⟩
    · rcases (hmem _).1 hnode with heq | hnode
      · cases heq
        exact hown
      · exact hinner inner hnode
    · rcases (hmem _).1 hnode with heq | hnode
      · cases heq
      · exact hscopes s hnode

namespace Registry

variable {registry registry' later : Registry} {s : Scope}

/-- One change of a registry. Letting go keeps whatever the scopes that stay own. -/
inductive Step : Registry → Registry → Prop
  | freeze {registry registry' : Registry} {root : String} {objects : List ObjectShape} {scope : Scope}
      (husable : ∀ o ∈ objects, Shape.Usable registry (.object o))
      (hfreeze : (registry.freeze root objects).result = .ok (scope, registry')) :
      Step registry registry'
  | retain {registry : Registry} {owned : List Handle}
      (howned : ∀ s ∈ registry.live, s.handle ∈ owned →
        ∀ handle ∈ Shape.scopeHandles s, handle ∈ owned) :
      Step registry (registry.retain owned)

/-- The registries that come about from the empty one. -/
def Reachable (registry : Registry) : Prop :=
  Relation.ReflTransGen Step {} registry

/-- The live scopes are consistent, own live scopes only, and are told apart by their handles. -/
structure Sound (registry : Registry) : Prop where
  fresh : ∀ s ∈ registry.live, s.handle < registry.next
  unique : (registry.live.map ScopeOf.handle).Nodup
  consistent : ∀ s ∈ registry.live, s.Consistent
  nested : ∀ s ∈ registry.live, ∀ inner, .scope inner ∈ s.nodes → inner ∈ registry.live
  declared : ∀ s ∈ registry.live, ∀ o, o ∈ s.objects ∨ .object o ∈ s.nodes → o.Distinct

theorem sound_empty : Sound {} where
  fresh s hmem := by cases hmem
  unique := List.nodup_nil
  consistent s hmem := by cases hmem
  nested s hmem := by cases hmem
  declared s hmem := by cases hmem

theorem Sound.find?_eq_some (hsound : registry.Sound) (hmem : s ∈ registry.live) :
    registry.find? s.handle = some s := by
  have hunique := hsound.unique
  unfold find?
  generalize registry.live = live at hmem hunique
  induction live with
  | nil => cases hmem
  | cons first rest ih =>
    rw [List.map_cons, List.nodup_cons] at hunique
    rw [List.find?_cons]
    rcases List.mem_cons.1 hmem with rfl | hrest
    · simp
    · have hne : first.handle ≠ s.handle := by
        intro heq
        exact hunique.1 (List.mem_map.2 ⟨s, hrest, heq.symm⟩)
      rw [beq_false_of_ne hne]
      exact ih hrest hunique.2

theorem mem_of_find? {handle : Handle} (hfind : registry.find? handle = some s) :
    s ∈ registry.live ∧ s.handle = handle := by
  exact ⟨List.mem_of_find?_eq_some hfind, by simpa using List.find?_some hfind⟩

theorem mem_live_retain {owned : List Handle} :
    s ∈ (registry.retain owned).live ↔ s ∈ registry.live ∧ s.handle ∈ owned := by
  simp [retain]

private theorem sound_of_freeze {root : String} {objects : List ObjectShape} {scope : Scope}
    (hsound : registry.Sound) (husable : ∀ o ∈ objects, Shape.Usable registry (.object o))
    (hfreeze : (registry.freeze root objects).result = .ok (scope, registry')) : registry'.Sound := by
  have hconsistent := ScopeOf.consistent_of_freeze hfreeze
  obtain ⟨_, hscope, rfl⟩ := freeze_eq_ok_iff.1 hfreeze
  -- A node of the new scope is a bound node of an object that was usable.
  have hnodes : ∀ node ∈ scope.nodes, ∃ o ∈ objects, ∃ given ∈ (Shape.object o).nodes,
      Shape.bind registry.next given = node := by
    intro node hmem
    obtain ⟨bound, hbound, hmem⟩ := ScopeOf.mem_nodes_iff.1 hmem
    rw [hscope] at hbound
    obtain ⟨o, ho, rfl⟩ := List.mem_map.1 hbound
    rw [Shape.objectNodes_bind] at hmem
    obtain ⟨given, hgiven, rfl⟩ := List.mem_map.1 hmem
    refine ⟨o, ho, given, ?_, rfl⟩
    rw [Shape.nodes]
    exact List.mem_cons_of_mem _ hgiven
  have hmem_live : ∀ {s}, s ∈ registry.live ++ [scope] → s ∈ registry.live ∨ s = scope := by
    intro s hmem
    simpa using hmem
  refine ⟨fun s hmem => ?_, ?_, fun s hmem => ?_, fun s hmem inner hinner => ?_,
    fun s hmem o ho => ?_⟩
  · rcases hmem_live hmem with hold | rfl
    · exact Nat.lt_succ_of_lt (hsound.fresh s hold)
    · rw [hscope]
      exact Nat.lt_succ_self _
  · rw [List.map_append, List.nodup_append]
    refine ⟨hsound.unique, by simp, fun handle hold other hnew => ?_⟩
    obtain ⟨s, hs, rfl⟩ := List.mem_map.1 hold
    have hother : other = registry.next := by
      rw [hscope] at hnew
      simpa using hnew
    have hlt := hsound.fresh s hs
    rw [hother]
    exact Nat.ne_of_lt hlt
  · rcases hmem_live hmem with hold | rfl
    · exact hsound.consistent s hold
    · exact hconsistent
  · rw [List.mem_append]
    rcases hmem_live hmem with hold | rfl
    · exact Or.inl (hsound.nested s hold inner hinner)
    · obtain ⟨o, ho, given, hgiven, heq⟩ := hnodes _ hinner
      cases given with
      | scope own =>
        obtain rfl := Shape.scope.inj heq
        exact Or.inl ((husable o ho).alive own hgiven)
      | _ => cases heq
  · rcases hmem_live hmem with hold | rfl
    · exact hsound.declared s hold o ho
    · rcases ho with hobject | hnode
      · rw [hscope] at hobject
        obtain ⟨given, hgiven, rfl⟩ := List.mem_map.1 hobject
        exact Shape.distinct_bindObject ((husable given hgiven).declared given (Shape.mem_nodes_self _))
      · obtain ⟨outer, houter, given, hgiven, heq⟩ := hnodes _ hnode
        cases given with
        | object own =>
          cases heq
          exact Shape.distinct_bindObject ((husable outer houter).declared own hgiven)
        | _ => cases heq

theorem Step.sound (hstep : Step registry registry') (hsound : registry.Sound) : registry'.Sound := by
  cases hstep with
  | freeze husable hfreeze => exact sound_of_freeze hsound husable hfreeze
  | @retain owned howned =>
    refine ⟨fun s hmem => hsound.fresh s (mem_live_retain.1 hmem).1, ?_,
      fun s hmem => hsound.consistent s (mem_live_retain.1 hmem).1, fun s hmem inner hinner => ?_,
      fun s hmem => hsound.declared s (mem_live_retain.1 hmem).1⟩
    · exact hsound.unique.sublist (List.filter_sublist.map _)
    · obtain ⟨hlive, hhandle⟩ := mem_live_retain.1 hmem
      exact mem_live_retain.2 ⟨hsound.nested s hlive inner hinner,
        howned s hlive hhandle _ (ScopeOf.mem_scopeHandles_of_mem_nodes hinner)⟩

theorem sound_of_steps (hsteps : Relation.ReflTransGen Step registry later)
    (hsound : registry.Sound) : later.Sound := by
  induction hsteps with
  | refl => exact hsound
  | tail _ hstep ih => exact hstep.sound ih

theorem Reachable.sound (hreachable : registry.Reachable) : registry.Sound :=
  sound_of_steps hreachable sound_empty

theorem Step.next_le (hstep : Step registry registry') : registry.next ≤ registry'.next := by
  cases hstep with
  | freeze _ hfreeze =>
    obtain ⟨_, _, rfl⟩ := freeze_eq_ok_iff.1 hfreeze
    exact Nat.le_succ _
  | retain _ => exact Nat.le_refl _

/-- A handle is never used twice, so a scope under an old handle was there before. -/
theorem Step.mem_live (hstep : Step registry registry') (hmem : s ∈ registry'.live)
    (hold : s.handle < registry.next) : s ∈ registry.live := by
  cases hstep with
  | freeze _ hfreeze =>
    obtain ⟨_, hscope, rfl⟩ := freeze_eq_ok_iff.1 hfreeze
    rcases List.mem_append.1 hmem with hbefore | hnew
    · exact hbefore
    · rw [List.mem_singleton.1 hnew, hscope] at hold
      exact absurd hold (Nat.lt_irrefl _)
  | retain _ => exact (List.mem_filter.1 hmem).1

theorem mem_live_of_steps (hsteps : Relation.ReflTransGen Step registry later)
    (hmem : s ∈ later.live) (hold : s.handle < registry.next) : s ∈ registry.live := by
  induction hsteps using Relation.ReflTransGen.head_induction_on with
  | refl => exact hmem
  | head hstep _ ih => exact hstep.mem_live (ih (Nat.lt_of_lt_of_le hold hstep.next_le)) hold

end Registry

end Shapes
