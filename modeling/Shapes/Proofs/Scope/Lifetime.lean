import Mathlib.Data.List.Nodup
import Shapes.Function.Closure
import Shapes.Proofs.Scope.Ownership

/-!
The lifetime of scopes. A run freezes scopes, stores and drops shapes, functions and declarations, and
builds new things from whatever it can get hold of: parts of what is stored, objects of scopes, targets of
references. A scope is alive at exactly the moments at which something owns it, and a reference stands for an
object of the scope that it was bound to last, or for nothing.
-/

namespace Shapes

/-- A moment of a run. Beside the workspace it knows all scopes frozen so far, whether they are alive or
not, and those in hand: frozen since the workspace was settled, and not yet stored or let go of. -/
structure Moment where
  workspace : Workspace := {}
  frozen : List Scope := []
  hand : List Scope := []

/-- A reference was bound to a scope, which declares its target. -/
def Reference.BoundTo (r : Reference) (s : Scope) : Prop :=
  r.scope = some s.handle ∧ ∃ o, s.object? r.id = some o

theorem ScopeOf.Consistent.boundTo {s : Scope} {r : Reference} (hconsistent : s.Consistent)
    (hmem : r ∈ s.references) : r.BoundTo s :=
  ⟨hconsistent.bound r hmem, hconsistent.declared r hmem⟩

namespace Moment

variable {m m' later : Moment} {shape : Shape} {s : Scope} {r : Reference}

def registry (m : Moment) : Registry :=
  m.workspace.registry

/-- What is stored or in hand at a moment. -/
inductive Has (m : Moment) : Shape → Prop
  | stored {shape : Shape} (hstores : m.workspace.Stores shape) : Has m shape
  | hand {s : Scope} (hmem : s ∈ m.hand) : Has m (.scope s)

/-- Something that is stored or in hand owns the scope. -/
def Owns (m : Moment) (s : Scope) : Prop :=
  ∃ shape, m.Has shape ∧ shape.Owns s

/-- The shapes that can be had at a moment: what is there already, what can be put together from that, and
what can be taken out of it. -/
inductive Obtains (m : Moment) : Shape → Prop
  | has {shape : Shape} (hhas : m.Has shape) : Obtains m shape
  | any : Obtains m .any
  | bool : Obtains m .bool
  | int : Obtains m .int
  | float : Obtains m .float
  | string : Obtains m .string
  | list {items : Shape} (hitems : Obtains m items) : Obtains m (.list items)
  | object {o : ObjectShape} (hdistinct : o.Distinct)
      (hfields : ∀ field ∈ o.properties, Obtains m field.2.shape) : Obtains m (.object o)
  | ref {id : String} {label : Option Label} : Obtains m (.ref ⟨id, label, none⟩)
  | relabelled {r : Reference} {label : Option Label} (hr : Obtains m (.ref r)) :
      Obtains m (.ref { r with label })
  | oneOf {c : OneOf} (hvariants : ∀ variant ∈ c.variants, Obtains m (.ref variant.2)) :
      Obtains m (.oneOf c)
  | items {items : Shape} (hlist : Obtains m (.list items)) : Obtains m items
  | property {o : ObjectShape} {field : String × Property Shape} (hobject : Obtains m (.object o))
      (hmem : field ∈ o.properties) : Obtains m field.2.shape
  | variant {c : OneOf} {variant : Discriminant × Reference} (hchoice : Obtains m (.oneOf c))
      (hmem : variant ∈ c.variants) : Obtains m (.ref variant.2)
  | member {s : Scope} {o : ObjectShape} (hscope : Obtains m (.scope s)) (hmem : o ∈ s.objects) :
      Obtains m (.object o)
  | target {r : Reference} {o : ObjectShape} (hr : Obtains m (.ref r))
      (hresolve : (r.resolve m.registry).result = .ok o) : Obtains m (.object o)

/-- The moment at which a scope was frozen. It is in hand, and nothing else has changed. -/
def froze (m : Moment) (s : Scope) (registry : Registry) : Moment :=
  ⟨{ m.workspace with registry }, m.frozen ++ [s], m.hand ++ [s]⟩

/-- The moment at which the workspace is settled after a change. Nothing is in hand any more. -/
def settled (m : Moment) (w : Workspace) : Moment :=
  ⟨w.settle, m.frozen, []⟩

/-- What may happen next. A name that is stored under again is overwritten. The code of a function may hold
whatever can be had when the function is bound. -/
inductive Step : Moment → Moment → Prop
  | freeze {m : Moment} {root : String} {objects : List ObjectShape} {scope : Scope} {later : Registry}
      (hobjects : ∀ o ∈ objects, m.Obtains (.object o))
      (hfreeze : (m.registry.freeze root objects).result = .ok (scope, later)) :
      Step m (m.froze scope later)
  | store {m : Moment} {shape : Shape} (name : String) (hshape : m.Obtains shape) :
      Step m (m.settled (m.workspace.putShape name shape))
  | bind {m : Moment} {id : String} {inputs : List Shape} {output : Output} {label : Option Label}
      {handler : Handler} {f : BoundFunction} (name : String) (log : List String)
      (hshapes : ∀ shape ∈ inputs ++ output.shapes ++ handler.held, m.Obtains shape)
      (hbind : (BoundFunction.bind id inputs output label handler).result = .ok f) :
      Step m (m.settled (m.workspace.putFunction name f log))
  | declare {m : Moment} {d : Declaration} (name : String) (hshapes : ∀ shape ∈ d.shapes, m.Obtains shape) :
      Step m (m.settled (m.workspace.putDeclaration name d))
  | drop {m : Moment} (name : String) : Step m (m.settled (m.workspace.drop name))
  | dropDeclaration {m : Moment} (name : String) : Step m (m.settled (m.workspace.dropDeclaration name))
  | letGo {m : Moment} : Step m (m.settled m.workspace)

theorem mem_frozen_froze_iff {t : Scope} {registry : Registry} :
    s ∈ (m.froze t registry).frozen ↔ s ∈ m.frozen ∨ s = t := by
  rw [froze, List.mem_append, List.mem_singleton]

theorem has_froze_iff {t : Scope} {registry : Registry} :
    (m.froze t registry).Has shape ↔ m.Has shape ∨ shape = .scope t := by
  constructor
  · intro hhas
    cases hhas with
    | stored hstores => exact Or.inl (.stored (Workspace.stores_with_registry_iff.1 hstores))
    | hand hmem =>
      rcases List.mem_append.1 hmem with hold | hnew
      · exact Or.inl (.hand hold)
      · exact Or.inr (congrArg Shape.scope (List.mem_singleton.1 hnew))
  · rintro (hhas | rfl)
    · cases hhas with
      | stored hstores => exact .stored (Workspace.stores_with_registry_iff.2 hstores)
      | hand hmem => exact .hand (List.mem_append_left _ hmem)
    · exact .hand (List.mem_append_right _ (List.mem_singleton_self _))

theorem has_settled_iff {w : Workspace} : (m.settled w).Has shape ↔ w.Stores shape := by
  constructor
  · intro hhas
    cases hhas with
    | stored hstores => exact Workspace.stores_with_registry_iff.1 hstores
    | hand hmem => cases hmem
  · exact fun hstores => .stored (Workspace.stores_with_registry_iff.2 hstores)

/-- With nothing in hand, what is stored owns the scopes. -/
theorem owns_iff_stores (hhand : m.hand = []) :
    m.Owns s ↔ ∃ shape, m.workspace.Stores shape ∧ shape.Owns s := by
  constructor
  · rintro ⟨shape, hhas, howns⟩
    cases hhas with
    | stored hstores => exact ⟨shape, hstores, howns⟩
    | hand hmem =>
      rw [hhand] at hmem
      cases hmem
  · rintro ⟨shape, hstores, howns⟩
    exact ⟨shape, .stored hstores, howns⟩

/-- A reference was never bound, or is bound to a scope of the past. -/
def Knows (m : Moment) (r : Reference) : Prop :=
  r.scope = none ∨ ∃ s ∈ m.frozen, r.BoundTo s

/-- What holds at every moment of a run. -/
structure Valid (m : Moment) : Prop where
  sound : m.registry.Sound
  unique : (m.frozen.map ScopeOf.handle).Nodup
  fresh : ∀ s ∈ m.frozen, s.handle < m.registry.next
  consistent : ∀ s ∈ m.frozen, s.Consistent
  /-- What the objects of a scope own is older than the scope. -/
  older : ∀ s ∈ m.frozen, ∀ o ∈ s.objects, ∀ inner, (Shape.object o).Owns inner → inner.handle < s.handle
  remembered : ∀ s ∈ m.registry.live, s ∈ m.frozen
  owned : ∀ s ∈ m.registry.live, m.Owns s
  usable : ∀ shape, m.Has shape → shape.Usable m.registry
  known : ∀ shape, m.Has shape → ∀ r ∈ shape.references, m.Knows r

namespace Valid

variable (hvalid : m.Valid)

include hvalid

/-- A scope is alive iff something owns it. -/
theorem owns_iff : m.Owns s ↔ s ∈ m.registry.live := by
  constructor
  · rintro ⟨shape, hhas, howns⟩
    exact (hvalid.usable shape hhas).mem_live_of_owns hvalid.sound howns
  · exact hvalid.owned s

theorem eq_of_handle_eq {t : Scope} (hs : s ∈ m.frozen) (ht : t ∈ m.frozen)
    (hhandle : s.handle = t.handle) : s = t :=
  List.inj_on_of_nodup_map hvalid.unique hs ht hhandle

/-- Everything that can be had can be used. -/
theorem usable_of_obtains (hobtains : m.Obtains shape) : shape.Usable m.registry := by
  induction hobtains with
  | has hhas => exact hvalid.usable _ hhas
  | list _ ih => exact Shape.usable_list_iff.2 ih
  | object hdistinct _ ih => exact Shape.usable_object_iff_fields.2 ⟨hdistinct, ih⟩
  | items _ ih => exact Shape.usable_list_iff.1 ih
  | property _ hmem ih => exact (Shape.usable_object_iff_fields.1 ih).2 _ hmem
  | member _ hmem ih =>
    exact Shape.usable_of_holds hvalid.sound (.object (Shape.usable_scope_iff.1 ih) hmem)
  | target _ hresolve _ =>
    exact Shape.usable_of_holds hvalid.sound
      (Registry.holds_of_target? (Reference.resolve_eq_ok_iff.1 hresolve))
  | _ => exact Shape.usable_of_nodes_eq rfl nofun nofun

/-- The references in the objects of a live scope are bound to it. -/
theorem knows_of_mem_objects {o : ObjectShape} (hlive : s ∈ m.registry.live) (ho : o ∈ s.objects) :
    ∀ r ∈ (Shape.object o).references, m.Knows r := by
  intro r hmem
  exact Or.inr ⟨s, hvalid.remembered s hlive, (hvalid.sound.consistent s hlive).boundTo
    (ScopeOf.mem_references_of_mem_objects ho hmem)⟩

/-- Every reference that can be had was never bound, or is bound to a scope of the past. -/
theorem knows_of_obtains (hobtains : m.Obtains shape) : ∀ r ∈ shape.references, m.Knows r := by
  induction hobtains with
  | has hhas => exact hvalid.known _ hhas
  | list _ ih => exact ih
  | object _ _ ih =>
    intro r hmem
    obtain ⟨field, hfield, hmem⟩ := Shape.mem_references_object_iff.1 hmem
    exact ih field hfield r hmem
  | ref =>
    intro r hmem
    obtain rfl := List.mem_singleton.1 hmem
    exact Or.inl rfl
  | @relabelled r label _ ih =>
    intro r' hmem
    obtain rfl := List.mem_singleton.1 hmem
    exact ih r (List.mem_singleton_self r)
  | oneOf _ ih =>
    intro r hmem
    rw [Shape.references_oneOf] at hmem
    obtain ⟨variant, hvariant, rfl⟩ := List.mem_map.1 hmem
    exact ih variant hvariant _ (List.mem_singleton_self _)
  | items _ ih => exact ih
  | property _ hmem ih =>
    intro r hr
    exact ih r (Shape.mem_references_object_iff.2 ⟨_, hmem, hr⟩)
  | variant _ hmem ih =>
    intro r hr
    obtain rfl := List.mem_singleton.1 hr
    refine ih _ ?_
    rw [Shape.references_oneOf]
    exact List.mem_map_of_mem hmem
  | member hscope hmem _ =>
    exact hvalid.knows_of_mem_objects (Shape.usable_scope_iff.1 (hvalid.usable_of_obtains hscope)) hmem
  | target _ hresolve _ =>
    obtain ⟨s, hlive, ho⟩ :=
      Registry.exists_mem_objects_of_target? (Reference.resolve_eq_ok_iff.1 hresolve)
    exact hvalid.knows_of_mem_objects hlive ho
  | _ =>
    intro r hmem
    cases hmem

omit hvalid in
theorem valid_start : Valid {} where
  sound := Registry.sound_empty
  unique := List.nodup_nil
  fresh _ hmem := by cases hmem
  consistent _ hmem := by cases hmem
  older _ hmem := by cases hmem
  remembered _ hlive := by cases hlive
  owned _ hlive := by cases hlive
  usable _ hhas := by
    rcases hhas with ⟨hmem | hmem | hmem⟩ | hmem <;> cases hmem
  known _ hhas := by
    rcases hhas with ⟨hmem | hmem | hmem⟩ | hmem <;> cases hmem

section Freeze

variable {root : String} {objects : List ObjectShape} {scope : Scope} {registry : Registry}
  (hobjects : ∀ o ∈ objects, m.Obtains (.object o))
  (hfreeze : (m.registry.freeze root objects).result = .ok (scope, registry))

include hobjects hfreeze

theorem registry_step_freeze : Registry.Step m.registry registry :=
  .freeze (fun o ho => hvalid.usable_of_obtains (hobjects o ho)) hfreeze

/-- What the objects of a scope own was alive when it was frozen. -/
theorem older_of_freeze {o : ObjectShape} {inner : Scope} (ho : o ∈ scope.objects)
    (howns : (Shape.object o).Owns inner) : inner.handle < scope.handle := by
  obtain ⟨-, rfl, -⟩ := Registry.freeze_eq_ok_iff.1 hfreeze
  obtain ⟨given, hgiven, rfl⟩ := List.mem_map.1 ho
  have hgivenOwns : (Shape.object given).Owns inner := Shape.owns_bind_iff.1 howns
  have husable := hvalid.usable_of_obtains (hobjects given hgiven)
  exact hvalid.sound.fresh inner (husable.mem_live_of_owns hvalid.sound hgivenOwns)

/-- Freezing what can be had keeps a moment valid. -/
theorem freeze : (m.froze scope registry).Valid := by
  have husable : ∀ o ∈ objects, Shape.Usable m.registry (.object o) :=
    fun o ho => hvalid.usable_of_obtains (hobjects o ho)
  have hgrows := Registry.grows_of_freeze husable hfreeze
  have hnew := Registry.mem_live_of_freeze_eq hfreeze
  have holder : ∀ o ∈ scope.objects, ∀ inner, (Shape.object o).Owns inner → inner.handle < scope.handle :=
    fun o ho inner => hvalid.older_of_freeze hobjects hfreeze ho
  obtain ⟨-, hscope, hlater⟩ := Registry.freeze_eq_ok_iff.1 hfreeze
  have hhandle : scope.handle = m.registry.next := by rw [hscope]
  have hnext : registry.next = m.registry.next + 1 := by rw [hlater]
  have hlive : ∀ s ∈ registry.live, s ∈ m.registry.live ∨ s = scope := by
    intro s hs
    rwa [hlater, List.mem_append, List.mem_singleton] at hs
  refine {
    sound := (hvalid.registry_step_freeze hobjects hfreeze).sound hvalid.sound
    unique := ?_
    fresh := fun s hs => ?_
    consistent := fun s hs => ?_
    older := fun s hs => ?_
    remembered := fun s hs => mem_frozen_froze_iff.2 ((hlive s hs).imp_left (hvalid.remembered s))
    owned := fun s hs => ?_
    usable := fun shape hshape => ?_
    known := fun shape hshape r hr => ?_ }
  · rw [froze, List.map_append, List.nodup_append]
    refine ⟨hvalid.unique, List.nodup_singleton _, fun handle hold other hother => ?_⟩
    obtain ⟨s, hs, rfl⟩ := List.mem_map.1 hold
    rw [List.mem_singleton.1 hother, hhandle]
    exact Nat.ne_of_lt (hvalid.fresh s hs)
  · show s.handle < registry.next
    rw [hnext]
    rcases mem_frozen_froze_iff.1 hs with hold | rfl
    · exact Nat.lt_succ_of_lt (hvalid.fresh s hold)
    · rw [hhandle]
      exact Nat.lt_succ_self _
  · rcases mem_frozen_froze_iff.1 hs with hold | rfl
    · exact hvalid.consistent s hold
    · exact ScopeOf.consistent_of_freeze hfreeze
  · rcases mem_frozen_froze_iff.1 hs with hold | rfl
    · exact hvalid.older s hold
    · exact holder
  · rcases hlive s hs with hold | rfl
    · obtain ⟨shape, hshape, howns⟩ := hvalid.owned s hold
      exact ⟨shape, has_froze_iff.2 (Or.inl hshape), howns⟩
    · exact ⟨_, has_froze_iff.2 (Or.inr rfl), .scope⟩
  · rcases has_froze_iff.1 hshape with hold | rfl
    · exact (hvalid.usable shape hold).of_grows hgrows
    · exact Shape.usable_scope_iff.2 hnew
  · rcases has_froze_iff.1 hshape with hold | rfl
    · refine (hvalid.known shape hold r hr).imp_right ?_
      rintro ⟨s, hs, hbound⟩
      exact ⟨s, mem_frozen_froze_iff.2 (Or.inl hs), hbound⟩
    · cases hr

end Freeze

section Settle

variable {w : Workspace} (hregistry : w.registry = m.registry)
  (hstores : ∀ shape, w.Stores shape → m.Obtains shape)

include hstores

/-- The handles that are kept are those of the live scopes that something stored owns. -/
theorem mem_handles_iff (hlive : s ∈ m.registry.live) :
    s.handle ∈ w.handles ↔ ∃ shape, w.Stores shape ∧ shape.Owns s := by
  rw [Workspace.mem_handles_iff]
  refine exists_congr fun shape => and_congr_right fun hshape => ?_
  rw [Shape.mem_handles_iff]
  constructor
  · rintro ⟨t, howns, hhandle⟩
    have husable := hvalid.usable_of_obtains (hstores shape hshape)
    have ht := husable.mem_live_of_owns hvalid.sound howns
    obtain rfl := hvalid.eq_of_handle_eq (hvalid.remembered t ht) (hvalid.remembered s hlive) hhandle
    exact howns
  · exact fun howns => ⟨s, howns, rfl⟩

include hregistry

theorem registry_step_settled : Registry.Step m.registry (m.settled w).registry := by
  show Registry.Step m.registry (w.registry.retain w.handles)
  rw [hregistry]
  refine .retain fun s hlive hkept handle hnested => ?_
  obtain ⟨shape, hshape, howns⟩ := (hvalid.mem_handles_iff hstores hlive).1 hkept
  obtain ⟨inner, hinner, hhandle⟩ := Shape.mem_handles_iff.1
    (show handle ∈ (Shape.scope s).handles from hnested)
  exact Workspace.mem_handles_iff.2
    ⟨shape, hshape, Shape.mem_handles_iff.2 ⟨inner, howns.trans hinner, hhandle⟩⟩

/-- Storing what can be had, and letting go of anything, keeps a moment valid. -/
theorem settle : (m.settled w).Valid := by
  have hlive : ∀ s, s ∈ (m.settled w).registry.live ↔
      s ∈ m.registry.live ∧ ∃ shape, w.Stores shape ∧ shape.Owns s := by
    intro s
    show s ∈ (w.registry.retain w.handles).live ↔ _
    rw [hregistry, Registry.mem_live_retain]
    exact and_congr_right fun hlive => hvalid.mem_handles_iff hstores hlive
  refine {
    sound := (hvalid.registry_step_settled hregistry hstores).sound hvalid.sound
    unique := hvalid.unique
    fresh := fun s hs => ?_
    consistent := hvalid.consistent
    older := hvalid.older
    remembered := fun s hs => hvalid.remembered s ((hlive s).1 hs).1
    owned := fun s hs => ?_
    usable := fun shape hshape => ?_
    known := fun shape hshape => hvalid.knows_of_obtains (hstores shape (has_settled_iff.1 hshape)) }
  · show s.handle < w.registry.next
    rw [hregistry]
    exact hvalid.fresh s hs
  · obtain ⟨-, shape, hshape, howns⟩ := (hlive s).1 hs
    exact ⟨shape, has_settled_iff.2 hshape, howns⟩
  · have hshape := has_settled_iff.1 hshape
    have husable := hvalid.usable_of_obtains (hstores shape hshape)
    refine ⟨husable.declared, fun s hnode => (hlive s).2 ⟨husable.alive s hnode, shape, hshape, ?_⟩⟩
    exact .of_encloses (Shape.encloses_iff.2 hnode) .scope

end Settle

end Valid

/-- A step freezes what can be had, or settles the workspace with nothing stored but what could be had. -/
theorem Step.cases (hstep : Step m m') :
    (∃ root objects scope registry, (∀ o ∈ objects, m.Obtains (.object o)) ∧
      (m.registry.freeze root objects).result = .ok (scope, registry) ∧ m' = m.froze scope registry) ∨
    ∃ w : Workspace, w.registry = m.registry ∧ (∀ shape, w.Stores shape → m.Obtains shape) ∧
      m' = m.settled w := by
  have hold : ∀ shape, m.workspace.Stores shape → m.Obtains shape :=
    fun shape hstores => .has (.stored hstores)
  cases hstep with
  | freeze hobjects hfreeze => exact Or.inl ⟨_, _, _, _, hobjects, hfreeze, rfl⟩
  | @store shape name hshape =>
    refine Or.inr ⟨m.workspace.putShape name shape, rfl, fun stored hstores => ?_, rfl⟩
    rcases Workspace.stores_putShape hstores with rfl | hstored
    · exact hshape
    · exact hold stored hstored
  | @bind _ _ _ _ _ f name log hshapes hbind =>
    refine Or.inr ⟨m.workspace.putFunction name f log, rfl, fun stored hstores => ?_, rfl⟩
    rcases Workspace.stores_putFunction hstores with hmem | hstored
    · rw [BoundFunction.shapes_of_bind hbind] at hmem
      exact hshapes stored hmem
    · exact hold stored hstored
  | @declare d name hshapes =>
    refine Or.inr ⟨m.workspace.putDeclaration name d, rfl, fun stored hstores => ?_, rfl⟩
    rcases Workspace.stores_putDeclaration hstores with hmem | hstored
    · exact hshapes stored hmem
    · exact hold stored hstored
  | drop name =>
    refine Or.inr ⟨m.workspace.drop name, rfl, fun stored hstores => ?_, rfl⟩
    exact hold stored (Workspace.stores_drop hstores)
  | dropDeclaration name =>
    refine Or.inr ⟨m.workspace.dropDeclaration name, rfl, fun stored hstores => ?_, rfl⟩
    exact hold stored (Workspace.stores_dropDeclaration hstores)
  | letGo => exact Or.inr ⟨m.workspace, rfl, hold, rfl⟩

/-- What one step does: a valid moment stays valid, the registry takes a step of its own, and no scope is
forgotten. -/
theorem Step.preserves (hstep : Step m m') (hvalid : m.Valid) :
    m'.Valid ∧ Registry.Step m.registry m'.registry ∧ ∀ s ∈ m.frozen, s ∈ m'.frozen := by
  rcases hstep.cases with ⟨root, objects, scope, registry, hobjects, hfreeze, rfl⟩ |
    ⟨w, hregistry, hstores, rfl⟩
  · exact ⟨hvalid.freeze hobjects hfreeze, hvalid.registry_step_freeze hobjects hfreeze,
      fun s hs => mem_frozen_froze_iff.2 (Or.inl hs)⟩
  · exact ⟨hvalid.settle hregistry hstores, hvalid.registry_step_settled hregistry hstores,
      fun s hs => hs⟩

/-- What a run does. -/
theorem run_preserves (hrun : Relation.ReflTransGen Step m m') (hvalid : m.Valid) :
    m'.Valid ∧ Relation.ReflTransGen Registry.Step m.registry m'.registry ∧
      ∀ s ∈ m.frozen, s ∈ m'.frozen := by
  induction hrun with
  | refl => exact ⟨hvalid, .refl, fun s hs => hs⟩
  | tail _ hstep ih =>
    obtain ⟨hbefore, hsteps, hkept⟩ := ih
    obtain ⟨hafter, hlast, hkeeps⟩ := hstep.preserves hbefore
    exact ⟨hafter, hsteps.tail hlast, fun s hs => hkeeps s (hkept s hs)⟩

/-- A reference that was never bound stands for nothing. -/
theorem resolve_of_unbound {registry : Registry} (hunbound : r.scope = none) :
    (r.resolve registry).result = .error (.unknownType r.id) := by
  rw [Reference.resolve, Reference.scope?, hunbound]
  rfl

namespace Valid

/-- A reference stands for an object of its scope while something owns the scope. -/
theorem resolve_of_owns (hvalid : m.Valid) (hbound : r.BoundTo s) (howns : m.Owns s) :
    r.scope? m.registry = some s ∧
      ∃ o, s.object? r.id = some o ∧ (r.resolve m.registry).result = .ok o := by
  obtain ⟨hhandle, o, hobject⟩ := hbound
  have hscope : r.scope? m.registry = some s := by
    rw [Reference.scope?, hhandle, Option.bind_some,
      hvalid.sound.find?_eq_some (hvalid.owns_iff.1 howns)]
  refine ⟨hscope, o, hobject, Reference.resolve_eq_ok_iff.2 ?_⟩
  rw [Reference.target?, hscope, Option.bind_some, hobject]

/-- A reference stands for nothing once nothing owns its scope, whatever other scopes there are. -/
theorem resolve_of_not_owns (hvalid : m.Valid) (hs : s ∈ m.frozen) (hbound : r.BoundTo s)
    (hnot : ¬ m.Owns s) : r.scope? m.registry = none ∧
      (r.resolve m.registry).result = .error (.unknownType r.id) := by
  have hscope : r.scope? m.registry = none := by
    rw [Reference.scope?, hbound.1, Option.bind_some, Option.eq_none_iff_forall_not_mem]
    intro t ht
    obtain ⟨hlive, hhandle⟩ := Registry.mem_of_find? ht
    obtain rfl := hvalid.eq_of_handle_eq hs (hvalid.remembered t hlive) hhandle.symm
    exact hnot (hvalid.owns_iff.2 hlive)
  refine ⟨hscope, ?_⟩
  rw [Reference.resolve, hscope]
  rfl

theorem existsUnique_boundTo (hvalid : m.Valid) (hknown : m.Knows r) :
    r.scope = none ∨ ∃! s, s ∈ m.frozen ∧ r.BoundTo s := by
  refine hknown.imp_right ?_
  rintro ⟨s, hs, hbound⟩
  refine ⟨s, ⟨hs, hbound⟩, ?_⟩
  rintro t ⟨ht, hother⟩
  exact hvalid.eq_of_handle_eq ht hs (Option.some.inj (hother.1.symm.trans hbound.1))

end Valid

/-- References follow the scope that they were bound to last, and keep no scope alive. At any moment of any
run, a reference that can be had was never bound, or belongs to exactly one scope of the past; the
references in the objects of a scope belong to that scope. At any later moment the reference stands for the
object that its scope declares under its id if something stored or in hand owns the scope, and resolving it
fails otherwise: it never comes to another scope. Exactly the scopes that are owned are alive, with nothing in
hand only what is stored owns any, a scope that is not owned any more never is again, and nothing in the
objects of a scope owns the scope. -/
theorem references_follow_scopes (hrun : Relation.ReflTransGen Step {} m)
    (hlater : Relation.ReflTransGen Step m later) :
    (∀ shape, m.Obtains shape → ∀ r ∈ shape.references,
      r.scope = none ∨ ∃! s, s ∈ m.frozen ∧ r.BoundTo s) ∧
    (∀ s ∈ m.frozen, ∀ r ∈ s.references, r.BoundTo s) ∧
    (∀ r : Reference, r.scope = none → (r.resolve later.registry).result = .error (.unknownType r.id)) ∧
    (∀ s ∈ m.frozen, ∀ r : Reference, r.BoundTo s →
      (later.Owns s → r.scope? later.registry = some s ∧
        ∃ o, s.object? r.id = some o ∧ (r.resolve later.registry).result = .ok o) ∧
      (¬ later.Owns s → r.scope? later.registry = none ∧
        (r.resolve later.registry).result = .error (.unknownType r.id))) ∧
    (∀ s, s ∈ later.registry.live ↔ later.Owns s) ∧
    (later.hand = [] → ∀ s, later.Owns s ↔ ∃ shape, later.workspace.Stores shape ∧ shape.Owns s) ∧
    (∀ s ∈ m.frozen, ¬ m.Owns s → ¬ later.Owns s) ∧
    (∀ s ∈ m.frozen, ∀ o ∈ s.objects, ∀ part, (Shape.object o).Encloses part → ¬ part.Owns s) := by
  obtain ⟨hvalid, -, -⟩ := run_preserves hrun Valid.valid_start
  obtain ⟨hvalid', hsteps, hkept⟩ := run_preserves hlater hvalid
  refine ⟨fun shape hobtains r hr => hvalid.existsUnique_boundTo (hvalid.knows_of_obtains hobtains r hr),
    fun s hs r hr => (hvalid.consistent s hs).boundTo hr, fun r => resolve_of_unbound,
    fun s hs r hbound => ⟨hvalid'.resolve_of_owns hbound, hvalid'.resolve_of_not_owns (hkept s hs) hbound⟩,
    fun s => hvalid'.owns_iff.symm, fun hhand s => owns_iff_stores hhand, fun s hs hnot howns => ?_,
    fun s hs o ho part hpart howns => ?_⟩
  · refine hnot (hvalid.owns_iff.2 ?_)
    exact Registry.mem_live_of_steps hsteps (hvalid'.owns_iff.1 howns) (hvalid.fresh s hs)
  · exact absurd (hvalid.older s hs o ho s (.of_encloses hpart howns)) (Nat.lt_irrefl _)

end Moment

/-! A chain of nodes. The reference in a node is kept, and a function is bound whose code has captured the scope
of the node. The scope is dropped, and then the function; after that a scope with the same content is frozen and
stored. -/

namespace Chains

open Moment

def node : ObjectShape where
  id := "Node"
  properties := [("next", { shape := .ref { id := "Node" } })]

def chain (handle : Handle) : Scope :=
  ⟨handle, "Node", [Shape.bindObject handle node]⟩

def next (handle : Handle) : Reference where
  id := "Node"
  scope := some handle

def frozen : Moment :=
  ({} : Moment).froze (chain 0) ⟨1, [chain 0]⟩

def stored : Moment :=
  frozen.settled (frozen.workspace.putShape "nodes" (.scope (chain 0)))

/-- The reference is stored beside the scope that it was taken out of. -/
def kept : Moment :=
  stored.settled (stored.workspace.putShape "next" (.ref (next 0)))

/-- Neither input nor output has anything to do with the scope, but the code has captured it. -/
def walk : BoundFunction :=
  ⟨"walk", [.any], .fixed .any, none,
    .ofClosure [.any] (.value .any) (fun (node : Value) => node) [.scope (chain 0)]⟩

/-- The function is stored beside the scope that its code has captured. -/
def handed : Moment :=
  kept.settled (kept.workspace.putFunction "walk" walk [])

/-- The code of the function is all that holds the scope. -/
def carried : Moment :=
  handed.settled (handed.workspace.drop "nodes")

def dropped : Moment :=
  carried.settled (carried.workspace.drop "walk")

def refrozen : Moment :=
  dropped.froze (chain 1) ⟨2, [chain 1]⟩

/-- The reference is still stored, and so is a later scope with the same content as the one it is bound to. -/
def rebuilt : Moment :=
  refrozen.settled (refrozen.workspace.putShape "nodes" (.scope (chain 1)))

theorem obtains_node (m : Moment) : m.Obtains (.object node) := by
  refine .object (by decide) fun field hmem => ?_
  obtain rfl := List.mem_singleton.1 hmem
  exact .ref

/-- Nodes can be frozen at every moment. -/
theorem step_freeze (m : Moment) :
    Step m (m.froze (chain m.registry.next)
      ⟨m.registry.next + 1, m.registry.live ++ [chain m.registry.next]⟩) := by
  have hfreeze : (m.registry.freeze "Node" [node]).result = .ok (chain m.registry.next,
      ⟨m.registry.next + 1, m.registry.live ++ [chain m.registry.next]⟩) := rfl
  refine .freeze (fun o ho => ?_) hfreeze
  obtain rfl := List.mem_singleton.1 ho
  exact obtains_node m

theorem run_kept : Relation.ReflTransGen Step {} kept := by
  have hfreeze : Step {} frozen := step_freeze {}
  have hstore : Step frozen stored := .store "nodes" (.has (.hand (List.mem_singleton_self _)))
  have hkeep : Step stored kept := by
    have hentry : ("nodes", .scope (chain 0)) ∈ stored.workspace.shapes := List.mem_singleton_self _
    have hscope : stored.Obtains (.scope (chain 0)) := .has (.stored (.shape hentry))
    have hobject : stored.Obtains (.object (Shape.bindObject 0 node)) :=
      .member hscope (List.mem_singleton_self _)
    exact .store "next" (.property hobject (List.mem_singleton_self _))
  exact ((Relation.ReflTransGen.single hfreeze).tail hstore).tail hkeep

theorem run_carried : Relation.ReflTransGen Step kept carried := by
  have hbind : Step kept handed := by
    have hentry : ("nodes", .scope (chain 0)) ∈ kept.workspace.shapes := List.mem_cons_self ..
    have hscope : kept.Obtains (.scope (chain 0)) := .has (.stored (.shape hentry))
    have hwalk : (BoundFunction.bind "walk" walk.inputs walk.output none walk.handler).result = .ok walk := rfl
    refine .bind "walk" [] (fun shape hmem => ?_) hwalk
    simp only [walk, Output.shapes, Handler.ofClosure, List.mem_append, List.mem_singleton] at hmem
    rcases hmem with (rfl | rfl) | rfl
    · exact .any
    · exact .any
    · exact hscope
  exact (Relation.ReflTransGen.single hbind).tail (.drop "nodes")

theorem run_rebuilt : Relation.ReflTransGen Step carried rebuilt := by
  have hdrop : Step carried dropped := .drop "walk"
  have hfreeze : Step dropped refrozen := step_freeze dropped
  have hstore : Step refrozen rebuilt := .store "nodes" (.has (.hand (List.mem_singleton_self _)))
  exact ((Relation.ReflTransGen.single hdrop).tail hfreeze).tail hstore

theorem boundTo_next : (next 0).BoundTo (chain 0) :=
  ⟨rfl, _, rfl⟩

theorem not_mem_live_rebuilt : chain 0 ∉ rebuilt.registry.live := by
  intro hlive
  have heq : chain 0 = chain 1 := List.mem_singleton.1 hlive
  exact absurd (congrArg ScopeOf.handle heq) Nat.zero_ne_one

/-- The reference stands for the node while the scope is stored, and when only code holds it, but not afterwards. -/
theorem references_follow_chain :
    Relation.ReflTransGen Step {} kept ∧ Relation.ReflTransGen Step kept carried ∧
      Relation.ReflTransGen Step carried rebuilt ∧
      ((next 0).resolve kept.registry).result = .ok (Shape.bindObject 0 node) ∧
      ((next 0).resolve carried.registry).result = .ok (Shape.bindObject 0 node) ∧
      ((next 0).resolve rebuilt.registry).result = .error (.unknownType "Node") := by
  have hpast : chain 0 ∈ kept.frozen := List.mem_singleton_self _
  have halive : ∀ later : Moment, Relation.ReflTransGen Step kept later → chain 0 ∈ later.registry.live →
      ((next 0).resolve later.registry).result = .ok (Shape.bindObject 0 node) := by
    intro later hlater hlive
    obtain ⟨-, -, -, hafter, howned, -⟩ := references_follow_scopes run_kept hlater
    obtain ⟨-, o, hobject, hresolve⟩ := (hafter _ hpast _ boundTo_next).1 ((howned _).1 hlive)
    obtain rfl : Shape.bindObject 0 node = o := Option.some.inj hobject
    exact hresolve
  obtain ⟨-, -, -, hafter, howned, -⟩ := references_follow_scopes run_kept (run_carried.trans run_rebuilt)
  have hnot : ¬ rebuilt.Owns (chain 0) := fun howns => not_mem_live_rebuilt ((howned _).2 howns)
  exact ⟨run_kept, run_carried, run_rebuilt, halive kept .refl (List.mem_singleton_self _),
    halive carried run_carried (List.mem_singleton_self _), ((hafter _ hpast _ boundTo_next).2 hnot).2⟩

end Chains

end Shapes
