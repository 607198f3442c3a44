import Shapes.Proofs.Reading
import Shapes.Proofs.Scope.Held

/-!
Live scopes are closed and lexically scoped. All references in the objects of a scope stand for objects
of that very scope, also when it is nested in another, for as long as the scope is alive. So reading and
writing never come to a type that is not known.
-/

namespace Shapes

/-- The error does not come down to a type that is not known. -/
def DataError.TypesKnown (error : DataError) : Prop :=
  match error.rootCause with
  | .unknownType _ => False
  | _ => True

theorem DataError.TypesKnown.rootCause_ne {error : DataError} (hknown : error.TypesKnown)
    (id : String) : error.rootCause ≠ .unknownType id := by
  intro hcause
  rw [DataError.TypesKnown, hcause] at hknown
  exact hknown

/-- Reading did not end at a type that is not known. -/
def Stop.TypesKnown : Stop DataError → Prop
  | .failed error => error.TypesKnown
  | .unfinished => True

open Traced (FailsOnly)

private theorem inField_typesKnown {α : Type} {reading : Reading α} {field : String}
    (hreading : FailsOnly Stop.TypesKnown reading) :
    FailsOnly Stop.TypesKnown (reading.inField field) := by
  refine hreading.mapError fun stop hstop => ?_
  cases stop with
  | failed error => exact hstop
  | unfinished => trivial

private theorem refuse_typesKnown {α : Type} {error : DataError} (hknown : error.TypesKnown) :
    FailsOnly Stop.TypesKnown (Reading.refuse error : Reading α) :=
  .fail hknown

private theorem budgeted_typesKnown {α : Type} {x : Traced DataError α}
    (hx : FailsOnly DataError.TypesKnown x) : FailsOnly Stop.TypesKnown x.budgeted :=
  hx.mapError fun _ herror => herror

private theorem resolve_typesKnown {registry : Registry} {r : Reference}
    (htarget : ∃ o, r.target? registry = some o) :
    FailsOnly DataError.TypesKnown (r.resolve registry) := by
  intro error herror
  obtain ⟨o, htarget⟩ := htarget
  rw [(Reference.resolve_eq_error herror).1] at htarget
  cases htarget

namespace ObjectOf

variable {o : ObjectShape} {tolerated : Option String}

/-- Reading an object adds no unknown types to those of its fields. -/
theorem read_typesKnown {part default : Reader} {input : Json}
    (hpart : ∀ field ∈ o.properties, ∀ raw, raw.depth < input.depth →
      FailsOnly Stop.TypesKnown (part field.2.shape raw))
    (hdefault : ∀ field ∈ o.properties, ∀ document,
      FailsOnly Stop.TypesKnown (default field.2.shape document)) :
    FailsOnly Stop.TypesKnown (o.read part default tolerated input) := by
  cases input with
  | object entries =>
    unfold read
    dsimp only
    split
    · exact refuse_typesKnown trivial
    · refine .bind (.traverse fun field hmem => .bind ?_ fun _ _ => .pure _) fun _ _ => .pure _
      unfold readField
      split
      · rename_i raw hpresent
        split
        · exact refuse_typesKnown trivial
        · exact inField_typesKnown (hpart field hmem raw (Json.depth_lt_of_present? hpresent))
      · split
        · exact refuse_typesKnown trivial
        · split
          · exact inField_typesKnown (hdefault field hmem _)
          · exact .pure _
  | _ => exact refuse_typesKnown trivial

/-- Writing an object adds no unknown types to those of its fields. -/
theorem write_typesKnown {part : Writer} {value : Value}
    (hpart : ∀ field ∈ o.properties, ∀ content, content.depth < value.depth →
      FailsOnly DataError.TypesKnown (part field.2.shape content)) :
    FailsOnly DataError.TypesKnown (o.write part value) := by
  cases value with
  | object id fields =>
    unfold write
    dsimp only
    split
    · split
      · exact .fail trivial
      · refine .bind (.traverse fun field hmem => ?_) fun _ _ => .pure _
        unfold writeField
        split
        · rename_i content hpresent
          split
          · exact .fail trivial
          · refine .bind (.mapError ?_ fun error herror => herror) fun _ _ => .pure _
            exact hpart field hmem content (Value.depth_lt_of_present? hpresent)
        · split
          · exact .fail trivial
          · exact .pure _
    · exact .fail trivial
  | _ => exact .fail trivial

end ObjectOf

namespace OneOf

variable {c : OneOf}

/-- Reading a choice adds no unknown types to those of the objects it selects. -/
theorem read_typesKnown {registry : Registry} {part default : Reader} {input : Json}
    (htarget : ∀ variant ∈ c.variants, ∃ o, variant.2.target? registry = some o)
    (hobject : ∀ variant ∈ c.variants, ∀ o, variant.2.target? registry = some o →
      FailsOnly Stop.TypesKnown (o.read part default (some c.field) input)) :
    FailsOnly Stop.TypesKnown (c.read registry part default input) := by
  cases input with
  | object entries =>
    unfold read
    dsimp only
    split
    · exact refuse_typesKnown trivial
    · split
      · exact refuse_typesKnown trivial
      · split
        · exact refuse_typesKnown trivial
        · rename_i r hselected
          have hvariant := mem_of_target? hselected
          have hresolve := resolve_typesKnown (htarget _ hvariant)
          refine .bind (.announce _) fun _ _ => .bind (budgeted_typesKnown hresolve) fun o ho => ?_
          have hinner := hobject _ hvariant o (Reference.resolve_budgeted_eq_ok_iff.1 ho)
          exact .bind hinner fun _ _ => .pure _
  | _ => exact refuse_typesKnown trivial

theorem tag_typesKnown {key : Discriminant} {document : Json} :
    FailsOnly DataError.TypesKnown (Traced.ofExcept (c.tag key document)) := by
  intro error herror
  cases document with
  | object entries =>
    simp only [Traced.ofExcept, tag] at herror
    split at herror
    · cases herror
    · split at herror
      · cases herror
      · cases herror
        trivial
  | _ =>
    cases herror
    trivial

end OneOf

namespace Shape

variable {registry : Registry} {shape inner : Shape}

/-- All references and scopes that a shape reaches have their objects. -/
def Resolved (registry : Registry) (shape : Shape) : Prop :=
  ∀ inner, shape.Reaches registry inner →
    (∀ r, inner = .ref r → ∃ o, r.target? registry = some o) ∧
      ∀ s, inner = .scope s → ∃ o, s.rootObject? = some o

theorem resolved_of_holds (hsound : registry.Sound) (hholds : registry.Holds shape) :
    shape.Resolved registry := by
  intro inner hreaches
  have hinner := hsound.holds_of_reaches hholds hreaches
  constructor
  · rintro r rfl
    exact hsound.target?_of_holds hinner
  · rintro s rfl
    exact hsound.rootObject?_of_holds hinner

theorem readNested_typesKnown (hresolved : shape.Resolved registry) (budget : Nat) (document : Json)
    (hreaches : shape.Reaches registry inner) :
    FailsOnly Stop.TypesKnown (readNested registry budget inner document) := by
  induction budget, inner, document using readNested_induction with
  | hstep budget inner document ihPart ihDefault =>
    have hdefault : ∀ part raw, shape.Reaches registry part →
        FailsOnly Stop.TypesKnown (readDefault registry budget part raw) := by
      intro part raw hpart
      cases budget with
      | zero => exact .fail trivial
      | succ budget =>
        rw [readDefault_succ]
        exact ihDefault budget (Nat.lt_succ_self _) part raw hpart
    have hobject : ∀ {part o tolerated}, shape.Reaches registry part →
        part.object? registry = some o → FailsOnly Stop.TypesKnown
          (o.read (readNested registry budget) (readDefault registry budget) tolerated document) := by
      intro part o tolerated hpart ho
      exact ObjectOf.read_typesKnown
        (fun field hmem raw hlt => ihPart _ raw hlt (.field hpart ho hmem))
        fun field hmem raw => hdefault _ raw (.field hpart ho hmem)
    rw [readNested_eq]
    cases inner with
    | list items =>
      cases document with
      | array inputs =>
        refine .bind (.traverseFrom fun index input hmem => inField_typesKnown ?_) fun _ _ => .pure _
        exact ihPart items input (Json.depth_lt_of_mem_items hmem) (.item hreaches)
      | _ => exact refuse_typesKnown trivial
    | object o => exact hobject hreaches rfl
    | ref r =>
      have hresolve := resolve_typesKnown ((hresolved _ hreaches).1 r rfl)
      refine .bind (budgeted_typesKnown hresolve) fun o ho => hobject hreaches ?_
      exact Reference.resolve_budgeted_eq_ok_iff.1 ho
    | scope s =>
      obtain ⟨o, hroot⟩ := (hresolved _ hreaches).2 s rfl
      simp only [readStep, hroot]
      exact hobject hreaches hroot
    | oneOf c =>
      have hvariant : ∀ variant ∈ c.variants, shape.Reaches registry (.ref variant.2) :=
        fun _ hmem => .variant hreaches hmem
      exact OneOf.read_typesKnown
        (fun variant hmem => (hresolved _ (hvariant variant hmem)).1 variant.2 rfl)
        fun variant hmem o htarget => hobject (hvariant variant hmem) htarget
    | int =>
      cases document with
      | number n =>
        simp only [readStep]
        split
        · exact .pure _
        · exact refuse_typesKnown trivial
      | _ => exact refuse_typesKnown trivial
    | any => exact .pure _
    | _ =>
      cases document <;> first
        | exact .pure _
        | exact refuse_typesKnown trivial

theorem write_typesKnown (hresolved : shape.Resolved registry) (value : Value)
    (hreaches : shape.Reaches registry inner) :
    FailsOnly DataError.TypesKnown (write registry inner value) := by
  induction hdepth : value.depth using Nat.strongRecOn generalizing inner value with
  | _ depth ih =>
    subst hdepth
    have hobject : ∀ {part o}, shape.Reaches registry part → part.object? registry = some o →
        FailsOnly DataError.TypesKnown (o.write (write registry) value) := by
      intro part o hpart ho
      exact ObjectOf.write_typesKnown fun field hmem content hlt =>
        ih content.depth hlt content (.field hpart ho hmem) rfl
    rw [write_eq]
    cases inner with
    | list items =>
      cases value with
      | list values =>
        refine .bind (.traverseFrom fun index item hmem => .mapError ?_ fun error herror => herror)
          fun _ _ => .pure _
        exact ih item.depth (Value.depth_lt_of_mem_items hmem) item (.item hreaches) rfl
      | _ => exact .fail trivial
    | object o => exact hobject hreaches rfl
    | ref r =>
      refine .bind (resolve_typesKnown ((hresolved _ hreaches).1 r rfl)) fun o ho => hobject hreaches ?_
      exact Reference.resolve_eq_ok_iff.1 ho
    | scope s =>
      obtain ⟨o, hroot⟩ := (hresolved _ hreaches).2 s rfl
      simp only [writeStep, hroot]
      exact hobject hreaches hroot
    | oneOf c =>
      cases value with
      | oneOf key content =>
        simp only [writeStep]
        split
        · exact .fail trivial
        · rename_i r htarget
          have hvariant := hreaches.variant (OneOf.mem_of_target? htarget)
          have hless : content.depth < (Value.oneOf key content).depth := by
            rw [Value.depth]
            omega
          exact .bind (ih content.depth hless content hvariant rfl) fun _ _ => OneOf.tag_typesKnown
      | _ => exact .fail trivial
    | float =>
      cases value with
      | float x =>
        simp only [writeStep]
        split
        · exact .pure _
        · exact .fail trivial
      | _ => exact .fail trivial
    | any => exact .pure _
    | _ =>
      cases value <;> first
        | exact .pure _
        | exact .fail trivial

end Shape

namespace ScopeOf

/-- A scope nests itself, and the scopes in the objects of the scopes it nests. -/
inductive Nests (s : Scope) : Scope → Prop
  | self : Nests s s
  | inside {inner nested : Scope} {o : ObjectShape} (hnests : Nests s inner) (hmem : o ∈ inner.objects)
      (hencloses : (Shape.object o).Encloses (.scope nested)) : Nests s nested

theorem mem_live_of_nests {registry : Registry} {s inner : Scope} (hsound : registry.Sound)
    (hlive : s ∈ registry.live) (hnests : s.Nests inner) : inner ∈ registry.live := by
  induction hnests with
  | self => exact hlive
  | inside _ hmem hencloses ih =>
    rcases ScopeOf.mem_nodes_of_encloses hmem hencloses with heq | hnode
    · cases heq
    · exact hsound.nested _ ih _ hnode

end ScopeOf

namespace Registry

variable {registry registry' later : Registry} {root : String} {objects : List ObjectShape}
  {scope : Scope}

/-- A scope whose handle is still known is still alive. -/
theorem Sound.mem_live_of_isSome {s : Scope} (hsound : registry.Sound) (hmem : s ∈ registry.live)
    (hlater : Relation.ReflTransGen Step registry later)
    (halive : (later.find? s.handle).isSome) : s ∈ later.live := by
  obtain ⟨found, hfound⟩ := Option.isSome_iff_exists.1 halive
  obtain ⟨hlive, hhandle⟩ := mem_of_find? hfound
  have hfresh : found.handle < registry.next := by
    rw [hhandle]
    exact hsound.fresh s hmem
  have hbefore := hsound.find?_eq_some (mem_live_of_steps hlater hlive hfresh)
  rw [hhandle, hsound.find?_eq_some hmem] at hbefore
  cases hbefore
  exact hlive

/-- A scope is alive as soon as it is frozen. -/
theorem mem_live_of_freeze_eq (hfreeze : (registry.freeze root objects).result = .ok (scope, registry')) :
    scope ∈ registry'.live := by
  obtain ⟨_, _, rfl⟩ := freeze_eq_ok_iff.1 hfreeze
  simp

/-- Freezing keeps a registry within reach, and what was frozen can be used. -/
theorem usable_of_freeze (hreachable : registry.Reachable)
    (husable : ∀ o ∈ objects, Shape.Usable registry (.object o))
    (hfreeze : (registry.freeze root objects).result = .ok (scope, registry')) :
    registry'.Reachable ∧ (Shape.scope scope).Usable registry' := by
  have hreachable' : registry'.Reachable := hreachable.tail (.freeze husable hfreeze)
  exact ⟨hreachable', Shape.usable_of_holds hreachable'.sound (.scope (mem_live_of_freeze_eq hfreeze))⟩

/-- A scope that was frozen and is still alive is found under its handle. -/
theorem mem_live_of_freeze (hsound : registry.Sound)
    (husable : ∀ o ∈ objects, Shape.Usable registry (.object o))
    (hfreeze : (registry.freeze root objects).result = .ok (scope, registry'))
    (hlater : Relation.ReflTransGen Step registry' later)
    (halive : (later.find? scope.handle).isSome) : later.Sound ∧ scope ∈ later.live := by
  have hsound' : registry'.Sound := (Step.freeze husable hfreeze).sound hsound
  exact ⟨sound_of_steps hlater hsound',
    hsound'.mem_live_of_isSome (mem_live_of_freeze_eq hfreeze) hlater halive⟩

/-- A frozen scope is closed for as long as it is alive: each reference in its objects, and in those of
the scopes nested in it, stands for the object that the innermost scope around it declares, and reading
and writing by the scope never end at a type that is not known. -/
theorem freeze_closed (hreachable : registry.Reachable)
    (husable : ∀ o ∈ objects, Shape.Usable registry (.object o))
    (hfreeze : (registry.freeze root objects).result = .ok (scope, registry'))
    (hlater : Relation.ReflTransGen Step registry' later)
    (halive : (later.find? scope.handle).isSome) :
    (∀ inner, scope.Nests inner → ∀ o ∈ inner.objects, ∀ node, (Shape.object o).Encloses node →
      ∀ r ∈ node.ownReferences, r.scope? later = some inner ∧
        ∃ target, inner.object? r.id = some target ∧ (r.resolve later).result = .ok target) ∧
    (∀ input error, (Shape.read later (.scope scope) input).result = .error (.failed error) →
      ∀ id, error.rootCause ≠ .unknownType id) ∧
    ∀ value error, (Shape.write later (.scope scope) value).result = .error error →
      ∀ id, error.rootCause ≠ .unknownType id := by
  obtain ⟨hsound, hlive⟩ := mem_live_of_freeze hreachable.sound husable hfreeze hlater halive
  have hresolved := Shape.resolved_of_holds hsound (.scope hlive)
  refine ⟨fun inner hnests o ho node hencloses r hmem => ?_, fun input error herror id => ?_,
    fun value error herror id => ?_⟩
  · have hinner := ScopeOf.mem_live_of_nests hsound hlive hnests
    have hreference : r ∈ inner.references := by
      rcases ScopeOf.mem_nodes_of_encloses ho hencloses with rfl | hnode
      · cases hmem
      · exact ScopeOf.mem_references_iff.2 ⟨node, hnode, hmem⟩
    obtain ⟨hscope, target, hobject, htarget⟩ := hsound.target?_of_mem hinner hreference
    exact ⟨hscope, target, hobject, Reference.resolve_eq_ok_iff.2 htarget⟩
  · have hknown := Shape.readNested_typesKnown hresolved _ input .refl (.failed error) herror
    exact DataError.TypesKnown.rootCause_ne hknown id
  · have hknown := Shape.write_typesKnown hresolved value .refl error herror
    exact hknown.rootCause_ne id

end Registry

namespace Shelves

open Registry Shape

/-- A box may be in another box. -/
def box : ObjectShape where
  id := "Item"
  properties := [("around", { shape := .ref { id := "Item" } })]

def boxes : Scope := ⟨0, "Item", [bindObject 0 box]⟩

/-- A shelf of the same id holds boxes, and lists other shelves by a reference that is still bound to
the boxes. -/
def shelf : ObjectShape where
  id := "Item"
  properties := [
    ("content", { shape := .scope boxes }),
    ("others", { shape := .list (.ref { id := "Item", scope := some 0 }) })]

def shelves : Scope := ⟨1, "Item", [bindObject 1 shelf]⟩

/-- The references of shelves and boxes stay apart, although they have one id. -/
theorem freeze_closed_shelves :
    (freeze ⟨1, [boxes]⟩ "Item" [shelf]).result = .ok (shelves, ⟨2, [boxes, shelves]⟩) ∧
    (∀ inner, shelves.Nests inner → ∀ o ∈ inner.objects, ∀ node, (Shape.object o).Encloses node →
      ∀ r ∈ node.ownReferences, r.scope? ⟨2, [boxes, shelves]⟩ = some inner ∧
        ∃ target, inner.object? r.id = some target ∧
          (r.resolve ⟨2, [boxes, shelves]⟩).result = .ok target) ∧
    (∀ input error,
      (Shape.read ⟨2, [boxes, shelves]⟩ (.scope shelves) input).result = .error (.failed error) →
        ∀ id, error.rootCause ≠ .unknownType id) ∧
    ∀ value error, (Shape.write ⟨2, [boxes, shelves]⟩ (.scope shelves) value).result = .error error →
      ∀ id, error.rootCause ≠ .unknownType id := by
  have hbox : ∀ o ∈ [box], (Shape.object o).Usable {} := by
    simp [usable_object_iff, ObjectOf.Distinct, Fields.Distinct, Fields.names, box, objectNodes,
      propertiesNodes, propertyNodes, nodes]
  have hboxes : (freeze {} "Item" [box]).result = .ok (boxes, ⟨1, [boxes]⟩) := rfl
  have hshelf : ∀ o ∈ [shelf], (Shape.object o).Usable ⟨1, [boxes]⟩ := by
    simp [usable_object_iff, ObjectOf.Distinct, Fields.Distinct, Fields.names, shelf, objectNodes,
      propertiesNodes, propertyNodes, nodes]
  have hshelves : (freeze ⟨1, [boxes]⟩ "Item" [shelf]).result =
      .ok (shelves, ⟨2, [boxes, shelves]⟩) := rfl
  exact ⟨hshelves, freeze_closed (.single (.freeze hbox hboxes)) hshelf hshelves .refl rfl⟩

end Shelves

end Shapes
