import Shapes.Proofs.Schema.Build
import Shapes.Workspace

/-!
Ownership: which scopes a shape keeps alive, and with it everything that is stored. A shape owns the scopes
inside it, at any depth and through nested scopes; references own nothing. A function owns what its inputs and
its output own, and what its code has captured. The handles that a workspace retains are those of the scopes it
owns.
-/

namespace Shapes

namespace Shape

variable {shape inner : Shape} {s outer : Scope} {handle : Handle}

/-- A scope that is inside a shape, at any depth. -/
inductive Owns : Shape → Scope → Prop
  | scope {s : Scope} : Owns (.scope s) s
  | item {items : Shape} {s : Scope} (howns : Owns items s) : Owns (.list items) s
  | field {o : ObjectShape} {field : String × Property Shape} {s : Scope} (hmem : field ∈ o.properties)
      (howns : Owns field.2.shape s) : Owns (.object o) s
  | member {outer : Scope} {o : ObjectShape} {s : Scope} (hmem : o ∈ outer.objects)
      (howns : Owns (.object o) s) : Owns (.scope outer) s

theorem not_owns_ref (r : Reference) : ¬ (Shape.ref r).Owns s := by
  rintro ⟨⟩

theorem owns_object_iff {o : ObjectShape} :
    (Shape.object o).Owns s ↔ ∃ field ∈ o.properties, field.2.shape.Owns s := by
  constructor
  · rintro ⟨⟩
    rename_i field hmem howns
    exact ⟨field, hmem, howns⟩
  · rintro ⟨field, hmem, howns⟩
    exact .field hmem howns

theorem Owns.trans (hshape : shape.Owns outer) (howns : (Shape.scope outer).Owns s) : shape.Owns s := by
  induction hshape with
  | scope => exact howns
  | item _ ih => exact .item (ih howns)
  | field hmem _ ih => exact .field hmem (ih howns)
  | member hmem _ ih => exact .member hmem (ih howns)

/-- What a part of a shape owns, the shape owns. -/
theorem Owns.of_encloses (hencloses : shape.Encloses inner) (howns : inner.Owns s) : shape.Owns s := by
  induction hencloses with
  | self => exact howns
  | item _ ih => exact .item (ih howns)
  | field hmem _ ih => exact .field hmem (ih howns)

/-- The handles of a shape are those of the scopes it owns. -/
theorem mem_handles_iff : handle ∈ shape.handles ↔ ∃ s, shape.Owns s ∧ s.handle = handle := by
  induction shape using Shape.inductionThroughScopes with
  | list items ih =>
    rw [handles, ih]
    constructor
    · rintro ⟨s, howns, rfl⟩
      exact ⟨s, .item howns, rfl⟩
    · rintro ⟨s, ⟨⟩, rfl⟩
      rename_i howns
      exact ⟨s, howns, rfl⟩
  | object o ih =>
    rw [handles, mem_objectHandles]
    constructor
    · rintro ⟨field, hmem, hhandle⟩
      obtain ⟨s, howns, rfl⟩ := (ih field hmem).1 hhandle
      exact ⟨s, .field hmem howns, rfl⟩
    · rintro ⟨s, howns, rfl⟩
      obtain ⟨field, hmem, howns⟩ := owns_object_iff.1 howns
      exact ⟨field, hmem, (ih field hmem).2 ⟨s, howns, rfl⟩⟩
  | scope outer ih =>
    rw [handles, mem_scopeHandles]
    constructor
    · rintro (rfl | ⟨o, ho, hhandle⟩)
      · exact ⟨outer, .scope, rfl⟩
      · obtain ⟨field, hmem, hhandle⟩ := mem_objectHandles.1 hhandle
        obtain ⟨s, howns, rfl⟩ := (ih o ho field hmem).1 hhandle
        exact ⟨s, .member ho (.field hmem howns), rfl⟩
    · rintro ⟨s, howns, rfl⟩
      cases howns with
      | scope => exact Or.inl rfl
      | @member _ o _ ho howns =>
        obtain ⟨field, hmem, howns⟩ := owns_object_iff.1 howns
        exact Or.inr ⟨o, ho, mem_objectHandles.2 ⟨field, hmem, (ih o ho field hmem).2 ⟨s, howns, rfl⟩⟩⟩
  | _ =>
    rw [handles]
    · constructor
      · intro hmem
        cases hmem
      · rintro ⟨s, ⟨⟩, -⟩
    all_goals nofun

/-- Binding changes references only, so the scopes inside stay the same. -/
theorem owns_bind_iff {handle : Handle} : (bind handle shape).Owns s ↔ shape.Owns s := by
  induction shape using Shape.induction with
  | list items ih =>
    rw [bind]
    constructor
    · rintro ⟨⟩
      rename_i howns
      exact .item (ih.1 howns)
    · rintro ⟨⟩
      rename_i howns
      exact .item (ih.2 howns)
  | object o ih =>
    rw [bind, owns_object_iff, owns_object_iff, bindObject_eq]
    constructor
    · rintro ⟨field, hmem, howns⟩
      obtain ⟨given, hgiven, rfl⟩ := List.mem_map.1 hmem
      rw [shape_bindProperty] at howns
      exact ⟨given, hgiven, (ih given hgiven).1 howns⟩
    · rintro ⟨field, hmem, howns⟩
      refine ⟨_, List.mem_map.2 ⟨field, hmem, rfl⟩, ?_⟩
      rw [shape_bindProperty]
      exact (ih field hmem).2 howns
  | ref r => exact iff_of_false (not_owns_ref _) (not_owns_ref r)
  | oneOf c =>
    rw [bind]
    exact iff_of_false (by rintro ⟨⟩) (by rintro ⟨⟩)
  | _ => exact Iff.rfl

/-- Whatever a usable shape owns is alive. -/
theorem Usable.mem_live_of_owns {registry : Registry} (hsound : registry.Sound)
    (husable : shape.Usable registry) (howns : shape.Owns s) : s ∈ registry.live := by
  induction howns with
  | scope => exact usable_scope_iff.1 husable
  | item _ ih => exact ih (usable_list_iff.1 husable)
  | field hmem _ ih => exact ih ((usable_object_iff_fields.1 husable).2 _ hmem)
  | member hmem _ ih =>
    exact ih (usable_of_holds hsound (.object (usable_scope_iff.1 husable) hmem))

end Shape

namespace BoundFunction

variable {id : String} {inputs : List Shape} {output : Output} {label : Option Label} {handler : Handler}
  {f : BoundFunction}

/-- A function is bound iff its handler fits what is declared of it. -/
theorem bind_eq_ok_iff : (bind id inputs output label handler).result = .ok f ↔
    handler.signature.mismatch? inputs output = none ∧ f = ⟨id, inputs, output, label, handler⟩ := by
  unfold bind
  cases handler.signature.mismatch? inputs output with
  | none =>
    constructor
    · intro hbind
      exact ⟨rfl, (Except.ok.inj hbind).symm⟩
    · rintro ⟨_, rfl⟩
      rfl
  | some mismatch =>
    constructor
    · intro hbind
      cases hbind
    · rintro ⟨hnone, _⟩
      cases hnone

theorem shapes_of_bind (hbind : (bind id inputs output label handler).result = .ok f) :
    f.shapes = inputs ++ output.shapes ++ handler.held := by
  obtain ⟨_, rfl⟩ := bind_eq_ok_iff.1 hbind
  rfl

end BoundFunction

namespace Fields

variable {α : Type} {fields : Fields α} {entry : String × α}

theorem eq_or_mem_of_mem_insert {name : String} {value : α} (hmem : entry ∈ insert name value fields) :
    entry.2 = value ∨ entry ∈ fields := by
  induction fields with
  | nil =>
    obtain rfl := List.mem_singleton.1 hmem
    exact Or.inl rfl
  | cons first rest ih =>
    obtain ⟨known, old⟩ := first
    rw [insert] at hmem
    split at hmem
    · rcases List.mem_cons.1 hmem with rfl | hrest
      · exact Or.inl rfl
      · exact Or.inr (List.mem_cons_of_mem _ hrest)
    · rcases List.mem_cons.1 hmem with rfl | hrest
      · exact Or.inr (List.mem_cons_self ..)
      · exact (ih hrest).imp_right (List.mem_cons_of_mem _)

theorem erase_subset {name : String} : erase name fields ⊆ fields := by
  intro entry hmem
  induction fields with
  | nil => cases hmem
  | cons first rest ih =>
    obtain ⟨known, old⟩ := first
    rw [erase] at hmem
    split at hmem
    · exact List.mem_cons_of_mem _ hmem
    · rcases List.mem_cons.1 hmem with rfl | hrest
      · exact List.mem_cons_self ..
      · exact List.mem_cons_of_mem _ (ih hrest)

end Fields

namespace Workspace

variable {w w' : Workspace} {shape : Shape}

/-- A shape that is stored, by itself, in a declaration, or in the declared part or the code of a function. -/
inductive Stores (w : Workspace) : Shape → Prop
  | shape {entry : String × Shape} (hmem : entry ∈ w.shapes) : Stores w entry.2
  | function {entry : String × StoredFunction} {shape : Shape} (hmem : entry ∈ w.functions)
      (hshape : shape ∈ entry.2.function.shapes) : Stores w shape
  | declaration {entry : String × Declaration} {shape : Shape} (hmem : entry ∈ w.declarations)
      (hshape : shape ∈ entry.2.shapes) : Stores w shape

/-- A workspace with all the entries of another stores what the other stores. -/
theorem Stores.mono (hshapes : w.shapes ⊆ w'.shapes) (hfunctions : w.functions ⊆ w'.functions)
    (hdeclarations : w.declarations ⊆ w'.declarations) (hstores : w.Stores shape) : w'.Stores shape := by
  cases hstores with
  | shape hmem => exact .shape (hshapes hmem)
  | function hmem hshape => exact .function (hfunctions hmem) hshape
  | declaration hmem hshape => exact .declaration (hdeclarations hmem) hshape

/-- The registry has no part in what is stored. -/
theorem stores_with_registry_iff {registry : Registry} :
    { w with registry }.Stores shape ↔ w.Stores shape :=
  ⟨.mono (List.Subset.refl _) (List.Subset.refl _) (List.Subset.refl _),
    .mono (List.Subset.refl _) (List.Subset.refl _) (List.Subset.refl _)⟩

theorem stores_putShape {name : String} {stored : Shape} (hstores : (w.putShape name stored).Stores shape) :
    shape = stored ∨ w.Stores shape := by
  cases hstores with
  | shape hmem => exact (Fields.eq_or_mem_of_mem_insert hmem).imp_right .shape
  | function hmem hshape => exact Or.inr (.function hmem hshape)
  | declaration hmem hshape => exact Or.inr (.declaration hmem hshape)

theorem stores_putFunction {name : String} {f : BoundFunction} {log : List String}
    (hstores : (w.putFunction name f log).Stores shape) : shape ∈ f.shapes ∨ w.Stores shape := by
  cases hstores with
  | shape hmem => exact Or.inr (.shape hmem)
  | function hmem hshape =>
    rcases Fields.eq_or_mem_of_mem_insert hmem with heq | hold
    · rw [heq] at hshape
      exact Or.inl hshape
    · exact Or.inr (.function hold hshape)
  | declaration hmem hshape => exact Or.inr (.declaration hmem hshape)

theorem stores_putDeclaration {name : String} {d : Declaration}
    (hstores : (w.putDeclaration name d).Stores shape) : shape ∈ d.shapes ∨ w.Stores shape := by
  cases hstores with
  | shape hmem => exact Or.inr (.shape hmem)
  | function hmem hshape => exact Or.inr (.function hmem hshape)
  | declaration hmem hshape =>
    rcases Fields.eq_or_mem_of_mem_insert hmem with heq | hold
    · rw [heq] at hshape
      exact Or.inl hshape
    · exact Or.inr (.declaration hold hshape)

theorem stores_drop {name : String} (hstores : (w.drop name).Stores shape) : w.Stores shape :=
  .mono (w := w.drop name) Fields.erase_subset Fields.erase_subset (List.Subset.refl _) hstores

theorem stores_dropDeclaration {name : String} (hstores : (w.dropDeclaration name).Stores shape) :
    w.Stores shape :=
  .mono (w := w.dropDeclaration name) (List.Subset.refl _) (List.Subset.refl _) Fields.erase_subset hstores

/-- A workspace keeps the handles of what is stored. -/
theorem mem_handles_iff {handle : Handle} :
    handle ∈ w.handles ↔ ∃ shape, w.Stores shape ∧ handle ∈ shape.handles := by
  simp only [handles, List.mem_append, List.mem_flatMap, BoundFunction.handles, Declaration.handles]
  constructor
  · rintro ((⟨entry, hmem, hhandle⟩ | ⟨entry, hmem, shape, hshape, hhandle⟩) |
      ⟨entry, hmem, shape, hshape, hhandle⟩)
    · exact ⟨entry.2, .shape hmem, hhandle⟩
    · exact ⟨shape, .function hmem hshape, hhandle⟩
    · exact ⟨shape, .declaration hmem hshape, hhandle⟩
  · rintro ⟨shape, hstores, hhandle⟩
    cases hstores with
    | shape hmem => exact Or.inl (Or.inl ⟨_, hmem, hhandle⟩)
    | function hmem hshape => exact Or.inl (Or.inr ⟨_, hmem, shape, hshape, hhandle⟩)
    | declaration hmem hshape => exact Or.inr ⟨_, hmem, shape, hshape, hhandle⟩

end Workspace

end Shapes
