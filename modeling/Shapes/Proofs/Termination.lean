import Shapes.Proofs.Fuel
import Shapes.Proofs.Schema.Export
import Shapes.Proofs.Scope.Closed

/-!
Conversions by live scopes come to an end, although references may lead in circles. Writing goes down the
value. Reading goes down the document until it takes a default, and starts anew with that, so it comes to
an end on all documents as soon as it does on the defaults, of which there are finitely many.
-/

namespace Shapes

open Traced (Ended)

namespace Shape

variable {registry : Registry} {shape inner : Shape} {o : ObjectShape} {input document : Json}
  {fuel : Nat}

theorem mem_objectDefaults {field : String × Property Shape} (hmem : field ∈ o.properties)
    {default : Shape × Json} (hdefault : default ∈ propertyDefaults field.2) :
    default ∈ objectDefaults o := by
  rw [objectDefaults_eq]
  exact List.mem_flatMap.2 ⟨field, hmem, hdefault⟩

theorem mem_propertyDefaults {property : Property Shape} (hdefault : property.default = some document) :
    (property.shape, document) ∈ propertyDefaults property := by
  rw [propertyDefaults_eq, hdefault]
  exact List.mem_append_left _ (List.mem_singleton.2 rfl)

/-- The defaults of an object that occurs in a shape are among those of the shape. -/
theorem mem_defaults_of_encloses (hencloses : shape.Encloses (.object o))
    {field : String × Property Shape} (hmem : field ∈ o.properties)
    (hdefault : field.2.default = some document) : (field.2.shape, document) ∈ shape.defaults := by
  generalize hnode : Shape.object o = node at hencloses
  induction hencloses with
  | self =>
    subst hnode
    exact mem_objectDefaults hmem (mem_propertyDefaults hdefault)
  | item _ ih => exact ih hnode
  | field howner _ ih =>
    refine mem_objectDefaults howner ?_
    rw [propertyDefaults_eq]
    exact List.mem_append_right _ (ih hnode)

theorem mem_scopeDefaults_of_encloses {s : Scope} {owner : ObjectShape} (howner : owner ∈ s.objects)
    (hencloses : (Shape.object owner).Encloses (.object o)) {field : String × Property Shape}
    (hmem : field ∈ o.properties) (hdefault : field.2.default = some document) :
    (field.2.shape, document) ∈ scopeDefaults s := by
  rw [scopeDefaults_eq]
  exact List.mem_flatMap.2 ⟨owner, howner, mem_defaults_of_encloses hencloses hmem hdefault⟩

/-- The budget counts all defaults that reading by a usable shape may take. -/
theorem mem_of_takesDefault (hsound : registry.Sound) (husable : shape.Usable registry)
    (htakes : shape.TakesDefault registry inner document) :
    (inner, document) ∈ shape.defaults ++ registry.live.flatMap scopeDefaults := by
  obtain ⟨o, hreached, field, hmem, rfl, hdefault⟩ := htakes
  have hlive : ∀ s ∈ registry.live, ∀ owner ∈ s.objects,
      (Shape.object owner).Encloses (.object o) →
        (field.2.shape, document) ∈ registry.live.flatMap scopeDefaults := by
    intro s hs owner ho hencloses
    exact List.mem_flatMap.2 ⟨s, hs, mem_scopeDefaults_of_encloses ho hencloses hmem hdefault⟩
  rw [List.mem_append]
  rcases husable.holds_of_reachesObject hsound hreached with hnode | hholds
  · exact Or.inl (mem_defaults_of_encloses (encloses_iff.2 hnode) hmem hdefault)
  · cases hholds with
    | object hs ho => exact Or.inr (hlive _ hs o ho .self)
    | @node s _ hs hnode =>
      obtain ⟨owner, ho, hinside⟩ := ScopeOf.mem_nodes_iff.1 hnode
      obtain ⟨outer, houter, hinside⟩ := mem_objectNodes.1 hinside
      exact Or.inr (hlive s hs owner ho (.field houter (encloses_iff.2 hinside)))

/-- Reading gives the answer of the plain recursion, whenever that has one. -/
theorem readFor_eq_read (hsound : registry.Sound) (husable : shape.Usable registry)
    (hended : (readFor registry fuel shape input).Ended) :
    readFor registry fuel shape input = read registry shape input := by
  have hnested := readFor_refines_readNested (Nat.le_refl fuel) shape input hended
  rw [← hnested] at hended ⊢
  rw [read, budget, ← List.length_append]
  exact (readNested_length_eq (fun _ _ htakes => mem_of_takesDefault hsound husable htakes) .refl
    hended).symm

/-- Finitely many defaults that are each read with some fuel are all read with enough of it. -/
theorem exists_spare {defaults : List (Shape × Json)} {taken : Shape × Json → Prop}
    (hends : ∀ default ∈ defaults, taken default → Ends registry default.1 default.2) :
    ∃ spare, ∀ default ∈ defaults, taken default →
      (readFor registry spare default.1 default.2).Ended := by
  induction defaults with
  | nil => exact ⟨0, fun default hmem => by cases hmem⟩
  | cons first rest ih =>
    obtain ⟨spare, hspare⟩ := ih fun default hmem => hends default (List.mem_cons_of_mem _ hmem)
    by_cases htaken : taken first
    · obtain ⟨more, hmore⟩ := hends first (List.mem_cons_self ..) htaken
      refine ⟨max spare more, fun default hmem hdefault => ?_⟩
      rcases List.mem_cons.1 hmem with rfl | hrest
      · exact ended_readFor_of_le hmore (Nat.le_max_right ..)
      · exact ended_readFor_of_le (hspare default hrest hdefault) (Nat.le_max_left ..)
    · refine ⟨spare, fun default hmem hdefault => ?_⟩
      rcases List.mem_cons.1 hmem with rfl | hrest
      · exact absurd hdefault htaken
      · exact hspare default hrest hdefault

/-- Reading by a usable shape comes to an end on every document, if it does on every default that it may
take. How much fuel the defaults need does not depend on the document. -/
theorem exists_spare_of_defaults (hsound : registry.Sound) (husable : shape.Usable registry)
    (hdefaults : ∀ inner document, shape.TakesDefault registry inner document →
      Ends registry inner document) :
    ∃ spare, ∀ input fuel, input.depth + spare < fuel →
      readFor registry fuel shape input = read registry shape input ∧
        (read registry shape input).Ended := by
  have htaken : ∀ default ∈ shape.defaults ++ registry.live.flatMap scopeDefaults,
      shape.TakesDefault registry default.1 default.2 → Ends registry default.1 default.2 :=
    fun default _ htakes => hdefaults _ _ htakes
  obtain ⟨spare, hspare⟩ := exists_spare htaken
  refine ⟨spare, fun input fuel hfuel => ?_⟩
  have hended : (readFor registry fuel shape input).Ended := by
    refine ended_readFor (fun inner document htakes => ?_) .refl hfuel
    exact hspare (inner, document) (mem_of_takesDefault hsound husable htakes) htakes
  have hread := readFor_eq_read hsound husable hended
  exact ⟨hread, hread ▸ hended⟩

end Shape

namespace ScopeOf

variable {registry : Registry} {s : Scope}

/-- A shape in a scope or in a scope nested there: the scope itself, what occurs in its objects, or a
reference that a choice there selects. -/
inductive Leads (s : Scope) : Shape → Prop
  | scope {t : Scope} (hnests : s.Nests t) : Leads s (.scope t)
  | node {t : Scope} {o : ObjectShape} {shape : Shape} (hnests : s.Nests t) (hmem : o ∈ t.objects)
      (hencloses : (Shape.object o).Encloses shape) : Leads s shape
  | variant {t : Scope} {r : Reference} (hnests : s.Nests t) (hmem : r ∈ t.references) :
      Leads s (.ref r)

/-- The object of such a shape occurs in the scope or in a scope nested there. -/
theorem Leads.exists_encloses {shape : Shape} {o : ObjectShape} (hsound : registry.Sound)
    (hlive : s ∈ registry.live) (hleads : s.Leads shape) (hobject : shape.object? registry = some o) :
    ∃ t, s.Nests t ∧ ∃ owner ∈ t.objects, (Shape.object owner).Encloses (.object o) := by
  have htarget : ∀ {t r}, s.Nests t → r ∈ t.references → r.target? registry = some o →
      o ∈ t.objects := by
    intro t r hnests hmem htarget
    obtain ⟨_, own, hown, hresolved⟩ :=
      hsound.target?_of_mem (mem_live_of_nests hsound hlive hnests) hmem
    rw [htarget] at hresolved
    cases hresolved
    exact List.mem_of_find?_eq_some hown
  cases hleads with
  | @scope t hnests => exact ⟨t, hnests, o, List.mem_of_find?_eq_some hobject, .self⟩
  | variant hnests hmem => exact ⟨_, hnests, o, htarget hnests hmem hobject, .self⟩
  | @node t owner _ hnests hmem hencloses =>
    cases shape with
    | object own =>
      cases hobject
      exact ⟨t, hnests, owner, hmem, hencloses⟩
    | scope nested =>
      exact ⟨nested, .inside hnests hmem hencloses, o, List.mem_of_find?_eq_some hobject, .self⟩
    | ref r =>
      have hreference : r ∈ t.references := by
        rcases mem_nodes_of_encloses hmem hencloses with heq | hnode
        · cases heq
        · exact mem_references_iff.2 ⟨_, hnode, List.mem_singleton.2 rfl⟩
      exact ⟨t, hnests, o, htarget hnests hreference hobject, .self⟩
    | _ => cases hobject

/-- Reading by a live scope does not leave the scope and those nested in it. -/
theorem leads_of_reaches {shape : Shape} (hsound : registry.Sound) (hlive : s ∈ registry.live)
    (hreaches : (Shape.scope s).Reaches registry shape) : s.Leads shape := by
  induction hreaches with
  | refl => exact .scope .self
  | item _ ih =>
    cases ih with
    | node hnests hmem hencloses =>
      refine .node hnests hmem (Shape.encloses_iff.2 ?_)
      exact Shape.mem_nodes_trans (Shape.encloses_iff.1 hencloses)
        (Shape.encloses_iff.1 (.item .self))
  | @variant c variant _ hvariant ih =>
    cases ih with
    | node hnests hmem hencloses =>
      rcases mem_nodes_of_encloses hmem hencloses with heq | hnode
      · cases heq
      · exact .variant hnests (mem_references_of_variant hnode hvariant)
  | field _ hobject hmem ih =>
    obtain ⟨t, hnests, owner, howner, hencloses⟩ := ih.exists_encloses hsound hlive hobject
    refine .node hnests howner (Shape.encloses_iff.2 ?_)
    exact Shape.mem_nodes_trans (Shape.encloses_iff.1 hencloses)
      (Shape.encloses_iff.1 (.field hmem .self))

/-- Conversions by a live scope come to an end, in whatever way its objects refer to each other. Any fuel
beyond the depth of a value is enough to write it. If the defaults in the scope and in the scopes nested
there can be read, then reading comes to an end on every document, and any fuel beyond the depth of the
document and some spare amount is enough and gives the one answer. -/
theorem conversions_end (hreachable : registry.Reachable) (hlive : s ∈ registry.live) :
    (∀ value rest fuel, value.depth < fuel →
      Shape.writeFor registry rest fuel (.scope s) value = Shape.write registry (.scope s) value) ∧
    ((∀ t, s.Nests t → ∀ owner ∈ t.objects, ∀ o, (Shape.object owner).Encloses (.object o) →
        ∀ field ∈ o.properties, ∀ document, field.2.default = some document →
          Shape.Ends registry field.2.shape document) →
      ∃ spare, ∀ input fuel, input.depth + spare < fuel →
        Shape.readFor registry fuel (.scope s) input = Shape.read registry (.scope s) input ∧
          (Shape.read registry (.scope s) input).Ended) := by
  have hsound := hreachable.sound
  refine ⟨fun value rest fuel hfuel => Shape.writeFor_eq hfuel, fun hdefaults => ?_⟩
  refine Shape.exists_spare_of_defaults hsound (Shape.usable_of_holds hsound (.scope hlive)) ?_
  rintro inner document ⟨o, ⟨node, hreaches, hobject⟩, field, hmem, rfl, hdefault⟩
  obtain ⟨t, hnests, owner, howner, hencloses⟩ :=
    (leads_of_reaches hsound hlive hreaches).exists_encloses hsound hlive hobject
  exact hdefaults t hnests owner howner o hencloses field hmem document hdefault

end ScopeOf

namespace Gardens

open Registry Shape

/-- A pot is of some size. -/
def pot : ObjectShape where
  id := "Pot"
  properties := [("size", { shape := .int, default := some (.ofInt64 1) })]

def pots : Scope := ⟨0, "Pot", [pot]⟩

/-- A plant stands in a pot, which it gets if need be, and has a cutting, which is a plant. -/
def plant : ObjectShape where
  id := "Plant"
  properties := [
    ("pot", { shape := .scope pots, default := some (.object []) }),
    ("note", { shape := .ref { id := "Note" }, default := some (.object [("next", .object [])]) }),
    ("cutting", { shape := .ref { id := "Plant" } })]

/-- Notes are chained. -/
def note : ObjectShape where
  id := "Note"
  properties := [
    ("text", { shape := .string, default := some (.string "") }),
    ("next", { shape := .ref { id := "Note" } })]

def plants : Scope := ⟨1, "Plant", [bindObject 1 plant, bindObject 1 note]⟩

def registry : Registry := ⟨2, [pots, plants]⟩

private theorem reachable_garden : registry.Reachable := by
  have hpot : ∀ o ∈ [pot], (Shape.object o).Usable {} := by
    simp [usable_object_iff, ObjectOf.Distinct, Fields.Distinct, Fields.names, pot, objectNodes,
      propertiesNodes, propertyNodes, nodes]
  have hpots : (freeze {} "Pot" [pot]).result = .ok (pots, ⟨1, [pots]⟩) := rfl
  have hplant : ∀ o ∈ [plant, note], (Shape.object o).Usable ⟨1, [pots]⟩ := by
    simp [usable_object_iff, ObjectOf.Distinct, Fields.Distinct, Fields.names, plant, note, objectNodes,
      propertiesNodes, propertyNodes, nodes]
  have hplants : (freeze ⟨1, [pots]⟩ "Plant" [plant, note]).result = .ok (plants, registry) := rfl
  exact .tail (.single (.freeze hpot hpots)) (.freeze hplant hplants)

/-- The defaults of plants are read with little fuel, those that they take in turn included, so all plants
are read, however many cuttings there are one of the other. -/
theorem conversions_end_plants :
    (∀ t, plants.Nests t → ∀ owner ∈ t.objects, ∀ o, (Shape.object owner).Encloses (.object o) →
      ∀ field ∈ o.properties, ∀ document, field.2.default = some document →
        Ends registry field.2.shape document) ∧
    (∀ value rest fuel, value.depth < fuel →
      writeFor registry rest fuel (.scope plants) value = write registry (.scope plants) value) ∧
    ∃ spare, ∀ input fuel, input.depth + spare < fuel →
      readFor registry fuel (.scope plants) input = read registry (.scope plants) input ∧
        (read registry (.scope plants) input).Ended := by
  have hlive : plants ∈ registry.live := List.mem_cons_of_mem _ (List.mem_cons_self ..)
  have hdefaults : ∀ t, plants.Nests t → ∀ owner ∈ t.objects, ∀ o,
      (Shape.object owner).Encloses (.object o) → ∀ field ∈ o.properties, ∀ document,
        field.2.default = some document → Ends registry field.2.shape document := by
    intro t hnests owner howner o hencloses field hmem document hdefault
    have hlisted := mem_scopeDefaults_of_encloses howner hencloses hmem hdefault
    have ht := ScopeOf.mem_live_of_nests reachable_garden.sound hlive hnests
    have hlist : scopeDefaults pots ++ scopeDefaults plants = [
        (.int, .ofInt64 1), (.scope pots, .object []), (.int, .ofInt64 1),
        (.ref { id := "Note", scope := some 1 }, .object [("next", .object [])]),
        (.string, .string "")] := rfl
    have hknown : ∀ default ∈ scopeDefaults pots ++ scopeDefaults plants,
        Ends registry default.1 default.2 := by
      rw [hlist]
      simp only [List.forall_mem_cons]
      refine ⟨⟨1, ?_⟩, ⟨2, ?_⟩, ⟨1, ?_⟩, ⟨3, ?_⟩, ⟨1, ?_⟩, fun _ hnone => by cases hnone⟩ <;>
      · intro herror
        cases herror
    refine hknown (field.2.shape, document) (List.mem_append.2 ?_)
    rcases List.mem_cons.1 ht with rfl | ht
    · exact Or.inl hlisted
    · cases List.mem_singleton.1 ht
      exact Or.inr hlisted
  obtain ⟨hwrites, hreads⟩ := ScopeOf.conversions_end reachable_garden hlive
  exact ⟨hdefaults, hwrites, hreads hdefaults⟩

end Gardens

end Shapes
