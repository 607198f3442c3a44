import Shapes.Proofs.Termination

/-!
Reading level by level. A document is read by reading its parts, and the defaults of absent fields, on their own:
each part has the answer that it has as a document by itself. The budget shows neither in the answer for a part
nor in the one for a default, as each counts the defaults that reading it may take.
-/

namespace Shapes

namespace Reading

/-- Readings with the same answer, whatever they announce on the way to it. -/
theorem compatible_result : Compatible fun _ x y => x.result = y.result where
  budgeted _ := rfl
  bind := by
    intro α β x y f g hfirst hthen
    rw [Traced.result_bind, Traced.result_bind, ← hfirst]
    cases hresult : x.result with
    | error stop => rfl
    | ok a => exact hthen a hresult
  inField := by
    intro α x y name hpart
    exact congrArg (Except.mapError (Stop.map (DataError.inField name))) hpart

end Reading

namespace Shape

variable {registry : Registry} {root shape inner : Shape} {input document : Json}

theorem Reaches.trans (hreaches : root.Reaches registry shape) (hinner : shape.Reaches registry inner) :
    root.Reaches registry inner := by
  induction hinner with
  | refl => exact hreaches
  | item _ ih => exact .item ih
  | variant _ hmem ih => exact .variant ih hmem
  | field _ hobject hmem ih => exact .field ih hobject hmem

theorem TakesDefault.trans (hreaches : root.Reaches registry shape)
    (htakes : shape.TakesDefault registry inner document) : root.TakesDefault registry inner document := by
  obtain ⟨o, ⟨node, hnode, hobject⟩, hfield⟩ := htakes
  exact ⟨o, ⟨node, hreaches.trans hnode, hobject⟩, hfield⟩

namespace Usable

theorem of_mem_nodes (husable : shape.Usable registry) (hmem : inner ∈ shape.nodes) : inner.Usable registry where
  declared o ho := husable.declared o (mem_nodes_trans hmem ho)
  alive s hs := husable.alive s (mem_nodes_trans hmem hs)

/-- Whatever a usable shape reaches is usable. -/
theorem of_reaches (husable : shape.Usable registry) (hsound : registry.Sound)
    (hreaches : shape.Reaches registry inner) : inner.Usable registry := by
  rcases husable.holds_of_reaches hsound hreaches with hmem | hholds | ⟨r, rfl⟩
  · exact husable.of_mem_nodes hmem
  · exact usable_of_holds hsound hholds
  · constructor <;>
    · intro _ hmem
      cases List.mem_singleton.1 hmem

end Usable

/-- A budget that counts all defaults that a shape may take gives the answer of reading by it. -/
theorem result_readNested_eq_read (hsound : registry.Sound) (husable : shape.Usable registry)
    {defaults : List (Shape × Json)} (hdefaults : ∀ inner document,
      shape.TakesDefault registry inner document → (inner, document) ∈ defaults) (input : Json) :
    (readNested registry defaults.length shape input).result = (read registry shape input).result := by
  rw [read, budget, ← List.length_append]
  exact result_readNested_length_eq hdefaults
    (fun _ _ htakes => mem_of_takesDefault hsound husable htakes) .refl input

/-- A document is read by reading its parts, and the defaults it takes, each as a document by itself. -/
theorem result_read_eq (hsound : registry.Sound) (husable : shape.Usable registry) (input : Json) :
    (read registry shape input).result =
      (readStep registry (read registry) (read registry) shape input).result := by
  let own := shape.defaults ++ registry.live.flatMap scopeDefaults
  have hown : ∀ inner document, shape.TakesDefault registry inner document → (inner, document) ∈ own :=
    fun _ _ htakes => mem_of_takesDefault hsound husable htakes
  have hinner : ∀ defaults : List (Shape × Json), (∀ inner document,
      shape.TakesDefault registry inner document → (inner, document) ∈ defaults) →
      ∀ inner raw, shape.Reaches registry inner →
        (readNested registry defaults.length inner raw).result = (read registry inner raw).result := by
    intro defaults hdefaults inner raw hreaches
    refine result_readNested_eq_read hsound (husable.of_reaches hsound hreaches) ?_ raw
    exact fun part document htakes => hdefaults part document (htakes.trans hreaches)
  -- One more than the number of defaults, so that the count is still right once one has been taken.
  let more := (shape, input) :: own
  have hmore : ∀ inner document, shape.TakesDefault registry inner document → (inner, document) ∈ more :=
    fun inner document htakes => List.mem_cons_of_mem _ (hown inner document htakes)
  rw [← hinner more hmore shape input .refl, readNested_eq]
  refine readStep_related Reading.compatible_result .refl ?_ ?_
  · exact fun inner raw hreaches _ => hinner more hmore inner raw hreaches
  · exact fun inner document htakes => hinner own hown inner document htakes.reaches

end Shape

end Shapes
