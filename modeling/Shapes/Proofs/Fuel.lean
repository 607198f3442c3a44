import Mathlib.Data.List.Nodup
import Mathlib.Data.List.Perm.Subperm
import Mathlib.Tactic.Choose
import Shapes.Proofs.Reading

/-!
Reading and writing as plain recursions that follow references wherever they lead, with fuel for each
level. Fuel that suffices for an answer may be exceeded without changing it. The budget under which
reading is defined does not show: reading gives the answer of the plain recursion whenever there is one,
because defaults that are nested deeper than there are defaults never come to an end.
-/

namespace Shapes

namespace Traced

variable {ε α β : Type}

/-- A computation with a budget came to an end, with a value or an error. -/
def Ended (x : Traced (Stop ε) α) : Prop :=
  x.result ≠ .error .unfinished

/-- If a computation came to an end, then the other is the same. -/
def Refines (x y : Traced (Stop ε) α) : Prop :=
  x.Ended → y = x

theorem not_ended_fail : ¬ (fail .unfinished : Traced (Stop ε) α).Ended :=
  fun hended => hended rfl

theorem Ended.of_bind {x : Traced (Stop ε) α} {f : α → Traced (Stop ε) β}
    (hended : (x >>= f).Ended) : x.Ended :=
  fun herror => hended (result_bind_eq_error.2 (Or.inl herror))

theorem ended_budgeted (x : Traced ε α) : x.budgeted.Ended := by
  intro herror
  obtain ⟨cause, _, hstop⟩ := result_mapError_eq_error.1 herror
  cases hstop

end Traced

open Traced (Ended Refines)

namespace Reading

variable {α β : Type}

theorem ended_inField_iff {x : Reading α} (name : String) : (x.inField name).Ended ↔ x.Ended := by
  rw [Ended, Ended, not_iff_not, inField, Traced.result_mapError_eq_error]
  constructor
  · rintro ⟨cause, hcause, hstop⟩
    cases cause with
    | failed error => cases hstop
    | unfinished => exact hcause
  · intro herror
    exact ⟨.unfinished, herror, rfl⟩

/-- A relation between readings that holds of them if it holds of their parts. -/
structure Compatible (related : (α : Type) → Reading α → Reading α → Prop) : Prop where
  budgeted : ∀ {α : Type} (x : Traced DataError α), related α x.budgeted x.budgeted
  bind : ∀ {α β : Type} {x y : Reading α} {f g : α → Reading β}, related α x y →
    (∀ a, x.result = .ok a → related β (f a) (g a)) → related β (x >>= f) (y >>= g)
  inField : ∀ {α : Type} {x y : Reading α} (name : String), related α x y →
    related α (x.inField name) (y.inField name)

theorem compatible_refines : Compatible fun _ x y => Refines x y where
  budgeted x _ := rfl
  bind := by
    intro α β x y f g hfirst hthen hended
    obtain rfl := hfirst hended.of_bind
    cases hresult : y.result with
    | error stop => rw [Traced.bind_of_error hresult, Traced.bind_of_error hresult]
    | ok a =>
      rw [Traced.bind_of_ok hresult] at hended
      rw [Traced.bind_of_ok hresult, Traced.bind_of_ok hresult, hthen a hresult hended]
  inField := by
    intro α x y name hpart hended
    rw [hpart ((ended_inField_iff name).1 hended)]

theorem compatible_ended : Compatible fun _ x _ => x.Ended where
  budgeted := Traced.ended_budgeted
  bind := by
    intro α β x _ f _ hfirst hthen herror
    rcases Traced.result_bind_eq_error.1 herror with hstop | ⟨a, ha, hstop⟩
    · exact hfirst hstop
    · exact hthen a ha hstop
  inField name hpart := (ended_inField_iff name).2 hpart

namespace Compatible

variable {related : (α : Type) → Reading α → Reading α → Prop} (hrelated : Compatible related)

include hrelated

theorem pure (a : α) : related α (Pure.pure a) (Pure.pure a) :=
  hrelated.budgeted (Pure.pure a)

theorem refuse (error : DataError) : related α (Reading.refuse error) (Reading.refuse error) :=
  hrelated.budgeted (Traced.fail error)

theorem announce (event : Event) : related Unit (Traced.announce event) (Traced.announce event) :=
  hrelated.budgeted (Traced.announce event)

theorem traverse {f g : α → Reading β} {items : List α}
    (hitems : ∀ a ∈ items, related β (f a) (g a)) :
    related (List β) (Traced.traverse f items) (Traced.traverse g items) := by
  induction items with
  | nil => exact hrelated.pure []
  | cons a rest ih =>
    have hrest := ih fun item hmem => hitems item (List.mem_cons_of_mem _ hmem)
    refine hrelated.bind (hitems a (List.mem_cons_self ..)) fun b _ => hrelated.bind hrest ?_
    exact fun bs _ => hrelated.pure (b :: bs)

theorem traverseFrom {f g : Nat → α → Reading β} {items : List α} {index : Nat}
    (hitems : ∀ i, ∀ a ∈ items, related β (f i a) (g i a)) :
    related (List β) (Traced.traverseFrom f index items) (Traced.traverseFrom g index items) := by
  induction items generalizing index with
  | nil => exact hrelated.pure []
  | cons a rest ih =>
    have hrest : related (List β) (Traced.traverseFrom f (index + 1) rest)
        (Traced.traverseFrom g (index + 1) rest) :=
      ih fun i item hmem => hitems i item (List.mem_cons_of_mem _ hmem)
    refine hrelated.bind (hitems index a (List.mem_cons_self ..)) fun b _ => hrelated.bind hrest ?_
    exact fun bs _ => hrelated.pure (b :: bs)

variable {part part' default default' : Reader}

/-- Objects read in related ways if the fields that have content do. -/
theorem readObject {o : ObjectShape} {tolerated : Option String} {input : Json}
    (hpart : ∀ field ∈ o.properties, ∀ raw, raw.depth < input.depth →
      related Value (part field.2.shape raw) (part' field.2.shape raw))
    (hdefault : ∀ field ∈ o.properties, ∀ document, field.2.default = some document →
      related Value (default field.2.shape document) (default' field.2.shape document)) :
    related Value (o.read part default tolerated input) (o.read part' default' tolerated input) := by
  cases input with
  | object entries =>
    unfold ObjectOf.read
    dsimp only
    split
    · exact hrelated.refuse _
    · refine hrelated.bind (hrelated.traverse fun field hmem => hrelated.bind ?_ fun _ _ =>
        hrelated.pure _) fun _ _ => hrelated.pure _
      unfold ObjectOf.readField
      split
      · rename_i raw hpresent
        split
        · exact hrelated.refuse _
        · exact hrelated.inField _ (hpart field hmem raw (Json.depth_lt_of_present? hpresent))
      · split
        · exact hrelated.refuse _
        · split
          · rename_i document hdocument
            exact hrelated.inField _ (hdefault field hmem document hdocument)
          · exact hrelated.pure _
  | _ => exact hrelated.refuse _

/-- Choices are read in related ways if the objects that they select are. -/
theorem readOneOf {registry : Registry} {c : OneOf} {input : Json}
    (hobject : ∀ o tolerated variant, variant ∈ c.variants → variant.2.target? registry = some o →
      related Value (o.read part default tolerated input) (o.read part' default' tolerated input)) :
    related Value (c.read registry part default input) (c.read registry part' default' input) := by
  cases input with
  | object entries =>
    unfold OneOf.read
    dsimp only
    split
    · exact hrelated.refuse _
    · split
      · exact hrelated.refuse _
      · split
        · exact hrelated.refuse _
        · rename_i r hselected
          refine hrelated.bind (hrelated.announce _) fun _ _ =>
            hrelated.bind (hrelated.budgeted _) fun o ho => ?_
          have htarget := Reference.resolve_budgeted_eq_ok_iff.1 ho
          exact hrelated.bind (hobject o _ _ (OneOf.mem_of_target? hselected) htarget) fun _ _ =>
            hrelated.pure _
  | _ => exact hrelated.refuse _

end Compatible

end Reading

open Reading (Compatible)

namespace Shape

variable {registry : Registry} {root shape : Shape} {input document : Json} {fuel more : Nat}

/-- A default that may be read in place of a part of a document, with the shape it is read by. -/
def TakesDefault (registry : Registry) (root shape : Shape) (document : Json) : Prop :=
  ∃ o, root.ReachesObject registry o ∧ ∃ field ∈ o.properties, field.2.shape = shape ∧
    field.2.default = some document

theorem TakesDefault.reaches (htakes : root.TakesDefault registry shape document) :
    root.Reaches registry shape := by
  obtain ⟨o, ⟨inner, hreaches, hobject⟩, field, hmem, rfl, _⟩ := htakes
  exact hreaches.field hobject hmem

/-- One level of reading is related if the readings of the parts and of the defaults are. -/
theorem readStep_related {related : (α : Type) → Reading α → Reading α → Prop}
    (hrelated : Compatible related) {part part' default default' : Reader}
    (hreaches : root.Reaches registry shape)
    (hpart : ∀ inner raw, root.Reaches registry inner → raw.depth < input.depth →
      related Value (part inner raw) (part' inner raw))
    (hdefault : ∀ inner document, root.TakesDefault registry inner document →
      related Value (default inner document) (default' inner document)) :
    related Value (readStep registry part default shape input)
      (readStep registry part' default' shape input) := by
  have hobject : ∀ {inner o tolerated}, root.Reaches registry inner →
      inner.object? registry = some o →
      related Value (o.read part default tolerated input) (o.read part' default' tolerated input) := by
    intro inner o tolerated hinner ho
    refine hrelated.readObject (fun field hmem raw hlt => hpart _ raw (.field hinner ho hmem) hlt) ?_
    intro field hmem document hdocument
    exact hdefault _ document ⟨o, hinner.object ho, field, hmem, rfl, hdocument⟩
  cases shape with
  | list items =>
    cases input with
    | array inputs =>
      refine hrelated.bind (hrelated.traverseFrom fun index raw hmem => hrelated.inField _ ?_)
        fun _ _ => hrelated.pure _
      exact hpart items raw (.item hreaches) (Json.depth_lt_of_mem_items hmem)
    | _ => exact hrelated.refuse _
  | object o => exact hobject hreaches rfl
  | ref r =>
    refine hrelated.bind (hrelated.budgeted _) fun o ho => hobject hreaches ?_
    exact Reference.resolve_budgeted_eq_ok_iff.1 ho
  | scope s =>
    simp only [readStep]
    split
    · rename_i o hroot
      exact hobject hreaches hroot
    · exact hrelated.refuse _
  | oneOf c =>
    refine hrelated.readOneOf fun o tolerated r hmem htarget => ?_
    exact hobject (hreaches.variant hmem) htarget
  | int =>
    cases input with
    | number n =>
      simp only [readStep]
      split
      · exact hrelated.pure _
      · exact hrelated.refuse _
    | _ => exact hrelated.refuse _
  | any => exact hrelated.pure _
  | _ =>
    cases input <;> first
      | exact hrelated.pure _
      | exact hrelated.refuse _

/-- Reads a document with fuel for each level: parts and defaults are read with what is left of it. -/
def readFor (registry : Registry) : Nat → Reader
  | 0 => fun _ _ => Traced.fail .unfinished
  | fuel + 1 => readStep registry (readFor registry fuel) (readFor registry fuel)

/-- Some fuel is enough to read the document by the shape. -/
def Ends (registry : Registry) (shape : Shape) (document : Json) : Prop :=
  ∃ fuel, (readFor registry fuel shape document).Ended

/-- More fuel does not change an answer. -/
theorem readFor_refines (hmore : fuel ≤ more) (shape : Shape) (input : Json) :
    Refines (readFor registry fuel shape input) (readFor registry more shape input) := by
  induction fuel generalizing more shape input with
  | zero => exact fun hended => absurd hended Traced.not_ended_fail
  | succ fuel ih =>
    obtain ⟨more, rfl⟩ : ∃ rest, more = rest + 1 := ⟨more - 1, by omega⟩
    have hless : fuel ≤ more := by omega
    exact readStep_related Reading.compatible_refines .refl (fun inner raw _ _ => ih hless inner raw)
      fun inner document _ => ih hless inner document

theorem ended_readFor_of_le (hended : (readFor registry fuel shape input).Ended) (hmore : fuel ≤ more) :
    (readFor registry more shape input).Ended := by
  rw [readFor_refines hmore shape input hended]
  exact hended

/-- A budget that is not less than the fuel does not change an answer either. -/
theorem readFor_refines_readNested {budget : Nat} (hbudget : fuel ≤ budget) (shape : Shape)
    (input : Json) :
    Refines (readFor registry fuel shape input) (readNested registry budget shape input) := by
  induction fuel generalizing budget shape input with
  | zero => exact fun hended => absurd hended Traced.not_ended_fail
  | succ fuel ih =>
    obtain ⟨budget, rfl⟩ : ∃ rest, budget = rest + 1 := ⟨budget - 1, by omega⟩
    rw [readNested_eq, readDefault_succ]
    exact readStep_related Reading.compatible_refines .refl
      (fun inner raw _ _ => ih (by omega) inner raw) fun inner document _ => ih (by omega) inner document

/-- More budget does not change an answer. -/
theorem readDefault_refines {budget more : Nat} (hmore : budget ≤ more) (shape : Shape)
    (input : Json) :
    Refines (readDefault registry budget shape input) (readDefault registry more shape input) := by
  induction budget generalizing more shape input with
  | zero => exact fun hended => absurd hended Traced.not_ended_fail
  | succ budget ihBudget =>
    obtain ⟨more, rfl⟩ : ∃ rest, more = rest + 1 := ⟨more - 1, by omega⟩
    rw [readDefault_succ, readDefault_succ]
    induction hdepth : input.depth using Nat.strongRecOn generalizing shape input with
    | _ depth ihDepth =>
      subst hdepth
      rw [readNested_eq, readNested_eq]
      exact readStep_related Reading.compatible_refines .refl
        (fun inner raw _ hlt => ihDepth raw.depth hlt inner raw rfl)
        fun inner document _ => ihBudget (by omega) inner document

/-- Less budget does not change an answer either, if it does not for the defaults. -/
theorem readNested_refines_of_defaults {budget less : Nat}
    (hdefaults : ∀ inner document, root.TakesDefault registry inner document →
      Refines (readDefault registry budget inner document) (readDefault registry less inner document))
    (hreaches : root.Reaches registry shape) :
    Refines (readNested registry budget shape input) (readNested registry less shape input) := by
  induction hdepth : input.depth using Nat.strongRecOn generalizing shape input with
  | _ depth ih =>
    subst hdepth
    rw [readNested_eq, readNested_eq]
    exact readStep_related Reading.compatible_refines hreaches
      (fun inner raw hinner hlt => ih raw.depth hlt hinner rfl) hdefaults

/-- A default that needs that many defaults, one nested in the other. -/
structure Needs (registry : Registry) (budget : Nat) (default : Shape × Json) : Prop where
  enough : (readDefault registry (budget + 1) default.1 default.2).Ended
  least : ¬ (readDefault registry budget default.1 default.2).Ended

theorem Needs.unique {budget other : Nat} {default : Shape × Json}
    (hneeds : Needs registry budget default) (hother : Needs registry other default) :
    budget = other := by
  by_contra hne
  rcases Nat.lt_or_gt_of_ne hne with hlt | hlt
  · refine hother.least ?_
    rw [readDefault_refines hlt default.1 default.2 hneeds.enough]
    exact hneeds.enough
  · refine hneeds.least ?_
    rw [readDefault_refines hlt default.1 default.2 hother.enough]
    exact hother.enough

/-- What needs one more nested default takes a default that needs the others. -/
theorem Needs.exists_pred {budget : Nat} {default : Shape × Json}
    (hreaches : root.Reaches registry default.1) (hneeds : Needs registry (budget + 1) default) :
    ∃ inner document, root.TakesDefault registry inner document ∧
      Needs registry budget (inner, document) := by
  by_contra hnone
  refine hneeds.least ?_
  have hrefines : Refines (readNested registry (budget + 1) default.1 default.2)
      (readNested registry budget default.1 default.2) := by
    refine readNested_refines_of_defaults (fun inner document htakes hended => ?_) hreaches
    have hless : (readDefault registry budget inner document).Ended := by
      by_contra hnot
      exact hnone ⟨inner, document, htakes, hended, hnot⟩
    exact (readDefault_refines (Nat.le_succ budget) inner document hless).symm
  rw [readDefault_succ, hrefines hneeds.enough]
  exact hneeds.enough

/-- Below what needs nested defaults there is one for every lesser number. -/
theorem Needs.exists_of_lt {budget less : Nat} {default : Shape × Json}
    (hreaches : root.Reaches registry default.1) (hneeds : Needs registry budget default)
    (hless : less < budget) : ∃ inner document, root.TakesDefault registry inner document ∧
      Needs registry less (inner, document) := by
  induction budget generalizing default with
  | zero => exact absurd hless (Nat.not_lt_zero less)
  | succ budget ih =>
    obtain ⟨inner, document, htakes, hinner⟩ := hneeds.exists_pred hreaches
    rcases Nat.lt_succ_iff_lt_or_eq.1 hless with hlt | rfl
    · exact ih htakes.reaches hinner hlt
    · exact ⟨inner, document, htakes, hinner⟩

/-- No more defaults are nested than there are. -/
theorem Needs.le_length {budget : Nat} {default : Shape × Json} {defaults : List (Shape × Json)}
    (hdefaults : ∀ inner document, root.TakesDefault registry inner document →
      (inner, document) ∈ defaults)
    (hreaches : root.Reaches registry default.1) (hneeds : Needs registry budget default) :
    budget ≤ defaults.length := by
  have hlevel : ∀ less, ∃ nested, less < budget →
      nested ∈ defaults ∧ Needs registry less nested := by
    intro less
    by_cases hless : less < budget
    · obtain ⟨inner, document, htakes, hinner⟩ := hneeds.exists_of_lt hreaches hless
      exact ⟨(inner, document), fun _ => ⟨hdefaults inner document htakes, hinner⟩⟩
    · exact ⟨default, fun hlt => absurd hlt hless⟩
  choose nested hnested using hlevel
  -- One default for each level, and no default is on two levels.
  have hdistinct : ((List.range budget).map nested).Nodup := by
    refine List.Nodup.map_on (fun less hless other hother heq => ?_) List.nodup_range
    have hfirst := (hnested less (List.mem_range.1 hless)).2
    have hsecond := (hnested other (List.mem_range.1 hother)).2
    rw [heq] at hfirst
    exact hfirst.unique hsecond
  have hsubset : (List.range budget).map nested ⊆ defaults := by
    intro pair hmem
    obtain ⟨less, hless, rfl⟩ := List.mem_map.1 hmem
    exact (hnested less (List.mem_range.1 hless)).1
  simpa using (List.subperm_of_subset hdistinct hsubset).length_le

/-- A budget of the number of defaults is enough for whatever some budget is enough for. -/
theorem readNested_length_eq {budget : Nat} {defaults : List (Shape × Json)}
    (hdefaults : ∀ inner document, root.TakesDefault registry inner document →
      (inner, document) ∈ defaults)
    (hreaches : root.Reaches registry shape)
    (hended : (readNested registry budget shape input).Ended) :
    readNested registry defaults.length shape input = readNested registry budget shape input := by
  by_cases hle : budget ≤ defaults.length
  · exact readDefault_refines (Nat.succ_le_succ hle) shape input hended
  · induction budget with
    | zero => exact absurd (Nat.zero_le _) hle
    | succ budget ih =>
      have hless : (readNested registry budget shape input).Ended := by
        by_contra hnot
        have hneeds : Needs registry (budget + 1) (shape, input) := ⟨hended, hnot⟩
        exact hle (hneeds.le_length hdefaults hreaches)
      have hsame : readNested registry (budget + 1) shape input =
          readNested registry budget shape input :=
        readDefault_refines (Nat.le_succ _) shape input hless
      rw [hsame]
      by_cases hreduced : budget ≤ defaults.length
      · exact readDefault_refines (Nat.succ_le_succ hreduced) shape input hless
      · exact ih hless hreduced

/-- Any two budgets that count all defaults are worth the same. -/
theorem result_readNested_length_eq {defaults others : List (Shape × Json)}
    (hdefaults : ∀ inner document, root.TakesDefault registry inner document →
      (inner, document) ∈ defaults)
    (hothers : ∀ inner document, root.TakesDefault registry inner document → (inner, document) ∈ others)
    (hreaches : root.Reaches registry shape) (input : Json) :
    (readNested registry defaults.length shape input).result =
      (readNested registry others.length shape input).result := by
  by_cases hended : (readNested registry defaults.length shape input).Ended
  · rw [readNested_length_eq hothers hreaches hended]
  · by_cases hother : (readNested registry others.length shape input).Ended
    · rw [readNested_length_eq hdefaults hreaches hother]
    · rw [not_not.1 hended, not_not.1 hother]

/-- If the defaults are read with the spare fuel, then fuel for the levels of the document beyond that is
enough to read it. -/
theorem ended_readFor {spare : Nat}
    (hdefaults : ∀ inner document, root.TakesDefault registry inner document →
      (readFor registry spare inner document).Ended)
    (hreaches : root.Reaches registry shape) (hfuel : input.depth + spare < fuel) :
    (readFor registry fuel shape input).Ended := by
  induction fuel generalizing shape input with
  | zero => exact absurd hfuel (Nat.not_lt_zero _)
  | succ fuel ih =>
    let next := readFor registry fuel
    refine @readStep_related registry root shape input _ Reading.compatible_ended next next next next
      hreaches ?_ ?_
    · exact fun inner raw hinner hlt => ih hinner (by omega)
    · exact fun inner document htakes => ended_readFor_of_le (hdefaults inner document htakes) (by omega)

/-- Writes a value with fuel for each level, and in the given way when there is none left. -/
def writeFor (registry : Registry) (rest : Writer) : Nat → Writer
  | 0 => rest
  | fuel + 1 => writeStep registry (writeFor registry rest fuel)

/-- Fuel for the levels of a value is enough to write it. -/
theorem writeFor_eq {rest : Writer} {value : Value} (hfuel : value.depth < fuel) :
    writeFor registry rest fuel shape value = write registry shape value := by
  induction fuel generalizing shape value with
  | zero => exact absurd hfuel (Nat.not_lt_zero _)
  | succ fuel ih =>
    rw [writeFor, write_eq]
    exact writeStep_congr shape fun inner content hlt => ih (by omega)

end Shape

end Shapes
