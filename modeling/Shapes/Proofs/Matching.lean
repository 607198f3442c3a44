import Mathlib.Data.List.Find
import Mathlib.Data.List.Forall2
import Shapes.Proofs.Location

/-!
Two readings side by side. Readings of two documents end alike, with related values or with related errors, if
the documents match wherever a shape looks at them: at the discriminator of a choice, at the presence of the
fields that a rule names, at the entries that are not declared, and at the content of fields and items.
-/

namespace Option.Rel

variable {α β : Type} {related related' : α → β → Prop} {a : Option α} {b : Option β}

theorem refl {related : α → α → Prop} (hrefl : ∀ x, related x x) (a : Option α) : Option.Rel related a a := by
  cases a with
  | none => exact .none
  | some x => exact .some (hrefl x)

theorem imp (hrel : Option.Rel related a b) (himp : ∀ x y, related x y → related' x y) :
    Option.Rel related' a b := by
  cases hrel with
  | none => exact .none
  | some hrelated => exact .some (himp _ _ hrelated)

theorem isSome_eq (hrel : Option.Rel related a b) : a.isSome = b.isSome := by
  cases hrel <;> rfl

theorem filter {keep : α → Bool} {keep' : β → Bool} (hrel : Option.Rel related a b)
    (hkeep : ∀ x y, related x y → keep x = keep' y) :
    Option.Rel related (a.filter keep) (b.filter keep') := by
  cases hrel with
  | none => exact .none
  | @some x y hrelated =>
    rw [Option.filter_some, Option.filter_some, hkeep x y hrelated]
    split
    · exact .some hrelated
    · exact .none

end Option.Rel

namespace Shapes

namespace Traced

variable {ε ε' α α' β β' : Type} {values : α → β → Prop} {errors : ε → ε' → Prop}

/-- Two computations end alike: both with values, or both with errors, that are related. -/
inductive Tally (values : α → β → Prop) (errors : ε → ε' → Prop) (x : Traced ε α) (y : Traced ε' β) : Prop
  | ok {a : α} {b : β} (hleft : x.result = .ok a) (hright : y.result = .ok b) (hvalues : values a b)
  | error {left : ε} {right : ε'} (hleft : x.result = .error left) (hright : y.result = .error right)
      (herrors : errors left right)

namespace Tally

theorem pure {a : α} {b : β} (hvalues : values a b) :
    Tally values errors (Pure.pure a : Traced ε α) (Pure.pure b : Traced ε' β) :=
  .ok rfl rfl hvalues

theorem fail {left : ε} {right : ε'} (herrors : errors left right) :
    Tally values errors (Traced.fail left : Traced ε α) (Traced.fail right : Traced ε' β) :=
  .error rfl rfl herrors

theorem refl {values : α → α → Prop} {errors : ε → ε → Prop} (hvalues : ∀ a, values a a)
    (herrors : ∀ error, errors error error) (x : Traced ε α) : Tally values errors x x := by
  cases hresult : x.result with
  | ok a => exact .ok hresult hresult (hvalues a)
  | error error => exact .error hresult hresult (herrors error)

theorem bind {values' : α' → β' → Prop} {x : Traced ε α} {y : Traced ε' β} {f : α → Traced ε α'}
    {g : β → Traced ε' β'} (hfirst : Tally values errors x y)
    (hthen : ∀ a b, values a b → Tally values' errors (f a) (g b)) :
    Tally values' errors (x >>= f) (y >>= g) := by
  cases hfirst with
  | error hleft hright herrors =>
    exact .error (result_bind_eq_error.2 (Or.inl hleft)) (result_bind_eq_error.2 (Or.inl hright)) herrors
  | ok hleft hright hvalues =>
    cases hthen _ _ hvalues with
    | error hleft' hright' herrors =>
      exact .error (result_bind_eq_error.2 (Or.inr ⟨_, hleft, hleft'⟩))
        (result_bind_eq_error.2 (Or.inr ⟨_, hright, hright'⟩)) herrors
    | ok hleft' hright' hvalues' =>
      exact .ok (result_bind_eq_ok.2 ⟨_, hleft, hleft'⟩) (result_bind_eq_ok.2 ⟨_, hright, hright'⟩) hvalues'

/-- Computations with a first step in common end alike if what follows does. -/
theorem bind_same {values : α → β → Prop} {errors : ε → ε → Prop} {x : Traced ε α'} {f : α' → Traced ε α}
    {g : α' → Traced ε β} (herrors : ∀ error, errors error error)
    (hthen : ∀ a, x.result = .ok a → Tally values errors (f a) (g a)) :
    Tally values errors (x >>= f) (x >>= g) := by
  have hfirst : Tally (fun a b => x.result = .ok a ∧ a = b) errors x x := by
    cases hresult : x.result with
    | ok a => exact .ok hresult hresult ⟨rfl, rfl⟩
    | error error => exact .error hresult hresult (herrors error)
  refine hfirst.bind ?_
  rintro a _ ⟨hresult, rfl⟩
  exact hthen a hresult

theorem mapError {errors' : ε → ε' → Prop} {f : ε → ε} {g : ε' → ε'} {x : Traced ε α} {y : Traced ε' β}
    (htally : Tally values errors x y)
    (herrors : ∀ left right, errors left right → errors' (f left) (g right)) :
    Tally values errors' (x.mapError f) (y.mapError g) := by
  cases htally with
  | ok hleft hright hvalues =>
    exact .ok (result_mapError_eq_ok.2 hleft) (result_mapError_eq_ok.2 hright) hvalues
  | error hleft hright hcauses =>
    exact .error (result_mapError_eq_error.2 ⟨_, hleft, rfl⟩) (result_mapError_eq_error.2 ⟨_, hright, rfl⟩)
      (herrors _ _ hcauses)

theorem traverse {f : α' → Traced ε α} {g : β' → Traced ε' β} {items : List α'} {others : List β'}
    (hitems : List.Forall₂ (fun a b => Tally values errors (f a) (g b)) items others) :
    Tally (List.Forall₂ values) errors (Traced.traverse f items) (Traced.traverse g others) := by
  induction hitems with
  | nil => exact pure .nil
  | cons hfirst _ ih => exact bind hfirst fun a b hvalues => bind ih fun as bs hrest => pure (.cons hvalues hrest)

theorem traverseFrom {f : Nat → α' → Traced ε α} {g : Nat → β' → Traced ε' β} {items : List α'}
    {others : List β'} {index : Nat}
    (hitems : List.Forall₂ (fun a b => ∀ i, Tally values errors (f i a) (g i b)) items others) :
    Tally (List.Forall₂ values) errors (Traced.traverseFrom f index items)
      (Traced.traverseFrom g index others) := by
  induction hitems generalizing index with
  | nil => exact pure .nil
  | cons hfirst _ ih =>
    exact bind (hfirst index) fun a b hvalues => bind ih fun as bs hrest => pure (.cons hvalues hrest)

/-- Computations that end with the same value or the same error have the same result. -/
theorem result_eq {x y : Traced ε α} (htally : Tally (· = ·) (· = ·) x y) : x.result = y.result := by
  cases htally with
  | ok hleft hright hvalues => rw [hleft, hright, hvalues]
  | error hleft hright herrors => rw [hleft, hright, herrors]

end Tally

end Traced

open Traced (Tally)

namespace Reading

/-- Relations between values and between errors that reading by parts does not leave. -/
structure Congruent (values : Value → Value → Prop) (errors : Stop DataError → Stop DataError → Prop) :
    Prop where
  same : ∀ value, values value value
  list : ∀ {items others : List Value}, List.Forall₂ values items others →
    values (.list items) (.list others)
  object : ∀ {id : String} {fields others : Fields Value},
    List.Forall₂ (fun field other => field.1 = other.1 ∧ values field.2 other.2) fields others →
      values (.object id fields) (.object id others)
  oneOf : ∀ {key : Discriminant} {value other : Value}, values value other →
    values (.oneOf key value) (.oneOf key other)
  sameError : ∀ error, errors error error
  inField : ∀ {name : String} {error other : Stop DataError}, errors error other →
    errors (error.map (.inField name)) (other.map (.inField name))

/-- Equality is such a relation. -/
theorem congruent_eq : Congruent (· = ·) (· = ·) where
  same _ := rfl
  list hitems := by
    rw [List.forall₂_eq_eq_eq] at hitems
    rw [hitems]
  object hfields := by
    have heq : List.Forall₂ (· = ·) _ _ := hfields.imp fun _ _ hboth => Prod.ext hboth.1 hboth.2
    rw [List.forall₂_eq_eq_eq] at heq
    rw [heq]
  oneOf hvalue := by rw [hvalue]
  sameError _ := rfl
  inField herror := by rw [herror]

end Reading

open Reading (Congruent)

namespace Property

variable {σ : Type} {property : Property σ} {given other : String → Bool}

/-- The fields that the presence rules of a field name. -/
def named (property : Property σ) : List String :=
  property.requiredIf ++ property.requiredIfNot ++ property.conflicts

theorem conflict?_congr (hagree : ∀ name ∈ property.named, given name = other name) :
    property.conflict? given = property.conflict? other :=
  List.find?_congr fun name hmem => hagree name (List.mem_append_right _ hmem)

private theorem any_congr {names : List String} (hagree : ∀ name ∈ names, given name = other name) :
    names.any given = names.any other := by
  rw [Bool.eq_iff_iff, List.any_eq_true, List.any_eq_true]
  exact exists_congr fun name => and_congr_right fun hmem => by rw [hagree name hmem]

theorem isRequired_congr (hagree : ∀ name ∈ property.named, given name = other name) :
    property.isRequired given = property.isRequired other := by
  rw [named, List.forall_mem_append, List.forall_mem_append] at hagree
  obtain ⟨⟨hif, hifNot⟩, -⟩ := hagree
  rw [isRequired, isRequired, any_congr hif, any_congr hifNot]

end Property

/-- What an object looks at is alike in two documents: the first entry that is not declared, the presence of the
fields that a rule names, and the content of the fields, which matches. -/
structure ObjectOf.Alike (errors : Stop DataError → Stop DataError → Prop) (matched : Shape → Json → Json → Prop)
    (o : ObjectShape) (tolerated tolerated' : Option String) (entries others : Fields Json) : Prop where
  undeclared : Option.Rel
    (fun name other => errors (.failed (.unknownField name)) (.failed (.unknownField other)))
    (o.undeclared? tolerated entries) (o.undeclared? tolerated' others)
  named : ∀ field ∈ o.properties, ∀ name ∈ field.2.named,
    Json.isPresent entries name = Json.isPresent others name
  content : ∀ field ∈ o.properties, Option.Rel (matched field.2.shape) (Json.present? entries field.1)
    (Json.present? others field.1)

theorem ObjectOf.Alike.imp {errors : Stop DataError → Stop DataError → Prop}
    {matched matched' : Shape → Json → Json → Prop} {o : ObjectShape} {tolerated tolerated' : Option String}
    {entries others : Fields Json} (halike : o.Alike errors matched tolerated tolerated' entries others)
    (himp : ∀ inner raw other, raw.depth < (Json.object entries).depth → matched inner raw other →
      matched' inner raw other) :
    o.Alike errors matched' tolerated tolerated' entries others := by
  refine ⟨halike.undeclared, halike.named, fun field hmem => ?_⟩
  have hcontent := halike.content field hmem
  have hlt : ∀ raw, Json.present? entries field.1 = some raw → raw.depth < (Json.object entries).depth :=
    fun raw hpresent => Json.depth_lt_of_present? hpresent
  generalize Json.present? entries field.1 = found, Json.present? others field.1 = again at hcontent hlt ⊢
  cases hcontent with
  | none => exact .none
  | some hmatch => exact .some (himp _ _ _ (hlt _ rfl) hmatch)

/-- What a choice looks at is alike in two documents: the key that their discriminators stand for. -/
def OneOf.Alike (c : OneOf) (entries others : Fields Json) : Prop :=
  Option.Rel (fun raw other => c.kind.coerce raw = c.kind.coerce other ∧ raw.kindName = other.kindName)
    (Fields.get? entries c.field) (Fields.get? others c.field)

/-- One document matches another wherever the shape looks at it, if the parts match. -/
inductive Shape.Matches (registry : Registry) (values : Value → Value → Prop)
    (errors : Stop DataError → Stop DataError → Prop) (matched : Shape → Json → Json → Prop) (shape : Shape) :
    Json → Json → Prop
  | same {document : Json} : shape.Matches registry values errors matched document document
  | any {document other : Json} (hany : shape = .any) (hvalues : values (.any document) (.any other)) :
      shape.Matches registry values errors matched document other
  | number {n m : Number} (htyped : shape ≠ .any) (hinteger : n.toInt64? = m.toInt64?)
      (hfloat : values (.float n.toFloat) (.float m.toFloat)) :
      shape.Matches registry values errors matched (.number n) (.number m)
  | array {items others : List Json} (htyped : shape ≠ .any)
      (hitems : ∀ inner, shape = .list inner → List.Forall₂ (matched inner) items others) :
      shape.Matches registry values errors matched (.array items) (.array others)
  | object {entries others : Fields Json} (htyped : shape ≠ .any)
      (hchoice : ∀ c, shape = .oneOf c → c.Alike entries others)
      (hobject : ∀ o, shape.objectFor? registry entries = some o →
        o.Alike errors matched shape.tolerated shape.tolerated entries others) :
      shape.Matches registry values errors matched (.object entries) (.object others)

section

variable {values : Value → Value → Prop} {errors : Stop DataError → Stop DataError → Prop}
  (hcongruent : Congruent values errors)

include hcongruent

theorem Reading.tally_refl (x : Reading Value) : Tally values errors x x :=
  .refl hcongruent.same hcongruent.sameError x

/-- An object reads what is alike to it alike. -/
theorem ObjectOf.tally_read {part default : Reader} {o : ObjectShape} {tolerated tolerated' : Option String}
    {entries others : Fields Json}
    (halike : o.Alike errors (fun shape raw other => Tally values errors (part shape raw) (part shape other))
      tolerated tolerated' entries others) :
    Tally values errors (o.read part default tolerated (.object entries))
      (o.read part default tolerated' (.object others)) := by
  have hfield : ∀ field ∈ o.properties, Tally values errors
      (readField part default entries field.1 field.2) (readField part default others field.1 field.2) := by
    intro field hmem
    have hcontent := halike.content field hmem
    unfold readField
    rw [Property.conflict?_congr (halike.named field hmem), Property.isRequired_congr (halike.named field hmem)]
    generalize Json.present? entries field.1 = found, Json.present? others field.1 = again at hcontent ⊢
    cases hcontent with
    | none => exact Reading.tally_refl hcongruent _
    | some hcontent =>
      dsimp only
      split
      · exact Reading.tally_refl hcongruent _
      · exact hcontent.mapError fun _ _ => hcongruent.inField
  have hfields : Tally (List.Forall₂ fun field other => field.1 = other.1 ∧ values field.2 other.2) errors
      (Traced.traverse (fun field => do return (field.1, ← readField part default entries field.1 field.2))
        o.properties)
      (Traced.traverse (fun field => do return (field.1, ← readField part default others field.1 field.2))
        o.properties) := by
    refine .traverse (List.forall₂_same.2 fun field hmem => .bind (hfield field hmem) ?_)
    exact fun value other hvalues => .pure ⟨rfl, hvalues⟩
  have hundeclared := halike.undeclared
  unfold read
  dsimp only
  generalize o.undeclared? tolerated entries = first, o.undeclared? tolerated' others = again at hundeclared ⊢
  cases hundeclared with
  | some herrors => exact .fail herrors
  | none => exact hfields.bind fun fields others hall => .pure (hcongruent.object hall)

/-- A choice reads what is alike to it alike, if the object that it selects does. -/
theorem OneOf.tally_read {registry : Registry} {part default : Reader} {c : OneOf}
    {entries others : Fields Json} (halike : c.Alike entries others)
    (hobject : ∀ o, (Shape.oneOf c).objectFor? registry entries = some o →
      Tally values errors (o.read part default (some c.field) (.object entries))
        (o.read part default (some c.field) (.object others))) :
    Tally values errors (c.read registry part default (.object entries))
      (c.read registry part default (.object others)) := by
  simp only [Shape.objectFor?] at hobject
  unfold Alike at halike
  unfold read
  dsimp only
  generalize Fields.get? entries c.field = raw, Fields.get? others c.field = other at halike hobject ⊢
  cases halike with
  | none => exact Reading.tally_refl hcongruent _
  | @some raw other hboth =>
    obtain ⟨hkey, hkind⟩ := hboth
    dsimp only
    rw [← hkey, ← hkind]
    cases hcoerce : c.kind.coerce raw with
    | none => exact Reading.tally_refl hcongruent _
    | some key =>
      dsimp only
      cases hvariant : c.target? key with
      | none => exact Reading.tally_refl hcongruent _
      | some r =>
        refine .bind_same hcongruent.sameError fun _ _ => .bind_same hcongruent.sameError fun o hresolve => ?_
        have htarget := Reference.resolve_budgeted_eq_ok_iff.1 hresolve
        refine (hobject o ?_).bind fun value other hvalues => .pure (hcongruent.oneOf hvalues)
        simp [hcoerce, hvariant, htarget]

namespace Shape

variable {registry : Registry} {budget : Nat} {shape : Shape} {document other : Json}
  {matched : Shape → Json → Json → Prop}

/-- Readings of documents that match at every level end alike. -/
theorem tally_readNested
    (hmatched : ∀ shape document other, matched shape document other →
      shape.Matches registry values errors matched document other)
    (hdocument : matched shape document other) :
    Tally values errors (readNested registry budget shape document)
      (readNested registry budget shape other) := by
  induction budget, shape, document using readNested_induction generalizing other with
  | hstep budget shape document ihPart _ =>
    cases hmatched _ _ _ hdocument with
    | same => exact Reading.tally_refl hcongruent _
    | any hany hvalues =>
      subst hany
      rw [readNested_eq, readNested_eq]
      exact .pure hvalues
    | number htyped hinteger hfloat =>
      rw [readNested_eq, readNested_eq]
      cases shape with
      | any => exact absurd rfl htyped
      | int =>
        simp only [readStep]
        rw [hinteger]
        exact Reading.tally_refl hcongruent _
      | float => exact .pure hfloat
      | _ => exact Reading.tally_refl hcongruent _
    | @array items others htyped hitems =>
      rw [readNested_eq, readNested_eq]
      cases shape with
      | any => exact absurd rfl htyped
      | list inner =>
        have hparts := (List.forall₂_and_left _ _).2 ⟨fun _ hmem => hmem, hitems inner rfl⟩
        have hread : Tally (List.Forall₂ values) errors
            (Traced.traverseFrom (fun index input =>
              (readNested registry budget inner input).inField (toString index)) 0 items)
            (Traced.traverseFrom (fun index input =>
              (readNested registry budget inner input).inField (toString index)) 0 others) := by
          refine .traverseFrom (hparts.imp fun input again hboth index => ?_)
          have hpart := ihPart inner input (Json.depth_lt_of_mem_items hboth.1) hboth.2
          exact hpart.mapError fun _ _ => hcongruent.inField
        exact hread.bind fun contents again hall => .pure (hcongruent.list hall)
      | _ => exact Reading.tally_refl hcongruent _
    | @object entries others htyped hchoice hobject =>
      have hown : ∀ o, shape.objectFor? registry entries = some o →
          Tally values errors
            (o.read (readNested registry budget) (readDefault registry budget) shape.tolerated (.object entries))
            (o.read (readNested registry budget) (readDefault registry budget) shape.tolerated
              (.object others)) := by
        intro o ho
        refine ObjectOf.tally_read hcongruent ((hobject o ho).imp fun inner raw other hlt hmatch => ?_)
        exact ihPart inner raw hlt hmatch
      rw [readNested_eq, readNested_eq]
      cases shape with
      | any => exact absurd rfl htyped
      | object o => exact hown o rfl
      | ref r =>
        refine .bind_same hcongruent.sameError fun o hresolve => hown o ?_
        exact Reference.resolve_budgeted_eq_ok_iff.1 hresolve
      | scope s =>
        simp only [readStep]
        cases hroot : s.rootObject? with
        | none => exact Reading.tally_refl hcongruent _
        | some o => exact hown o hroot
      | oneOf c => exact OneOf.tally_read hcongruent (hchoice c rfl) hown
      | _ => exact Reading.tally_refl hcongruent _

end Shape

end

end Shapes
