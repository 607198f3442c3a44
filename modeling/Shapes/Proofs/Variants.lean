import Shapes.Proofs.Reading
import Shapes.Proofs.Writing
import Shapes.Shape.Freeze

/-!
The variant of a document. What a choice writes has the key of the variant in it, whether the variant
writes the discriminator itself or the choice adds it, so reading hands the document to the same variant;
what can be wrong with it is then found by the object of that variant.
-/

namespace Shapes

open Traced (FailsOnly)

/-- A reading fails with errors of the given sort only, if it fails with an error at all. -/
private abbrev Fails (sort : DataError → Prop) {α : Type} (x : Reading α) : Prop :=
  FailsOnly (fun stop => ∀ error, stop = .failed error → sort error) x

private theorem fails_refuse {sort : DataError → Prop} {α : Type} {error : DataError} (hsort : sort error) :
    Fails sort (Reading.refuse error : Reading α) :=
  .fail fun _ heq => Stop.failed.inj heq ▸ hsort

private theorem fails_inField {sort : DataError → Prop} {α : Type} {x : Reading α} {name : String}
    (hsort : ∀ cause, x.result = .error (.failed cause) → sort (.inField name cause)) :
    Fails sort (x.inField name) := by
  have hfails : FailsOnly (fun stop => x.result = .error stop) x := fun _ hstop => hstop
  refine hfails.mapError ?_
  rintro (cause | _) hstop error herror <;> cases herror
  exact hsort cause hstop

namespace ObjectOf

variable {part default : Reader} {tolerated : Option String} {o : ObjectShape} {entries : Fields Json}
  {error : DataError}

/-- What an object may find wrong with entries: an entry that it neither declares nor tolerates, one of its
fields against the rules for their presence, or what is wrong inside the entry or the default of a field. -/
inductive Raises (part default : Reader) (tolerated : Option String) (o : ObjectShape)
    (entries : Fields Json) : DataError → Prop
  | unknownField {name : String} (hmem : name ∈ entries.names) (hundeclared : o.declares name = false)
      (hintolerable : tolerated ≠ some name) : o.Raises part default tolerated entries (.unknownField name)
  | missingField {field : String × Property Shape} (hmem : field ∈ o.properties)
      (habsent : Json.present? entries field.1 = none)
      (hrequired : field.2.isRequired (Json.isPresent entries) = true) :
      o.Raises part default tolerated entries (.missingField field.1)
  | conflict {field : String × Property Shape} {other : String} (hmem : field ∈ o.properties)
      (hother : field.2.conflict? (Json.isPresent entries) = some other) :
      o.Raises part default tolerated entries (.conflict field.1 other)
  | inEntry {field : String × Property Shape} {raw : Json} {cause : DataError}
      (hmem : field ∈ o.properties) (hpresent : Json.present? entries field.1 = some raw)
      (hcause : (part field.2.shape raw).result = .error (.failed cause)) :
      o.Raises part default tolerated entries (.inField field.1 cause)
  | inDefault {field : String × Property Shape} {document : Json} {cause : DataError}
      (hmem : field ∈ o.properties) (habsent : Json.present? entries field.1 = none)
      (hdefault : field.2.default = some document)
      (hcause : (default field.2.shape document).result = .error (.failed cause)) :
      o.Raises part default tolerated entries (.inField field.1 cause)

/-- Every error of reading entries by an object is raised by that object. -/
theorem raises_of_read
    (hread : (o.read part default tolerated (.object entries)).result = .error (.failed error)) :
    o.Raises part default tolerated entries error := by
  suffices hfails : Fails (o.Raises part default tolerated entries) (o.read part default tolerated (.object entries))
    from hfails _ hread error rfl
  unfold read
  dsimp only
  cases hundeclared : o.undeclared? tolerated entries with
  | some name =>
    unfold undeclared? at hundeclared
    split at hundeclared
    · cases hundeclared
    · have hname := List.find?_some hundeclared
      rw [Bool.and_eq_true, Bool.not_eq_true', bne_iff_ne] at hname
      exact fails_refuse (.unknownField (List.mem_of_find?_eq_some hundeclared) hname.1 hname.2)
  | none =>
    refine .bind (.traverse fun field hmem => .bind ?_ fun _ _ => .pure _) fun _ _ => .pure _
    unfold readField
    cases hpresent : Json.present? entries field.1 with
    | some raw =>
      dsimp only
      cases hconflict : field.2.conflict? (Json.isPresent entries) with
      | some other => exact fails_refuse (.conflict hmem hconflict)
      | none => exact fails_inField fun cause hcause => .inEntry hmem hpresent hcause
    | none =>
      dsimp only
      split
      · rename_i hrequired
        exact fails_refuse (.missingField hmem hpresent hrequired)
      · cases hdefault : field.2.default with
        | some document => exact fails_inField fun cause hcause => .inDefault hmem hpresent hdefault hcause
        | none => exact .pure _

end ObjectOf

namespace Shape

variable {registry : Registry} {part default : Reader} {budget : Nat} {shape : Shape} {document : Json}

private abbrev KindFits (error : DataError) : Prop :=
  ∀ expected found, error ≠ .mismatch expected found

private theorem fails_invalid {α : Type} {expected found : String} :
    Fails KindFits (Reading.refuse (.invalidInput expected found) : Reading α) :=
  fails_refuse fun _ _ heq => by cases heq

private theorem fails_readObject {o : ObjectShape} {tolerated : Option String} :
    Fails KindFits (o.read part default tolerated document) := by
  rintro _ hread error rfl expected found rfl
  cases document with
  | object entries => cases ObjectOf.raises_of_read hread
  | _ => cases hread

private theorem fails_resolve {r : Reference} : Fails KindFits (r.resolve registry).budgeted := by
  rintro _ hresolve error rfl expected found rfl
  obtain ⟨cause, hcause, heq⟩ := Traced.result_mapError_eq_error.1 hresolve
  rw [(Reference.resolve_eq_error hcause).2] at heq
  cases heq

private theorem fails_readOneOf {c : OneOf} : Fails KindFits (c.read registry part default document) := by
  cases document with
  | object entries =>
    unfold OneOf.read
    dsimp only
    split
    · exact fails_refuse fun _ _ heq => by cases heq
    · split
      · exact fails_refuse fun _ _ heq => by cases heq
      · split
        · exact fails_refuse fun _ _ heq => by cases heq
        · refine .bind (.announce _) fun _ _ => .bind fails_resolve fun o _ => ?_
          exact .bind fails_readObject fun _ _ => .pure _
  | _ => exact fails_invalid

/-- That a value is of another kind is told of the discriminator of a choice only, inside its field. A document
that is itself of another kind than expected is an invalid input. -/
theorem readStep_ne_mismatch (expected found : String) :
    (readStep registry part default shape document).result ≠
      .error (.failed (.mismatch expected found)) := by
  suffices hfails : Fails KindFits (readStep registry part default shape document) from
    fun hread => hfails _ hread _ rfl expected found rfl
  cases shape with
  | any => exact .pure _
  | bool => cases document <;> first | exact .pure _ | exact fails_invalid
  | int =>
    cases document with
    | number n =>
      simp only [readStep]
      split
      · exact .pure _
      · exact fails_invalid
    | _ => exact fails_invalid
  | float => cases document <;> first | exact .pure _ | exact fails_invalid
  | string => cases document <;> first | exact .pure _ | exact fails_invalid
  | list items =>
    cases document with
    | array inputs =>
      refine .bind (.traverseFrom fun index input _ => ?_) fun _ _ => .pure _
      exact fails_inField fun _ _ _ _ heq => by cases heq
    | _ => exact fails_invalid
  | object o => exact fails_readObject
  | ref r => exact .bind fails_resolve fun _ _ => fails_readObject
  | oneOf c => exact fails_readOneOf
  | scope s =>
    simp only [readStep]
    split
    · exact fails_readObject
    · exact fails_refuse fun _ _ heq => by cases heq

theorem readNested_ne_mismatch (expected found : String) :
    (readNested registry budget shape document).result ≠ .error (.failed (.mismatch expected found)) := by
  rw [readNested_eq]
  exact readStep_ne_mismatch expected found

theorem readDefault_ne_mismatch (expected found : String) :
    (readDefault registry budget shape document).result ≠ .error (.failed (.mismatch expected found)) := by
  cases budget with
  | zero => exact nofun
  | succ budget =>
    rw [readDefault_succ]
    exact readNested_ne_mismatch expected found

end Shape

namespace OneOf

variable {registry : Registry} {part default : Reader} {c : OneOf} {key : Discriminant} {r : Reference}
  {o : ObjectShape} {entries written : Fields Json} {found : Json}

private theorem error_of_map {ε α β : Type} {result : Except ε α} {f : α → β} {error : ε}
    (hmap : result.map f = .error error) : result = .error error := by
  cases result <;> cases hmap
  rfl

/-- Reads a document of a choice by the object of one of its variants. -/
def readTarget (registry : Registry) (c : OneOf) (o : ObjectShape) (document : Json) : Reading Value :=
  o.read (Shape.readNested registry (Shape.budget registry (.oneOf c)))
    (Shape.readDefault registry (Shape.budget registry (.oneOf c))) (some c.field) document

/-- What the object of a variant may find wrong with entries that the choice hands to it. -/
def TargetRaises (registry : Registry) (c : OneOf) (o : ObjectShape) (entries : Fields Json) :
    DataError → Prop :=
  o.Raises (Shape.readNested registry (Shape.budget registry (.oneOf c)))
    (Shape.readDefault registry (Shape.budget registry (.oneOf c))) (some c.field) entries

/-- Inside a field, too, nothing is raised about the kind of what the field itself holds. -/
theorem TargetRaises.ne_mismatch {name : String} {cause : DataError}
    (hraises : c.TargetRaises registry o entries (.inField name cause)) (expected actual : String) :
    cause ≠ .mismatch expected actual := by
  rintro rfl
  cases hraises with
  | inEntry _ _ hcause => exact Shape.readNested_ne_mismatch expected actual hcause
  | inDefault _ _ _ hcause => exact Shape.readDefault_ne_mismatch expected actual hcause

/-- Nothing that the object of a variant raises is about the discriminator or about the variant. -/
theorem TargetRaises.of_target {error : DataError} (hraises : c.TargetRaises registry o entries error) :
    (∀ field, error ≠ .missingDiscriminator field) ∧ (∀ text valid, error ≠ .unknownVariant text valid) ∧
      ∀ expected actual, error ≠ .inField c.field (.mismatch expected actual) := by
  refine ⟨?_, ?_, ?_⟩
  · rintro field rfl
    cases hraises
  · rintro text valid rfl
    cases hraises
  · rintro expected actual rfl
    exact hraises.ne_mismatch expected actual rfl

/-- The discriminator alone selects who reads the entries. -/
theorem result_read_of_selects (hfound : Fields.get? entries c.field = some found)
    (hkey : c.kind.coerce found = some key) (htarget : c.target? key = some r)
    (hobject : r.target? registry = some o) :
    (c.read registry part default (.object entries)).result =
      (o.read part default (some c.field) (.object entries)).result.map (.oneOf key) := by
  have hresolve := Reference.resolve_budgeted_eq_ok_iff.2 hobject
  simp only [read, hfound, hkey, htarget, Traced.result_bind, Traced.result_announce, hresolve, Except.bind,
    Traced.result_pure]
  cases (o.read part default (some c.field) (.object entries)).result <;> rfl

/-- The key is found in what a choice makes of the document of a variant. -/
theorem exists_found_of_tag {document json : Json} (htarget : c.target? key = some r)
    (htag : c.tag key document = .ok json) :
    ∃ written entries found, document = .object written ∧ json = .object entries ∧
      Fields.get? entries c.field = some found ∧ c.kind.coerce found = some key ∧
      (entries = written ∨
        Fields.get? written c.field = none ∧ entries = written ++ [(c.field, key.toJson)]) := by
  obtain ⟨written, rfl, ⟨hnone, rfl⟩ | ⟨found, hfound, hkey, rfl⟩⟩ := tag_eq_ok_iff.1 htag
  · exact ⟨written, _, key.toJson, rfl, rfl, Fields.get?_append_self hnone, coerce_toJson_of_target? htarget,
      Or.inr ⟨hnone, rfl⟩⟩
  · exact ⟨written, written, found, rfl, rfl, hfound, hkey, Or.inl rfl⟩

/-- Whatever a choice writes, it writes for a variant of its own. The entries are those of the object of the
variant, which may have the key among them under the discriminator and else get it at the end. What is written
reads as that object reads it, so no other variant comes of it; and an error is one that the object raises, but
not about the discriminator or the variant. -/
theorem reads_own_variant {value : Value} {json : Json}
    (hwrite : (Shape.write registry (.oneOf c) value).result = .ok json) :
    ∃ key r o inner written entries found,
      value = .oneOf key inner ∧ c.target? key = some r ∧ r.target? registry = some o ∧
      (Shape.write registry (.ref r) inner).result = .ok (.object written) ∧ json = .object entries ∧
      Fields.get? entries c.field = some found ∧ c.kind.coerce found = some key ∧
      (entries = written ∨
        Fields.get? written c.field = none ∧ entries = written ++ [(c.field, key.toJson)]) ∧
      (Shape.read registry (.oneOf c) json).result = (c.readTarget registry o json).result.map (.oneOf key) ∧
      ∀ error, (Shape.read registry (.oneOf c) json).result = .error (.failed error) →
        c.TargetRaises registry o entries error ∧ (∀ field, error ≠ .missingDiscriminator field) ∧
        (∀ text valid, error ≠ .unknownVariant text valid) ∧
        ∀ expected actual, error ≠ .inField c.field (.mismatch expected actual) := by
  cases Shape.write_eq_ok_iff.1 hwrite with
  | object hobject => cases hobject
  | @oneOf _ key r inner document _ htarget hinner htag =>
    obtain ⟨o, hobject⟩ := hinner.exists_target
    obtain ⟨written, entries, found, rfl, rfl, hfound, hkey, hentries⟩ := exists_found_of_tag htarget htag
    have hread : (Shape.read registry (.oneOf c) (.object entries)).result =
        (c.readTarget registry o (.object entries)).result.map (.oneOf key) := by
      rw [Shape.read, Shape.readNested_eq]
      exact result_read_of_selects hfound hkey htarget hobject
    refine ⟨key, r, o, inner, written, entries, found, rfl, htarget, hobject, Shape.write_of_writes hinner, rfl,
      hfound, hkey, hentries, hread, fun error herror => ?_⟩
    rw [hread] at herror
    have hraises := ObjectOf.raises_of_read (error_of_map herror)
    exact ⟨hraises, TargetRaises.of_target hraises⟩

end OneOf

namespace Ships

open Registry Shape

/-- The place of a passenger, by its class. -/
def place : OneOf where
  field := "class"
  kind := .int
  variants := [(.int 1, { id := "Cabin" }), (.int 2, { id := "Berth" })]
  uniform := by decide
  distinct := by decide

def ticket : ObjectShape where
  id := "Ticket"
  properties := [("place", { shape := .oneOf place, required := true })]

/-- A cabin says of which class it is, in any form. -/
def cabin : ObjectShape where
  id := "Cabin"
  properties := [("class", { shape := .any }), ("beds", { shape := .int, default := some (.ofInt64 2) })]

/-- A berth says nothing of its class. Without a number it has to be on some deck. -/
def berth : ObjectShape where
  id := "Berth"
  properties := [("number", { shape := .int }), ("deck", { shape := .string, requiredIfNot := ["number"] })]

def ships : Scope := ⟨0, "Ticket", [bindObject 0 ticket, bindObject 0 cabin, bindObject 0 berth]⟩

def registry : Registry := ⟨1, [ships]⟩

/-- A cabin of the first class, with the class as a text that has blanks in it. -/
def first : Value :=
  .oneOf (.int 1) (.object "Cabin" [("class", .any (.string " 1 "))])

theorem reads_own_variant_first :
    (freeze {} "Ticket" [ticket, cabin, berth]).result = .ok (ships, registry) ∧
    (write registry (.oneOf (place.bind 0)) first).result = .ok (.object [("class", .string " 1 ")]) ∧
    (read registry (.oneOf (place.bind 0)) (.object [("class", .string " 1 ")])).result =
      .ok (.oneOf (.int 1) (.object "Cabin" [("class", .any (.string " 1 ")), ("beds", .int 2)])) ∧
    (read registry (.oneOf (place.bind 0)) (.object [("class", .string " 1 ")])).result =
      ((place.bind 0).readTarget registry (bindObject 0 cabin)
        (.object [("class", .string " 1 ")])).result.map (.oneOf (.int 1)) := by
  have hwrite : (write registry (.oneOf (place.bind 0)) first).result =
      .ok (.object [("class", .string " 1 ")]) := rfl
  obtain ⟨key, r, o, inner, _, _, _, hvalue, htarget, hobject, -, -, -, -, -, hread, -⟩ :=
    OneOf.reads_own_variant hwrite
  cases hvalue
  cases htarget
  cases hobject
  exact ⟨rfl, hwrite, rfl, hread⟩

end Ships

end Shapes
