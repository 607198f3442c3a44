import Shapes.Proofs.Levels
import Shapes.Proofs.Location

/-!
The trail of an error. An error of reading tells the way to the first place that offends: every item and every
field that is read earlier on the way reads, and the place itself is refused for what it is. So the path and the
root cause of an error are what the trail has, and whatever has a trail is refused with the error of that trail.
-/

namespace Shapes

/-- A reading put inside a field fails inside that field only. -/
theorem Reading.result_inField_eq_inField_iff {x : Reading Value} {place name : String} {cause : DataError} :
    (x.inField place).result = .error (.failed (.inField name cause)) ↔
      place = name ∧ x.result = .error (.failed cause) := by
  rw [inField, Traced.result_mapError_eq_error]
  constructor
  · rintro ⟨stop, hstop, hplaced⟩
    cases stop with
    | unfinished => cases hplaced
    | failed inner =>
      cases hplaced
      exact ⟨rfl, hstop⟩
  · rintro ⟨rfl, hcause⟩
    exact ⟨.failed cause, hcause, rfl⟩

namespace ObjectOf

variable {o : ObjectShape} {reader : Reader} {tolerated : Option String} {entries : Fields Json}
  {name : String} {property : Property Shape} {cause : DataError}

/-- Reading entries by an object comes to a field: nothing else stands among the entries, every field declared
earlier reads, and the rules of the field hold. -/
structure ComesTo (reader : Reader) (o : ObjectShape) (tolerated : Option String) (entries : Fields Json)
    (field : String × Property Shape) : Prop where
  known : o.undeclared? tolerated entries = none
  earlier : ∃ index, o.properties[index]? = some field ∧ ∀ other ∈ o.properties.take index,
    ∃ value, (readField reader reader entries other.1 other.2).result = .ok value
  rules : field.2.Obeys (Json.isPresent entries) field.1

/-- A field that keeps to its rules fails as its entry does, or else as its default. -/
theorem readField_eq_inField_iff {place : String} :
    (readField reader reader entries place property).result = .error (.failed (.inField name cause)) ↔
      place = name ∧ property.Obeys (Json.isPresent entries) place ∧ ∃ content,
        property.content? entries place = some content ∧
        (reader property.shape content).result = .error (.failed cause) := by
  unfold readField Property.content?
  cases hpresent : Json.present? entries place with
  | some raw =>
    rw [Property.obeys_iff_of_present (by rw [Json.isPresent, hpresent, Option.isSome_some])]
    cases hconflict : property.conflict? (Json.isPresent entries) with
    | some other => simp [Reading.refuse]
    | none => simp [Reading.result_inField_eq_inField_iff]
  | none =>
    rw [Property.obeys_iff_of_absent (by rw [Json.isPresent, hpresent, Option.isSome_none])]
    cases hrequired : property.isRequired (Json.isPresent entries) with
    | true => simp [Reading.refuse]
    | false =>
      cases hdefault : property.default with
      | none => simp
      | some document => simp [Reading.result_inField_eq_inField_iff]

/-- Reading by an object fails inside the first field that fails, and tells the name of that field. -/
theorem result_read_eq_inField_iff :
    (o.read reader reader tolerated (.object entries)).result = .error (.failed (.inField name cause)) ↔
      ∃ field content, o.ComesTo reader tolerated entries field ∧ field.1 = name ∧
        field.2.content? entries field.1 = some content ∧
        (reader field.2.shape content).result = .error (.failed cause) := by
  unfold read
  dsimp only
  cases hknown : o.undeclared? tolerated entries with
  | some other =>
    refine iff_of_false (fun hread => by cases hread) ?_
    rintro ⟨field, content, hcomes, _⟩
    rw [hcomes.known] at hknown
    cases hknown
  | none =>
    simp only [Traced.result_bind_eq_error, Traced.result_pure, reduceCtorEq, and_false, exists_false,
      or_false, Traced.traverse_eq_error_iff, Traced.result_bind_eq_ok, Except.ok.injEq]
    constructor
    · rintro ⟨index, field, hfield, hread, hearlier⟩
      obtain ⟨rfl, hrules, content, hcontent, hcause⟩ := readField_eq_inField_iff.1 hread
      refine ⟨field, content, ⟨hknown, ⟨index, hfield, fun other hother => ?_⟩, hrules⟩, rfl, hcontent, hcause⟩
      obtain ⟨_, value, hvalue, _⟩ := hearlier other hother
      exact ⟨value, hvalue⟩
    · rintro ⟨field, content, ⟨_, ⟨index, hfield, hearlier⟩, hrules⟩, rfl, hcontent, hcause⟩
      refine ⟨index, field, hfield, readField_eq_inField_iff.2 ⟨rfl, hrules, content, hcontent, hcause⟩, ?_⟩
      intro other hother
      obtain ⟨value, hvalue⟩ := hearlier other hother
      exact ⟨_, value, hvalue, rfl⟩

end ObjectOf

namespace Shape

variable {registry : Registry} {shape : Shape} {document : Json} {path : List String} {cause error : DataError}

/-- The way from a document to the first place in it that offends, and what is wrong there. It goes on to an item
after items that read, or to the entry of a field or else its default after fields that read. It ends where the
document is refused for what it is itself, or at a discriminator that no key is read from. -/
inductive Trail (registry : Registry) : Shape → Json → List String → DataError → Prop
  | here {shape : Shape} {document : Json} {cause : DataError} (hcause : cause.path = [])
      (hread : (read registry shape document).result = .error (.failed cause)) :
      Trail registry shape document [] cause
  | discriminator {c : OneOf} {entries : Fields Json} {raw : Json}
      (hraw : Fields.get? entries c.field = some raw) (hkey : c.kind.coerce raw = none) :
      Trail registry (.oneOf c) (.object entries) [c.field]
        (.mismatch (c.kind.representation.text ++ " discriminator") raw.kindName)
  | item {items : Shape} {inputs : List Json} {index : Nat} {input : Json} {path : List String}
      {cause : DataError} (hinput : inputs[index]? = some input)
      (hearlier : ∀ earlier ∈ inputs.take index, ∃ value, (read registry items earlier).result = .ok value)
      (hrest : Trail registry items input path cause) :
      Trail registry (.list items) (.array inputs) (toString index :: path) cause
  | field {shape : Shape} {entries : Fields Json} {o : ObjectShape} {field : String × Property Shape}
      {content : Json} {path : List String} {cause : DataError}
      (hobject : shape.objectFor? registry entries = some o)
      (hcomes : o.ComesTo (read registry) shape.tolerated entries field)
      (hcontent : field.2.content? entries field.1 = some content)
      (hrest : Trail registry field.2.shape content path cause) :
      Trail registry shape (.object entries) (field.1 :: path) cause

private theorem reaches_of_comesTo {o : ObjectShape} {entries : Fields Json} {field : String × Property Shape}
    (hobject : shape.objectFor? registry entries = some o)
    (hcomes : o.ComesTo (read registry) shape.tolerated entries field) :
    shape.Reaches registry field.2.shape := by
  obtain ⟨inner, hinner, hown⟩ := Reaches.refl.objectFor hobject
  obtain ⟨index, hfield, _⟩ := hcomes.earlier
  exact .field hinner hown (List.mem_of_getElem? hfield)

/-- Every error has its trail. -/
theorem trail_of_read (hsound : registry.Sound) (husable : shape.Usable registry)
    (hread : (read registry shape document).result = .error (.failed error)) :
    Trail registry shape document error.path error.rootCause := by
  induction error generalizing shape document with
  | inField name cause ih =>
    rw [result_read_eq hsound husable] at hread
    cases refusal_of_readStep hread with
    | own hpath => cases hpath
    | discriminator hraw hkey => exact .discriminator hraw hkey
    | item hinput hearlier hcause =>
      exact .item hinput hearlier (ih (husable.of_reaches hsound (.item .refl)) hcause)
    | object hobject hobjectRead =>
      obtain ⟨field, content, hcomes, rfl, hcontent, hcause⟩ :=
        ObjectOf.result_read_eq_inField_iff.1 hobjectRead
      have hinner := husable.of_reaches hsound (reaches_of_comesTo hobject hcomes)
      exact .field hobject hcomes hcontent (ih hinner hcause)
  | _ => exact .here rfl hread

/-- What a trail ends with is the error of reading, within the fields and items of the trail. -/
theorem Trail.read_eq (htrail : Trail registry shape document path cause) (hsound : registry.Sound)
    (husable : shape.Usable registry) :
    (read registry shape document).result = .error (.failed (cause.within path)) := by
  induction htrail with
  | here _ hread => exact hread
  | discriminator hraw hkey =>
    rw [result_read_eq hsound husable, readStep, OneOf.read, hraw]
    simp only [hkey]
    rfl
  | @item items inputs index input path cause hinput hearlier _ ih =>
    have hcause := ih (husable.of_reaches hsound (.item .refl))
    simp only [result_read_eq hsound husable, readStep, Reading.inField, Traced.result_bind_eq_error,
      Traced.traverseFrom_mapError_eq_error_iff]
    exact Or.inl ⟨index, input, _, hinput, hcause, hearlier, by rw [Nat.zero_add]; rfl⟩
  | @field shape entries o field content path cause hobject hcomes hcontent _ ih =>
    have hcause := ih (husable.of_reaches hsound (reaches_of_comesTo hobject hcomes))
    rw [result_read_eq hsound husable]
    exact (result_readStep_eq_error_iff hobject).2
      (ObjectOf.result_read_eq_inField_iff.2 ⟨field, content, hcomes, rfl, hcontent, hcause⟩)

/-- A document is refused with an error iff the path of the error is a trail to its root cause. -/
theorem read_eq_error_iff_trail (hreachable : registry.Reachable) (husable : shape.Usable registry) :
    (read registry shape document).result = .error (.failed error) ↔
      Trail registry shape document error.path error.rootCause := by
  refine ⟨trail_of_read hreachable.sound husable, fun htrail => ?_⟩
  rw [htrail.read_eq hreachable.sound husable, ← DataError.eq_within_path]

end Shape

namespace Fleets

open Registry Shape

/-- A fleet lists its vessels, each of them of some class. -/
def vessels : OneOf where
  field := "class"
  kind := .string
  variants := [(.string "barge", { id := "Barge" }), (.string "tug", { id := "Tug" })]
  uniform := by simp [Discriminant.kind]
  distinct := by decide

def fleet : ObjectShape where
  id := "Fleet"
  properties := [("name", { shape := .string }), ("vessels", { shape := .list (.oneOf vessels), required := true })]

/-- Without a crew of its own, a barge gets one that nobody can be the captain of. -/
def barge : ObjectShape where
  id := "Barge"
  properties := [("load", { shape := .int }),
    ("crew", { shape := .ref { id := "Crew" }, default := some (.object [("captain", .bool true)]) })]

def tug : ObjectShape where
  id := "Tug"
  properties := [("power", { shape := .float })]

def crew : ObjectShape where
  id := "Crew"
  properties := [("captain", { shape := .string })]

def fleets : Scope := ⟨0, "Fleet", [fleet, barge, tug, crew].map (bindObject 0)⟩

def registry : Registry := ⟨1, [fleets]⟩

/-- A tug, a barge with nothing on board, and a vessel of no class. -/
def document : Json :=
  .object [("name", .string "north"), ("vessels", .array [
    .object [("class", .string "tug"), ("power", .ofInt64 3)], .object [("class", .string "barge")],
    .object [("class", .ofInt64 1)]])]

/-- The default of the crew is the first thing that offends; the class of the last vessel comes later. -/
theorem read_eq_error_iff_trail_document :
    registry.Reachable ∧ (Shape.scope fleets).Usable registry ∧
    (read registry (.scope fleets) document).result = .error (.failed
      (.inField "vessels" (.inField "1" (.inField "crew" (.inField "captain"
        (.invalidInput "string" "boolean")))))) ∧
    Trail registry (.scope fleets) document ["vessels", "1", "crew", "captain"]
      (.invalidInput "string" "boolean") := by
  have husable : ∀ o ∈ [fleet, barge, tug, crew], (Shape.object o).Usable {} := by
    simp [usable_object_iff, ObjectOf.Distinct, Fields.Distinct, Fields.names, fleet, barge, tug, crew,
      objectNodes, propertiesNodes, propertyNodes, nodes]
  have hfreeze : (Registry.freeze {} "Fleet" [fleet, barge, tug, crew]).result = .ok (fleets, registry) := rfl
  obtain ⟨hreachable, hscope⟩ := usable_of_freeze .refl husable hfreeze
  have hread : (read registry (.scope fleets) document).result = .error (.failed
      (.inField "vessels" (.inField "1" (.inField "crew" (.inField "captain"
        (.invalidInput "string" "boolean")))))) := rfl
  exact ⟨hreachable, hscope, hread, (read_eq_error_iff_trail hreachable hscope).1 hread⟩

end Fleets

end Shapes
