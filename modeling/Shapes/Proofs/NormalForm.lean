import Shapes.Proofs.Decimal.Exact
import Shapes.Proofs.Soundness
import Shapes.Proofs.Validity

/-!
Normal forms of documents. Reading a document and writing what was read gives the normal form of the
document by its shape, so nothing is lost on the way and nothing is made up. The normal form is told from
the document alone, without values.
-/

namespace Shapes

namespace ObjectOf

/-- The entries for the fields that have a document of their own or a default, in declaration order. -/
def filledEntries (o : ObjectShape) (entries : Fields Json)
    (document : String × Property Shape → Json) : Fields Json :=
  (o.properties.filter fun field => (field.2.content? entries field.1).isSome).map fun field =>
    (field.1, document field)

variable {o : ObjectShape} {entries : Fields Json} {document : String × Property Shape → Json}
  {name : String}

theorem mem_filledEntries {entry : String × Json} :
    entry ∈ o.filledEntries entries document ↔ ∃ field ∈ o.properties,
      (field.2.content? entries field.1).isSome = true ∧ entry = (field.1, document field) := by
  simp only [filledEntries, List.mem_map, List.mem_filter, and_assoc, eq_comm]

/-- A name that has an entry in the document has one among the fields iff it is declared. -/
theorem get?_filledEntries_eq_none_iff (hpresent : Json.isPresent entries name = true) :
    Fields.get? (o.filledEntries entries document) name = none ↔ o.declares name = false := by
  rw [Fields.get?_eq_none_iff, ← Bool.not_eq_true, not_iff_not, declares_iff]
  constructor
  · intro hmem
    obtain ⟨entry, hentry, rfl⟩ := List.mem_map.1 hmem
    obtain ⟨field, hfield, _, rfl⟩ := mem_filledEntries.1 hentry
    exact ⟨field.2, hfield⟩
  · rintro ⟨property, hmem⟩
    have hcontent : (property.content? entries name).isSome = true := by
      rw [Property.content?, Option.isSome_or, ← Json.isPresent, hpresent, Bool.true_or]
    exact List.mem_map.2 ⟨_, mem_filledEntries.2 ⟨_, hmem, hcontent, rfl⟩, rfl⟩

end ObjectOf

namespace OneOf

/-- The discriminator among the entries is the key of a variant, and the variant stands for the object. -/
structure Selects (registry : Registry) (c : OneOf) (entries : Fields Json) (key : Discriminant)
    (r : Reference) (o : ObjectShape) : Prop where
  discriminator : ∃ raw, Fields.get? entries c.field = some raw ∧ c.kind.coerce raw = some key
  variant : c.target? key = some r
  object : r.target? registry = some o

variable {registry : Registry} {c : OneOf} {entries : Fields Json} {key other : Discriminant}
  {r r' : Reference} {o o' : ObjectShape}

theorem Selects.unique (hselects : c.Selects registry entries key r o)
    (hother : c.Selects registry entries other r' o') : other = key ∧ r' = r ∧ o' = o := by
  obtain ⟨⟨raw, hraw, hkey⟩, hvariant, hobject⟩ := hselects
  obtain ⟨⟨raw', hraw', hkey'⟩, hvariant', hobject'⟩ := hother
  cases hraw.symm.trans hraw'
  cases hkey.symm.trans hkey'
  cases hvariant.symm.trans hvariant'
  cases hobject.symm.trans hobject'
  exact ⟨rfl, rfl, rfl⟩

/-- A discriminator is present: `null` is no key. -/
theorem Selects.isPresent (hselects : c.Selects registry entries key r o) :
    Json.isPresent entries c.field = true := by
  obtain ⟨raw, hraw, hkey⟩ := hselects.discriminator
  rw [Json.isPresent, Json.present?_of_coerce hraw hkey]
  rfl

end OneOf

/-- The normal form of a document by a shape. Untyped documents, truth values and texts are as they are, a
number becomes the integer that it stands for or its float, and lists go item by item. An object has the
declared fields that are present or have a default, in declaration order. A choice has the key as its
discriminator: as the field that the selected object declares, or else last. -/
inductive NormalForm (registry : Registry) : Shape → Json → Json → Prop
  | any {document : Json} : NormalForm registry .any document document
  | bool {b : Bool} : NormalForm registry .bool (.bool b) (.bool b)
  | int {n : Number} {k : Int64} (hdenotes : n.Denotes k.toInt) :
      NormalForm registry .int (.number n) (.ofInt64 k)
  | float {n : Number} {hfinite : n.toFloat.isFinite = true} :
      NormalForm registry .float (.number n) (.number (.float n.toFloat hfinite))
  | string {s : String} : NormalForm registry .string (.string s) (.string s)
  | list {items : Shape} {inputs : List Json} {normal : Json → Json}
      (hitems : ∀ input ∈ inputs, NormalForm registry items input (normal input)) :
      NormalForm registry (.list items) (.array inputs) (.array (inputs.map normal))
  | object {shape : Shape} {o : ObjectShape} {entries : Fields Json}
      {normal : String × Property Shape → Json} (hobject : shape.object? registry = some o)
      (hfields : ∀ field ∈ o.properties, ∀ document,
        field.2.content? entries field.1 = some document →
          NormalForm registry field.2.shape document (normal field)) :
      NormalForm registry shape (.object entries) (.object (o.filledEntries entries normal))
  | declared {c : OneOf} {entries : Fields Json} {key : Discriminant} {r : Reference}
      {o : ObjectShape} {inner : Json} (hselects : c.Selects registry entries key r o)
      (hdeclares : o.declares c.field = true)
      (hinner : NormalForm registry (.ref r) (.object entries) inner) :
      NormalForm registry (.oneOf c) (.object entries) inner
  | added {c : OneOf} {entries : Fields Json} {key : Discriminant} {r : Reference}
      {o : ObjectShape} {inner : Fields Json} (hselects : c.Selects registry entries key r o)
      (hdeclares : o.declares c.field = false)
      (hinner : NormalForm registry (.ref r) (.object entries) (.object inner)) :
      NormalForm registry (.oneOf c) (.object entries) (.object (inner ++ [(c.field, key.toJson)]))

namespace NormalForm

variable {registry : Registry} {shape : Shape} {document json other : Json}

/-- A document has one normal form only. -/
theorem unique (hnormal : NormalForm registry shape document json)
    (hother : NormalForm registry shape document other) : other = json := by
  induction hnormal generalizing other with
  | any =>
    cases hother with
    | any => rfl
    | object hobject => cases hobject
  | bool =>
    cases hother
    rfl
  | @int n k hdenotes =>
    cases hother with
    | @int _ l hl =>
      rw [← Number.toInt64?_eq_some_iff] at hdenotes hl
      rw [hdenotes] at hl
      cases hl
      rfl
  | float =>
    cases hother
    rfl
  | string =>
    cases hother
    rfl
  | list _ ih =>
    cases hother with
    | list hitems =>
      congr 1
      exact List.map_congr_left fun input hmem => ih input hmem (hitems input hmem)
  | @object shape o entries normal hobject _ ih =>
    cases hother with
    | object hown hfields =>
      rw [hobject] at hown
      cases hown
      congr 1
      refine List.map_congr_left fun field hmem => ?_
      obtain ⟨hfield, hcontent⟩ := List.mem_filter.1 hmem
      obtain ⟨content, hcontent⟩ := Option.isSome_iff_exists.1 hcontent
      rw [ih field hfield content hcontent (hfields field hfield content hcontent)]
    | _ => cases hobject
  | declared hselects hdeclares _ ih =>
    cases hother with
    | object hown _ => cases hown
    | declared hselects' _ hinner =>
      obtain ⟨rfl, rfl, rfl⟩ := hselects.unique hselects'
      exact ih hinner
    | added hselects' hdeclares' _ =>
      obtain ⟨rfl, rfl, rfl⟩ := hselects.unique hselects'
      rw [hdeclares] at hdeclares'
      cases hdeclares'
  | added hselects hdeclares _ ih =>
    cases hother with
    | object hown _ => cases hown
    | declared hselects' hdeclares' _ =>
      obtain ⟨rfl, rfl, rfl⟩ := hselects.unique hselects'
      rw [hdeclares] at hdeclares'
      cases hdeclares'
    | added hselects' _ hinner =>
      obtain ⟨rfl, rfl, rfl⟩ := hselects.unique hselects'
      cases ih hinner
      rfl

end NormalForm

namespace Shape

variable {registry : Registry} {tolerated : Option String} {budget : Nat} {shape inner : Shape}
  {document json : Json} {value : Value}

/-- What was read is written as the normal form of the document. -/
theorem Reads.normalForm (hreads : Reads registry tolerated budget inner document value)
    (hdistinct : ∀ o, shape.ReachesObject registry o → o.Distinct)
    (hreaches : shape.Reaches registry inner) (hwrites : Writes registry inner value json) :
    NormalForm registry inner document json := by
  induction hreads generalizing json with
  | any =>
    cases hwrites
    exact .any
  | bool =>
    cases hwrites
    exact .bool
  | int hinteger =>
    cases hwrites
    exact .int (Number.toInt64?_eq_some_iff.1 hinteger)
  | @float _ n =>
    cases hwrites with
    | float hfinite =>
      rw [Number.ofFloat?_toFloat] at hfinite
      cases hfinite
      exact .float
  | string =>
    cases hwrites
    exact .string
  | @list _ items inputs content _ ih =>
    cases hwrites with
    | @list _ _ written hitems =>
      rw [List.map_map]
      exact .list fun input hmem =>
        ih input hmem (.item hreaches) (hitems _ (List.mem_map.2 ⟨input, hmem, rfl⟩))
  | @object tolerated budget inner o entries content hobject _ hread habsent ih =>
    have hown := hdistinct o (hreaches.object hobject)
    obtain ⟨_, _, _, part, rfl, hparts⟩ := (writes_object_iff hobject).1 hwrites
    -- The fields that are held are those that have a document.
    have hheld : ∀ field ∈ o.properties, Value.isPresent (o.fieldsOf content) field.1 =
        (field.2.content? entries field.1).isSome := by
      intro field hmem
      rw [Bool.eq_iff_iff, isPresent_iff_of_reads hown hmem (hread field hmem) (habsent field hmem),
        Property.content?, Option.isSome_or, Bool.or_eq_true, ← Option.isSome_iff_ne_none]
      rfl
    have hentries : o.entriesOf (Value.isPresent (o.fieldsOf content)) part =
        o.filledEntries entries part := by
      rw [ObjectOf.entriesOf, ObjectOf.filledEntries, List.filter_congr hheld]
    rw [hentries]
    refine .object hobject fun field hmem document hcontent => ?_
    obtain ⟨less, hsource⟩ := Property.source?_of_content? budget hcontent
    have hnull := (hread field hmem less document hsource).isNull_eq_false
    exact ih field hmem less document hsource (.field hreaches hobject hmem)
      (hparts field hmem _ ((ObjectOf.present?_fieldsOf_eq_some_iff hown hmem).2 ⟨rfl, hnull⟩))
  | @oneOf budget c entries raw key r inner hfield hkey htarget hinner ih =>
    cases hwrites with
    | @oneOf _ _ own _ written _ hown hwritten htag =>
      rw [htarget] at hown
      cases hown
      obtain ⟨o, hobject⟩ := hinner.exists_target
      have hnormal := ih (hreaches.variant (OneOf.mem_of_target? htarget)) hwritten
      have hselects : c.Selects registry entries key r o := ⟨⟨raw, hfield, hkey⟩, htarget, hobject⟩
      obtain ⟨inside, rfl, htagged⟩ := OneOf.tag_eq_ok_iff.1 htag
      -- The discriminator is among the fields of the selected object iff this declares it.
      have hdeclares : Fields.get? inside c.field = none ↔ o.declares c.field = false := by
        generalize hequal : Json.object inside = written at hnormal
        cases hnormal with
        | object hown _ =>
          have htarget : r.target? registry = some _ := hown
          rw [hobject] at htarget
          cases htarget
          cases hequal
          exact ObjectOf.get?_filledEntries_eq_none_iff hselects.isPresent
      rcases htagged with ⟨hnone, rfl⟩ | ⟨found, hfound, _, rfl⟩
      · exact .added hselects (hdeclares.1 hnone) hnormal
      · refine .declared hselects ?_ hnormal
        by_contra hnot
        rw [hdeclares.2 (by simpa using hnot)] at hfound
        cases hfound

/-- Reading a document and writing what was read gives the normal form of the document, which is the only
one that it has. -/
theorem normalForm_of_read_write (hreachable : registry.Reachable) (husable : shape.Usable registry)
    (hread : (read registry shape document).result = .ok value)
    (hwrite : (write registry shape value).result = .ok json) :
    NormalForm registry shape document json ∧
      ∀ other, NormalForm registry shape document other → other = json := by
  have hnormal := (reads_of_readNested hread).normalForm
    (fun o hreached => husable.distinct hreachable.sound hreached) .refl (writes_of_write hwrite)
  exact ⟨hnormal, fun other hother => hnormal.unique hother⟩

end Shape

namespace Orders

open Shape

/-- An order weighs 5 unless told otherwise, and may have notes that are not declared. -/
def order : ObjectShape where
  id := "Order"
  properties := [
    ("weight", { shape := .int, default := some (.ofInt64 5) }),
    ("parcel", {
      shape := .oneOf {
        field := "kind"
        kind := .int
        variants := [(.int 1, { id := "Order" }), (.int 2, { id := "Tube" })]
        uniform := by decide
        distinct := by decide }
      required := true })]
  allowUnknown := true

def tube : ObjectShape where
  id := "Tube"
  properties := [("size", { shape := .int }), ("mark", { shape := .string })]

def scope : Scope := ⟨0, "Order", [order, tube].map (bindObject 0)⟩

def registry : Registry := ⟨1, [scope]⟩

def input : Json := .object [
  ("note", .string "fragile"),
  ("parcel", .object [("kind", .string " +2 "), ("mark", .string "b"), ("size", .null)])]

def tubeOrder : Value := .object "Order" [
  ("weight", .int 5),
  ("parcel", .oneOf (.int 2) (.object "Tube" [("size", .null), ("mark", .string "b")]))]

def output : Json := .object [
  ("weight", .ofInt64 5),
  ("parcel", .object [("mark", .string "b"), ("kind", .ofInt64 2)])]

/-- The order loses its note and its `null`, and gains its weight and a canonical kind. -/
theorem normalForm_of_read_write_order :
    (read registry (.scope scope) input).result = .ok tubeOrder ∧
      (write registry (.scope scope) tubeOrder).result = .ok output ∧
      NormalForm registry (.scope scope) input output ∧
      ∀ other, NormalForm registry (.scope scope) input other → other = output := by
  have husable : ∀ o ∈ [order, tube], (Shape.object o).Usable {} := by
    simp [usable_object_iff, ObjectOf.Distinct, Fields.Distinct, Fields.names, order, tube, objectNodes,
      propertiesNodes, propertyNodes, nodes]
  have hreachable : registry.Reachable :=
    .single (.freeze husable (show (Registry.freeze {} "Order" _).result = _ from rfl))
  have hscope : (Shape.scope scope).Usable registry :=
    usable_of_holds hreachable.sound (.scope (List.mem_singleton.2 rfl))
  have hread : (read registry (.scope scope) input).result = .ok tubeOrder := rfl
  have hwrite : (write registry (.scope scope) tubeOrder).result = .ok output := rfl
  exact ⟨hread, hwrite, normalForm_of_read_write hreachable hscope hread hwrite⟩

end Orders

end Shapes
