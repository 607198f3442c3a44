import Shapes.Proofs.Decimal.Finite
import Shapes.Proofs.Reading

/-!
Reading is sound: a value that was read has the shape it was read by. Handlers rely on this when they
take values apart.
-/

namespace Shapes

namespace Property

/-- The document for a field: its entry, or else its default. -/
def content? (property : Property Shape) (entries : Fields Json) (name : String) : Option Json :=
  (Json.present? entries name).or property.default

variable {property : Property Shape} {entries : Fields Json} {name : String}

theorem source?_of_content? (budget : Nat) {document : Json}
    (hcontent : property.content? entries name = some document) :
    ∃ less, property.source? budget entries name = some (less, document) := by
  rcases Option.or_eq_some_iff.1 hcontent with hpresent | ⟨habsent, hdefault⟩
  · exact ⟨budget, source?_eq_some_iff.2 (Or.inl ⟨hpresent, rfl⟩)⟩
  · exact ⟨budget - 1, source?_eq_some_iff.2 (Or.inr ⟨habsent, hdefault, rfl⟩)⟩

end Property

theorem Value.isNull_iff {value : Value} : value.isNull = true ↔ value = .null := by
  cases value <;> simp [Value.isNull]

/-- A value has a shape, as what the shape makes of the given document. Leaves are of their own kind.
An object has exactly the declared fields in declaration order, `null` where the document has no
content and there is no default. A choice is made by the key in the document. -/
inductive HasShape (registry : Registry) : Shape → Json → Value → Prop
  | any {document : Json} : HasShape registry .any document (.any document)
  | bool {document : Json} {b : Bool} : HasShape registry .bool document (.bool b)
  | int {document : Json} {k : Int64} : HasShape registry .int document (.int k)
  | float {document : Json} {x : Float} (hfinite : x.isFinite = true) :
      HasShape registry .float document (.float x)
  | string {document : Json} {s : String} : HasShape registry .string document (.string s)
  | list {items : Shape} {inputs : List Json} {values : List Value}
      (hlength : values.length = inputs.length)
      (hitems : ∀ pair ∈ inputs.zip values, HasShape registry items pair.1 pair.2) :
      HasShape registry (.list items) (.array inputs) (.list values)
  | object {shape : Shape} {o : ObjectShape} {entries : Fields Json} {fields : Fields Value}
      (hobject : shape.object? registry = some o)
      (hnames : Fields.names fields = Fields.names o.properties)
      (hnull : ∀ pair ∈ o.properties.zip fields, pair.2.2 = .null ↔
        Json.present? entries pair.1.1 = none ∧ pair.1.2.default = none)
      (hfields : ∀ pair ∈ o.properties.zip fields, ∀ document,
        pair.1.2.content? entries pair.1.1 = some document →
          HasShape registry pair.1.2.shape document pair.2.2) :
      HasShape registry shape (.object entries) (.object o.id fields)
  | oneOf {c : OneOf} {entries : Fields Json} {raw : Json} {key : Discriminant} {r : Reference}
      {inner : Value} (hfield : Fields.get? entries c.field = some raw)
      (hkey : c.kind.coerce raw = some key) (hkind : key.kind = c.kind)
      (hvariant : (key, r) ∈ c.variants) (hid : inner.objectId? = some r.id)
      (hinner : HasShape registry (.ref r) (.object entries) inner) :
      HasShape registry (.oneOf c) (.object entries) (.oneOf key inner)

namespace Shape

variable {registry : Registry} {tolerated : Option String} {budget : Nat} {shape : Shape}
  {document : Json} {value : Value}

private theorem mem_zip_map {α β : Type} {f : α → β} {items : List α} {pair : α × β}
    (hmem : pair ∈ items.zip (items.map f)) : pair.1 ∈ items ∧ pair.2 = f pair.1 := by
  rw [← List.map_prod_left_eq_zip] at hmem
  obtain ⟨a, ha, rfl⟩ := List.mem_map.1 hmem
  exact ⟨ha, rfl⟩

/-- What is read through a reference is an object of the id it refers to. -/
theorem Reads.objectId?_of_ref {r : Reference}
    (hreads : Reads registry tolerated budget (.ref r) document value) :
    value.objectId? = some r.id := by
  cases hreads with
  | object hobject => exact congrArg some (Reference.id_of_target? hobject)

theorem Reads.hasShape (hreads : Reads registry tolerated budget shape document value) :
    HasShape registry shape document value := by
  induction hreads with
  | any => exact .any
  | bool => exact .bool
  | int _ => exact .int
  | float => exact .float (Number.isFinite_toFloat _)
  | string => exact .string
  | list _ ih =>
    refine .list (by simp) fun pair hmem => ?_
    obtain ⟨hinput, heq⟩ := mem_zip_map hmem
    rw [heq]
    exact ih pair.1 hinput
  | @object tolerated budget shape o entries content hobject _ hread habsent ih =>
    refine .object hobject (by simp [ObjectOf.fieldsOf, Fields.names]) ?_ ?_
    · intro pair hmem
      obtain ⟨hfield, heq⟩ := mem_zip_map hmem
      rw [heq, ← Value.isNull_iff, isNull_content_iff (hread pair.1 hfield) (habsent pair.1 hfield),
        Property.source?_eq_none_iff]
    · intro pair hmem part hcontent
      obtain ⟨hfield, heq⟩ := mem_zip_map hmem
      obtain ⟨less, hsource⟩ := Property.source?_of_content? budget hcontent
      rw [heq]
      exact ih pair.1 hfield less part hsource
  | oneOf hfield hkey htarget hinner ih =>
    exact .oneOf hfield hkey (KeyKind.kind_of_coerce hkey) (OneOf.mem_of_target? htarget)
      hinner.objectId?_of_ref ih

/-- A value that was read has the shape it was read by. -/
theorem hasShape_of_read {input : Json} (hread : (read registry shape input).result = .ok value) :
    HasShape registry shape input value :=
  (reads_of_readNested hread).hasShape

end Shape

namespace Trees

open Shape

/-- A tree has a weight, 1 unless given, and may have a note. -/
def tree : ObjectShape where
  id := "Tree"
  properties := [
    ("weight", { shape := .float, default := some (.ofInt64 1) }),
    ("branches", { shape := .list (.ref { id := "Tree", scope := some 0 }), required := true }),
    ("note", { shape := .string })]

def trees : Scope := ⟨0, "Tree", [tree]⟩

def input : Json := .object [("branches", .array [.object [("branches", .array [])]])]

def sapling (branches : List Value) : Value :=
  .object "Tree" [
    ("weight", .float (Number.ofInt64 1).toFloat), ("branches", .list branches), ("note", .null)]

theorem hasShape_of_read_tree :
    (read ⟨1, [trees]⟩ (.scope trees) input).result = .ok (sapling [sapling []]) ∧
      HasShape ⟨1, [trees]⟩ (.scope trees) input (sapling [sapling []]) := by
  have hread : (read ⟨1, [trees]⟩ (.scope trees) input).result = .ok (sapling [sapling []]) := rfl
  exact ⟨hread, hasShape_of_read hread⟩

end Trees

end Shapes
