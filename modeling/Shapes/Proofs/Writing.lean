import Shapes.Proofs.Object.Conversion
import Shapes.Proofs.Reach

/-!
Writing as a relation between values and documents, exactly what writing computes. A value is valid
for a shape iff it is related to some document.
-/

namespace Shapes

namespace OneOf

variable {c : OneOf} {key : Discriminant} {document tagged : Json}

/-- The discriminator is added to a document, unless the document has it already. -/
theorem tag_eq_ok_iff :
    c.tag key document = .ok tagged ↔ ∃ entries, document = .object entries ∧
      ((Fields.get? entries c.field = none ∧
          tagged = .object (entries ++ [(c.field, key.toJson)])) ∨
        ∃ found, Fields.get? entries c.field = some found ∧ c.kind.coerce found = some key ∧
          tagged = .object entries) := by
  cases document with
  | object entries =>
    simp only [tag, Json.object.injEq, exists_eq_left']
    cases hfield : Fields.get? entries c.field with
    | none =>
      simp only [Fields.insert_eq_append hfield, Except.ok.injEq, true_and, reduceCtorEq, false_and,
        exists_false, or_false]
      exact eq_comm
    | some found =>
      by_cases hkey : c.kind.coerce found = some key
      · simp only [hkey, if_true, Except.ok.injEq, reduceCtorEq, false_and, Option.some.injEq,
          exists_eq_left', true_and, false_or]
        exact eq_comm
      · simp [hkey]
  | _ => simp [tag]

end OneOf

namespace Shape

variable {registry : Registry} {shape : Shape} {value : Value} {json : Json}

/-- A value writes as a document. -/
inductive Writes (registry : Registry) : Shape → Value → Json → Prop
  | any {value : Value} : Writes registry .any value value.toJson
  | bool {b : Bool} : Writes registry .bool (.bool b) (.bool b)
  | int {k : Int64} : Writes registry .int (.int k) (.ofInt64 k)
  | float {x : Float} {n : Number} (hfinite : Number.ofFloat? x = some n) :
      Writes registry .float (.float x) (.number n)
  | string {s : String} : Writes registry .string (.string s) (.string s)
  | list {items : Shape} {values : List Value} {document : Value → Json}
      (hitems : ∀ item ∈ values, Writes registry items item (document item)) :
      Writes registry (.list items) (.list values) (.array (values.map document))
  | object {shape : Shape} {o : ObjectShape} {fields : Fields Value}
      {document : String × Property Shape → Json} (hobject : shape.object? registry = some o)
      (hknown : ∀ name ∈ Fields.names fields, o.declares name = true)
      (hrules : o.Obeys (Value.isPresent fields))
      (hfields : ∀ field ∈ o.properties, ∀ content, Value.present? fields field.1 = some content →
        Writes registry field.2.shape content (document field)) :
      Writes registry shape (.object o.id fields)
        (.object (o.entriesOf (Value.isPresent fields) document))
  | oneOf {c : OneOf} {key : Discriminant} {r : Reference} {inner : Value} {document tagged : Json}
      (htarget : c.target? key = some r) (hinner : Writes registry (.ref r) inner document)
      (htag : c.tag key document = .ok tagged) :
      Writes registry (.oneOf c) (.oneOf key inner) tagged

private theorem writes_of_object {o : ObjectShape} (hobject : shape.object? registry = some o)
    (hwrite : (o.write (write registry) value).result = .ok json)
    (hparts : ∀ inner part, part.depth < value.depth → ∀ document,
      (write registry inner part).result = .ok document → Writes registry inner part document) :
    Writes registry shape value json := by
  cases value with
  | object id fields =>
    obtain ⟨rfl, hknown, hrules, document, rfl, hfields⟩ := ObjectOf.write_eq_ok_iff.1 hwrite
    refine .object hobject hknown hrules fun field hmem content hpresent => ?_
    exact hparts _ content (Value.depth_lt_of_present? hpresent) _
      (hfields field hmem content hpresent)
  | _ => cases hwrite

/-- What writing gives is related to the value. -/
theorem writes_of_write (hwrite : (write registry shape value).result = .ok json) :
    Writes registry shape value json := by
  induction hdepth : value.depth using Nat.strongRecOn generalizing shape value json with
  | _ depth ih =>
    subst hdepth
    have hparts : ∀ inner part, part.depth < value.depth → ∀ document,
        (write registry inner part).result = .ok document → Writes registry inner part document :=
      fun inner part hlt document hpart => ih part.depth hlt hpart rfl
    rw [write_eq] at hwrite
    cases shape with
    | any =>
      cases hwrite
      exact .any
    | bool =>
      cases value with
      | bool b =>
        cases hwrite
        exact .bool
      | _ => cases hwrite
    | int =>
      cases value with
      | int k =>
        cases hwrite
        exact .int
      | _ => cases hwrite
    | float =>
      cases value with
      | float x =>
        simp only [writeStep] at hwrite
        cases hfinite : Number.ofFloat? x with
        | none =>
          rw [hfinite] at hwrite
          cases hwrite
        | some n =>
          rw [hfinite] at hwrite
          cases hwrite
          exact .float hfinite
      | _ => cases hwrite
    | string =>
      cases value with
      | string s =>
        cases hwrite
        exact .string
      | _ => cases hwrite
    | list items =>
      cases value with
      | list values =>
        simp only [writeStep, Writing.inField, Traced.result_bind_eq_ok, Traced.result_pure,
          Except.ok.injEq, Traced.traverseFrom_mapError_eq_ok, Traced.traverse_eq_ok_iff] at hwrite
        obtain ⟨_, ⟨document, rfl, hitems⟩, rfl⟩ := hwrite
        refine .list fun item hmem => ?_
        exact hparts items item (Value.depth_lt_of_mem_items hmem) _ (hitems item hmem)
      | _ => cases hwrite
    | object o => exact writes_of_object rfl hwrite hparts
    | ref r =>
      simp only [writeStep, Traced.result_bind_eq_ok, Reference.resolve_eq_ok_iff] at hwrite
      obtain ⟨o, htarget, hwrite⟩ := hwrite
      exact writes_of_object htarget hwrite hparts
    | oneOf c =>
      cases value with
      | oneOf key inner =>
        simp only [writeStep] at hwrite
        cases htarget : c.target? key with
        | none =>
          rw [htarget] at hwrite
          cases hwrite
        | some r =>
          rw [htarget] at hwrite
          simp only [Traced.result_bind_eq_ok, Traced.ofExcept] at hwrite
          obtain ⟨document, hinner, htag⟩ := hwrite
          refine .oneOf htarget (hparts _ inner ?_ document hinner) htag
          rw [Value.depth]
          omega
      | _ => cases hwrite
    | scope s =>
      simp only [writeStep] at hwrite
      cases hroot : s.rootObject? with
      | none =>
        rw [hroot] at hwrite
        cases hwrite
      | some o =>
        rw [hroot] at hwrite
        exact writes_of_object hroot hwrite hparts

/-- A shape with an object writes as its object does. -/
theorem result_write_of_object? {o : ObjectShape} (hobject : shape.object? registry = some o) :
    (write registry shape value).result = (o.write (write registry) value).result := by
  rw [write_eq]
  cases shape with
  | object own =>
    cases hobject
    rfl
  | ref r =>
    have hresolve := Reference.resolve_eq_ok_iff.2 hobject
    simp only [writeStep]
    rw [Traced.result_bind, hresolve]
    rfl
  | scope s =>
    have hroot : s.rootObject? = some o := hobject
    simp only [writeStep, hroot]
  | _ => cases hobject

/-- What is related to a value is what writing it gives. -/
theorem write_of_writes (hwrites : Writes registry shape value json) :
    (write registry shape value).result = .ok json := by
  induction hwrites with
  | float hfinite =>
    rw [write_eq]
    simp only [writeStep, hfinite]
    rfl
  | list _ ih =>
    rw [write_eq]
    simp only [writeStep, Writing.inField, Traced.result_bind_eq_ok,
      Traced.traverseFrom_mapError_eq_ok, Traced.traverse_eq_ok_iff]
    exact ⟨_, ⟨_, rfl, ih⟩, rfl⟩
  | object hobject hknown hrules _ ih =>
    rw [result_write_of_object? hobject]
    exact ObjectOf.write_eq_ok_iff.2 ⟨rfl, hknown, hrules, _, rfl, ih⟩
  | oneOf htarget _ htag ih =>
    rw [write_eq]
    simp only [writeStep, htarget, Traced.result_bind_eq_ok]
    exact ⟨_, ih, htag⟩
  | _ =>
    rw [write_eq]
    rfl

/-- Writing computes the relation. -/
theorem write_eq_ok_iff :
    (write registry shape value).result = .ok json ↔ Writes registry shape value json :=
  ⟨writes_of_write, write_of_writes⟩

/-- A value is valid iff it can be written. -/
theorem validate_eq_ok_iff :
    (validate registry shape value).result = .ok () ↔ ∃ json, Writes registry shape value json := by
  simp only [validate, Traced.result_map_eq_ok, write_eq_ok_iff, and_true]

/-- Only references that stand for an object write. -/
theorem Writes.exists_target {r : Reference} (hwrites : Writes registry (.ref r) value json) :
    ∃ o, r.target? registry = some o := by
  cases hwrites with
  | object hobject => exact ⟨_, hobject⟩

/-- Only an untyped document may be written as `null`. -/
theorem Writes.isNull_eq_false (hwrites : Writes registry shape value json) (htyped : shape ≠ .any) :
    json.isNull = false := by
  cases hwrites with
  | any => exact absurd rfl htyped
  | oneOf htarget hinner htag =>
    obtain ⟨entries, _, ⟨_, rfl⟩ | ⟨_, _, _, rfl⟩⟩ := OneOf.tag_eq_ok_iff.1 htag <;> rfl
  | _ => rfl

end Shape

end Shapes
