import Shapes.Proofs.Object.Rules
import Shapes.Proofs.Outcome
import Shapes.Shape.Unfold

/-!
Reading and writing one object: both succeed iff nothing undeclared is there, the presence rules
hold, and every field that has content converts.
-/

namespace Shapes

instance : Inhabited Value := ⟨.null⟩

namespace Property

/-- What is read for a field, with the budget left for it: its entry, or else its default, which
takes one from the budget. -/
def source? (property : Property Shape) (budget : Nat) (entries : Fields Json) (name : String) :
    Option (Nat × Json) :=
  match Json.present? entries name with
  | some raw => some (budget, raw)
  | none => property.default.map fun document => (budget - 1, document)

variable {property : Property Shape} {budget : Nat} {entries : Fields Json} {name : String}

theorem source?_of_present {raw : Json} (hpresent : Json.present? entries name = some raw) :
    property.source? budget entries name = some (budget, raw) := by
  rw [source?, hpresent]

theorem source?_of_absent (habsent : Json.present? entries name = none) :
    property.source? budget entries name =
      property.default.map fun document => (budget - 1, document) := by
  rw [source?, habsent]

theorem source?_eq_none_iff :
    property.source? budget entries name = none ↔
      Json.present? entries name = none ∧ property.default = none := by
  cases hpresent : Json.present? entries name <;> simp [source?, hpresent]

end Property

namespace ObjectOf

/-- The fields of an object with the given contents. -/
def fieldsOf (o : ObjectShape) (content : String × Property Shape → Value) : Fields Value :=
  o.properties.map fun field => (field.1, content field)

/-- The entries for the present fields of an object, with the given documents. -/
def entriesOf (o : ObjectShape) (present : String → Bool)
    (document : String × Property Shape → Json) : Fields Json :=
  (o.properties.filter fun field => present field.1).map fun field => (field.1, document field)

/-- What an object asks of entries before it reads them. -/
structure Accepts (o : ObjectShape) (budget : Nat) (tolerated : Option String)
    (entries : Fields Json) : Prop where
  known : o.undeclared? tolerated entries = none
  rules : o.Obeys (Json.isPresent entries)
  /-- Defaults are only needed while there is budget left. -/
  funded : ∀ field ∈ o.properties, Json.present? entries field.1 = none → field.2.default ≠ none →
    0 < budget

/-- Every field has the content that its source gives it, and `null` without a source. -/
structure ContentFrom (reads : Nat → Shape → Json → Value → Prop) (o : ObjectShape) (budget : Nat)
    (entries : Fields Json) (content : String × Property Shape → Value) : Prop where
  read : ∀ field ∈ o.properties, ∀ less document,
    field.2.source? budget entries field.1 = some (less, document) →
      reads less field.2.shape document (content field)
  absent : ∀ field ∈ o.properties, field.2.source? budget entries field.1 = none →
    content field = .null

variable {registry : Registry} {o : ObjectShape} {budget : Nat} {entries : Fields Json}

theorem readField_eq_ok_iff {name : String} {property : Property Shape} {value : Value} :
    (readField (Shape.readNested registry budget) (Shape.readDefault registry budget) entries name
        property).result = .ok value ↔
      property.Obeys (Json.isPresent entries) name ∧
        (Json.present? entries name = none → property.default ≠ none → 0 < budget) ∧
        (∀ less document, property.source? budget entries name = some (less, document) →
          (Shape.readNested registry less property.shape document).result = .ok value) ∧
        (property.source? budget entries name = none → value = .null) := by
  unfold readField
  cases hpresent : Json.present? entries name with
  | some raw =>
    have hheld : Json.isPresent entries name = true := by simp [Json.isPresent, hpresent]
    rw [Property.obeys_iff_of_present hheld, Property.source?_of_present hpresent]
    dsimp only
    cases hconflict : property.conflict? (Json.isPresent entries) with
    | some other => simp [Reading.refuse]
    | none =>
      simp only [Reading.inField, Traced.result_mapError_eq_ok, true_and, reduceCtorEq,
        false_imp_iff, and_true, Option.some.injEq, Prod.mk.injEq]
      exact ⟨fun hread less document heq => heq.1 ▸ heq.2 ▸ hread, fun hall => hall _ _ ⟨rfl, rfl⟩⟩
  | none =>
    have hheld : Json.isPresent entries name = false := by simp [Json.isPresent, hpresent]
    rw [Property.obeys_iff_of_absent hheld, Property.source?_of_absent hpresent]
    cases hrequired : property.isRequired (Json.isPresent entries) with
    | true => simp [Reading.refuse]
    | false =>
      cases hdefault : property.default with
      | none =>
        simp only [Bool.false_eq_true, if_false, Traced.result_pure, Except.ok.injEq, Option.map_none,
          reduceCtorEq, false_imp_iff, implies_true, ne_eq, not_true_eq_false, forall_const, true_and]
        exact eq_comm
      | some document =>
        cases budget with
        | zero =>
          simp [Reading.inField, Traced.result_mapError_eq_ok, Shape.readDefault]
        | succ budget =>
          simp [Reading.inField, Traced.result_mapError_eq_ok, Shape.readDefault_succ]

/-- An object reads entries iff it accepts them and all its fields can be read. -/
theorem read_eq_ok_iff {tolerated : Option String} {value : Value} :
    (o.read (Shape.readNested registry budget) (Shape.readDefault registry budget) tolerated
        (.object entries)).result = .ok value ↔
      o.Accepts budget tolerated entries ∧ ∃ content, value = .object o.id (o.fieldsOf content) ∧
        o.ContentFrom (fun less shape document value =>
          (Shape.readNested registry less shape document).result = .ok value) budget entries content := by
  unfold read
  dsimp only
  cases hknown : o.undeclared? tolerated entries with
  | some name =>
    simp only [Reading.refuse, Traced.result_fail, reduceCtorEq, false_iff, not_and]
    intro haccepts _
    rw [haccepts.known] at hknown
    cases hknown
  | none =>
    simp only [Traced.result_bind_eq_ok, Traced.result_pure, Except.ok.injEq,
      Traced.traverse_eq_ok_iff]
    constructor
    · rintro ⟨fields, ⟨g, rfl, hg⟩, rfl⟩
      have hfield : ∀ field ∈ o.properties, (g field).1 = field.1 ∧
          (readField (Shape.readNested registry budget) (Shape.readDefault registry budget) entries
            field.1 field.2).result = .ok (g field).2 := by
        intro field hmem
        obtain ⟨value, hvalue, heq⟩ := hg field hmem
        rw [← heq]
        exact ⟨rfl, hvalue⟩
      refine ⟨⟨hknown, fun field hmem => ?_, fun field hmem => ?_⟩, fun field => (g field).2, ?_, ?_⟩
      · exact (readField_eq_ok_iff.1 (hfield field hmem).2).1
      · exact (readField_eq_ok_iff.1 (hfield field hmem).2).2.1
      · congr 1
        exact List.map_congr_left fun field hmem => by rw [← (hfield field hmem).1]
      · exact ⟨fun field hmem => (readField_eq_ok_iff.1 (hfield field hmem).2).2.2.1,
          fun field hmem => (readField_eq_ok_iff.1 (hfield field hmem).2).2.2.2⟩
    · rintro ⟨haccepts, content, rfl, hcontent⟩
      refine ⟨o.fieldsOf content, ⟨fun field => (field.1, content field), rfl, ?_⟩, rfl⟩
      intro field hmem
      refine ⟨content field, ?_, rfl⟩
      exact readField_eq_ok_iff.2 ⟨haccepts.rules field hmem, haccepts.funded field hmem,
        hcontent.read field hmem, hcontent.absent field hmem⟩

theorem writeField_eq_ok_iff {part : Writer} {fields : Fields Value} {name : String}
    {property : Property Shape} {entry : Option (String × Json)} :
    (writeField part fields name property).result = .ok entry ↔
      property.Obeys (Value.isPresent fields) name ∧
        (∀ content, Value.present? fields name = some content →
          ∃ document, (part property.shape content).result = .ok document ∧
            entry = some (name, document)) ∧
        (Value.present? fields name = none → entry = none) := by
  unfold writeField
  cases hpresent : Value.present? fields name with
  | some content =>
    have hheld : Value.isPresent fields name = true := by simp [Value.isPresent, hpresent]
    rw [Property.obeys_iff_of_present hheld]
    dsimp only
    cases hconflict : property.conflict? (Value.isPresent fields) with
    | some other => simp
    | none =>
      simp only [Traced.result_bind_eq_ok, Writing.inField, Traced.result_mapError_eq_ok,
        Traced.result_pure, Except.ok.injEq, true_and, Option.some.injEq, forall_eq', reduceCtorEq,
        false_imp_iff, and_true]
      exact exists_congr fun document => and_congr_right fun _ => eq_comm
  | none =>
    have hheld : Value.isPresent fields name = false := by simp [Value.isPresent, hpresent]
    rw [Property.obeys_iff_of_absent hheld]
    cases hrequired : property.isRequired (Value.isPresent fields) with
    | true => simp
    | false =>
      simp only [Bool.false_eq_true, if_false, Traced.result_pure, Except.ok.injEq, reduceCtorEq,
        false_imp_iff, implies_true, forall_const, true_and]
      exact eq_comm

theorem filterMap_eq_entriesOf {present : String → Bool} {document : String × Property Shape → Json}
    {entry : String × Property Shape → Option (String × Json)}
    (hentry : ∀ field ∈ o.properties,
      entry field = if present field.1 then some (field.1, document field) else none) :
    (o.properties.map entry).filterMap (fun entry => entry) = o.entriesOf present document := by
  unfold entriesOf
  generalize o.properties = properties at hentry ⊢
  induction properties with
  | nil => rfl
  | cons field rest ih =>
    have hrest := ih fun field hmem => hentry field (by simp [hmem])
    cases hpresent : present field.1 <;>
      simp [hentry field (by simp), hpresent, hrest]

/-- An object writes the fields of a value of its own iff all of them are declared, its rules hold
and the fields that are present can be written. -/
theorem write_eq_ok_iff {part : Writer} {id : String} {fields : Fields Value} {json : Json} :
    (o.write part (.object id fields)).result = .ok json ↔
      id = o.id ∧ (∀ name ∈ Fields.names fields, o.declares name = true) ∧
        o.Obeys (Value.isPresent fields) ∧
        ∃ document, json = .object (o.entriesOf (Value.isPresent fields) document) ∧
          ∀ field ∈ o.properties, ∀ content, Value.present? fields field.1 = some content →
            (part field.2.shape content).result = .ok (document field) := by
  unfold write
  by_cases hid : id = o.id
  · subst hid
    dsimp only
    rw [if_pos rfl]
    cases hfind : (Fields.names fields).find? (!o.declares ·) with
    | some name =>
      have hmem := List.mem_of_find?_eq_some hfind
      have hnot := List.find?_some hfind
      simp only [Traced.result_fail, reduceCtorEq, true_and, false_iff, not_and]
      intro hdeclared
      simp [hdeclared name hmem] at hnot
    | none =>
      have hdeclared : ∀ name ∈ Fields.names fields, o.declares name = true := by
        simpa [List.find?_eq_none] using hfind
      simp only [Traced.result_bind_eq_ok, Traced.result_pure, Except.ok.injEq,
        Traced.traverse_eq_ok_iff, true_and]
      constructor
      · rintro ⟨written, ⟨entry, rfl, hwritten⟩, rfl⟩
        have hfield := fun field hmem => writeField_eq_ok_iff.1 (hwritten field hmem)
        let document : String × Property Shape → Json := fun field =>
          ((entry field).map Prod.snd).getD .null
        refine ⟨hdeclared, fun field hmem => (hfield field hmem).1, document, ?_, ?_⟩
        · congr 1
          refine filterMap_eq_entriesOf fun field hmem => ?_
          obtain ⟨_, hgiven, habsent⟩ := hfield field hmem
          cases hpresent : Value.present? fields field.1 with
          | none => simp [Value.isPresent, hpresent, habsent hpresent]
          | some content =>
            obtain ⟨json, _, heq⟩ := hgiven content hpresent
            simp [Value.isPresent, hpresent, document, heq]
        · intro field hmem content hcontent
          obtain ⟨json, hjson, heq⟩ := (hfield field hmem).2.1 content hcontent
          simpa [document, heq] using hjson
      · rintro ⟨_, hobeys, document, rfl, hdocument⟩
        let entry : String × Property Shape → Option (String × Json) := fun field =>
          if Value.isPresent fields field.1 then some (field.1, document field) else none
        refine ⟨_, ⟨entry, rfl, fun field hmem => writeField_eq_ok_iff.2 ⟨hobeys field hmem, ?_, ?_⟩⟩, ?_⟩
        · intro content hcontent
          refine ⟨document field, hdocument field hmem content hcontent, ?_⟩
          simp [entry, Value.isPresent, hcontent]
        · intro hnone
          simp [entry, Value.isPresent, hnone]
        · congr 1
          exact filterMap_eq_entriesOf fun field _ => rfl
  · simp [hid]

end ObjectOf

end Shapes
