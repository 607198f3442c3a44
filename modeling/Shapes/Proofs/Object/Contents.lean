import Shapes.Proofs.Object.Conversion

/-!
Looking up in the fields that an object reads and in the entries that it writes.
-/

namespace Shapes.ObjectOf

variable {o : ObjectShape} {field : String × Property Shape} {name : String}

section Fields

variable {content : String × Property Shape → Value}

theorem names_fieldsOf : Fields.names (o.fieldsOf content) = Fields.names o.properties := by
  simp [fieldsOf, Fields.names]

theorem declares_of_mem_names (hmem : name ∈ Fields.names (o.fieldsOf content)) :
    o.declares name = true := by
  rw [names_fieldsOf] at hmem
  obtain ⟨field, hfield, rfl⟩ := List.mem_map.1 hmem
  exact declares_iff.2 ⟨field.2, hfield⟩

theorem get?_fieldsOf (hdistinct : o.Distinct) (hmem : field ∈ o.properties) :
    Fields.get? (o.fieldsOf content) field.1 = some (content field) := by
  apply Fields.get?_of_mem
  · rw [Fields.Distinct, names_fieldsOf]
    exact hdistinct
  · exact List.mem_map.2 ⟨field, hmem, rfl⟩

theorem present?_fieldsOf_eq_some_iff (hdistinct : o.Distinct) (hmem : field ∈ o.properties)
    {value : Value} : Value.present? (o.fieldsOf content) field.1 = some value ↔
      value = content field ∧ value.isNull = false := by
  rw [Value.present?, get?_fieldsOf hdistinct hmem, Option.filter_eq_some_iff, Option.some.injEq,
    eq_comm, Bool.not_eq_true']

theorem isPresent_fieldsOf (hdistinct : o.Distinct) (hmem : field ∈ o.properties) :
    Value.isPresent (o.fieldsOf content) field.1 = !(content field).isNull := by
  rw [Value.isPresent, Value.present?, get?_fieldsOf hdistinct hmem]
  cases hnull : (content field).isNull <;> simp [hnull]

theorem isPresent_fieldsOf_of_undeclared (hundeclared : o.declares name = false) :
    Value.isPresent (o.fieldsOf content) name = false := by
  have hnone : Fields.get? (o.fieldsOf content) name = none := by
    rw [Fields.get?_eq_none_iff]
    intro hmem
    rw [declares_of_mem_names hmem] at hundeclared
    cases hundeclared
  rw [Value.isPresent, Value.present?, hnone]
  rfl

end Fields

section Entries

variable {present : String → Bool} {document : String × Property Shape → Json}

theorem mem_entriesOf {entry : String × Json} :
    entry ∈ o.entriesOf present document ↔
      ∃ field ∈ o.properties, present field.1 = true ∧ entry = (field.1, document field) := by
  simp only [entriesOf, List.mem_map, List.mem_filter, and_assoc, eq_comm]

theorem declares_of_mem_names_entriesOf
    (hmem : name ∈ Fields.names (o.entriesOf present document)) : o.declares name = true := by
  obtain ⟨entry, hentry, rfl⟩ := List.mem_map.1 hmem
  obtain ⟨field, hfield, _, rfl⟩ := mem_entriesOf.1 hentry
  exact declares_iff.2 ⟨field.2, hfield⟩

theorem get?_entriesOf_of_undeclared (hundeclared : o.declares name = false) :
    Fields.get? (o.entriesOf present document) name = none := by
  rw [Fields.get?_eq_none_iff]
  intro hmem
  rw [declares_of_mem_names_entriesOf hmem] at hundeclared
  cases hundeclared

theorem distinct_entriesOf (hdistinct : o.Distinct) : Fields.Distinct (o.entriesOf present document) := by
  refine List.Nodup.sublist ?_ hdistinct
  simp only [entriesOf, Fields.names, List.map_map]
  exact List.filter_sublist.map _

theorem get?_entriesOf (hdistinct : o.Distinct) (hmem : field ∈ o.properties) :
    Fields.get? (o.entriesOf present document) field.1 =
      if present field.1 then some (document field) else none := by
  split
  · rename_i hpresent
    exact Fields.get?_of_mem (distinct_entriesOf hdistinct) (mem_entriesOf.2 ⟨field, hmem, hpresent, rfl⟩)
  · rename_i habsent
    rw [Fields.get?_eq_none_iff]
    intro hnames
    obtain ⟨entry, hentry, hname⟩ := List.mem_map.1 hnames
    obtain ⟨other, _, hpresent, rfl⟩ := mem_entriesOf.1 hentry
    rw [← hname] at habsent
    exact habsent hpresent

/-- Every entry is that of a field that is present. -/
theorem exists_of_get?_entriesOf {json : Json}
    (hget : Fields.get? (o.entriesOf present document) name = some json) :
    ∃ property, (name, property) ∈ o.properties ∧ present name = true ∧
      json = document (name, property) := by
  obtain ⟨⟨_, property⟩, hmem, hpresent, heq⟩ := mem_entriesOf.1 (Fields.mem_of_get? hget)
  cases heq
  exact ⟨property, hmem, hpresent, rfl⟩

/-- A name has an entry iff it is present, if only declared names are. -/
theorem get?_entriesOf_eq_none_iff (hdeclared : present name = true → o.declares name = true) :
    Fields.get? (o.entriesOf present document) name = none ↔ present name = false := by
  constructor
  · intro hnone
    by_contra hpresent
    rw [Bool.not_eq_false] at hpresent
    obtain ⟨property, hmem⟩ := declares_iff.1 (hdeclared hpresent)
    refine Fields.get?_eq_none_iff.1 hnone (List.mem_map.2 ⟨_, mem_entriesOf.2 ⟨_, hmem, hpresent, rfl⟩, rfl⟩)
  · intro habsent
    by_contra hsome
    obtain ⟨json, hjson⟩ := Option.ne_none_iff_exists'.1 hsome
    obtain ⟨_, _, hpresent, _⟩ := exists_of_get?_entriesOf hjson
    rw [habsent] at hpresent
    cases hpresent

/-- A field has an entry that is present iff it is written, if nothing is written as `null`. -/
theorem present?_entriesOf (hdistinct : o.Distinct) (hmem : field ∈ o.properties)
    (hheld : present field.1 = true → (document field).isNull = false) :
    Json.present? (o.entriesOf present document) field.1 =
      if present field.1 then some (document field) else none := by
  rw [Json.present?, get?_entriesOf hdistinct hmem]
  split
  · rename_i hpresent
    simp [hheld hpresent]
  · rfl

end Entries

end Shapes.ObjectOf
