import Shapes.Proofs.Object.Conversion
import Shapes.Proofs.Reach

/-!
Reading as a relation between documents and values. It has one rule for each kind of shape, and it is
exactly what reading computes.
-/

namespace Shapes

namespace Shape

variable {registry : Registry}

/-- A document reads as a value with at most `budget` nested defaults, where an object tolerates the
entry `tolerated` that it need not declare. A choice hands its discriminator to the object it selects
in this way. -/
inductive Reads (registry : Registry) : Option String → Nat → Shape → Json → Value → Prop
  | any {budget : Nat} {document : Json} : Reads registry none budget .any document (.any document)
  | bool {budget : Nat} {b : Bool} : Reads registry none budget .bool (.bool b) (.bool b)
  | int {budget : Nat} {n : Number} {k : Int64} (hinteger : n.toInt64? = some k) :
      Reads registry none budget .int (.number n) (.int k)
  | float {budget : Nat} {n : Number} :
      Reads registry none budget .float (.number n) (.float n.toFloat)
  | string {budget : Nat} {s : String} : Reads registry none budget .string (.string s) (.string s)
  | list {budget : Nat} {items : Shape} {inputs : List Json} {content : Json → Value}
      (hitems : ∀ input ∈ inputs, Reads registry none budget items input (content input)) :
      Reads registry none budget (.list items) (.array inputs) (.list (inputs.map content))
  | object {tolerated : Option String} {budget : Nat} {shape : Shape} {o : ObjectShape}
      {entries : Fields Json} {content : String × Property Shape → Value}
      (hobject : shape.object? registry = some o) (haccepts : o.Accepts budget tolerated entries)
      (hread : ∀ field ∈ o.properties, ∀ less document,
        field.2.source? budget entries field.1 = some (less, document) →
          Reads registry none less field.2.shape document (content field))
      (habsent : ∀ field ∈ o.properties, field.2.source? budget entries field.1 = none →
        content field = .null) :
      Reads registry tolerated budget shape (.object entries) (.object o.id (o.fieldsOf content))
  | oneOf {budget : Nat} {c : OneOf} {entries : Fields Json} {raw : Json} {key : Discriminant}
      {r : Reference} {inner : Value} (hfield : Fields.get? entries c.field = some raw)
      (hkey : c.kind.coerce raw = some key) (htarget : c.target? key = some r)
      (hinner : Reads registry (some c.field) budget (.ref r) (.object entries) inner) :
      Reads registry none budget (.oneOf c) (.object entries) (.oneOf key inner)

end Shape

/-- An entry that a key is read from is not `null`, so it is present. -/
theorem Json.present?_of_coerce {entries : Fields Json} {name : String} {raw : Json} {kind : KeyKind}
    {key : Discriminant} (hget : Fields.get? entries name = some raw)
    (hkey : kind.coerce raw = some key) : Json.present? entries name = some raw := by
  rw [present?, hget]
  cases raw with
  | null => cases kind <;> cases hkey
  | _ => rfl

namespace Property

variable {property : Property Shape} {budget less : Nat} {entries : Fields Json} {name : String}
  {document : Json}

theorem source?_eq_some_iff :
    property.source? budget entries name = some (less, document) ↔
      (Json.present? entries name = some document ∧ less = budget) ∨
        (Json.present? entries name = none ∧ property.default = some document ∧
          less = budget - 1) := by
  cases hpresent : Json.present? entries name with
  | some raw =>
    rw [source?_of_present hpresent]
    simp only [Option.some.injEq, Prod.mk.injEq, reduceCtorEq, false_and, or_false]
    exact ⟨fun heq => ⟨heq.2, heq.1.symm⟩, fun heq => ⟨heq.2.symm, heq.1⟩⟩
  | none =>
    rw [source?_of_absent hpresent]
    simp only [Option.map_eq_some_iff, Prod.mk.injEq, reduceCtorEq, false_and, true_and, false_or]
    constructor
    · rintro ⟨_, hdefault, rfl, rfl⟩
      exact ⟨hdefault, rfl⟩
    · rintro ⟨hdefault, rfl⟩
      exact ⟨document, hdefault, rfl, rfl⟩

end Property

namespace ObjectOf

variable {o : ObjectShape} {budget less : Nat} {tolerated : Option String} {entries : Fields Json}
  {document : Json} {field : String × Property Shape}

/-- What is read for a field lies deeper in the document, or is left less budget. -/
theorem Accepts.source?_lt (haccepts : o.Accepts budget tolerated entries)
    (hmem : field ∈ o.properties)
    (hsource : field.2.source? budget entries field.1 = some (less, document)) :
    (document.depth < (Json.object entries).depth ∧ less = budget) ∨ less < budget := by
  rcases Property.source?_eq_some_iff.1 hsource with ⟨hpresent, rfl⟩ | ⟨habsent, hdefault, rfl⟩
  · exact Or.inl ⟨Json.depth_lt_of_present? hpresent, rfl⟩
  · have hfunded := haccepts.funded field hmem habsent (by simp [hdefault])
    exact Or.inr (by omega)

end ObjectOf

namespace OneOf

/-- A choice reads entries iff their discriminator selects an object that reads them. -/
theorem read_eq_ok_iff {registry : Registry} {part default : Reader} {c : OneOf}
    {entries : Fields Json} {value : Value} :
    (c.read registry part default (.object entries)).result = .ok value ↔
      ∃ raw key r o inner, Fields.get? entries c.field = some raw ∧ c.kind.coerce raw = some key ∧
        c.target? key = some r ∧ r.target? registry = some o ∧
        (o.read part default (some c.field) (.object entries)).result = .ok inner ∧
        value = .oneOf key inner := by
  unfold read
  dsimp only
  cases hfield : Fields.get? entries c.field with
  | none => simp [Reading.refuse]
  | some raw =>
    dsimp only
    cases hkey : c.kind.coerce raw with
    | none => simp [hkey, Reading.refuse]
    | some key =>
      dsimp only
      cases htarget : c.target? key with
      | none => simp [hkey, htarget, Reading.refuse]
      | some r =>
        simp only [Traced.result_bind_eq_ok, Reference.resolve_budgeted_eq_ok_iff,
          Traced.result_announce, Traced.result_pure, Except.ok.injEq]
        constructor
        · rintro ⟨_, _, o, hobject, inner, hinner, rfl⟩
          exact ⟨raw, key, r, o, inner, rfl, hkey, htarget, hobject, hinner, rfl⟩
        · rintro ⟨_, _, _, o, inner, hraw, hkey', htarget', hobject, hinner, rfl⟩
          cases hraw
          rw [hkey] at hkey'
          cases hkey'
          rw [htarget] at htarget'
          cases htarget'
          exact ⟨(), trivial, o, hobject, inner, hinner, rfl⟩

end OneOf

namespace Shape

variable {registry : Registry} {budget : Nat} {shape : Shape} {document : Json} {value : Value}

/-- Reading goes down in the document, or takes a default from the budget. -/
theorem readNested_induction {P : Nat → Shape → Json → Prop}
    (hstep : ∀ budget shape document,
      (∀ inner part, part.depth < document.depth → P budget inner part) →
        (∀ less, less < budget → ∀ inner part, P less inner part) → P budget shape document)
    (budget : Nat) (shape : Shape) (document : Json) : P budget shape document := by
  induction budget using Nat.strongRecOn generalizing shape document with
  | _ budget ihBudget =>
    induction hdepth : document.depth using Nat.strongRecOn generalizing shape document with
    | _ depth ihDepth =>
      subst hdepth
      exact hstep budget shape document (fun inner part hlt => ihDepth part.depth hlt inner part rfl)
        ihBudget

private theorem reads_of_object {tolerated : Option String} {o : ObjectShape}
    (hobject : shape.object? registry = some o)
    (hread : (o.read (readNested registry budget) (readDefault registry budget) tolerated
      document).result = .ok value)
    (hparts : ∀ inner part, part.depth < document.depth → ∀ content,
      (readNested registry budget inner part).result = .ok content →
        Reads registry none budget inner part content)
    (hdefaults : ∀ less, less < budget → ∀ inner part content,
      (readNested registry less inner part).result = .ok content →
        Reads registry none less inner part content) :
    Reads registry tolerated budget shape document value := by
  cases document with
  | object entries =>
    obtain ⟨haccepts, content, rfl, hcontent⟩ := ObjectOf.read_eq_ok_iff.1 hread
    refine .object hobject haccepts (fun field hmem less part hsource => ?_) hcontent.absent
    have hpart := hcontent.read field hmem less part hsource
    rcases haccepts.source?_lt hmem hsource with ⟨hdepth, rfl⟩ | hless
    · exact hparts _ part hdepth _ hpart
    · exact hdefaults less hless _ part _ hpart
  | _ => cases hread

/-- What reading gives is related to the document. -/
theorem reads_of_readNested (hread : (readNested registry budget shape document).result = .ok value) :
    Reads registry none budget shape document value := by
  induction budget, shape, document using readNested_induction generalizing value with
  | hstep budget shape document ihPart ihDefault =>
    rw [readNested_eq] at hread
    cases shape with
    | any =>
      cases hread
      exact .any
    | bool =>
      cases document with
      | bool b =>
        cases hread
        exact .bool
      | _ => cases hread
    | int =>
      cases document with
      | number n =>
        simp only [readStep] at hread
        cases hinteger : n.toInt64? with
        | none =>
          rw [hinteger] at hread
          cases hread
        | some k =>
          rw [hinteger] at hread
          cases hread
          exact .int hinteger
      | _ => cases hread
    | float =>
      cases document with
      | number n =>
        cases hread
        exact .float
      | _ => cases hread
    | string =>
      cases document with
      | string s =>
        cases hread
        exact .string
      | _ => cases hread
    | list items =>
      cases document with
      | array inputs =>
        simp only [readStep, Reading.inField, Traced.result_bind_eq_ok, Traced.result_pure,
          Except.ok.injEq, Traced.traverseFrom_mapError_eq_ok, Traced.traverse_eq_ok_iff] at hread
        obtain ⟨_, ⟨content, rfl, hcontent⟩, rfl⟩ := hread
        refine .list fun input hmem => ?_
        exact ihPart items input (Json.depth_lt_of_mem_items hmem) (hcontent input hmem)
      | _ => cases hread
    | object o =>
      exact reads_of_object rfl hread (fun inner part hlt content => ihPart inner part hlt)
        fun less hless inner part content => ihDefault less hless inner part
    | ref r =>
      simp only [readStep, Traced.result_bind_eq_ok, Reference.resolve_budgeted_eq_ok_iff] at hread
      obtain ⟨o, htarget, hread⟩ := hread
      exact reads_of_object htarget hread (fun inner part hlt content => ihPart inner part hlt)
        fun less hless inner part content => ihDefault less hless inner part
    | oneOf c =>
      cases document with
      | object entries =>
        obtain ⟨raw, key, r, o, inner, hfield, hkey, htarget, hobject, hinner, rfl⟩ :=
          OneOf.read_eq_ok_iff.1 hread
        refine .oneOf hfield hkey htarget (reads_of_object hobject hinner ?_ ?_)
        · exact fun inner part hlt content => ihPart inner part hlt
        · exact fun less hless inner part content => ihDefault less hless inner part
      | _ => cases hread
    | scope s =>
      simp only [readStep] at hread
      cases hroot : s.rootObject? with
      | none =>
        rw [hroot] at hread
        cases hread
      | some o =>
        rw [hroot] at hread
        exact reads_of_object hroot hread (fun inner part hlt content => ihPart inner part hlt)
          fun less hless inner part content => ihDefault less hless inner part

/-- A shape with an object reads as its object does. -/
theorem result_readStep_of_object? {part default : Reader} {o : ObjectShape}
    (hobject : shape.object? registry = some o) :
    (readStep registry part default shape document).result =
      (o.read part default none document).result := by
  cases shape with
  | object own =>
    cases hobject
    rfl
  | ref r =>
    have hresolve := Reference.resolve_budgeted_eq_ok_iff.2 hobject
    simp only [readStep]
    rw [Traced.result_bind, hresolve]
    rfl
  | scope s =>
    have hroot : s.rootObject? = some o := hobject
    simp only [readStep, hroot]
  | _ => cases hobject

theorem result_readNested_of_object? {o : ObjectShape} (hobject : shape.object? registry = some o) :
    (readNested registry budget shape document).result =
      (o.read (readNested registry budget) (readDefault registry budget) none document).result := by
  rw [readNested_eq, result_readStep_of_object? hobject]

/-- Only references that stand for an object read. -/
theorem Reads.exists_target {tolerated : Option String} {r : Reference}
    (hreads : Reads registry tolerated budget (.ref r) document value) :
    ∃ o, r.target? registry = some o := by
  cases hreads with
  | object hobject => exact ⟨_, hobject⟩

/-- What is related to a document is what reading it gives. -/
theorem readNested_of_reads {tolerated : Option String}
    (hreads : Reads registry tolerated budget shape document value) :
    (∀ o, shape.object? registry = some o →
      (o.read (readNested registry budget) (readDefault registry budget) tolerated
        document).result = .ok value) ∧
      (tolerated = none → (readNested registry budget shape document).result = .ok value) := by
  induction hreads with
  | any => exact ⟨by rintro _ ⟨⟩, fun _ => by rw [readNested_eq]; rfl⟩
  | bool => exact ⟨by rintro _ ⟨⟩, fun _ => by rw [readNested_eq]; rfl⟩
  | float => exact ⟨by rintro _ ⟨⟩, fun _ => by rw [readNested_eq]; rfl⟩
  | string => exact ⟨by rintro _ ⟨⟩, fun _ => by rw [readNested_eq]; rfl⟩
  | int hinteger =>
    refine ⟨by rintro _ ⟨⟩, fun _ => ?_⟩
    rw [readNested_eq]
    simp only [readStep, hinteger]
    rfl
  | list hitems ih =>
    refine ⟨by rintro _ ⟨⟩, fun _ => ?_⟩
    rw [readNested_eq]
    simp only [readStep, Reading.inField, Traced.result_bind_eq_ok,
      Traced.traverseFrom_mapError_eq_ok, Traced.traverse_eq_ok_iff]
    exact ⟨_, ⟨_, rfl, fun input hmem => (ih input hmem).2 rfl⟩, rfl⟩
  | @object tolerated budget shape o entries content hobject haccepts hread habsent ih =>
    have hok : (o.read (readNested registry budget) (readDefault registry budget) tolerated
        (.object entries)).result = .ok (.object o.id (o.fieldsOf content)) := by
      refine ObjectOf.read_eq_ok_iff.2 ⟨haccepts, content, rfl, ?_, habsent⟩
      exact fun field hmem less part hsource => (ih field hmem less part hsource).2 rfl
    refine ⟨fun other hother => ?_, ?_⟩
    · rw [hobject] at hother
      cases hother
      exact hok
    · rintro rfl
      rw [result_readNested_of_object? hobject, hok]
  | oneOf hfield hkey htarget hinner ih =>
    refine ⟨by rintro _ ⟨⟩, fun _ => ?_⟩
    obtain ⟨o, hobject⟩ := hinner.exists_target
    rw [readNested_eq]
    exact OneOf.read_eq_ok_iff.2
      ⟨_, _, _, o, _, hfield, hkey, htarget, hobject, ih.1 o hobject, rfl⟩

/-- Reading computes the relation. -/
theorem readNested_eq_ok_iff :
    (readNested registry budget shape document).result = .ok value ↔
      Reads registry none budget shape document value :=
  ⟨reads_of_readNested, fun hreads => (readNested_of_reads hreads).2 rfl⟩

/-- More budget does no harm. -/
theorem Reads.mono {tolerated : Option String} {more : Nat}
    (hreads : Reads registry tolerated budget shape document value) (hmore : budget ≤ more) :
    Reads registry tolerated more shape document value := by
  induction hreads generalizing more with
  | any => exact .any
  | bool => exact .bool
  | int hinteger => exact .int hinteger
  | float => exact .float
  | string => exact .string
  | list _ ih => exact .list fun input hmem => ih input hmem hmore
  | @object tolerated budget shape o entries content hobject haccepts _ habsent ih =>
    refine .object hobject ⟨haccepts.known, haccepts.rules, ?_⟩ ?_ ?_
    · intro field hmem hpresent hdefault
      have hfunded := haccepts.funded field hmem hpresent hdefault
      omega
    · intro field hmem less document hsource
      rcases Property.source?_eq_some_iff.1 hsource with ⟨hpresent, rfl⟩ | ⟨hpresent, hdefault, rfl⟩
      · exact ih field hmem budget document
          (Property.source?_eq_some_iff.2 (Or.inl ⟨hpresent, rfl⟩)) hmore
      · exact ih field hmem (budget - 1) document
          (Property.source?_eq_some_iff.2 (Or.inr ⟨hpresent, hdefault, rfl⟩)) (by omega)
    · intro field hmem hnone
      rw [Property.source?_eq_none_iff] at hnone
      exact habsent field hmem (Property.source?_eq_none_iff.2 hnone)
  | oneOf hfield hkey htarget _ ih => exact .oneOf hfield hkey htarget (ih hmore)

/-- Nothing reads as `null`, which stands for absence. -/
theorem Reads.isNull_eq_false {tolerated : Option String}
    (hreads : Reads registry tolerated budget shape document value) : value.isNull = false := by
  cases hreads <;> rfl

/-- The content of a field is `null` iff there was nothing to read. -/
theorem isNull_content_iff {entries : Fields Json} {field : String × Property Shape}
    {content : Value}
    (hread : ∀ less document, field.2.source? budget entries field.1 = some (less, document) →
      Reads registry none less field.2.shape document content)
    (habsent : field.2.source? budget entries field.1 = none → content = .null) :
    content.isNull = true ↔ field.2.source? budget entries field.1 = none := by
  cases hsource : field.2.source? budget entries field.1 with
  | none => simp [habsent hsource, Value.isNull]
  | some source => simp [(hread source.1 source.2 hsource).isNull_eq_false]

theorem exists_source_of_content {entries : Fields Json} {field : String × Property Shape}
    {content : Value}
    (hread : ∀ less document, field.2.source? budget entries field.1 = some (less, document) →
      Reads registry none less field.2.shape document content)
    (habsent : field.2.source? budget entries field.1 = none → content = .null)
    (hheld : content.isNull = false) :
    ∃ less document, field.2.source? budget entries field.1 = some (less, document) := by
  have hne : field.2.source? budget entries field.1 ≠ none := by
    rw [Ne, ← isNull_content_iff hread habsent, hheld]
    exact Bool.false_ne_true
  obtain ⟨⟨less, document⟩, hsource⟩ := Option.ne_none_iff_exists'.1 hne
  exact ⟨less, document, hsource⟩

end Shape

end Shapes
