import Shapes.Proofs.NormalForm
import Shapes.Proofs.Variants

/-!
Places in documents. A shape leads to a part of a document by the items and the fields on the way to it, past
references, scopes and choices. What can be read can be read at every place, and an error tells the way to the
place where it came up.
-/

namespace Shapes

open Traced (FailsOnly)

namespace DataError

variable {path : List String} {error : DataError}

theorem rootCause_within : (error.within path).rootCause = error.rootCause := by
  induction path with
  | nil => rfl
  | cons _ _ ih => exact ih

theorem path_within : (error.within path).path = path ++ error.path := by
  induction path with
  | nil => rfl
  | cons field _ ih => exact congrArg (field :: ·) ih

theorem rootCause_of_path_eq_nil (hpath : error.path = []) : error.rootCause = error := by
  cases error with
  | inField => cases hpath
  | _ => rfl

end DataError

namespace Shape

variable {registry : Registry} {shape inner : Shape} {document part : Json} {entries : Fields Json}
  {budget : Nat} {value : Value} {o : ObjectShape} {path : List String} {parts defaults : Reader}

/-- The object by which a shape reads entries: its own, or the one that the discriminator among the entries
selects. -/
def objectFor? (registry : Registry) (entries : Fields Json) : Shape → Option ObjectShape
  | .oneOf c => do
    let raw ← Fields.get? entries c.field
    let key ← c.kind.coerce raw
    let r ← c.target? key
    r.target? registry
  | shape => shape.object? registry

/-- The entry that the object by which a shape reads need not declare. -/
def tolerated : Shape → Option String
  | .oneOf c => some c.field
  | _ => none

theorem objectFor?_of_object? (hobject : shape.object? registry = some o) (entries : Fields Json) :
    shape.objectFor? registry entries = some o ∧ shape.tolerated = none := by
  cases shape with
  | oneOf c => cases hobject
  | _ => exact ⟨hobject, rfl⟩

theorem objectFor?_oneOf_eq_some_iff {c : OneOf} :
    (Shape.oneOf c).objectFor? registry entries = some o ↔ ∃ key r, c.Selects registry entries key r o := by
  simp only [objectFor?, Option.bind_eq_bind, Option.bind_eq_some_iff]
  constructor
  · rintro ⟨raw, hraw, key, hkey, r, hvariant, hobject⟩
    exact ⟨key, r, ⟨raw, hraw, hkey⟩, hvariant, hobject⟩
  · rintro ⟨key, r, ⟨raw, hraw, hkey⟩, hvariant, hobject⟩
    exact ⟨raw, hraw, key, hkey, r, hvariant, hobject⟩

/-- A shape that is no choice reads by its own object only. -/
theorem objectFor?_eq_some_iff :
    shape.objectFor? registry entries = some o ↔
      shape.object? registry = some o ∨ ∃ c key r, shape = .oneOf c ∧ c.Selects registry entries key r o := by
  cases shape with
  | oneOf c =>
    rw [objectFor?_oneOf_eq_some_iff]
    constructor
    · rintro ⟨key, r, hselects⟩
      exact Or.inr ⟨c, key, r, rfl, hselects⟩
    · rintro (hnone | ⟨_, key, r, hchoice, hselects⟩)
      · cases hnone
      · cases hchoice
        exact ⟨key, r, hselects⟩
  | _ => simp [objectFor?]

theorem Reaches.objectFor {root : Shape} (hreaches : root.Reaches registry shape)
    (hobject : shape.objectFor? registry entries = some o) : root.ReachesObject registry o := by
  rcases objectFor?_eq_some_iff.1 hobject with hown | ⟨c, key, r, rfl, hselects⟩
  · exact hreaches.object hown
  · exact (hreaches.variant (OneOf.mem_of_target? hselects.variant)).object hselects.object

/-- Reading entries fails as reading them by the object does. -/
theorem result_readStep_eq_error_iff (hobject : shape.objectFor? registry entries = some o)
    {stop : Stop DataError} : (readStep registry parts defaults shape (.object entries)).result = .error stop ↔
      (o.read parts defaults shape.tolerated (.object entries)).result = .error stop := by
  rcases objectFor?_eq_some_iff.1 hobject with hown | ⟨c, key, r, rfl, ⟨raw, hraw, hkey⟩, hvariant, htarget⟩
  · rw [result_readStep_of_object? hown, (objectFor?_of_object? hown entries).2]
  · rw [readStep, OneOf.result_read_of_selects hraw hkey hvariant htarget, tolerated]
    cases (o.read _ _ (some c.field) (.object entries)).result <;> simp [Except.map]

theorem result_eq_error_iff_of_objectFor? (hobject : shape.objectFor? registry entries = some o)
    {stop : Stop DataError} : (readNested registry budget shape (.object entries)).result = .error stop ↔
      (o.read (readNested registry budget) (readDefault registry budget) shape.tolerated
        (.object entries)).result = .error stop := by
  rw [readNested_eq, result_readStep_eq_error_iff hobject]

/-- A shape leads from a document to a part of it and the shape by which that is read. The path has the index of
each item and the name of each field on the way. The default of an absent field is a part like any other. -/
inductive Leads (registry : Registry) : Shape → Json → List String → Shape → Json → Prop
  | here {shape : Shape} {document : Json} : Leads registry shape document [] shape document
  | item {items inner : Shape} {inputs : List Json} {index : Nat} {input part : Json} {path : List String}
      (hinput : inputs[index]? = some input) (hrest : Leads registry items input path inner part) :
      Leads registry (.list items) (.array inputs) (toString index :: path) inner part
  | field {shape inner : Shape} {entries : Fields Json} {o : ObjectShape}
      {field : String × Property Shape} {content part : Json} {path : List String}
      (hobject : shape.objectFor? registry entries = some o) (hmem : field ∈ o.properties)
      (hcontent : field.2.content? entries field.1 = some content)
      (hrest : Leads registry field.2.shape content path inner part) :
      Leads registry shape (.object entries) (field.1 :: path) inner part

/-- What can be read can be read at every place. -/
theorem Reads.of_leads (hleads : Leads registry shape document path inner part)
    (hreads : Reads registry none budget shape document value) :
    ∃ less content, Reads registry none less inner part content := by
  induction hleads generalizing budget value with
  | here => exact ⟨budget, value, hreads⟩
  | item hinput _ ih =>
    cases hreads with
    | list hitems => exact ih (hitems _ (List.mem_of_getElem? hinput))
  | @field shape inner entries o field content part path hobject hmem hcontent _ ih =>
    obtain ⟨less, hsource⟩ := Property.source?_of_content? budget hcontent
    cases hreads with
    | any => cases hobject
    | object hown _ hread _ =>
      cases hobject.symm.trans (objectFor?_of_object? hown _).1
      exact ih (hread field hmem less content hsource)
    | oneOf hfield hkey htarget hinner =>
      cases hinner with
      | object hown _ hread _ =>
        obtain ⟨_, _, hselects⟩ := objectFor?_oneOf_eq_some_iff.1 hobject
        obtain ⟨_, _, rfl⟩ := OneOf.Selects.unique hselects ⟨⟨_, hfield, hkey⟩, htarget, hown⟩
        exact ih (hread field hmem less content hsource)

/-- Why a document is refused: for what it is itself, for the kind of its discriminator, for the first item that
does not read, or by the object that reads its entries. -/
inductive Refusal (registry : Registry) (parts defaults : Reader) : Shape → Json → DataError → Prop
  | own {shape : Shape} {document : Json} {error : DataError} (hpath : error.path = [])
      (hknown : ∀ name, error ≠ .unknownField name) : Refusal registry parts defaults shape document error
  | discriminator {c : OneOf} {entries : Fields Json} {raw : Json}
      (hraw : Fields.get? entries c.field = some raw) (hkey : c.kind.coerce raw = none) :
      Refusal registry parts defaults (.oneOf c) (.object entries)
        (.inField c.field (.mismatch (c.kind.representation.text ++ " discriminator") raw.kindName))
  | item {items : Shape} {inputs : List Json} {index : Nat} {input : Json} {cause : DataError}
      (hinput : inputs[index]? = some input)
      (hearlier : ∀ earlier ∈ inputs.take index, ∃ value, (parts items earlier).result = .ok value)
      (hcause : (parts items input).result = .error (.failed cause)) :
      Refusal registry parts defaults (.list items) (.array inputs) (.inField (toString index) cause)
  | object {shape : Shape} {entries : Fields Json} {o : ObjectShape} {error : DataError}
      (hobject : shape.objectFor? registry entries = some o)
      (hread : (o.read parts defaults shape.tolerated (.object entries)).result = .error (.failed error)) :
      Refusal registry parts defaults shape (.object entries) error

variable {error cause : DataError} {name : String}

private theorem refusal_of_invalid {expected found : String}
    (hread : (Reading.refuse (.invalidInput expected found) : Reading Value).result = .error (.failed error)) :
    Refusal registry parts defaults shape document error := by
  cases hread
  exact .own rfl (by simp)

private theorem refusal_of_resolve {r : Reference}
    (hresolve : ((r.resolve registry).budgeted).result = .error (.failed error)) :
    Refusal registry parts defaults shape document error := by
  obtain ⟨_, hcause, heq⟩ := Traced.result_mapError_eq_error.1 hresolve
  cases heq
  rw [(Reference.resolve_eq_error hcause).2]
  exact .own rfl (by simp)

private theorem refusal_of_read_object (hobject : shape.object? registry = some o)
    (hread : (o.read parts defaults none document).result = .error (.failed error)) :
    Refusal registry parts defaults shape document error := by
  cases document with
  | object entries =>
    obtain ⟨hfor, htolerated⟩ := objectFor?_of_object? hobject entries
    exact .object hfor (by rwa [htolerated])
  | _ => exact refusal_of_invalid hread

private theorem refusal_of_read_oneOf {c : OneOf}
    (hread : (readStep registry parts defaults (.oneOf c) (.object entries)).result = .error (.failed error)) :
    Refusal registry parts defaults (.oneOf c) (.object entries) error := by
  cases hfor : (Shape.oneOf c).objectFor? registry entries with
  | some o => exact .object hfor ((result_readStep_eq_error_iff hfor).1 hread)
  | none =>
    simp only [readStep, OneOf.read] at hread
    cases hraw : Fields.get? entries c.field with
    | none =>
      rw [hraw] at hread
      cases hread
      exact .own rfl (by simp)
    | some raw =>
      cases hkey : c.kind.coerce raw with
      | none =>
        simp only [hraw, hkey] at hread
        cases hread
        exact .discriminator hraw hkey
      | some key =>
        cases hvariant : c.target? key with
        | none =>
          simp only [hraw, hkey, hvariant] at hread
          cases hread
          exact .own rfl (by simp [OneOf.unknownVariant])
        | some r =>
          have htarget : r.target? registry = none := by
            simpa [objectFor?, hraw, hkey, hvariant] using hfor
          simp only [hraw, hkey, hvariant, Traced.result_bind_eq_error, Traced.result_announce, reduceCtorEq,
            false_or, Reference.resolve_budgeted_eq_ok_iff, htarget, false_and, exists_false, or_false] at hread
          obtain ⟨_, -, hresolve⟩ := hread
          exact refusal_of_resolve hresolve

/-- One level of reading fails for one of these reasons. -/
theorem refusal_of_readStep
    (hread : (readStep registry parts defaults shape document).result = .error (.failed error)) :
    Refusal registry parts defaults shape document error := by
  cases shape with
  | any => cases hread
  | int =>
    cases document with
    | number n =>
      simp only [readStep] at hread
      split at hread
      · cases hread
      · exact refusal_of_invalid hread
    | _ => exact refusal_of_invalid hread
  | list items =>
    cases document with
    | array inputs =>
      simp only [readStep, Reading.inField, Traced.result_bind_eq_error, Traced.result_pure, reduceCtorEq,
        and_false, exists_false, or_false, Traced.traverseFrom_mapError_eq_error_iff] at hread
      obtain ⟨index, input, stop, hinput, hstop, hearlier, hplaced⟩ := hread
      cases stop with
      | unfinished => cases hplaced
      | failed cause =>
        cases hplaced
        rw [Nat.zero_add]
        exact .item hinput hearlier hstop
    | _ => exact refusal_of_invalid hread
  | object o => exact refusal_of_read_object rfl hread
  | ref r =>
    simp only [readStep, Traced.result_bind_eq_error, Reference.resolve_budgeted_eq_ok_iff] at hread
    rcases hread with hresolve | ⟨o, htarget, hread⟩
    · exact refusal_of_resolve hresolve
    · exact refusal_of_read_object htarget hread
  | scope s =>
    simp only [readStep] at hread
    cases hroot : s.rootObject? with
    | none =>
      rw [hroot] at hread
      cases hread
      exact .own rfl (by simp)
    | some o =>
      rw [hroot] at hread
      exact refusal_of_read_object hroot hread
  | oneOf c =>
    cases document with
    | object entries => exact refusal_of_read_oneOf hread
    | _ => exact refusal_of_invalid hread
  | _ =>
    cases document <;> first
      | exact refusal_of_invalid hread
      | cases hread

/-- A reading fails for one of these reasons. -/
theorem refusal_of_read
    (hread : (readNested registry budget shape document).result = .error (.failed error)) :
    Refusal registry (readNested registry budget) (readDefault registry budget) shape document error :=
  refusal_of_readStep (readNested_eq registry budget shape document ▸ hread)

/-- A reading fails with an error about the document itself and not about a part of it. That a discriminator is
of the wrong kind is told in its field. -/
structure Blames (registry : Registry) (budget : Nat) (shape : Shape) (document : Json)
    (error : DataError) : Prop where
  read : (readNested registry budget shape document).result = .error (.failed error)
  own : error.path = [] ∨
    ∃ c expected found, shape = .oneOf c ∧ error = .inField c.field (.mismatch expected found)

/-- An error came up at a place that the shape leads to, and tells the way. -/
def Locates (registry : Registry) (shape : Shape) (document : Json) (error : DataError) : Prop :=
  ∃ path inner part budget own, Leads registry shape document path inner part ∧
    inner.Blames registry budget part own ∧ error = own.within path

private theorem Blames.locates (hblames : shape.Blames registry budget document error) :
    shape.Locates registry document error :=
  ⟨[], shape, document, budget, error, .here, hblames, rfl⟩

private theorem Locates.field {field : String × Property Shape} {content : Json}
    (hlocates : field.2.shape.Locates registry content cause)
    (hobject : shape.objectFor? registry entries = some o) (hmem : field ∈ o.properties)
    (hcontent : field.2.content? entries field.1 = some content) :
    shape.Locates registry (.object entries) (.inField field.1 cause) := by
  obtain ⟨path, inner, part, budget, own, hleads, hblames, rfl⟩ := hlocates
  exact ⟨_, inner, part, budget, own, .field hobject hmem hcontent hleads, hblames, rfl⟩

/-- Every error of reading has a place. -/
theorem locates_of_read
    (hread : (readNested registry budget shape document).result = .error (.failed error)) :
    shape.Locates registry document error := by
  induction budget, shape, document using readNested_induction generalizing error with
  | hstep budget shape document ihPart ihDefault =>
    cases refusal_of_read hread with
    | own hpath => exact Blames.locates ⟨hread, Or.inl hpath⟩
    | discriminator => exact Blames.locates ⟨hread, Or.inr ⟨_, _, _, rfl, rfl⟩⟩
    | item hinput _ hcause =>
      have hlt := Json.depth_lt_of_mem_items (List.mem_of_getElem? hinput)
      obtain ⟨path, inner, part, less, own, hleads, hblames, rfl⟩ := ihPart _ _ hlt hcause
      exact ⟨_, inner, part, less, own, .item hinput hleads, hblames, rfl⟩
    | object hobject hobjectRead =>
      cases ObjectOf.raises_of_read hobjectRead with
      | inEntry hmem hpresent hcause =>
        refine (ihPart _ _ (Json.depth_lt_of_present? hpresent) hcause).field hobject hmem ?_
        rw [Property.content?, hpresent, Option.some_or]
      | inDefault hmem habsent hdefault hcause =>
        cases budget with
        | zero => cases hcause
        | succ budget =>
          refine (ihDefault budget (Nat.lt_succ_self _) _ _ hcause).field hobject hmem ?_
          rw [Property.content?, habsent, Option.none_or, hdefault]
      | _ => exact Blames.locates ⟨hread, Or.inl rfl⟩

end Shape

namespace ObjectOf

/-- That an entry is not known is told of the first entry that is neither declared nor tolerated, and of no
other. -/
theorem result_read_eq_unknownField_iff {part default : Reader} {tolerated : Option String} {o : ObjectShape}
    {entries : Fields Json} {name : String} :
    (o.read part default tolerated (.object entries)).result = .error (.failed (.unknownField name)) ↔
      o.undeclared? tolerated entries = some name := by
  unfold read
  dsimp only
  cases hundeclared : o.undeclared? tolerated entries with
  | some first =>
    constructor
    · intro hread
      cases hread
      rfl
    · rintro ⟨⟩
      rfl
  | none =>
    -- The fields that are read fail for other reasons only.
    have hfails : FailsOnly (· ≠ .failed (.unknownField name)) (Traced.traverse
        (fun field => do return (field.1, ← readField part default entries field.1 field.2)) o.properties) := by
      refine .traverse fun field _ => .bind ?_ fun _ _ => .pure _
      have hinside : ∀ x : Reading Value, FailsOnly (· ≠ .failed (.unknownField name)) (x.inField field.1) := by
        rintro x stop hstop rfl
        obtain ⟨cause | _, -, hplaced⟩ := Traced.result_mapError_eq_error.1 hstop <;> cases hplaced
      unfold readField
      split
      · split
        · exact .fail (by simp)
        · exact hinside _
      · split
        · exact .fail (by simp)
        · split
          · exact hinside _
          · exact .pure _
    refine iff_of_false (fun hread => ?_) (by simp)
    simp only [Traced.result_bind_eq_error, Traced.result_pure, reduceCtorEq, and_false, exists_false,
      or_false] at hread
    exact hfails _ hread rfl

end ObjectOf

namespace Shape

variable {registry : Registry} {shape : Shape} {document : Json} {budget : Nat} {error : DataError}
  {name : String}

/-- The entry of that name is the first, in the order of the document, that is not declared where the path
leads. -/
def FirstUndeclared (registry : Registry) (shape : Shape) (document : Json) (path : List String)
    (name : String) : Prop :=
  ∃ inner entries o, Leads registry shape document path inner (.object entries) ∧
    inner.objectFor? registry entries = some o ∧ o.undeclared? inner.tolerated entries = some name

theorem firstUndeclared_of_read
    (hread : (readNested registry budget shape document).result = .error (.failed error))
    (hcause : error.rootCause = .unknownField name) :
    FirstUndeclared registry shape document error.path name := by
  obtain ⟨path, inner, part, less, own, hleads, ⟨hown, hpath | ⟨_, _, _, _, rfl⟩⟩, rfl⟩ := locates_of_read hread
  · rw [DataError.rootCause_within, DataError.rootCause_of_path_eq_nil hpath] at hcause
    rw [DataError.path_within, hpath, List.append_nil]
    subst hcause
    cases refusal_of_read hown with
    | own _ hknown => exact absurd rfl (hknown name)
    | object hobject hread => exact ⟨_, _, _, hleads, hobject, ObjectOf.result_read_eq_unknownField_iff.1 hread⟩
  · rw [DataError.rootCause_within] at hcause
    cases hcause

end Shape

end Shapes
