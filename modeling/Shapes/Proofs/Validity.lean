import Mathlib.Tactic.Choose
import Shapes.Proofs.Discriminator
import Shapes.Proofs.Scope.Held

/-!
When values that were read are valid. Reading judges the presence rules by the entries that were given,
writing by the fields that are held, among them those filled in by default. Apart from these rules
nothing can go wrong, and there is a condition on objects under which the rules agree.
-/

namespace Shapes

namespace Shape

/-- An object value inside a value, with the object by which it is read and written. -/
inductive Places (registry : Registry) : Shape → Value → ObjectShape → Fields Value → Prop
  | here {shape : Shape} {o : ObjectShape} {id : String} {fields : Fields Value}
      (hobject : shape.object? registry = some o) :
      Places registry shape (.object id fields) o fields
  | item {items : Shape} {values : List Value} {value : Value} {o : ObjectShape}
      {fields : Fields Value} (hmem : value ∈ values) (hplaces : Places registry items value o fields) :
      Places registry (.list items) (.list values) o fields
  | field {shape : Shape} {owner o : ObjectShape} {id : String} {held fields : Fields Value}
      {field : String × Property Shape} {content : Value} (howner : shape.object? registry = some owner)
      (hmem : field ∈ owner.properties) (hpresent : Value.present? held field.1 = some content)
      (hplaces : Places registry field.2.shape content o fields) :
      Places registry shape (.object id held) o fields
  | variant {c : OneOf} {key : Discriminant} {r : Reference} {inner : Value} {o : ObjectShape}
      {fields : Fields Value} (htarget : c.target? key = some r)
      (hplaces : Places registry (.ref r) inner o fields) :
      Places registry (.oneOf c) (.oneOf key inner) o fields

variable {registry : Registry} {shape inner : Shape} {value : Value}

/-- The rules hold everywhere in a value that can be written. -/
theorem Writes.obeys {json : Json} {o : ObjectShape} {fields : Fields Value}
    (hwrites : Writes registry shape value json) (hplaces : Places registry shape value o fields) :
    o.Obeys (Value.isPresent fields) := by
  induction hplaces generalizing json with
  | here hobject => exact ((writes_object_iff hobject).1 hwrites).2.2.1
  | item hmem _ ih =>
    cases hwrites with
    | list hitems => exact ih (hitems _ hmem)
  | field howner hmem hpresent _ ih =>
    obtain ⟨_, _, _, document, _, hparts⟩ := (writes_object_iff howner).1 hwrites
    exact ih (hparts _ hmem _ hpresent)
  | variant htarget _ ih =>
    cases hwrites with
    | oneOf hown hinner _ =>
      rw [htarget] at hown
      cases hown
      exact ih hinner

variable {tolerated : Option String} {budget : Nat} {document : Json}

/-- A value that was read can be written, if the rules hold everywhere in it. -/
theorem Reads.exists_writes (hreads : Reads registry tolerated budget inner document value)
    (hdistinct : ∀ o, shape.ReachesObject registry o → o.Distinct)
    (hexact : ∀ c, shape.Reaches registry (.oneOf c) → c.Exact registry)
    (hreaches : shape.Reaches registry inner)
    (hobeys : ∀ o fields, Places registry inner value o fields → o.Obeys (Value.isPresent fields)) :
    ∃ json, Writes registry inner value json := by
  induction hreads with
  | any => exact ⟨_, .any⟩
  | bool => exact ⟨_, .bool⟩
  | int _ => exact ⟨_, .int⟩
  | float => exact ⟨_, .float (Number.ofFloat?_toFloat _)⟩
  | string => exact ⟨_, .string⟩
  | @list _ items inputs content hitems ih =>
    have hwritten : ∀ item ∈ inputs.map content, ∃ json, Writes registry items item json := by
      intro item hmem
      obtain ⟨input, hinput, rfl⟩ := List.mem_map.1 hmem
      exact ih input hinput (.item hreaches) fun o fields hplaces =>
        hobeys o fields (.item hmem hplaces)
    choose! part hpart using hwritten
    exact ⟨_, .list hpart⟩
  | @object _ budget inner o entries content hobject haccepts hread habsent ih =>
    have hown := hdistinct o (hreaches.object hobject)
    have hwritten : ∀ field, ∃ json, field ∈ o.properties → ∀ held,
        Value.present? (o.fieldsOf content) field.1 = some held →
          Writes registry field.2.shape held json := by
      intro field
      by_cases hheld : field ∈ o.properties ∧ (content field).isNull = false
      · obtain ⟨hmem, hnull⟩ := hheld
        have hpresent := (ObjectOf.present?_fieldsOf_eq_some_iff hown hmem).2 ⟨rfl, hnull⟩
        obtain ⟨less, part, hsource⟩ :=
          exists_source_of_content (hread field hmem) (habsent field hmem) hnull
        obtain ⟨json, hjson⟩ := ih field hmem less part hsource (.field hreaches hobject hmem)
          fun other fields hplaces => hobeys other fields (.field hobject hmem hpresent hplaces)
        refine ⟨json, fun _ held hpresent' => ?_⟩
        rw [hpresent] at hpresent'
        cases hpresent'
        exact hjson
      · refine ⟨.null, fun hmem held hpresent => ?_⟩
        obtain ⟨rfl, hnull⟩ := (ObjectOf.present?_fieldsOf_eq_some_iff hown hmem).1 hpresent
        exact absurd ⟨hmem, hnull⟩ hheld
    choose part hpart using hwritten
    exact ⟨_, .object hobject (fun name hmem => ObjectOf.declares_of_mem_names hmem)
      (hobeys o _ (.here hobject)) hpart⟩
  | @oneOf budget c entries raw key r inner hfield hkey htarget hinner ih =>
    have hvariant := OneOf.mem_of_target? htarget
    have hreached := hreaches.variant hvariant
    obtain ⟨json, hjson⟩ := ih hreached fun o fields hplaces =>
      hobeys o fields (.variant htarget hplaces)
    obtain ⟨o, hobject⟩ := hinner.exists_target
    obtain ⟨written, rfl, hdiscriminator⟩ := discriminator_of_writes hobject
      (hdistinct o (hreached.object hobject)) (hexact c hreaches _ hvariant o hobject) hfield hkey
      hinner hjson
    rcases hdiscriminator with ⟨_, hnone⟩ | ⟨found, hfound, hcoerce⟩
    · exact ⟨_, .oneOf htarget hjson (OneOf.tag_eq_ok_iff.2 ⟨_, rfl, Or.inl ⟨hnone, rfl⟩⟩)⟩
    · exact ⟨_, .oneOf htarget hjson
        (OneOf.tag_eq_ok_iff.2 ⟨_, rfl, Or.inr ⟨found, hfound, hcoerce, rfl⟩⟩)⟩

/-- A field is held iff it was given or has a default. -/
theorem isPresent_iff_of_reads {o : ObjectShape} {entries : Fields Json}
    {content : String × Property Shape → Value} (hdistinct : o.Distinct)
    {field : String × Property Shape} (hmem : field ∈ o.properties)
    (hread : ∀ less document, field.2.source? budget entries field.1 = some (less, document) →
      Reads registry none less field.2.shape document (content field))
    (habsent : field.2.source? budget entries field.1 = none → content field = .null) :
    Value.isPresent (o.fieldsOf content) field.1 = true ↔
      Json.isPresent entries field.1 = true ∨ field.2.default ≠ none := by
  rw [ObjectOf.isPresent_fieldsOf hdistinct hmem, Bool.not_eq_true', ← Bool.not_eq_true,
    isNull_content_iff hread habsent, Property.source?_eq_none_iff, not_and_or, ← Ne,
    Json.isPresent, Option.isSome_iff_ne_none]

/-- The rules hold everywhere in a value that was read, if defaults are safe to fill in. -/
theorem Reads.obeys (hreads : Reads registry tolerated budget inner document value)
    (hdistinct : ∀ o, shape.ReachesObject registry o → o.Distinct)
    (hsafe : ∀ o, shape.ReachesObject registry o → o.SafeToFill)
    (hreaches : shape.Reaches registry inner) {o : ObjectShape} {fields : Fields Value}
    (hplaces : Places registry inner value o fields) : o.Obeys (Value.isPresent fields) := by
  induction hreads generalizing o fields with
  | list _ ih =>
    cases hplaces with
    | item hmem hplaces =>
      obtain ⟨input, hinput, rfl⟩ := List.mem_map.1 hmem
      exact ih input hinput (.item hreaches) hplaces
  | @object _ budget inner own entries content hobject haccepts hread habsent ih =>
    have hreached := hreaches.object hobject
    cases hplaces with
    | here hother =>
      rw [hobject] at hother
      cases hother
      refine (hsafe own hreached).obeys haccepts.rules (fun field hmem => ?_) fun name hundeclared => ?_
      · exact isPresent_iff_of_reads (hdistinct own hreached) hmem (hread field hmem) (habsent field hmem)
      · exact ObjectOf.isPresent_fieldsOf_of_undeclared hundeclared
    | @field _ _ _ _ _ _ field held howner hmem hpresent hplaces =>
      rw [hobject] at howner
      cases howner
      obtain ⟨rfl, hnull⟩ :=
        (ObjectOf.present?_fieldsOf_eq_some_iff (hdistinct own hreached) hmem).1 hpresent
      cases hsource : field.2.source? budget entries field.1 with
      | none =>
        rw [habsent field hmem hsource] at hnull
        cases hnull
      | some source =>
        exact ih field hmem source.1 source.2 hsource (.field hreaches hobject hmem) hplaces
  | oneOf _ _ htarget _ ih =>
    cases hplaces with
    | variant hown hplaces =>
      rw [htarget] at hown
      cases hown
      exact ih (hreaches.variant (OneOf.mem_of_target? htarget)) hplaces
  | _ => cases hplaces

/-- A value that was read is valid iff the presence rules of every object in it hold of the fields that
are held there, and so they do if the defaults of all objects involved are safe to fill in. Choices in
live scopes are exact; a choice that is put together outside of one has to be. -/
theorem validate_read_iff (hreachable : registry.Reachable) (husable : shape.Usable registry)
    (hexact : ∀ c, .oneOf c ∈ shape.nodes → c.Exact registry)
    (hread : (read registry shape document).result = .ok value) :
    ((validate registry shape value).result = .ok () ↔
      ∀ o fields, Places registry shape value o fields → o.Obeys (Value.isPresent fields)) ∧
    ((∀ o, shape.ReachesObject registry o → o.SafeToFill) →
      (validate registry shape value).result = .ok ()) := by
  have hsound := hreachable.sound
  have hdistinct : ∀ o, shape.ReachesObject registry o → o.Distinct := fun o hreached =>
    husable.distinct hsound hreached
  have hreads := reads_of_readNested hread
  have hvalid : (validate registry shape value).result = .ok () ↔
      ∀ o fields, Places registry shape value o fields → o.Obeys (Value.isPresent fields) := by
    rw [validate_eq_ok_iff]
    constructor
    · rintro ⟨json, hwrites⟩ o fields hplaces
      exact hwrites.obeys hplaces
    · intro hobeys
      exact hreads.exists_writes hdistinct (fun c hreaches => husable.exact hsound hexact hreaches)
        .refl hobeys
  exact ⟨hvalid, fun hsafe => hvalid.2 fun o fields hplaces =>
    hreads.obeys hdistinct hsafe .refl hplaces⟩

end Shape

namespace Jobs

open Shape

/-- A job is tried three times unless told otherwise, which excludes that it is only tried once. -/
def job : ObjectShape where
  id := "Job"
  properties := [
    ("retries", { shape := .int, default := some (.ofInt64 3) }),
    ("once", { shape := .bool, conflicts := ["retries"] })]

def onceInput : Json := .object [("once", .bool true)]

/-- The default stands beside the field that excludes it. -/
def onceJob : Value := .object "Job" [("retries", .int 3), ("once", .bool true)]

private theorem usable_job : (Shape.object job).Usable {} := by
  simp [usable_object_iff, ObjectOf.Distinct, Fields.Distinct, Fields.names, job, objectNodes,
    propertiesNodes, propertyNodes, nodes]

theorem validate_read_iff_job :
    (read {} (.object job) onceInput).result = .ok onceJob ∧
    ((validate {} (.object job) onceJob).result = .ok () ↔
      ∀ o fields, Places {} (.object job) onceJob o fields → o.Obeys (Value.isPresent fields)) ∧
    ((∀ o, (Shape.object job).ReachesObject {} o → o.SafeToFill) →
      (validate {} (.object job) onceJob).result = .ok ()) := by
  have hread : (read {} (.object job) onceInput).result = .ok onceJob := rfl
  refine ⟨hread, validate_read_iff .refl usable_job (fun c hmem => ?_) hread⟩
  simp [job, objectNodes, propertiesNodes, propertyNodes, nodes] at hmem

end Jobs

namespace Marks

open Shape

/-- A mark keeps its place as a float. -/
def mark : ObjectShape where
  id := "Mark"
  properties := [("place", { shape := .float })]

def marks : Scope := ⟨0, "Mark", [mark]⟩

def registry : Registry := ⟨1, [marks]⟩

/-- A choice outside of the scope by a place that is not a float. -/
def choice : OneOf where
  field := "place"
  kind := .int
  variants := [(.int 9007199254740993, { id := "Mark", scope := some 0 })]
  uniform := by decide
  distinct := by decide

def input : Json := .object [("place", .ofInt64 9007199254740993)]

def rounded : Value :=
  .oneOf (.int 9007199254740993)
    (.object "Mark" [("place", .float (Number.ofInt64 9007199254740993).toFloat)])

end Marks

/-- Not all values that were read are valid: a default may be excluded by a field that was given, and a
choice outside of a scope may select an object that rounds its key. -/
theorem read_not_valid :
    (Registry.Reachable {} ∧ (Shape.object Jobs.job).Usable {} ∧
      (Shape.read {} (.object Jobs.job) Jobs.onceInput).result = .ok Jobs.onceJob ∧
      (Shape.validate {} (.object Jobs.job) Jobs.onceJob).result =
        .error (.conflict "once" "retries")) ∧
    (Marks.registry.Reachable ∧ (Shape.oneOf Marks.choice).Usable Marks.registry ∧
      (Shape.read Marks.registry (.oneOf Marks.choice) Marks.input).result = .ok Marks.rounded ∧
      (Shape.validate Marks.registry (.oneOf Marks.choice) Marks.rounded).result.isOk = false) := by
  have husable : ∀ o ∈ [Marks.mark], (Shape.object o).Usable {} := by
    simp [Shape.usable_object_iff, ObjectOf.Distinct, Fields.Distinct, Fields.names, Marks.mark,
      Shape.objectNodes, Shape.propertiesNodes, Shape.propertyNodes, Shape.nodes]
  have hfreeze : (Registry.freeze {} "Mark" [Marks.mark]).result =
      .ok (Marks.marks, Marks.registry) := rfl
  have hchoice : (Shape.oneOf Marks.choice).Usable Marks.registry :=
    ⟨fun o hmem => by simp [Shape.nodes] at hmem, fun s hmem => by simp [Shape.nodes] at hmem⟩
  exact ⟨⟨.refl, Jobs.usable_job, rfl, rfl⟩,
    .single (.freeze husable hfreeze), hchoice, rfl, by decide +kernel⟩

end Shapes
