import Mathlib.Tactic.Choose
import Shapes.Proofs.Discriminator
import Shapes.Proofs.Scope.Held

/-!
Validation without documents. To validate a value is to write it and to forget the document, so whether
it is accepted depends on the document of a selected object, which may not contradict its key. Here is
what is accepted in terms of the value alone.
-/

namespace Shapes

namespace Property

variable {σ : Type} {property : Property σ} {present : String → Bool}

/-- A field that may not be absent while these are the fields that are present. -/
def Needed (property : Property σ) (present : String → Bool) : Prop :=
  property.required = true ∨ (∃ other ∈ property.requiredIf, present other = true) ∨
    (property.requiredIfNot ≠ [] ∧ ∀ other ∈ property.requiredIfNot, present other = false)

theorem isRequired_eq_false_iff_not_needed :
    property.isRequired present = false ↔ ¬ property.Needed present := by
  rw [isRequired_eq_false_iff, Needed, not_or, not_or, not_and_or, not_not]
  simp

end Property

theorem Number.exists_ofFloat?_iff {x : Float} :
    (∃ n, Number.ofFloat? x = some n) ↔ x.isFinite = true := by
  unfold Number.ofFloat?
  split <;> simp [*]

/-- A value denotes a key at a field of that shape: it is the key itself, or an untyped document that
reads as the key. A field of any other shape has no value that denotes a key. -/
inductive Denotes : Discriminant → Shape → Value → Prop
  | int {k : Int64} : Denotes (.int k) .int (.int k)
  | string {s : String} : Denotes (.string s) .string (.string s)
  | any {key : Discriminant} {value : Value} (hkey : key.kind.coerce value.toJson = some key) :
      Denotes key .any value

namespace Shape

/-- A value conforms to a shape. -/
inductive Conforms (registry : Registry) : Shape → Value → Prop
  | any {value : Value} : Conforms registry .any value
  | bool {b : Bool} : Conforms registry .bool (.bool b)
  | int {k : Int64} : Conforms registry .int (.int k)
  | float {x : Float} (hfinite : x.isFinite = true) : Conforms registry .float (.float x)
  | string {s : String} : Conforms registry .string (.string s)
  | list {items : Shape} {values : List Value}
      (hitems : ∀ item ∈ values, Conforms registry items item) :
      Conforms registry (.list items) (.list values)
  /-- The shape is an object, stands for one, or is a scope with that root. -/
  | object {shape : Shape} {o : ObjectShape} {fields : Fields Value}
      (hobject : shape.object? registry = some o)
      (hdeclared : ∀ name ∈ Fields.names fields, o.declares name = true)
      (hcontent : ∀ field ∈ o.properties, ∀ content, Value.present? fields field.1 = some content →
        Conforms registry field.2.shape content)
      (hapart : ∀ field ∈ o.properties, Value.isPresent fields field.1 = true →
        ∀ other ∈ field.2.conflicts, Value.isPresent fields other = false)
      (hcomplete : ∀ field ∈ o.properties, Value.isPresent fields field.1 = false →
        ¬ field.2.Needed (Value.isPresent fields)) :
      Conforms registry shape (.object o.id fields)
  /-- The selected object may declare the discriminator field. What it holds there is the key. -/
  | oneOf {c : OneOf} {key : Discriminant} {r : Reference} {inner : Value}
      (htarget : c.target? key = some r) (hinner : Conforms registry (.ref r) inner)
      (hdenotes : ∀ o id fields property content, r.target? registry = some o →
        inner = .object id fields → o.property? c.field = some property →
        Value.present? fields c.field = some content → Denotes key property.shape content) :
      Conforms registry (.oneOf c) (.oneOf key inner)

end Shape

theorem ObjectOf.obeys_iff {σ : Type} {o : ObjectOf σ} {present : String → Bool} :
    o.Obeys present ↔
      (∀ field ∈ o.properties, present field.1 = true →
        ∀ other ∈ field.2.conflicts, present other = false) ∧
      ∀ field ∈ o.properties, present field.1 = false → ¬ field.2.Needed present := by
  constructor
  · intro hobeys
    refine ⟨fun field hmem hpresent => ?_, fun field hmem habsent => ?_⟩
    · have hrules := hobeys field hmem
      rwa [Property.obeys_iff_of_present hpresent, Property.conflict?_eq_none_iff] at hrules
    · have hrules := hobeys field hmem
      rwa [Property.obeys_iff_of_absent habsent, Property.isRequired_eq_false_iff_not_needed] at hrules
  · rintro ⟨hapart, hcomplete⟩ field hmem
    cases hfield : present field.1 with
    | true =>
      rw [Property.obeys_iff_of_present hfield, Property.conflict?_eq_none_iff]
      exact hapart field hmem hfield
    | false =>
      rw [Property.obeys_iff_of_absent hfield, Property.isRequired_eq_false_iff_not_needed]
      exact hcomplete field hmem hfield

namespace Shape

variable {registry : Registry} {shape : Shape} {value : Value} {json : Json}

/-- A field that denotes a key is written as a document of the key. -/
theorem coerce_of_denotes {key : Discriminant} (hdenotes : Denotes key shape value)
    (hwrites : Writes registry shape value json) : key.kind.coerce json = some key := by
  cases hdenotes with
  | @int k =>
    cases hwrites
    exact KeyKind.coerce_toJson (.int k)
  | string =>
    cases hwrites
    rfl
  | any hkey =>
    cases hwrites with
    | any => exact hkey
    | object hobject => cases hobject

/-- A field that is written as a document of a key denotes the key, if its representation is that of the
keys or open. Choices have an open representation too, but they are written as objects. -/
theorem denotes_of_coerce {key : Discriminant}
    (hadmits : shape.representation = key.kind.representation ∨ shape.representation = .any)
    (hwrites : Writes registry shape value json) (hkey : key.kind.coerce json = some key) :
    Denotes key shape value := by
  cases hwrites with
  | any => exact .any hkey
  | int =>
    cases key with
    | int k =>
      simp only [Discriminant.kind, Json.ofInt64, KeyKind.coerce, Number.toInt64?_ofInt64,
        Option.map_some, Option.some.injEq, Discriminant.int.injEq] at hkey
      subst hkey
      exact .int
    | string s => cases hkey
  | string =>
    cases key with
    | int k => simp [representation, Discriminant.kind, KeyKind.representation] at hadmits
    | string s =>
      cases hkey
      exact .string
  | oneOf _ _ htag =>
    obtain ⟨_, _, ⟨_, rfl⟩ | ⟨_, _, _, rfl⟩⟩ := OneOf.tag_eq_ok_iff.1 htag <;>
      cases key <;> cases hkey
  | object hobject =>
    cases key <;> cases shape <;>
      simp [representation, Discriminant.kind, KeyKind.representation, object?] at hadmits hobject
  | _ =>
    cases key <;> simp [representation, Discriminant.kind, KeyKind.representation] at hadmits

/-- A choice that is written denotes its key: the document of the selected object would else contradict the
key. -/
theorem denotes_of_tag {c : OneOf} {key : Discriminant} {r : Reference} {o : ObjectShape} {id : String}
    {fields : Fields Value} {property : Property Shape} {content : Value} {document tagged : Json}
    (hsound : registry.Sound) (hholds : registry.Holds (.oneOf c)) (htarget : c.target? key = some r)
    (hinner : Writes registry (.ref r) (.object id fields) document)
    (htag : c.tag key document = .ok tagged) (hobject : r.target? registry = some o)
    (hproperty : o.property? c.field = some property)
    (hpresent : Value.present? fields c.field = some content) : Denotes key property.shape content := by
  have hown : (Shape.ref r).object? registry = some o := hobject
  obtain ⟨_, _, _, part, rfl, hparts⟩ := (writes_object_iff hown).1 hinner
  have hmem := Fields.mem_of_get? hproperty
  have hdistinct := hsound.distinct_of_holds (Registry.holds_of_target? hobject)
  have hentry : Fields.get? (o.entriesOf (Value.isPresent fields) part) c.field =
      some (part (c.field, property)) := by
    rw [ObjectOf.get?_entriesOf hdistinct hmem, Value.isPresent, hpresent]
    rfl
  -- The document has an entry for the field, so it was compared with the key.
  have hkey : key.kind.coerce (part (c.field, property)) = some key := by
    rw [OneOf.kind_of_target? htarget]
    obtain ⟨entries, heq, ⟨hnone, _⟩ | ⟨found, hfound, hcoerce, _⟩⟩ := OneOf.tag_eq_ok_iff.1 htag
    · cases heq
      rw [hentry] at hnone
      cases hnone
    · cases heq
      rw [hentry] at hfound
      cases hfound
      exact hcoerce
  have hadmits :=
    hsound.admits_of_holds hholds (OneOf.mem_of_target? htarget) hobject property hproperty
  rw [← OneOf.kind_of_target? htarget] at hadmits
  exact denotes_of_coerce hadmits (hparts _ hmem content hpresent) hkey

/-- The document of a selected object takes the key if what the object holds in the discriminator field
denotes it. -/
theorem exists_tag_of_denotes {c : OneOf} {key : Discriminant} {r : Reference} {inner : Value}
    {document : Json} (hsound : registry.Sound) (htarget : c.target? key = some r)
    (hinner : Writes registry (.ref r) inner document)
    (hdenotes : ∀ o id fields property content, r.target? registry = some o →
      inner = .object id fields → o.property? c.field = some property →
      Value.present? fields c.field = some content → Denotes key property.shape content) :
    ∃ tagged, c.tag key document = .ok tagged := by
  cases hinner with
  | @object _ o fields part hobject _ _ hparts =>
    have hdistinct := hsound.distinct_of_holds (Registry.holds_of_target? hobject)
    cases hentry : Fields.get? (o.entriesOf (Value.isPresent fields) part) c.field with
    | none => exact ⟨_, OneOf.tag_eq_ok_iff.2 ⟨_, rfl, Or.inl ⟨hentry, rfl⟩⟩⟩
    | some found =>
      obtain ⟨property, hmem, hpresent, rfl⟩ := ObjectOf.exists_of_get?_entriesOf hentry
      obtain ⟨content, hcontent⟩ := Option.isSome_iff_exists.1 hpresent
      have hkey := coerce_of_denotes
        (hdenotes o o.id fields property content hobject rfl (Fields.get?_of_mem hdistinct hmem) hcontent)
        (hparts _ hmem content hcontent)
      rw [OneOf.kind_of_target? htarget] at hkey
      exact ⟨_, OneOf.tag_eq_ok_iff.2 ⟨_, rfl, Or.inr ⟨_, hentry, hkey, rfl⟩⟩⟩

/-- What is related to a document conforms. -/
theorem conforms_of_writes (hsound : registry.Sound) (hholds : registry.Holds shape)
    (hwrites : Writes registry shape value json) : Conforms registry shape value := by
  induction hwrites with
  | any => exact .any
  | bool => exact .bool
  | int => exact .int
  | float hfinite => exact .float (Number.exists_ofFloat?_iff.1 ⟨_, hfinite⟩)
  | string => exact .string
  | list _ ih =>
    have hitems := hsound.holds_of_reaches hholds (.item .refl)
    exact .list fun item hmem => ih item hmem hitems
  | object hobject hdeclared hrules _ ih =>
    obtain ⟨hapart, hcomplete⟩ := ObjectOf.obeys_iff.1 hrules
    refine .object hobject hdeclared (fun field hmem content hpresent => ?_) hapart hcomplete
    exact ih field hmem content hpresent (hsound.holds_of_reaches hholds (.field .refl hobject hmem))
  | @oneOf c key r inner document tagged htarget hinner htag ih =>
    have hvariant := OneOf.mem_of_target? htarget
    refine .oneOf htarget (ih (hsound.holds_of_reaches hholds (.variant .refl hvariant))) ?_
    rintro o id fields property content hobject rfl hproperty hpresent
    exact denotes_of_tag hsound hholds htarget hinner htag hobject hproperty hpresent

/-- What conforms can be written. -/
theorem exists_writes_of_conforms (hsound : registry.Sound) (hholds : registry.Holds shape)
    (hconforms : Conforms registry shape value) : ∃ json, Writes registry shape value json := by
  induction hconforms with
  | any => exact ⟨_, .any⟩
  | bool => exact ⟨_, .bool⟩
  | int => exact ⟨_, .int⟩
  | float hfinite =>
    obtain ⟨n, hn⟩ := Number.exists_ofFloat?_iff.2 hfinite
    exact ⟨_, .float hn⟩
  | string => exact ⟨_, .string⟩
  | @list items values _ ih =>
    have hitems := hsound.holds_of_reaches hholds (.item .refl)
    have hwritten : ∀ item ∈ values, ∃ json, Writes registry items item json :=
      fun item hmem => ih item hmem hitems
    choose! part hpart using hwritten
    exact ⟨_, .list hpart⟩
  | @object shape o fields hobject hdeclared _ hapart hcomplete ih =>
    have hwritten : ∀ field, ∃ json, field ∈ o.properties → ∀ content,
        Value.present? fields field.1 = some content → Writes registry field.2.shape content json := by
      intro field
      by_cases hheld : field ∈ o.properties ∧ ∃ content, Value.present? fields field.1 = some content
      · obtain ⟨hmem, content, hpresent⟩ := hheld
        obtain ⟨json, hjson⟩ :=
          ih field hmem content hpresent (hsound.holds_of_reaches hholds (.field .refl hobject hmem))
        refine ⟨json, fun _ other hother => ?_⟩
        rw [hpresent] at hother
        cases hother
        exact hjson
      · exact ⟨.null, fun hmem content hpresent => absurd ⟨hmem, content, hpresent⟩ hheld⟩
    choose part hpart using hwritten
    exact ⟨_, .object hobject hdeclared (ObjectOf.obeys_iff.2 ⟨hapart, hcomplete⟩) hpart⟩
  | @oneOf c key r inner htarget _ hdenotes ih =>
    obtain ⟨document, hinner⟩ :=
      ih (hsound.holds_of_reaches hholds (.variant .refl (OneOf.mem_of_target? htarget)))
    obtain ⟨tagged, htag⟩ := exists_tag_of_denotes hsound htarget hinner hdenotes
    exact ⟨_, .oneOf htarget hinner htag⟩

/-- Validation by a live scope, or by a shape that occurs in one, accepts exactly the values that
conform. -/
theorem validate_iff_conforms (hreachable : registry.Reachable) (hholds : registry.Holds shape)
    (value : Value) :
    (validate registry shape value).result = .ok () ↔ Conforms registry shape value := by
  rw [validate_eq_ok_iff]
  constructor
  · rintro ⟨json, hwrites⟩
    exact conforms_of_writes hreachable.sound hholds hwrites
  · exact exists_writes_of_conforms hreachable.sound hholds

end Shape

namespace Queues

open Registry Shape

/-- What waits is told apart by its kind. -/
def waiting : OneOf where
  field := "kind"
  kind := .string
  variants := [(.string "job", { id := "Job" }), (.string "queue", { id := "Queue" })]
  uniform := by decide
  distinct := by decide

/-- Jobs and other queues wait in a queue. -/
def queue : ObjectShape where
  id := "Queue"
  properties := [("items", { shape := .list (.oneOf waiting), required := true })]

/-- A job declares its kind without a type. -/
def job : ObjectShape where
  id := "Job"
  properties := [
    ("kind", { shape := .any }),
    ("weight", { shape := .float, requiredIf := ["retries"] }),
    ("retries", { shape := .int, conflicts := ["once"] }),
    ("once", { shape := .bool })]

def queues : Scope := ⟨0, "Queue", [bindObject 0 queue, bindObject 0 job]⟩

def registry : Registry := ⟨1, [queues]⟩

/-- A queue of a job that says it is of that kind, and of an empty queue. -/
def waitingAs (kind : String) : Value :=
  .object "Queue" [("items", .list [
    .oneOf (.string "job") (.object "Job" [("kind", .any (.string kind)), ("once", .bool true)]),
    .oneOf (.string "queue") (.object "Queue" [("items", .list [])])])]

private theorem reachable_registry : registry.Reachable := by
  have husable : ∀ o ∈ [queue, job], (Shape.object o).Usable {} := by
    simp [usable_object_iff, ObjectOf.Distinct, Fields.Distinct, Fields.names, queue, job, objectNodes,
      propertiesNodes, propertyNodes, nodes]
  have hfreeze : (freeze {} "Queue" [queue, job]).result = .ok (queues, registry) := rfl
  exact .single (.freeze husable hfreeze)

/-- A job in a queue conforms as what it says it is only. -/
theorem validate_iff_conforms_queue :
    registry.Reachable ∧ registry.Holds (.scope queues) ∧
    (validate registry (.scope queues) (waitingAs "job")).result = .ok () ∧
    Conforms registry (.scope queues) (waitingAs "job") ∧
    ¬ Conforms registry (.scope queues) (waitingAs "queue") := by
  have hholds : registry.Holds (.scope queues) := .scope (List.mem_singleton.2 rfl)
  have hvalid : (validate registry (.scope queues) (waitingAs "job")).result = .ok () := rfl
  refine ⟨reachable_registry, hholds, hvalid,
    (validate_iff_conforms reachable_registry hholds (waitingAs "job")).1 hvalid, ?_⟩
  rw [← validate_iff_conforms reachable_registry hholds (waitingAs "queue")]
  intro haccepted
  cases haccepted

end Queues

namespace Locks

open Registry Shape

/-- A lock whose owner excludes itself. -/
def lock : ObjectShape where
  id := "Lock"
  properties := [("owner", { shape := .int, conflicts := ["owner"] })]

def locks : Scope := ⟨0, "Lock", [lock]⟩

def registry : Registry := ⟨1, [locks]⟩

def owned : Fields Value := [("owner", .int 1)]

/-- A field that excludes itself is never accepted, although it excludes no other field. -/
theorem not_valid_of_excluding_itself :
    registry.Reachable ∧ registry.Holds (.scope locks) ∧
    (Shape.scope locks).object? registry = some lock ∧
    (∀ name ∈ Fields.names owned, lock.declares name = true) ∧
    (∀ field ∈ lock.properties, ∀ content, Value.present? owned field.1 = some content →
      Conforms registry field.2.shape content) ∧
    (∀ field ∈ lock.properties, Value.isPresent owned field.1 = true →
      ∀ other ∈ field.2.conflicts, other ≠ field.1 → Value.isPresent owned other = false) ∧
    (∀ field ∈ lock.properties, Value.isPresent owned field.1 = false →
      ¬ field.2.Needed (Value.isPresent owned)) ∧
    (validate registry (.scope locks) (.object lock.id owned)).result =
      .error (.conflict "owner" "owner") := by
  have husable : ∀ o ∈ [lock], (Shape.object o).Usable {} := by
    simp [usable_object_iff, ObjectOf.Distinct, Fields.Distinct, Fields.names, lock, objectNodes,
      propertiesNodes, propertyNodes, nodes]
  have hfreeze : (freeze {} "Lock" [lock]).result = .ok (locks, registry) := rfl
  refine ⟨.single (.freeze husable hfreeze), .scope (List.mem_singleton.2 rfl), rfl, by decide,
    fun field hmem content hpresent => ?_, by decide, fun field hmem habsent => ?_, rfl⟩
  · obtain rfl := List.mem_singleton.1 hmem
    cases hpresent
    exact .int
  · obtain rfl := List.mem_singleton.1 hmem
    cases habsent

end Locks

end Shapes
