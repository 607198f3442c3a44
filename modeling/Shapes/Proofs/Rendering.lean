import Shapes.Proofs.EntryOrder
import Shapes.Proofs.Levels
import Shapes.Proofs.Transparency

/-!
The two documents for a value: the one for its structure alone, and the one it is written as by a shape. They are
equal up to the order of entries, except that choices add their discriminators when they are written. So a value
has one document, where a shape leads to no choice.
-/

namespace Shapes

/-- Taking out an entry that was added last leaves the others. -/
theorem Fields.without_append_self {α : Type} {fields : Fields α} {name : String} {value : α}
    (hnone : name ∉ fields.names) : without (fields ++ [(name, value)]) name = fields := by
  have hothers : ∀ entry ∈ fields, (entry.1 != name) = true := by
    intro entry hmem
    rw [bne_iff_ne]
    rintro rfl
    exact hnone (List.mem_map.2 ⟨entry, hmem, rfl⟩)
  rw [without, List.filter_append, List.filter_eq_self.2 hothers]
  simp

namespace Value

variable {fields : Fields Value} {name : String}

/-- In no object of the value, at any depth, is a name used twice. -/
inductive Distinct : Value → Prop
  | null : Distinct .null
  | bool {b : Bool} : Distinct (.bool b)
  | int {k : Int64} : Distinct (.int k)
  | float {x : Float} : Distinct (.float x)
  | string {s : String} : Distinct (.string s)
  | any {document : Json} : Distinct (.any document)
  | list {items : List Value} (hitems : ∀ item ∈ items, Distinct item) : Distinct (.list items)
  | object {id : String} {fields : Fields Value} (hnames : Fields.Distinct fields)
      (hcontents : ∀ field ∈ fields, Distinct field.2) : Distinct (.object id fields)
  | oneOf {key : Discriminant} {value : Value} (hvalue : Distinct value) : Distinct (.oneOf key value)

attribute [simp] Distinct.null Distinct.bool Distinct.int Distinct.float Distinct.string Distinct.any

@[simp] theorem distinct_list_iff {items : List Value} :
    (Value.list items).Distinct ↔ ∀ item ∈ items, item.Distinct :=
  ⟨fun hdistinct => by cases hdistinct; assumption, .list⟩

@[simp] theorem distinct_object_iff {id : String} :
    (Value.object id fields).Distinct ↔ Fields.Distinct fields ∧ ∀ field ∈ fields, field.2.Distinct :=
  ⟨fun hdistinct => by cases hdistinct; constructor <;> assumption, fun hboth => .object hboth.1 hboth.2⟩

@[simp] theorem distinct_oneOf_iff {key : Discriminant} {value : Value} :
    (Value.oneOf key value).Distinct ↔ value.Distinct :=
  ⟨fun hdistinct => by cases hdistinct; assumption, .oneOf⟩

/-- Whether the value is an object with a field of that name that is not `null`. -/
def holds (name : String) : Value → Bool
  | .object _ fields => isPresent fields name
  | _ => false

theorem itemsToJson_eq_map (items : List Value) : itemsToJson items = items.map toJson := by
  induction items with
  | nil => rfl
  | cons item rest ih => rw [itemsToJson, ih, List.map_cons]

theorem fieldsToJson_eq (fields : Fields Value) :
    fieldsToJson fields = (fields.filter fun field => !field.2.isNull).map fun field =>
      (field.1, field.2.toJson) := by
  induction fields with
  | nil => rfl
  | cons field rest ih =>
    obtain ⟨name, content⟩ := field
    rw [fieldsToJson, List.filter_cons]
    cases hnull : content.isNull <;> simp [ih]

theorem mem_fieldsToJson {entry : String × Json} : entry ∈ fieldsToJson fields ↔
    ∃ content, (entry.1, content) ∈ fields ∧ content.isNull = false ∧ entry.2 = content.toJson := by
  obtain ⟨name, document⟩ := entry
  simp only [fieldsToJson_eq, List.mem_map, List.mem_filter, Bool.not_eq_true', Prod.mk.injEq]
  constructor
  · rintro ⟨⟨_, content⟩, ⟨hmem, hheld⟩, rfl, rfl⟩
    exact ⟨content, hmem, hheld, rfl⟩
  · rintro ⟨content, hmem, hheld, rfl⟩
    exact ⟨(name, content), ⟨hmem, hheld⟩, rfl, rfl⟩

theorem distinct_fieldsToJson (hdistinct : fields.Distinct) : Fields.Distinct (fieldsToJson fields) := by
  refine List.Nodup.sublist ?_ hdistinct
  rw [fieldsToJson_eq, Fields.names, List.map_map]
  exact List.filter_sublist.map _

/-- A field has an entry of its own iff it is there and not `null`. -/
theorem get?_fieldsToJson (hdistinct : fields.Distinct) :
    Fields.get? (fieldsToJson fields) name = (present? fields name).map toJson := by
  cases hpresent : present? fields name with
  | some content =>
    obtain ⟨hget, hheld⟩ := Option.filter_eq_some_iff.1 hpresent
    exact Fields.get?_of_mem (distinct_fieldsToJson hdistinct) (mem_fieldsToJson.2
      ⟨content, Fields.mem_of_get? hget, by simpa using hheld, rfl⟩)
  | none =>
    rw [Option.map_none, Fields.get?_eq_none_iff]
    intro hmem
    obtain ⟨⟨_, document⟩, hentry, rfl⟩ := List.mem_map.1 hmem
    obtain ⟨content, hfield, hheld, _⟩ := mem_fieldsToJson.1 hentry
    rw [present?, Fields.get?_of_mem hdistinct hfield, Option.filter_some, hheld] at hpresent
    cases hpresent

end Value

namespace Shape

/-- The object by which a value is written, with the fields that the value has for it. For a choice these are the
object and the fields of the variant. -/
def record? (registry : Registry) : Shape → Value → Option (ObjectShape × Fields Value)
  | .oneOf c, .oneOf key (.object _ fields) => do
    let r ← c.target? key
    let o ← r.target? registry
    return (o, fields)
  | shape, .object _ fields => (shape.object? registry).map fun o => (o, fields)
  | _, _ => none

/-- The entry that a choice adds to the document of a variant: its discriminator, unless the variant holds a field
of that name. -/
def added? : Shape → Value → Option String
  | .oneOf c, .oneOf _ inner => if inner.holds c.field then none else some c.field
  | _, _ => none

variable {registry : Registry} {shape : Shape}

theorem record?_object (id : String) (fields : Fields Value) :
    shape.record? registry (.object id fields) = (shape.object? registry).map fun o => (o, fields) := by
  cases shape <;> rfl

/-- Only a choice writes by another object than its own, or adds an entry. -/
theorem object?_of_record? {value : Value} {record : ObjectShape × Fields Value} (hchoice : ∀ c, shape ≠ .oneOf c)
    (hrecord : shape.record? registry value = some record) :
    shape.object? registry = some record.1 ∧ shape.added? value = none := by
  have hadded : shape.added? value = none := by
    cases shape with
    | oneOf c => exact absurd rfl (hchoice c)
    | _ => rfl
  cases value with
  | object id fields =>
    rw [record?_object, Option.map_eq_some_iff] at hrecord
    obtain ⟨o, hobject, rfl⟩ := hrecord
    exact ⟨hobject, hadded⟩
  | _ =>
    cases shape with
    | oneOf c => exact absurd rfl (hchoice c)
    | _ => cases hrecord

end Shape

namespace Json

variable (registry : Registry)

mutual

/-- The document without the discriminators that choices added when the value was written by the shape. -/
def untagged (shape : Shape) (value : Value) : Json → Json
  | .array items =>
    match shape, value with
    | .list inner, .list values => .array (untaggedItems inner values items)
    | _, _ => .array items
  | .object entries =>
    match shape.record? registry value with
    | some (o, fields) =>
      let kept := untaggedEntries o fields entries
      .object (match shape.added? value with
        | some name => Fields.without kept name
        | none => kept)
    | none => .object entries
  | document => document
termination_by structural document => document

def untaggedItems (inner : Shape) (values : List Value) : List Json → List Json
  | [] => []
  | item :: rest =>
    match values with
    | [] => item :: rest
    | value :: others => item.untagged inner value :: untaggedItems inner others rest
termination_by structural items => items

/-- The entries of fields that are declared and held, each without the discriminators in it. -/
def untaggedEntries (o : ObjectShape) (fields : Fields Value) : List (String × Json) → List (String × Json)
  | [] => []
  | (name, document) :: rest =>
    (name, match o.property? name, Fields.get? fields name with
      | some property, some content => document.untagged property.shape content
      | _, _ => document) :: untaggedEntries o fields rest
termination_by structural entries => entries

end

variable {registry} {shape : Shape} {value : Value} {o : ObjectShape} {fields : Fields Value}
  {entries others : Fields Json} {name : String}

theorem untaggedItems_map {inner : Shape} {values : List Value} {document : Value → Json} :
    untaggedItems registry inner values (values.map document) =
      values.map fun value => (document value).untagged registry inner value := by
  induction values with
  | nil => rfl
  | cons value rest ih => rw [List.map_cons, untaggedItems, ih, List.map_cons]

theorem names_untaggedEntries : Fields.names (untaggedEntries registry o fields entries) = entries.names := by
  induction entries with
  | nil => rfl
  | cons entry rest ih => exact congrArg (List.cons entry.1) ih

theorem untaggedEntries_append : untaggedEntries registry o fields (entries ++ others) =
    untaggedEntries registry o fields entries ++ untaggedEntries registry o fields others := by
  induction entries with
  | nil => rfl
  | cons entry rest ih => exact congrArg (List.cons _) ih

theorem get?_untaggedEntries {property : Property Shape} {content : Value}
    (hproperty : o.property? name = some property) (hget : Fields.get? fields name = some content) :
    Fields.get? (untaggedEntries registry o fields entries) name =
      (Fields.get? entries name).map fun document => document.untagged registry property.shape content := by
  induction entries with
  | nil => rfl
  | cons entry rest ih =>
    obtain ⟨known, document⟩ := entry
    rw [untaggedEntries, Fields.get?_cons, Fields.get?_cons, ih]
    split
    · rename_i hname
      subst hname
      rw [hproperty, hget]
      rfl
    · rfl

theorem untaggedItems_eq_self {inner : Shape} {items : List Json}
    (hsame : ∀ item ∈ items, ∀ value, item.untagged registry inner value = item) (values : List Value) :
    untaggedItems registry inner values items = items := by
  induction items generalizing values with
  | nil => rfl
  | cons item rest ih =>
    cases values with
    | nil => rfl
    | cons value others =>
      rw [untaggedItems, hsame item (List.mem_cons_self ..),
        ih fun item hmem => hsame item (List.mem_cons_of_mem _ hmem)]

theorem untaggedEntries_eq_self (hsame : ∀ entry ∈ entries, ∀ property, o.property? entry.1 = some property →
      ∀ value, entry.2.untagged registry property.shape value = entry.2) :
    untaggedEntries registry o fields entries = entries := by
  induction entries with
  | nil => rfl
  | cons entry rest ih =>
    obtain ⟨name, document⟩ := entry
    rw [untaggedEntries, ih fun entry hmem => hsame entry (List.mem_cons_of_mem _ hmem)]
    split
    · rename_i property content hproperty _
      rw [hsame _ (List.mem_cons_self ..) property hproperty content]
    · rfl

theorem untagged_any (document : Json) : document.untagged registry .any value = document := by
  cases document with
  | object => cases value <;> rfl
  | _ => rfl

theorem untagged_of_object? (hobject : shape.object? registry = some o) (id : String) :
    (Json.object entries).untagged registry shape (.object id fields) =
      .object (untaggedEntries registry o fields entries) := by
  have hadded : shape.added? (.object id fields) = none := by
    cases shape <;> rfl
  rw [untagged, Shape.record?_object, hobject, hadded]
  rfl

end Json

namespace ObjectOf

variable {registry : Registry} {o : ObjectShape} {fields : Fields Value}
  {document : String × Property Shape → Json}

/-- A field that is there was declared, if all fields were. -/
theorem declares_of_isPresent (hknown : ∀ name ∈ Fields.names fields, o.declares name = true) {name : String}
    (hpresent : Value.isPresent fields name = true) : o.declares name = true := by
  obtain ⟨content, hcontent⟩ := Option.isSome_iff_exists.1 hpresent
  obtain ⟨hget, _⟩ := Option.filter_eq_some_iff.1 hcontent
  exact hknown name (List.mem_map.2 ⟨_, Fields.mem_of_get? hget, rfl⟩)

/-- The entries for the fields of a value are the entries that an object writes, in another order, if that holds
of the fields. -/
theorem reordered_untaggedEntries (hdistinct : o.Distinct) (hfields : fields.Distinct)
    (hknown : ∀ name ∈ Fields.names fields, o.declares name = true)
    (hparts : ∀ field ∈ o.properties, ∀ content, Value.present? fields field.1 = some content →
      content.toJson.Reordered ((document field).untagged registry field.2.shape content)) :
    (Json.object (Value.fieldsToJson fields)).Reordered
      (.object (Json.untaggedEntries registry o fields (o.entriesOf (Value.isPresent fields) document))) := by
  refine .object ?_ fun name content other hcontent hother => ?_
  · rw [Json.names_untaggedEntries]
    refine (List.perm_ext_iff_of_nodup (Value.distinct_fieldsToJson hfields) (distinct_entriesOf hdistinct)).2 ?_
    intro name
    rw [← not_iff_not]
    refine Fields.get?_eq_none_iff.symm.trans (Iff.trans ?_ Fields.get?_eq_none_iff)
    rw [get?_entriesOf_eq_none_iff (declares_of_isPresent hknown), Value.get?_fieldsToJson hfields,
      Option.map_eq_none_iff, Value.isPresent, Option.isSome_eq_false_iff, Option.isNone_iff_eq_none]
  · rw [Value.get?_fieldsToJson hfields, Option.map_eq_some_iff] at hcontent
    obtain ⟨held, hheld, rfl⟩ := hcontent
    have hpresent : Value.isPresent fields name = true := by rw [Value.isPresent, hheld]; rfl
    obtain ⟨property, hmem⟩ := declares_iff.1 (declares_of_isPresent hknown hpresent)
    rw [Json.get?_untaggedEntries (Fields.get?_of_mem hdistinct hmem) (Option.filter_eq_some_iff.1 hheld).1,
      get?_entriesOf hdistinct hmem, hpresent] at hother
    cases hother
    exact hparts _ hmem held hheld

end ObjectOf

namespace Shape

variable {registry : Registry} {shape inner : Shape} {value : Value} {json : Json}

/-- A choice only adds its discriminator to the document of the variant. -/
theorem untagged_of_tag {c : OneOf} {key : Discriminant} {r : Reference} {document tagged : Json}
    (hvariant : c.target? key = some r) (hwrites : Writes registry (.ref r) value document)
    (htag : c.tag key document = .ok tagged) :
    tagged.untagged registry (.oneOf c) (.oneOf key value) = document.untagged registry (.ref r) value := by
  cases hwrites with
  | @object _ o fields part hobject hknown _ _ =>
    have htarget : r.target? registry = some o := hobject
    have hrecord : (Shape.oneOf c).record? registry (.oneOf key (.object o.id fields)) = some (o, fields) := by
      rw [record?, hvariant, Option.bind_eq_bind, Option.bind_some, htarget]
      rfl
    have hundeclared : Fields.get? (o.entriesOf (Value.isPresent fields) part) c.field = none ↔
        Value.isPresent fields c.field = false :=
      ObjectOf.get?_entriesOf_eq_none_iff (ObjectOf.declares_of_isPresent hknown)
    rw [Json.untagged_of_object? hobject]
    obtain ⟨entries, hentries, hadded⟩ := OneOf.tag_eq_ok_iff.1 htag
    cases hentries
    rcases hadded with ⟨hnone, rfl⟩ | ⟨found, hfound, _, rfl⟩
    · -- The discriminator is the last entry, and there is no other of its name.
      rw [Json.untagged, hrecord, added?, Value.holds, hundeclared.1 hnone]
      refine congrArg Json.object ?_
      have hnames : c.field ∉ Fields.names
          (Json.untaggedEntries registry o fields (o.entriesOf (Value.isPresent fields) part)) := by
        rw [Json.names_untaggedEntries]
        exact Fields.get?_eq_none_iff.1 hnone
      simp only [Json.untaggedEntries_append]
      exact Fields.without_append_self hnames
    · have hheld : Value.isPresent fields c.field = true := by
        by_contra habsent
        rw [hundeclared.2 (Bool.eq_false_of_not_eq_true habsent)] at hfound
        cases hfound
      rw [Json.untagged, hrecord, added?, Value.holds, hheld]
      rfl

/-- The document for a value is the one that it is written as, without the discriminators that were added. -/
theorem Writes.toJson_reordered (hwrites : Writes registry inner value json)
    (hobjects : ∀ o, shape.ReachesObject registry o → o.Distinct) (hreaches : shape.Reaches registry inner)
    (hdistinct : value.Distinct) : value.toJson.Reordered (json.untagged registry inner value) := by
  induction hwrites with
  | any => exact (Json.untagged_any _).symm ▸ .refl
  | bool => exact .refl
  | int => exact .refl
  | @float x n hfinite =>
    rw [Value.toJson, hfinite]
    exact .refl
  | string => exact .refl
  | @list items values document _ ih =>
    rw [Json.untagged, Json.untaggedItems_map, Value.toJson, Value.itemsToJson_eq_map]
    refine .array (List.forall₂_map_left_iff.2 (List.forall₂_map_right_iff.2 (List.forall₂_same.2 ?_)))
    exact fun item hmem => ih item hmem (.item hreaches) (Value.distinct_list_iff.1 hdistinct item hmem)
  | @object inner o fields document hobject hknown _ _ ih =>
    obtain ⟨hnames, hcontents⟩ := Value.distinct_object_iff.1 hdistinct
    rw [Json.untagged_of_object? hobject]
    refine ObjectOf.reordered_untaggedEntries (hobjects o (hreaches.object hobject)) hnames hknown ?_
    intro field hmem content hpresent
    obtain ⟨hget, _⟩ := Option.filter_eq_some_iff.1 hpresent
    exact ih field hmem content hpresent (.field hreaches hobject hmem) (hcontents _ (Fields.mem_of_get? hget))
  | oneOf hvariant hinner htag ih =>
    rw [untagged_of_tag hvariant hinner htag]
    exact ih (.variant hreaches (OneOf.mem_of_target? hvariant)) (Value.distinct_oneOf_iff.1 hdistinct)

/-- Without choices there is nothing to take out. -/
theorem untagged_eq_self (hchoices : ∀ c, ¬ shape.Reaches registry (.oneOf c)) (value : Value) (document : Json) :
    document.untagged registry shape value = document := by
  induction hdepth : document.depth using Nat.strongRecOn generalizing shape value document with
  | _ depth ih =>
    subst hdepth
    cases document with
    | array items =>
      cases shape with
      | list inner =>
        cases value with
        | list values =>
          refine congrArg Json.array (Json.untaggedItems_eq_self (fun item hmem value => ?_) values)
          have hinner : ∀ c, ¬ inner.Reaches registry (.oneOf c) := fun c hreaches =>
            hchoices c (Reaches.trans (.item .refl) hreaches)
          exact ih item.depth (Json.depth_lt_of_mem_items hmem) hinner value item rfl
        | _ => rfl
      | _ => rfl
    | object entries =>
      cases hrecord : shape.record? registry value with
      | none => rw [Json.untagged, hrecord]
      | some record =>
        obtain ⟨hobject, hadded⟩ := object?_of_record? (fun c heq => hchoices c (heq ▸ .refl)) hrecord
        rw [Json.untagged, hrecord, hadded]
        refine congrArg Json.object (Json.untaggedEntries_eq_self fun entry hmem property hproperty value => ?_)
        have hinner : ∀ c, ¬ property.shape.Reaches registry (.oneOf c) := fun c hreaches =>
          hchoices c (Reaches.trans (.field .refl hobject (Fields.mem_of_get? hproperty)) hreaches)
        exact ih entry.2.depth (Json.depth_lt_of_mem_entries hmem) hinner value entry.2 rfl
    | _ => rfl

/-- The document for a value that can be written is the written one up to the order of entries, once each
discriminator is taken out that a choice added to a variant without a field of that name. So where no choice is
reached, the two are equal up to the order of entries. -/
theorem toJson_reordered_write (hreachable : registry.Reachable) (husable : shape.Usable registry)
    (hdistinct : value.Distinct) (hwrite : (write registry shape value).result = .ok json) :
    value.toJson.Reordered (json.untagged registry shape value) ∧
      ((∀ c, ¬ shape.Reaches registry (.oneOf c)) → value.toJson.Reordered json) := by
  have hreordered := (write_eq_ok_iff.1 hwrite).toJson_reordered
    (fun o hreached => husable.distinct hreachable.sound hreached) .refl hdistinct
  refine ⟨hreordered, fun hchoices => ?_⟩
  rwa [untagged_eq_self hchoices] at hreordered

end Shape

namespace Kiosks

open Registry Shape

/-- What a kiosk sells, by its kind. -/
def wares : OneOf where
  field := "kind"
  kind := .string
  variants := [(.string "paper", { id := "Paper" }), (.string "candy", { id := "Candy" })]
  uniform := by decide
  distinct := by decide

def kiosk : ObjectShape where
  id := "Kiosk"
  properties := [("shelf", { shape := .list (.oneOf wares) }), ("sign", { shape := .any })]

def paper : ObjectShape where
  id := "Paper"
  properties := [("pages", { shape := .int })]

/-- Candy declares its own kind. -/
def candy : ObjectShape where
  id := "Candy"
  properties := [("kind", { shape := .string }), ("weight", { shape := .int })]

def kiosks : Scope := ⟨0, "Kiosk", [kiosk, paper, candy].map (bindObject 0)⟩

def registry : Registry := ⟨1, [kiosks]⟩

/-- A paper and two pieces of candy, one of which has its kind in it. The sign is untyped. -/
def stocked : Value := .object "Kiosk" [
  ("sign", .list [.null, .oneOf (.int 1) (.object "Text" [("size", .null), ("text", .string "open")])]),
  ("shelf", .list [
    .oneOf (.string "paper") (.object "Paper" [("pages", .int 40)]),
    .oneOf (.string "candy") (.object "Candy" [("weight", .int 5), ("kind", .string "candy")]),
    .oneOf (.string "candy") (.object "Candy" [("weight", .int 6), ("kind", .null)])])]

def written : Json := .object [
  ("shelf", .array [
    .object [("pages", .ofInt64 40), ("kind", .string "paper")],
    .object [("kind", .string "candy"), ("weight", .ofInt64 5)],
    .object [("weight", .ofInt64 6), ("kind", .string "candy")]]),
  ("sign", .array [.null, .object [("text", .string "open")]])]

/-- The kind is kept where the candy has it, and taken out elsewhere. -/
def untaggedStock : Json := .object [
  ("shelf", .array [
    .object [("pages", .ofInt64 40)],
    .object [("kind", .string "candy"), ("weight", .ofInt64 5)],
    .object [("weight", .ofInt64 6)]]),
  ("sign", .array [.null, .object [("text", .string "open")]])]

theorem toJson_reordered_write_stocked :
    registry.Reachable ∧ (Shape.scope kiosks).Usable registry ∧ stocked.Distinct ∧
    (write registry (.scope kiosks) stocked).result = .ok written ∧
    written.untagged registry (.scope kiosks) stocked = untaggedStock ∧
    stocked.toJson.Reordered untaggedStock := by
  have husable : ∀ o ∈ [kiosk, paper, candy], (Shape.object o).Usable {} := by
    simp [usable_object_iff, ObjectOf.Distinct, Fields.Distinct, Fields.names, kiosk, paper, candy,
      objectNodes, propertiesNodes, propertyNodes, nodes]
  have hfreeze : (Registry.freeze {} "Kiosk" [kiosk, paper, candy]).result = .ok (kiosks, registry) := rfl
  obtain ⟨hreachable, hscope⟩ := usable_of_freeze .refl husable hfreeze
  have hdistinct : stocked.Distinct := by simp [stocked, Fields.Distinct, Fields.names]
  have hwrite : (write registry (.scope kiosks) stocked).result = .ok written := rfl
  have huntagged : written.untagged registry (.scope kiosks) stocked = untaggedStock := rfl
  refine ⟨hreachable, hscope, hdistinct, hwrite, huntagged, ?_⟩
  rw [← huntagged]
  exact (toJson_reordered_write hreachable hscope hdistinct hwrite).1

end Kiosks

end Shapes
