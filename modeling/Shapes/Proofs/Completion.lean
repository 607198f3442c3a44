import Mathlib.Data.List.Nodup
import Shapes.Proofs.RoundTrip
import Shapes.Proofs.Soundness

/-!
Writing a value and reading what was written, for values that were put together by hand. They may lack
fields that may be absent, and hold their fields in any order; reading adds `null` for the missing fields
and puts all fields in declaration order.
-/

namespace Shapes

namespace Value

mutual

/-- The value with every missing field added as `null` and its fields in declaration order, at every
depth. -/
def completed (registry : Registry) : Value → Shape → Value
  | .list items, .list shape => .list (completedItems registry items shape)
  | .object id fields, shape =>
    match shape.object? registry with
    | some o =>
      .object id (o.fieldsOf fun field =>
        (Fields.get? (completedFields registry fields o) field.1).getD .null)
    | none => .object id fields
  | .oneOf key inner, .oneOf c =>
    match c.target? key with
    | some r => .oneOf key (completed registry inner (.ref r))
    | none => .oneOf key inner
  | value, _ => value
termination_by structural value => value

def completedItems (registry : Registry) : List Value → Shape → List Value
  | [], _ => []
  | item :: rest, shape => completed registry item shape :: completedItems registry rest shape
termination_by structural items => items

/-- The fields that are there, each completed by the shape that the object declares for it. -/
def completedFields (registry : Registry) : List (String × Value) → ObjectShape → List (String × Value)
  | [], _ => []
  | (name, content) :: rest, o =>
    (name, match o.property? name with
      | some property => completed registry content property.shape
      | none => content) :: completedFields registry rest o
termination_by structural fields => fields

end

variable {registry : Registry} {shape : Shape} {value : Value} {o : ObjectShape}

theorem completedItems_eq_map (items : List Value) :
    completedItems registry items shape = items.map fun item => completed registry item shape := by
  induction items with
  | nil => rfl
  | cons item rest ih => rw [completedItems, ih, List.map_cons]

theorem get?_completedFields (hdistinct : o.Distinct) {field : String × Property Shape}
    (hmem : field ∈ o.properties) (fields : Fields Value) :
    Fields.get? (completedFields registry fields o) field.1 =
      (Fields.get? fields field.1).map fun content => completed registry content field.2.shape := by
  have hproperty : o.property? field.1 = some field.2 := Fields.get?_of_mem hdistinct hmem
  induction fields with
  | nil => rfl
  | cons entry rest ih =>
    obtain ⟨name, content⟩ := entry
    rw [completedFields, Fields.get?_cons, Fields.get?_cons, ih]
    split
    · rename_i hname
      rw [← hname, hproperty]
      rfl
    · rfl

/-- What stands in a field of a completed object. -/
def completedContent (registry : Registry) (fields : Fields Value) (field : String × Property Shape) :
    Value :=
  ((Fields.get? fields field.1).map fun content => completed registry content field.2.shape).getD .null

theorem completed_object (hobject : shape.object? registry = some o) (hdistinct : o.Distinct) (id : String)
    (fields : Fields Value) :
    completed registry (.object id fields) shape =
      .object id (o.fieldsOf (completedContent registry fields)) := by
  have hcontent : o.fieldsOf (fun field =>
      (Fields.get? (completedFields registry fields o) field.1).getD .null) =
        o.fieldsOf (completedContent registry fields) := by
    refine List.map_congr_left fun field hmem => ?_
    dsimp only
    rw [get?_completedFields hdistinct hmem, completedContent]
  cases shape <;> simp only [completed, hobject, hcontent]

theorem completedContent_of_present {fields : Fields Value} {field : String × Property Shape}
    {content : Value} (hpresent : present? fields field.1 = some content) :
    completedContent registry fields field = completed registry content field.2.shape := by
  rw [completedContent, (Option.filter_eq_some_iff.1 hpresent).1]
  rfl

theorem completedContent_of_absent {fields : Fields Value} {field : String × Property Shape}
    (habsent : present? fields field.1 = none) : completedContent registry fields field = .null := by
  rw [completedContent]
  cases hget : Fields.get? fields field.1 with
  | none => rfl
  | some content =>
    rw [present?, hget] at habsent
    cases content <;> first
      | rfl
      | cases habsent

theorem sameItems_map {items : List Value} {f : Value → Value}
    (hsame : ∀ item ∈ items, item.same (f item) = true) : sameItems items (items.map f) = true := by
  induction items with
  | nil => rfl
  | cons item rest ih =>
    have hrest := ih fun other hmem => hsame other (by simp [hmem])
    rw [List.map_cons, sameItems, hsame item (by simp), hrest]
    rfl

theorem sameFields_of_get? {fields others : Fields Value}
    (hsame : ∀ entry ∈ fields, ∃ content, Fields.get? others entry.1 = some content ∧
      entry.2.same content = true) : sameFields fields others = true := by
  induction fields with
  | nil => rfl
  | cons entry rest ih =>
    obtain ⟨name, own⟩ := entry
    obtain ⟨content, hget, hcontent⟩ := hsame (name, own) (by simp)
    have hrest := ih fun other hmem => hsame other (by simp [hmem])
    simp [sameFields, hget, hcontent, hrest]

end Value

namespace Fields

/-- Fields of the same names are equally many. -/
theorem length_eq_of_mem_names_iff {α β : Type} {fields : Fields α} {others : Fields β}
    (hfields : fields.Distinct) (hothers : others.Distinct)
    (hnames : ∀ name, name ∈ fields.names ↔ name ∈ others.names) : fields.length = others.length := by
  have hperm := (List.perm_ext_iff_of_nodup hfields hothers).2 hnames
  simpa [names] using hperm.length_eq

end Fields

namespace ObjectOf

variable {o : ObjectShape} {given held : String → Bool}

/-- Rules that name declared fields only do not see the presence of other fields. -/
theorem Obeys.of_agree (hobeys : o.Obeys given) (hlocal : o.RulesLocal)
    (hagree : ∀ name, o.declares name = true → held name = given name) : o.Obeys held := by
  have hown : ∀ field ∈ o.properties, held field.1 = given field.1 := fun field hmem =>
    hagree field.1 (declares_iff.2 ⟨field.2, hmem⟩)
  have hnamed : ∀ field ∈ o.properties,
      ∀ other ∈ field.2.requiredIf ++ field.2.requiredIfNot ++ field.2.conflicts,
        held other = given other := fun field hmem other hother =>
    hagree other (hlocal field hmem other hother)
  apply hobeys.transfer
  · intro field hmem hfield other hother hpresent
    rw [← hown field hmem, ← hnamed field hmem other (by simp [hother])]
    exact ⟨hfield, hpresent⟩
  · intro field hmem hfield
    refine ⟨by rwa [← hown field hmem], fun other hother hpresent => ?_, fun other hother hpresent => ?_⟩
    · rwa [← hnamed field hmem other (by simp [hother])]
    · rwa [hnamed field hmem other (by simp [hother])]

end ObjectOf

namespace Shape

variable {registry : Registry} {shape inner : Shape} {tolerated : Option String} {budget : Nat}
  {json found : Json} {value : Value}

/-- A field that is required wherever it is declared is written wherever it is declared. -/
theorem Writes.declares_eq_false {r : Reference} {o : ObjectShape} {entries : Fields Json}
    {name : String} (hwrites : Writes registry (.ref r) value (.object entries))
    (hobject : r.target? registry = some o) (hdistinct : o.Distinct)
    (hrequired : ∀ property, o.property? name = some property → property.required = true)
    (hnone : Fields.get? entries name = none) : o.declares name = false := by
  generalize hequal : Json.object entries = document at hwrites
  cases hwrites with
  | object hown _ hrules _ =>
    have htarget : r.target? registry = some _ := hown
    rw [hobject] at htarget
    cases htarget
    cases hequal
    by_contra hnot
    obtain ⟨property, hmem⟩ := ObjectOf.declares_iff.1 (by simpa using hnot)
    rw [ObjectOf.get?_entriesOf hdistinct hmem, ite_eq_right_iff] at hnone
    have habsent : ¬ Value.isPresent _ name = true := fun hpresent => nomatch hnone hpresent
    have hoptional := hrules.required_eq_false hmem (by simpa using habsent)
    rw [hrequired property (Fields.get?_of_mem hdistinct hmem)] at hoptional
    cases hoptional

/-- Entries that hold what an object value holds read as the completed value, if nothing is filled in by
default. -/
theorem reads_completed_of_entries {o : ObjectShape} {fields : Fields Value} {entries : Fields Json}
    {document : String × Property Shape → Json} (hobject : inner.object? registry = some o)
    (hdistinct : o.Distinct) (hlocal : o.RulesLocal)
    (hbare : ∀ field ∈ o.properties, field.2.default = none)
    (hrules : o.Obeys (Value.isPresent fields)) (hundeclared : o.undeclared? tolerated entries = none)
    (hentry : ∀ field ∈ o.properties, Json.present? entries field.1 =
      if Value.isPresent fields field.1 then some (document field) else none)
    (hparts : ∀ field ∈ o.properties, ∀ content, Value.present? fields field.1 = some content →
      Reads registry none budget field.2.shape (document field)
        (content.completed registry field.2.shape)) :
    Reads registry tolerated budget inner (.object entries)
      ((Value.object o.id fields).completed registry inner) := by
  have hagree : ∀ name, o.declares name = true →
      Json.isPresent entries name = Value.isPresent fields name := by
    intro name hdeclares
    obtain ⟨property, hmem⟩ := ObjectOf.declares_iff.1 hdeclares
    rw [Json.isPresent, hentry _ hmem]
    cases Value.isPresent fields name <;> rfl
  rw [Value.completed_object hobject hdistinct]
  refine .object hobject ⟨hundeclared, hrules.of_agree hlocal hagree, ?_⟩ ?_ ?_
  · exact fun field hmem _ hdefault => absurd (hbare field hmem) hdefault
  · intro field hmem less part hsource
    rcases Property.source?_eq_some_iff.1 hsource with ⟨hpart, rfl⟩ | ⟨_, hdefault, _⟩
    · rw [hentry field hmem, Value.isPresent] at hpart
      cases hpresent : Value.present? fields field.1 with
      | none => simp [hpresent] at hpart
      | some content =>
        obtain rfl : document field = part := by simpa [hpresent] using hpart
        rw [Value.completedContent_of_present hpresent]
        exact hparts field hmem content hpresent
    · rw [hbare field hmem] at hdefault
      cases hdefault
  · intro field hmem hnone
    have habsent := (Property.source?_eq_none_iff.1 hnone).1
    apply Value.completedContent_of_absent
    rw [hentry field hmem, Value.isPresent] at habsent
    cases hpresent : Value.present? fields field.1 with
    | none => rfl
    | some content => simp [hpresent] at habsent

section Back

variable (hdistinct : ∀ o, shape.ReachesObject registry o → o.Distinct)
  (htyped : ¬ shape.Reaches registry .any)
  (hbare : ∀ o, shape.ReachesObject registry o → ∀ field ∈ o.properties, field.2.default = none)
  (hlocal : ∀ o, shape.ReachesObject registry o → o.RulesLocal)
  (hrequired : ∀ c, shape.Reaches registry (.oneOf c) → ∀ variant ∈ c.variants, ∀ o,
    variant.2.target? registry = some o → ∀ property, o.property? c.field = some property →
      property.required = true)

include hdistinct htyped hbare hlocal hrequired

/-- What was written reads as the completed value. -/
theorem Writes.reads_completed (hwrites : Writes registry inner value json)
    (hreaches : shape.Reaches registry inner)
    (hretagged : Retagged registry tolerated inner json found)
    (htolerated : inner.object? registry = none → tolerated = none) :
    Reads registry tolerated budget inner found (value.completed registry inner) := by
  induction hwrites generalizing tolerated found with
  | any => exact absurd hreaches htyped
  | bool =>
    obtain rfl := htolerated rfl
    rw [hretagged.eq]
    exact .bool
  | int =>
    obtain rfl := htolerated rfl
    rw [hretagged.eq]
    exact .int (Number.toInt64?_ofInt64 _)
  | @float x n hfinite =>
    obtain rfl := htolerated rfl
    rw [hretagged.eq]
    unfold Number.ofFloat? at hfinite
    split at hfinite
    · cases hfinite
      exact .float
    · cases hfinite
  | string =>
    obtain rfl := htolerated rfl
    rw [hretagged.eq]
    exact .string
  | @list items values document _ ih =>
    obtain rfl := htolerated rfl
    rw [hretagged.eq, Value.completed, Value.completedItems_eq_map]
    exact reads_list_map fun item hmem =>
      ih item hmem (.item hreaches) (Or.inl rfl) fun _ => rfl
  | @object inner o fields document hobject hknown hrules hfields ih =>
    have hreached := hreaches.object hobject
    have hown := hdistinct o hreached
    obtain ⟨entries, rfl, hundeclared, hentries⟩ := hretagged.entries hobject
    have hheld : ∀ field ∈ o.properties, Value.isPresent fields field.1 = true →
        (document field).isNull = false := by
      intro field hmem hpresent
      obtain ⟨content, hcontent⟩ := Option.isSome_iff_exists.1 hpresent
      refine (hfields field hmem content hcontent).isNull_eq_false fun hany => ?_
      exact htyped (hany ▸ hreaches.field hobject hmem)
    -- A field has an entry iff it is held, and the entry is what its content was written as.
    have hentry : ∀ field ∈ o.properties, Json.present? entries field.1 =
        if Value.isPresent fields field.1 then some (document field) else none := by
      intro field hmem
      rw [hentries field hmem, ObjectOf.present?_entriesOf hown hmem (hheld field hmem)]
    refine reads_completed_of_entries hobject hown (hlocal o hreached) (hbare o hreached) hrules
      hundeclared hentry fun field hmem content hpresent => ?_
    exact ih field hmem content hpresent (.field hreaches hobject hmem) (Or.inl rfl) fun _ => rfl
  | @oneOf c key r inner document tagged htarget hinner htag ih =>
    obtain rfl := htolerated rfl
    rw [hretagged.eq]
    have hvariant := OneOf.mem_of_target? htarget
    have hreached := hreaches.variant hvariant
    obtain ⟨entries, rfl, htagged⟩ := OneOf.tag_eq_ok_iff.1 htag
    have hcompleted : (Value.oneOf key inner).completed registry (.oneOf c) =
        .oneOf key (inner.completed registry (.ref r)) := by
      rw [Value.completed, htarget]
    rw [hcompleted]
    obtain ⟨o, hobject⟩ := hinner.exists_target
    have htarget' : (Shape.ref r).object? registry = some o := hobject
    have hresolved : (Shape.ref r).object? registry = none → some c.field = none := by
      intro hnone
      rw [htarget'] at hnone
      cases hnone
    rcases htagged with ⟨hnone, rfl⟩ | ⟨raw, hraw, hkey, rfl⟩
    · have hundeclared := hinner.declares_eq_false hobject (hdistinct o (hreached.object htarget'))
        (hrequired c hreaches _ hvariant o hobject) hnone
      have hcoerce := OneOf.coerce_toJson_of_target? htarget
      refine .oneOf (Fields.get?_append_self hnone) hcoerce htarget (ih hreached (Or.inr ?_) hresolved)
      refine ⟨c.field, key.toJson, entries, rfl, rfl, rfl, fun other hother => ?_⟩
      rw [htarget'] at hother
      cases hother
      exact hundeclared
    · exact .oneOf hraw hkey htarget (ih hreached (Or.inl rfl) hresolved)

end Back

/-- A value that has all its fields is equal to the completed value. -/
theorem Writes.same_completed (hwrites : Writes registry inner value json)
    (hdistinct : ∀ o, shape.ReachesObject registry o → o.Distinct)
    (htyped : ¬ shape.Reaches registry .any) (hreaches : shape.Reaches registry inner)
    (hfull : ∀ o fields, Places registry inner value o fields →
      Fields.Distinct fields ∧ ∀ field ∈ o.properties, field.1 ∈ Fields.names fields) :
    value.same (value.completed registry inner) = true := by
  induction hwrites with
  | any => exact absurd hreaches htyped
  | bool => exact beq_self_eq_true _
  | int => exact beq_self_eq_true _
  | @float x n hfinite =>
    unfold Number.ofFloat? at hfinite
    split at hfinite
    · rename_i hx
      exact beq_self_of_isFinite hx
    · cases hfinite
  | string => exact beq_self_eq_true _
  | @list items values document _ ih =>
    rw [Value.completed, Value.completedItems_eq_map, Value.same]
    exact Value.sameItems_map fun item hmem =>
      ih item hmem (.item hreaches) fun o fields hplaces => hfull o fields (.item hmem hplaces)
  | @object inner o fields document hobject hknown _ _ ih =>
    have hown := hdistinct o (hreaches.object hobject)
    obtain ⟨hnodup, hall⟩ := hfull o fields (.here hobject)
    have hlength : fields.length = (o.fieldsOf (Value.completedContent registry fields)).length := by
      rw [ObjectOf.fieldsOf, List.length_map]
      refine Fields.length_eq_of_mem_names_iff hnodup hown fun name => ⟨fun hmem => ?_, fun hmem => ?_⟩
      · obtain ⟨property, hproperty⟩ := ObjectOf.declares_iff.1 (hknown name hmem)
        exact List.mem_map.2 ⟨_, hproperty, rfl⟩
      · obtain ⟨field, hfield, rfl⟩ := List.mem_map.1 hmem
        exact hall field hfield
    rw [Value.completed_object hobject hown, Value.same, beq_self_eq_true, hlength, beq_self_eq_true]
    refine Value.sameFields_of_get? fun entry hentry => ?_
    obtain ⟨name, content⟩ := entry
    obtain ⟨property, hmem⟩ := ObjectOf.declares_iff.1
      (hknown name (List.mem_map.2 ⟨_, hentry, rfl⟩))
    refine ⟨_, ObjectOf.get?_fieldsOf hown hmem, ?_⟩
    have hget : Fields.get? fields name = some content := Fields.get?_of_mem hnodup hentry
    cases hnull : content.isNull with
    | true =>
      obtain rfl := Value.isNull_iff.1 hnull
      have habsent : Value.present? fields name = none := by
        rw [Value.present?, hget]
        rfl
      rw [Value.completedContent_of_absent habsent]
      rfl
    | false =>
      have hpresent : Value.present? fields name = some content := by
        rw [Value.present?, hget]
        simp [hnull]
      rw [Value.completedContent_of_present hpresent]
      exact ih _ hmem content hpresent (.field hreaches hobject hmem) fun other held hplaces =>
        hfull other held (.field hobject hmem hpresent hplaces)
  | @oneOf c key r inner document tagged htarget _ _ ih =>
    have hcompleted : (Value.oneOf key inner).completed registry (.oneOf c) =
        .oneOf key (inner.completed registry (.ref r)) := by
      rw [Value.completed, htarget]
    have hinner := ih (hreaches.variant (OneOf.mem_of_target? htarget)) fun o fields hplaces =>
      hfull o fields (.variant htarget hplaces)
    rw [hcompleted, Value.same, hinner, beq_self_eq_true]
    rfl

/-- A value that can be written by a shape of a live scope reads again as the completed value, and that is
the value itself if it has all its fields everywhere. The shape may come to no untyped part and to no
default, its rules name declared fields, and an object that declares the discriminator by which it is
selected requires it. -/
theorem read_write_completed (hreachable : registry.Reachable) (hholds : registry.Holds shape)
    (htyped : ¬ shape.Reaches registry .any)
    (hbare : ∀ o, shape.ReachesObject registry o → ∀ field ∈ o.properties, field.2.default = none)
    (hlocal : ∀ o, shape.ReachesObject registry o → o.RulesLocal)
    (hrequired : ∀ c, shape.Reaches registry (.oneOf c) → ∀ variant ∈ c.variants, ∀ o,
      variant.2.target? registry = some o → ∀ property, o.property? c.field = some property →
        property.required = true)
    (hwrite : (write registry shape value).result = .ok json) :
    (read registry shape json).result = .ok (value.completed registry shape) ∧
      ((∀ o fields, Places registry shape value o fields →
        Fields.Distinct fields ∧ ∀ field ∈ o.properties, field.1 ∈ Fields.names fields) →
          value.same (value.completed registry shape) = true) := by
  have hsound := hreachable.sound
  have hdistinct : ∀ o, shape.ReachesObject registry o → o.Distinct := fun o hreached =>
    (usable_of_holds hsound hholds).distinct hsound hreached
  have hwrites := writes_of_write hwrite
  constructor
  · exact readNested_eq_ok_iff.2 (hwrites.reads_completed hdistinct htyped hbare hlocal hrequired .refl
      (Or.inl rfl) fun _ => rfl)
  · exact hwrites.same_completed hdistinct htyped .refl

end Shape

namespace Folders

open Shape

/-- A folder is in other folders and has an owner, told by its kind. -/
def folder : ObjectShape where
  id := "Folder"
  properties := [
    ("name", { shape := .string, required := true }),
    ("inside", { shape := .list (.ref { id := "Folder" }) }),
    ("owner", {
      shape := .oneOf {
        field := "kind"
        kind := .string
        variants := [(.string "user", { id := "User" }), (.string "group", { id := "Group" })]
        uniform := by decide
        distinct := by decide } })]

def user : ObjectShape where
  id := "User"
  properties := [("number", { shape := .int })]

/-- A group declares its own kind. -/
def group : ObjectShape where
  id := "Group"
  properties := [("size", { shape := .int }), ("kind", { shape := .string, required := true })]

def scope : Scope := ⟨0, "Folder", [folder, user, group].map (bindObject 0)⟩

def registry : Registry := ⟨1, [scope]⟩

/-- Fields are missing and out of order. -/
def handmade : Value := .object "Folder" [
  ("owner", .oneOf (.string "group") (.object "Group" [("kind", .string "group")])),
  ("inside", .list [.object "Folder" [
    ("owner", .oneOf (.string "user") (.object "User" [("number", .int (-3))])),
    ("name", .string "b")]]),
  ("name", .string "a")]

def output : Json := .object [
  ("name", .string "a"),
  ("inside", .array [.object [
    ("name", .string "b"),
    ("owner", .object [("number", .ofInt64 (-3)), ("kind", .string "user")])]]),
  ("owner", .object [("kind", .string "group")])]

def complete : Value := .object "Folder" [
  ("name", .string "a"),
  ("inside", .list [.object "Folder" [
    ("name", .string "b"),
    ("inside", .null),
    ("owner", .oneOf (.string "user") (.object "User" [("number", .int (-3))]))]]),
  ("owner", .oneOf (.string "group") (.object "Group" [
    ("size", .null), ("kind", .string "group")]))]

/-- All fields are there, in another order. -/
def shuffled : Value := .object "Folder" [("inside", .null), ("owner", .null), ("name", .string "a")]

def shuffledOutput : Json := .object [("name", .string "a")]

theorem read_write_completed_folder :
    (write registry (.scope scope) handmade).result = .ok output ∧
      handmade.completed registry (.scope scope) = complete ∧
      (read registry (.scope scope) output).result = .ok complete ∧
      (write registry (.scope scope) shuffled).result = .ok shuffledOutput ∧
      (read registry (.scope scope) shuffledOutput).result =
        .ok (shuffled.completed registry (.scope scope)) ∧
      shuffled.same (shuffled.completed registry (.scope scope)) = true := by
  have husable : ∀ o ∈ [folder, user, group], (Shape.object o).Usable {} := by
    simp [usable_object_iff, ObjectOf.Distinct, Fields.Distinct, Fields.names, folder, user, group,
      objectNodes, propertiesNodes, propertyNodes, nodes]
  have hreachable : registry.Reachable :=
    .single (.freeze husable (show (Registry.freeze {} "Folder" _).result = _ from rfl))
  have hholds : registry.Holds (.scope scope) := .scope (List.mem_singleton.2 rfl)
  have hnodes : ∀ inner, (Shape.scope scope).Reaches registry inner → inner = .any ∨ (∃ c, inner = .oneOf c) →
      inner ∈ scope.nodes := by
    intro inner hreaches hkind
    cases hreachable.sound.holds_of_reaches hholds hreaches with
    | node hlive hmem =>
      obtain rfl := List.mem_singleton.1 hlive
      exact hmem
    | _ => rcases hkind with heq | ⟨_, heq⟩ <;> cases heq
  have hobjects : ∀ o, (Shape.scope scope).ReachesObject registry o →
      o.RulesLocal ∧ ∀ field ∈ o.properties, field.2.default = none := by
    intro o hreached
    obtain ⟨s, hlive, hmem⟩ := hreachable.sound.mem_of_reachesObject hholds hreached
    obtain rfl := List.mem_singleton.1 hlive
    rcases hmem with hmem | hmem
    · have hall : ∀ o ∈ scope.objects, o.RulesLocal ∧ ∀ field ∈ o.properties, field.2.default = none := by
        decide
      exact hall o hmem
    · simp [scope, folder, user, group, ScopeOf.nodes, bindObject, bindProperties, bindProperty,
        Shape.bind, objectNodes, propertiesNodes, propertyNodes, nodes] at hmem
  have htyped : ¬ (Shape.scope scope).Reaches registry .any := by
    intro hreaches
    have hmem := hnodes _ hreaches (Or.inl rfl)
    simp [scope, folder, user, group, ScopeOf.nodes, bindObject, bindProperties, bindProperty,
      Shape.bind, objectNodes, propertiesNodes, propertyNodes, nodes] at hmem
  have hrequired : ∀ c, (Shape.scope scope).Reaches registry (.oneOf c) → ∀ variant ∈ c.variants, ∀ o,
      variant.2.target? registry = some o → ∀ property, o.property? c.field = some property →
        property.required = true := by
    intro c hreaches variant hvariant o htarget property hproperty
    have hmem := hnodes _ hreaches (Or.inr ⟨c, rfl⟩)
    simp [scope, folder, user, group, ScopeOf.nodes, bindObject, bindProperties, bindProperty,
      Shape.bind, objectNodes, propertiesNodes, propertyNodes, nodes] at hmem
    subst hmem
    simp [OneOf.bind] at hvariant
    rcases hvariant with rfl | rfl
    · obtain rfl : bindObject 0 user = o := Option.some.inj htarget
      cases hproperty
    · obtain rfl : bindObject 0 group = o := Option.some.inj htarget
      cases hproperty
      rfl
  have hwrite : (write registry (.scope scope) handmade).result = .ok output := rfl
  have hcompleted : handmade.completed registry (.scope scope) = complete := rfl
  have hshuffled : (write registry (.scope scope) shuffled).result = .ok shuffledOutput := rfl
  have hlocal := fun o hreached => (hobjects o hreached).1
  have hbare := fun o hreached => (hobjects o hreached).2
  have hread := (read_write_completed hreachable hholds htyped hbare hlocal hrequired hwrite).1
  rw [hcompleted] at hread
  refine ⟨hwrite, hcompleted, hread, hshuffled, ?_⟩
  obtain ⟨hread, hsame⟩ :=
    read_write_completed hreachable hholds htyped hbare hlocal hrequired hshuffled
  refine ⟨hread, hsame fun o fields hplaces => ?_⟩
  cases hplaces with
  | here hobject =>
    obtain rfl : bindObject 0 folder = o := Option.some.inj hobject
    decide
  | field howner hmem hpresent hplaces =>
    -- Only the name is there, and nothing is inside a text.
    obtain rfl := Option.some.inj howner
    rcases hmem with _ | ⟨_, _ | ⟨_, _ | ⟨_, hmem⟩⟩⟩
    · obtain rfl := Option.some.inj hpresent
      cases hplaces
    · cases hpresent
    · cases hpresent
    · cases hmem

end Folders

end Shapes
