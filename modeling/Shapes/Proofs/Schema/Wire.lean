import Shapes.Proofs.Schema.Rewriting
import Shapes.Schema.Decode
import Shapes.Schema.Encode

/-!
Schemas come back from their documents. What is left out of a document has its usual setting, and every
other entry is read as it was written. Only `null` cannot be told from nothing where a default is expected.
-/

namespace Shapes

/-- A pass over the images of a list succeeds with what each image gives. -/
theorem mapM_map_eq_some {α β γ : Type} {read : β → Option γ} {write : α → β} {result : α → γ}
    {items : List α} (hitems : ∀ a ∈ items, read (write a) = some (result a)) :
    (items.map write).mapM read = some (items.map result) := by
  induction items with
  | nil => rfl
  | cons a rest ih =>
    have hrest := ih fun item hmem => hitems item (List.mem_cons_of_mem a hmem)
    rw [List.map_cons, List.mapM_cons, hitems a (List.mem_cons_self ..), hrest]
    rfl

theorem Fields.get?_append {α : Type} (fields others : Fields α) (name : String) :
    Fields.get? (fields ++ others) name = (fields.get? name).or (others.get? name) := by
  rw [get?, get?, get?, List.lookup_append]

theorem Json.asStrings?_array (names : List String) :
    Json.asStrings? (.array (names.map .string)) = some names := by
  have hnames : (names.map Json.string).mapM asString? = some (names.map id) :=
    mapM_map_eq_some fun name _ => rfl
  rw [List.map_id] at hnames
  exact hnames

namespace Label

theorem ofJson?_toJson (label : Label) : ofJson? label.toJson = some label := by
  obtain ⟨name, description, icon⟩ := label
  cases name <;> cases description <;> cases icon <;> rfl

theorem get?_entry (label : Option Label) (name : String) :
    Fields.get? (entry label) name = if name = "display" then label.map toJson else none := by
  cases label with
  | none => simp [entry]
  | some label => simp [entry, Fields.get?_cons]

theorem nullable_eq {entries : Fields Json} {label : Option Label}
    (hget : entries.get? "display" = label.map toJson) :
    Json.nullable entries "display" ofJson? = some label := by
  rw [Json.nullable, hget]
  cases label with
  | none => rfl
  | some label =>
    show (ofJson? label.toJson).map some = _
    rw [ofJson?_toJson]
    rfl

end Label

/-- The reference whose parts are under their names, whatever stands beside them. -/
theorem RefSchema.ofEntries?_eq {entries : Fields Json} {r : RefSchema}
    (hid : entries.get? "id" = some (.string r.id))
    (hlabel : entries.get? "display" = r.label.map Label.toJson) : ofEntries? entries = some r := by
  rw [ofEntries?, hid, Label.nullable_eq hlabel]
  rfl

theorem RefSchema.ofEntries?_entries (r : RefSchema) : ofEntries? r.entries = some r := by
  refine ofEntries?_eq ?_ ?_
  · simp [entries, Fields.get?_cons]
  · simp [entries, Fields.get?_cons, Label.get?_entry]

/-- The choice whose parts are under their names, whatever stands beside them. -/
theorem OneOfSchema.ofEntries?_eq {entries : Fields Json} {c : OneOfSchema}
    (hfield : entries.get? "discriminator_field_name" = some (.string c.field))
    (htypes : entries.get? "types" =
      some (.object (c.types.map fun target => (target.1, .object target.2.entries)))) :
    ofEntries? entries = some c := by
  have htargets : (c.types.map fun target => (target.1, Json.object target.2.entries)).mapM
      (fun target => do return (target.1, ← RefSchema.ofEntries? (← target.2.asEntries?))) =
        some (c.types.map id) := by
    refine mapM_map_eq_some fun target _ => ?_
    simp only [Json.asEntries?, Option.bind_eq_bind, Option.bind_some, RefSchema.ofEntries?_entries]
    rfl
  rw [List.map_id] at htargets
  rw [ofEntries?, hfield, htypes]
  simp only [Json.asString?, Json.asEntries?, Option.bind_eq_bind, Option.bind_some] at htargets ⊢
  rw [htargets]
  rfl

namespace Schema

/-- A default that is `null` is none. -/
def dropNull : Option Json → Option Json
  | some .null => none
  | default? => default?

/-- No default of the schema is `null`. -/
def forgettingNulls : Rewriting where
  default := dropNull

/-- The schema without the defaults that are `null`. -/
def withoutNulls (schema : Schema) : Schema :=
  rewrite forgettingNulls schema

theorem get?_namesEntry (name other : String) (fields : List String) :
    Fields.get? (namesEntry name fields) other =
      if other = name ∧ fields ≠ [] then some (.array (fields.map .string)) else none := by
  cases fields with
  | nil => simp [namesEntry]
  | cons field rest => simp [namesEntry, Fields.get?_cons]

theorem optional_names_eq {entries : Fields Json} {name : String} {fields : List String}
    (hget : entries.get? name = if fields ≠ [] then some (.array (fields.map .string)) else none) :
    Json.optional entries name [] Json.asStrings? = some fields := by
  rw [Json.optional, hget]
  cases fields with
  | nil => rfl
  | cons field rest => exact Json.asStrings?_array (field :: rest)

theorem nullable_default_eq {entries : Fields Json} {default? : Option Json}
    (hget : entries.get? "default" = default?) :
    Json.nullable entries "default" some = some (dropNull default?) := by
  rw [Json.nullable, hget]
  cases default? with
  | none => rfl
  | some document => cases document <;> rfl

theorem propertyToJson_eq (property : Property Schema) :
    propertyToJson property = .object (("type", property.shape.toJson) :: optionEntries property) := by
  cases property
  rfl

theorem objectEntries_eq (o : ObjectSchema) : objectEntries o =
    [("id", .string o.id),
      ("properties", .object (o.properties.map fun field => (field.1, propertyToJson field.2)))] ++
      (if o.allowUnknown then [("allow_unknown_fields", .bool true)] else []) := by
  obtain ⟨id, properties, allowUnknown⟩ := o
  have hproperties : propertiesEntries properties =
      properties.map fun field => (field.1, propertyToJson field.2) := by
    induction properties with
    | nil => rfl
    | cons field rest ih => rw [propertiesEntries, ih, List.map_cons]
  rw [objectEntries, hproperties]

theorem scopeEntries_eq (s : ScopeSchema) : scopeEntries s =
    [("objects", .object (s.objects.map fun entry => (entry.1, .object (objectEntries entry.2)))),
      ("root", .string s.root)] := by
  obtain ⟨objects, root⟩ := s
  have hobjects : objectsEntries objects =
      objects.map fun entry => (entry.1, .object (objectEntries entry.2)) := by
    induction objects with
    | nil => rfl
    | cons entry rest ih => rw [objectsEntries, ih, List.map_cons]
  rw [scopeEntries, hobjects]

variable {part : Json → Option Schema}

/-- What a document for a field holds beside the schema of its content. -/
theorem get?_optionEntries (property : Property Schema) (name : String) :
    Fields.get? (optionEntries property) name =
      if name = "required" then some (.bool property.required)
      else if name = "default" then property.default
      else if name = "display" then property.label.map Label.toJson
      else (Fields.get? (namesEntry "required_if" property.requiredIf) name).or
        ((Fields.get? (namesEntry "required_if_not" property.requiredIfNot) name).or
          (Fields.get? (namesEntry "conflicts" property.conflicts) name)) := by
  obtain ⟨schema, required, default, requiredIf, requiredIfNot, conflicts, label⟩ := property
  cases default <;>
    simp only [optionEntries, Fields.get?_append, Fields.get?_cons, Fields.get?_nil, get?_namesEntry,
      Label.get?_entry] <;> grind

/-- A field comes back if the schema of its content does. -/
theorem propertyOfJson?_propertyToJson {property : Property Schema}
    (hpart : part property.shape.toJson = some property.shape.withoutNulls) :
    propertyOfJson? part (propertyToJson property) = some (rewriteProperty forgettingNulls property) := by
  rw [propertyToJson_eq, rewriteProperty_eq]
  generalize hentries : ("type", property.shape.toJson) :: optionEntries property = entries
  have hget : ∀ name, name ≠ "type" →
      Fields.get? entries name = Fields.get? (optionEntries property) name := by
    intro name hname
    rw [← hentries, Fields.get?_cons, if_neg hname]
  have htype : Fields.get? entries "type" = some property.shape.toJson := by
    rw [← hentries, Fields.get?_cons, if_pos rfl]
  have hrequired : Json.optional entries "required" false Json.asBool? = some property.required := by
    rw [Json.optional, hget _ (by decide), get?_optionEntries, if_pos rfl]
    rfl
  have hnames : ∀ name fields, name ≠ "type" → Fields.get? (optionEntries property) name =
      Fields.get? (namesEntry name fields) name →
      Json.optional entries name [] Json.asStrings? = some fields := by
    intro name fields hname hsame
    refine optional_names_eq ?_
    rw [hget name hname, hsame, get?_namesEntry]
    simp only [true_and]
  have hrequiredIf : Json.optional entries "required_if" [] Json.asStrings? = some property.requiredIf :=
    hnames _ _ (by decide) (by simp [get?_optionEntries, get?_namesEntry])
  have hrequiredIfNot :
      Json.optional entries "required_if_not" [] Json.asStrings? = some property.requiredIfNot :=
    hnames _ _ (by decide) (by simp [get?_optionEntries, get?_namesEntry])
  have hconflicts : Json.optional entries "conflicts" [] Json.asStrings? = some property.conflicts :=
    hnames _ _ (by decide) (by simp [get?_optionEntries, get?_namesEntry])
  have hdefault : Json.nullable entries "default" some = some (dropNull property.default) := by
    refine nullable_default_eq ?_
    rw [hget _ (by decide)]
    simp [get?_optionEntries]
  have hlabel : Json.nullable entries "display" Label.ofJson? = some property.label := by
    refine Label.nullable_eq ?_
    rw [hget _ (by decide)]
    simp [get?_optionEntries]
  simp only [propertyOfJson?, Json.asEntries?, Option.bind_eq_bind, Option.bind_some, htype, hpart,
    hrequired, hrequiredIf, hrequiredIfNot, hconflicts, hdefault, hlabel]
  rfl

/-- An object comes back, whatever stands beside its parts, if the schemas of its fields do. -/
theorem objectOfEntries?_eq {o : ObjectSchema} {entries : Fields Json}
    (hentries : ∀ name, name ≠ "type_id" → entries.get? name = Fields.get? (objectEntries o) name)
    (hpart : ∀ field ∈ o.properties, part field.2.shape.toJson = some field.2.shape.withoutNulls) :
    objectOfEntries? part entries = some (rewriteObject forgettingNulls o) := by
  have hid : entries.get? "id" = some (.string o.id) := by
    rw [hentries _ (by decide), objectEntries_eq]
    rfl
  have hfields : entries.get? "properties" =
      some (.object (o.properties.map fun field => (field.1, propertyToJson field.2))) := by
    rw [hentries _ (by decide), objectEntries_eq]
    rfl
  have hallow : Json.optional entries "allow_unknown_fields" false Json.asBool? = some o.allowUnknown := by
    rw [Json.optional, hentries _ (by decide), objectEntries_eq]
    cases o.allowUnknown <;> rfl
  have hproperties : (o.properties.map fun field => (field.1, propertyToJson field.2)).mapM
      (fun field => do return (field.1, ← propertyOfJson? part field.2)) =
        some (o.properties.map fun field => (field.1, rewriteProperty forgettingNulls field.2)) := by
    refine mapM_map_eq_some fun field hmem => ?_
    rw [propertyOfJson?_propertyToJson (hpart field hmem)]
    rfl
  rw [rewriteObject_eq]
  simp only [objectOfEntries?, hid, hfields, hallow, Json.asString?, Json.asEntries?, Option.bind_eq_bind,
    Option.bind_some] at hproperties ⊢
  rw [hproperties]
  rfl

/-- A scope comes back, whatever stands beside its parts, if the schemas of all fields do. -/
theorem scopeOfEntries?_eq {s : ScopeSchema} {entries : Fields Json}
    (hentries : ∀ name, name ≠ "type_id" → entries.get? name = Fields.get? (scopeEntries s) name)
    (hpart : ∀ entry ∈ s.objects, ∀ field ∈ entry.2.properties,
      part field.2.shape.toJson = some field.2.shape.withoutNulls) :
    scopeOfEntries? part entries = some (rewriteScope forgettingNulls s) := by
  have hmembers : entries.get? "objects" =
      some (.object (s.objects.map fun entry => (entry.1, .object (objectEntries entry.2)))) := by
    rw [hentries _ (by decide), scopeEntries_eq]
    rfl
  have hroot : entries.get? "root" = some (.string s.root) := by
    rw [hentries _ (by decide), scopeEntries_eq]
    rfl
  have hobjects : (s.objects.map fun entry => (entry.1, Json.object (objectEntries entry.2))).mapM
      (fun member => do return (member.1, ← objectOfEntries? part (← member.2.asEntries?))) =
        some (s.objects.map fun entry => (entry.1, rewriteObject forgettingNulls entry.2)) := by
    refine mapM_map_eq_some fun entry hmem => ?_
    simp only [Json.asEntries?, Option.bind_eq_bind, Option.bind_some,
      objectOfEntries?_eq (fun _ _ => rfl) (hpart entry hmem)]
    rfl
  rw [rewriteScope_eq]
  simp only [scopeOfEntries?, hmembers, hroot, Json.asString?, Json.asEntries?, Option.bind_eq_bind,
    Option.bind_some] at hobjects ⊢
  rw [hobjects]
  rfl

/-- The schemas that stand right below a schema in its document. -/
def parts : Schema → List Schema
  | .list items => [items]
  | .object o => o.properties.map fun field => field.2.shape
  | .scope s => s.objects.flatMap fun entry => entry.2.properties.map fun field => field.2.shape
  | _ => []

private theorem get?_tagged (kind : String) (entries : Fields Json) (name : String)
    (hname : name ≠ "type_id") :
    Fields.get? (("type_id", .string kind) :: entries) name = entries.get? name := by
  rw [Fields.get?_cons, if_neg hname]

/-- Only the tag is read for the kind. -/
private theorem ofJsonStep_tagged {kind? : Json → Option String}
    (hkind : ∀ name, kind? (.string name) = some name) (kind : String) (entries : Fields Json) :
    ofJsonStep kind? part (tagged kind entries) =
      ofJsonStep (fun _ => some kind) part (tagged kind entries) := by
  have htag : Fields.get? (("type_id", .string kind) :: entries) "type_id" = some (.string kind) := by
    rw [Fields.get?_cons, if_pos rfl]
  simp only [ofJsonStep, tagged, Json.asEntries?, Option.bind_eq_bind, Option.bind_some, htag, hkind]

/-- A schema comes back if its parts do, however its own tag is read. -/
theorem ofJsonStep_toJson {kind? : Json → Option String} {schema : Schema}
    (hkind : ∀ name, kind? (.string name) = some name)
    (hpart : ∀ inner ∈ schema.parts, part inner.toJson = some inner.withoutNulls) :
    ofJsonStep kind? part schema.toJson = some schema.withoutNulls := by
  cases schema with
  | list items =>
    rw [toJson, ofJsonStep_tagged hkind]
    show (part items.toJson).bind (fun inner => some (Schema.list inner)) = _
    rw [hpart items (List.mem_singleton_self items)]
    rfl
  | object o =>
    rw [toJson, ofJsonStep_tagged hkind]
    show (objectOfEntries? part _).bind (fun inner => some (Schema.object inner)) = _
    rw [objectOfEntries?_eq (get?_tagged _ _) fun field hmem => hpart _ (List.mem_map_of_mem hmem)]
    rfl
  | ref r =>
    rw [toJson, ofJsonStep_tagged hkind]
    show (RefSchema.ofEntries? _).bind (fun inner => some (Schema.ref inner)) = _
    have hlabel : Fields.get? r.entries "display" = r.label.map Label.toJson := by
      simp [RefSchema.entries, Fields.get?_cons, Label.get?_entry]
    rw [RefSchema.ofEntries?_eq rfl ((get?_tagged _ _ _ (by decide)).trans hlabel)]
    rfl
  | oneOf kind c =>
    cases kind with
    | int =>
      rw [toJson, ofJsonStep_tagged hkind]
      show (OneOfSchema.ofEntries? _).bind (fun inner => some (Schema.oneOf .int inner)) = _
      rw [OneOfSchema.ofEntries?_eq rfl rfl]
      rfl
    | string =>
      rw [toJson, ofJsonStep_tagged hkind]
      show (OneOfSchema.ofEntries? _).bind (fun inner => some (Schema.oneOf .string inner)) = _
      rw [OneOfSchema.ofEntries?_eq rfl rfl]
      rfl
  | scope s =>
    rw [toJson, ofJsonStep_tagged hkind]
    show (scopeOfEntries? part _).bind (fun inner => some (Schema.scope inner)) = _
    rw [scopeOfEntries?_eq (get?_tagged _ _) fun entry hentry field hmem =>
      hpart _ (List.mem_flatMap.2 ⟨entry, hentry, List.mem_map_of_mem hmem⟩)]
    rfl
  | _ =>
    rw [toJson, ofJsonStep_tagged hkind]
    · rfl
    all_goals nofun

private theorem depth_lt_tagged {kind : String} {entries : Fields Json} {name : String} {inner : Json}
    (hmem : (name, inner) ∈ entries) : inner.depth < (tagged kind entries).depth := by
  rw [tagged, Json.depth]
  exact Json.depth_lt_of_mem_entries (List.mem_cons_of_mem _ hmem)

private theorem depth_lt_objectEntries {o : ObjectSchema} {field : String × Property Schema}
    (hmem : field ∈ o.properties) :
    field.2.shape.toJson.depth < Json.depthEntries (objectEntries o) := by
  have hfields : field.2.shape.toJson.depth < (propertyToJson field.2).depth := by
    rw [propertyToJson_eq, Json.depth]
    exact Json.depth_lt_of_mem_entries (List.mem_cons_self ..)
  have hproperties : (propertyToJson field.2).depth <
      (Json.object (o.properties.map fun field => (field.1, propertyToJson field.2))).depth := by
    rw [Json.depth]
    exact Json.depth_lt_of_mem_entries (List.mem_map.2 ⟨field, hmem, rfl⟩)
  refine Nat.lt_trans (Nat.lt_trans hfields hproperties) ?_
  rw [objectEntries_eq]
  exact Json.depth_lt_of_mem_entries
    (List.mem_append_left _ (List.mem_cons_of_mem _ (List.mem_cons_self ..)))

/-- The documents of the parts lie inside the document. -/
theorem depth_toJson_lt {schema inner : Schema} (hmem : inner ∈ schema.parts) :
    inner.toJson.depth < schema.toJson.depth := by
  cases schema with
  | list items =>
    obtain rfl := List.mem_singleton.1 hmem
    exact depth_lt_tagged (List.mem_singleton_self _)
  | object o =>
    obtain ⟨field, hfield, rfl⟩ := List.mem_map.1 hmem
    rw [toJson, tagged, Json.depth, Json.depthEntries]
    exact Nat.lt_of_lt_of_le (depth_lt_objectEntries hfield) (Nat.le_max_right ..)
  | scope s =>
    obtain ⟨entry, hentry, hmem⟩ := List.mem_flatMap.1 hmem
    obtain ⟨field, hfield, rfl⟩ := List.mem_map.1 hmem
    have hobjects : Json.depthEntries (objectEntries entry.2) <
        (Json.object (s.objects.map fun entry => (entry.1, .object (objectEntries entry.2)))).depth := by
      rw [Json.depth]
      have hlt := Json.depth_lt_of_mem_entries
        (List.mem_map.2 ⟨entry, hentry, rfl⟩ : (entry.1, Json.object (objectEntries entry.2)) ∈
          s.objects.map fun entry => (entry.1, .object (objectEntries entry.2)))
      rw [Json.depth] at hlt
      exact hlt
    refine Nat.lt_trans (Nat.lt_trans (depth_lt_objectEntries hfield) hobjects) ?_
    rw [toJson, scopeEntries_eq]
    exact depth_lt_tagged (List.mem_cons_self ..)
  | _ => cases hmem

theorem innerWithin_toJson {depth : Nat} {schema : Schema} (hdepth : schema.toJson.depth ≤ depth) :
    innerWithin depth schema.toJson = some schema.withoutNulls := by
  induction depth generalizing schema with
  | zero =>
    refine ofJsonStep_toJson (fun _ => rfl) fun inner hmem => ?_
    have hlt := depth_toJson_lt hmem
    omega
  | succ depth ih =>
    refine ofJsonStep_toJson (fun _ => rfl) fun inner hmem => ih ?_
    have hlt := depth_toJson_lt hmem
    omega

/-- The document of a schema is read as the schema without the defaults that are `null`. -/
theorem ofJson?_toJson (schema : Schema) : ofJson? schema.toJson = some schema.withoutNulls := by
  refine ofJsonStep_toJson (fun _ => rfl) fun inner hmem => innerWithin_toJson ?_
  exact Nat.le_of_lt (depth_toJson_lt hmem)

/-- Some default in the schema is `null`. -/
def HasNullDefault (schema : Schema) : Prop :=
  ∃ o, schema.Contains (.object o) ∧ ∃ field ∈ o.properties, field.2.default = some .null

theorem dropNull_eq_self_iff {default? : Option Json} :
    dropNull default? = default? ↔ default? ≠ some .null := by
  cases default? with
  | none => simp [dropNull]
  | some document => cases document <;> simp [dropNull]

theorem withoutNulls_eq_self_iff {schema : Schema} :
    schema.withoutNulls = schema ↔ ¬ schema.HasNullDefault := by
  have hobjects : schema.Everywhere forgettingNulls.Keeps ↔ ∀ o, schema.Contains (.object o) →
      forgettingNulls.Keeps (.object o) := by
    refine ⟨fun hall o => hall (.object o), fun hall inner hcontains => ?_⟩
    cases inner with
    | object o => exact hall o hcontains
    | oneOf kind c => exact rfl
    | _ => trivial
  rw [withoutNulls, rewrite_eq_self_iff, hobjects, HasNullDefault]
  simp only [Rewriting.Keeps, forgettingNulls, dropNull_eq_self_iff, not_exists, not_and]

/-- The wire form loses nothing but the defaults that are `null`. The document of any schema is read as
the schema without these, with everything else as it was and in its order; it is read as the schema itself
exactly if there are none. The same holds for a scope, which travels without a tag. -/
theorem wire_lossless (schema : Schema) (s : ScopeSchema) :
    (ofJson? schema.toJson = some schema.withoutNulls ∧
      (ofJson? schema.toJson = some schema ↔ ¬ schema.HasNullDefault)) ∧
    (ScopeSchemaOf.ofJson? (.object (scopeEntries s)) = some (rewriteScope forgettingNulls s) ∧
      (ScopeSchemaOf.ofJson? (.object (scopeEntries s)) = some s ↔
        ¬ (Schema.scope s).HasNullDefault)) := by
  have hscope : ScopeSchemaOf.ofJson? (.object (scopeEntries s)) =
      some (rewriteScope forgettingNulls s) :=
    scopeOfEntries?_eq (fun _ _ => rfl) fun _ _ field _ => ofJson?_toJson field.2.shape
  refine ⟨⟨ofJson?_toJson schema, ?_⟩, hscope, ?_⟩
  · rw [ofJson?_toJson, Option.some.injEq, withoutNulls_eq_self_iff]
  · rw [hscope, Option.some.injEq, ← withoutNulls_eq_self_iff, withoutNulls, rewrite, Schema.scope.injEq]

end Schema

end Shapes
