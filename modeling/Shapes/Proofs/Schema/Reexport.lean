import Shapes.Proofs.Schema.Acceptance
import Shapes.Schema.Same

/-!
Exporting what was built from a schema. It gives the canonical form of the schema, which is the schema itself
exactly if its integer keys are canonical, also where the order of names is not looked at; and the canonical
form builds and exports once more, as it stands.
-/

namespace Shapes

namespace Fields

variable {α β : Type} {fields : Fields α} {others : Fields β}

/-- If different names are all found among as many others, the others are different too, and they are the
same names. -/
theorem distinct_of_found (hdistinct : fields.Distinct) (hlength : fields.length = others.length)
    (hfound : ∀ entry ∈ fields, ∃ b, others.get? entry.1 = some b) :
    others.Distinct ∧ ∀ entry ∈ others, ∃ a, (entry.1, a) ∈ fields := by
  have hperm := perm_names_of_found hdistinct hlength hfound
  refine ⟨hperm.nodup_iff.1 hdistinct, fun entry hmem => ?_⟩
  have hname : entry.1 ∈ fields.names := hperm.mem_iff.2 (List.mem_map_of_mem hmem)
  obtain ⟨⟨_, a⟩, ha, rfl⟩ := List.mem_map.1 hname
  exact ⟨a, ha⟩

end Fields

namespace Schema

theorem sameProperties_iff {properties : List (String × Property Schema)} {other : ObjectSchema} :
    sameProperties properties other = true ↔ ∀ field ∈ properties, ∃ found,
      other.property? field.1 = some found ∧ sameProperty field.2 found = true := by
  induction properties with
  | nil => simp [sameProperties]
  | cons field rest ih =>
    obtain ⟨name, property⟩ := field
    rw [sameProperties, Bool.and_eq_true, ih, List.forall_mem_cons]
    refine and_congr_left fun _ => ?_
    cases other.property? name <;> simp

theorem sameObjects_iff {objects : List (String × ObjectSchema)} {others : Fields ObjectSchema} :
    sameObjects objects others = true ↔ ∀ entry ∈ objects, ∃ found,
      others.get? entry.1 = some found ∧ sameObject entry.2 found = true := by
  induction objects with
  | nil => simp [sameObjects]
  | cons entry rest ih =>
    obtain ⟨key, o⟩ := entry
    rw [sameObjects, Bool.and_eq_true, ih, List.forall_mem_cons]
    refine and_congr_left fun _ => ?_
    cases others.get? key <;> simp

theorem same_of_sameProperty {property other : Property Schema} (hsame : sameProperty property other = true) :
    property.shape.same other.shape = true := by
  cases property
  exact (Bool.and_eq_true_iff.1 hsame).1

theorem sameObject_iff {o p : ObjectSchema} : sameObject o p = true ↔
    o.id = p.id ∧ o.allowUnknown = p.allowUnknown ∧ o.properties.length = p.properties.length ∧
      sameProperties o.properties p = true := by
  cases o
  simp [sameObject, and_assoc]

/-- Canonical keys pass to every schema that is the same as this one. -/
def PassesKeys (schema : Schema) : Prop :=
  ∀ other, schema.Keyed → schema.same other = true → schema.CanonicallyKeyed → other.CanonicallyKeyed

private theorem canonicallyKeyed_of_sameObject {o p : ObjectSchema}
    (hfields : ∀ field ∈ o.properties, field.2.shape.PassesKeys) (hkeyed : (Schema.object o).Keyed)
    (hsame : sameObject o p = true) (hcanonical : (Schema.object o).CanonicallyKeyed) :
    (Schema.object p).CanonicallyKeyed := by
  obtain ⟨-, -, hlength, hproperties⟩ := sameObject_iff.1 hsame
  obtain ⟨hdistinct, hkeyed⟩ := everywhere_object_iff.1 hkeyed
  have hfound := sameProperties_iff.1 hproperties
  obtain ⟨hothers, hnames⟩ := Fields.distinct_of_found hdistinct hlength fun field hmem =>
    (hfound field hmem).imp fun _ => And.left
  refine everywhere_object_iff.2 ⟨trivial, fun field hmem => ?_⟩
  obtain ⟨property, hown⟩ := hnames field hmem
  obtain ⟨found, hget, hfield⟩ := hfound _ hown
  obtain rfl : field.2 = found := Option.some.inj ((Fields.get?_of_mem hothers hmem).symm.trans hget)
  exact hfields _ hown _ (hkeyed _ hown) (same_of_sameProperty hfield)
    ((everywhere_object_iff.1 hcanonical).2 _ hown)

private theorem canonicallyKeyed_of_sameOneOf {kind : KeyKind} {c d : OneOfSchema}
    (hdistinct : Fields.Distinct c.types) (hsame : c.same d = true)
    (hcanonical : (Schema.oneOf kind c).CanonicallyKeyed) : (Schema.oneOf kind d).CanonicallyKeyed := by
  simp only [OneOfSchema.same, Bool.and_eq_true, beq_iff_eq, List.all_eq_true] at hsame
  obtain ⟨⟨-, hlength⟩, htargets⟩ := hsame
  obtain ⟨-, hnames⟩ := Fields.distinct_of_found hdistinct hlength fun target hmem =>
    ⟨target.2, htargets target hmem⟩
  have hown := everywhere_oneOf_iff.1 hcanonical
  refine everywhere_oneOf_iff.2 ?_
  cases kind with
  | int =>
    intro target hmem
    obtain ⟨r, hr⟩ := hnames target hmem
    exact hown (target.1, r) hr
  | string => trivial

private theorem canonicallyKeyed_of_sameScope {s t : ScopeSchema}
    (hfields : ∀ entry ∈ s.objects, ∀ field ∈ entry.2.properties, field.2.shape.PassesKeys)
    (hkeyed : (Schema.scope s).Keyed) (hsame : sameScope s t = true)
    (hcanonical : (Schema.scope s).CanonicallyKeyed) : (Schema.scope t).CanonicallyKeyed := by
  obtain ⟨objects, root⟩ := s
  simp only [sameScope, Bool.and_eq_true, beq_iff_eq] at hsame
  obtain ⟨⟨-, hlength⟩, hobjects⟩ := hsame
  obtain ⟨hdistinct, hkeyed⟩ := everywhere_scope_iff.1 hkeyed
  have hfound := sameObjects_iff.1 hobjects
  obtain ⟨hothers, hnames⟩ := Fields.distinct_of_found hdistinct hlength fun entry hmem =>
    (hfound entry hmem).imp fun _ => And.left
  refine everywhere_scope_iff.2 ⟨trivial, fun entry hmem => ?_⟩
  obtain ⟨o, hown⟩ := hnames entry hmem
  obtain ⟨found, hget, hobject⟩ := hfound _ hown
  obtain rfl : entry.2 = found := Option.some.inj ((Fields.get?_of_mem hothers hmem).symm.trans hget)
  exact canonicallyKeyed_of_sameObject (hfields _ hown) (hkeyed _ hown) hobject
    ((everywhere_scope_iff.1 hcanonical).2 _ hown)

/-- Schemas that are the same up to the order of names are keyed in the same way. -/
theorem passesKeys (schema : Schema) : schema.PassesKeys := by
  induction schema using Schema.induction with
  | list items ih =>
    intro other hkeyed hsame hcanonical
    cases other with
    | list others =>
      exact everywhere_list_iff.2 ⟨trivial, ih others (everywhere_list_iff.1 hkeyed).2 hsame
        (everywhere_list_iff.1 hcanonical).2⟩
    | _ => cases hsame
  | object o ih =>
    intro other hkeyed hsame hcanonical
    cases other with
    | object p => exact canonicallyKeyed_of_sameObject ih hkeyed hsame hcanonical
    | _ => cases hsame
  | oneOf kind c =>
    intro other hkeyed hsame hcanonical
    cases other with
    | oneOf otherKind d =>
      obtain ⟨hkind, hchoice⟩ := Bool.and_eq_true_iff.1 hsame
      obtain rfl := beq_iff_eq.1 hkind
      exact canonicallyKeyed_of_sameOneOf (everywhere_oneOf_iff.1 hkeyed) hchoice hcanonical
    | _ => cases hsame
  | scope s ih =>
    intro other hkeyed hsame hcanonical
    cases other with
    | scope t => exact canonicallyKeyed_of_sameScope ih hkeyed hsame hcanonical
    | _ => cases hsame
  | _ =>
    intro other hkeyed hsame hcanonical
    -- Only the like of a schema without parts is the same as it.
    cases other <;> first
      | exact absurd hsame Bool.false_ne_true
      | exact fun inner hcontains => by cases hcontains; trivial

end Schema

namespace OneOf

/-- The keys of a choice are told apart by their texts. -/
theorem distinct_schema (c : OneOf) : Fields.Distinct c.schema.types := by
  have htexts : c.schema.types.map Prod.fst = (c.variants.map Prod.fst).map Discriminant.text := by
    rw [schema, List.map_map, List.map_map]
    rfl
  rw [Fields.Distinct, Fields.names, htexts]
  refine c.distinct.map_on fun key hkey other hother htext => Discriminant.eq_of_text_eq ?_ htext
  obtain ⟨v, hv, rfl⟩ := List.mem_map.1 hkey
  obtain ⟨w, hw, rfl⟩ := List.mem_map.1 hother
  rw [c.uniform v hv, c.uniform w hw]

/-- The integer keys of a choice are exported as decimals. -/
theorem exists_int64_of_mem_schema {c : OneOf} (hkind : c.kind = .int) {target : String × RefSchema}
    (hmem : target ∈ c.schema.types) : ∃ k, target.1 = Text.ofInt64 k := by
  obtain ⟨v, hv, rfl⟩ := List.mem_map.1 hmem
  have huniform := c.uniform v hv
  rw [hkind] at huniform
  cases hkey : v.1 with
  | int k => exact ⟨k, rfl⟩
  | string text =>
    rw [hkey] at huniform
    cases huniform

end OneOf

namespace Shape

open Schema (everywhere_list_iff everywhere_object_iff everywhere_oneOf_iff everywhere_scope_iff)

variable {registry : Registry}

private theorem everywhere_objectSchema {P : Schema → Prop} {o : ObjectShape}
    (hself : P (.object (objectSchema o)))
    (hfields : ∀ field ∈ o.properties, field.2.shape.schema.Everywhere P) :
    (Schema.object (objectSchema o)).Everywhere P := by
  refine everywhere_object_iff.2 ⟨hself, ?_⟩
  rw [objectSchema_eq]
  refine List.forall_mem_map.2 fun field hmem => ?_
  rw [fieldSchema, propertySchema_eq]
  exact hfields field hmem

private theorem everywhere_scopeSchema {P : Schema → Prop} {s : Scope}
    (hself : P (.scope (scopeSchema s)))
    (hobjects : ∀ o ∈ s.objects, (Schema.object (objectSchema o)).Everywhere P) :
    (Schema.scope (scopeSchema s)).Everywhere P := by
  refine everywhere_scope_iff.2 ⟨hself, ?_⟩
  rw [scopeSchema_eq]
  exact List.forall_mem_map.2 hobjects

/-- Integer keys are exported as decimals everywhere. -/
theorem canonicallyKeyed_schema (shape : Shape) : shape.schema.CanonicallyKeyed := by
  induction shape using Shape.inductionThroughScopes with
  | list items ih => exact everywhere_list_iff.2 ⟨trivial, ih⟩
  | object o ih => exact everywhere_objectSchema trivial ih
  | oneOf c =>
    refine everywhere_oneOf_iff.2 ?_
    cases hkind : c.kind with
    | int => exact fun target hmem => OneOf.exists_int64_of_mem_schema hkind hmem
    | string => trivial
  | scope s ih =>
    exact everywhere_scopeSchema trivial fun o ho => everywhere_objectSchema trivial (ih o ho)
  | _ =>
    intro inner hcontains
    cases hcontains
    trivial

theorem distinct_scopeSchema {s : Scope} (hconsistent : s.Consistent) :
    Fields.Distinct (scopeSchema s).objects := by
  simpa [scopeSchema_eq, Fields.Distinct, Fields.names, Function.comp_def] using hconsistent.distinct

/-- No name is used twice in the schema of a shape that can be used. -/
theorem Usable.keyed {shape : Shape} (husable : shape.Usable registry) (hsound : registry.Sound) :
    shape.schema.Keyed := by
  induction shape using Shape.inductionThroughScopes with
  | list items ih => exact everywhere_list_iff.2 ⟨trivial, ih (usable_list_iff.1 husable)⟩
  | object o ih =>
    obtain ⟨hdistinct, hfields⟩ := usable_object_iff_fields.1 husable
    exact everywhere_objectSchema (distinct_objectSchema hdistinct) fun field hmem =>
      ih field hmem (hfields field hmem)
  | oneOf c => exact everywhere_oneOf_iff.2 c.distinct_schema
  | scope s ih =>
    have hlive := usable_scope_iff.1 husable
    refine everywhere_scopeSchema (distinct_scopeSchema (hsound.consistent s hlive)) fun o ho => ?_
    refine everywhere_objectSchema (distinct_objectSchema (hsound.declared s hlive o (Or.inl ho))) ?_
    exact fun field hmem => ih o ho field hmem
      (usable_of_holds hsound ((Registry.Holds.object hlive ho).field hmem))
  | _ =>
    intro inner hcontains
    cases hcontains
    trivial

end Shape

/-- Exporting what was built from a schema. The export is the canonical form of the schema, so it is the schema
itself iff all integer keys were canonical already; otherwise it differs also where the order of names does not
count. It builds once more, whatever scopes are alive, and its export is itself. -/
theorem Schema.reexport_canonical {registry later : Registry} {schema : Schema} {shape : Shape}
    (hreachable : registry.Reachable) (hbuild : (schema.build registry).result = .ok (shape, later)) :
    shape.schema = schema.canonical ∧
      (shape.schema = schema ↔ schema.CanonicallyKeyed) ∧
      (shape.schema.same schema = true → schema.CanonicallyKeyed) ∧
      ∀ home : Registry, ∃ copy after,
        (shape.schema.build home).result = .ok (copy, after) ∧ copy.schema = shape.schema := by
  obtain ⟨hgrows, husable⟩ := schema.buildsUsable _ _ _ hbuild
  have hsound : later.Sound := Registry.sound_of_steps hgrows.steps hreachable.sound
  have hexport : shape.schema = schema.canonical := schema.buildsCanonical _ _ _ hbuild
  refine ⟨hexport, ⟨fun hself => ?_, fun hkeyed => ?_⟩, fun hsame => ?_, husable.rebuilds hsound⟩
  · rw [← hself]
    exact shape.canonicallyKeyed_schema
  · rw [hexport, hkeyed.canonical_eq]
  · exact passesKeys shape.schema schema (husable.keyed hsound) hsame shape.canonicallyKeyed_schema

namespace Museums

/-- A room on a floor. Nobody may know its warden. -/
def room (id : String) : ObjectSchema where
  id := id
  properties := [
    ("warden", {
      shape := .string
      default := some .null
      conflicts := ["alarm"]
      label := some ⟨some "Warden", none, none⟩ }),
    ("floor", { shape := .integer, required := true })]
  allowUnknown := true

/-- A museum with a plan of its own inside it, where rooms are told apart by their floors. -/
def museum (cellar hall attic : String) : Schema :=
  .scope {
    objects := [
      ("Museum", {
        id := "Museum"
        properties := [("plan", {
          shape := .scope {
            objects := [
              ("Plan", {
                id := "Plan"
                properties := [("rooms", {
                  shape := .list (.oneOf .int
                    ⟨"floor", [(hall, { id := "Hall" }), (attic, { id := "Attic" }),
                      (cellar, { id := "Cellar" })]⟩)
                  default := some (.array []) })] }),
              ("Hall", room "Hall"),
              ("Attic", room "Attic"),
              ("Cellar", room "Cellar")]
            root := "Plan" } })] })]
    root := "Museum" }

theorem reexport_canonical_museum : ∃ shape later,
    ((museum "-0" "+1" "007").build {}).result = .ok (shape, later) ∧
      shape.schema = museum "0" "1" "7" ∧ ¬ (museum "-0" "+1" "007").CanonicallyKeyed ∧
      ∀ home, ∃ copy after, ((museum "0" "1" "7").build home).result = .ok (copy, after) ∧
        copy.schema = museum "0" "1" "7" := by
  obtain ⟨shape, later, hbuild⟩ : ∃ shape later,
      ((museum "-0" "+1" "007").build {}).result = .ok (shape, later) := ⟨_, _, rfl⟩
  obtain ⟨hexport, hself, -, hagain⟩ := Schema.reexport_canonical .refl hbuild
  have hprinted : shape.schema = museum "0" "1" "7" := hexport
  rw [hprinted] at hself hagain
  refine ⟨shape, later, hbuild, hprinted, fun hkeyed => ?_, hagain⟩
  have hequal := congrArg (Schema.same (museum "0" "1" "7")) (hself.2 hkeyed)
  exact Bool.noConfusion (hequal : true = false)

end Museums

end Shapes
