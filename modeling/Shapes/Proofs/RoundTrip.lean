import Shapes.Proofs.Validity

/-!
Reading, writing and reading again. What was read is written, and what was written reads as the same
value, as long as defaults keep out of the presence rules. Three sets of present fields are involved:
those given, those written and those held; a default that is `null` is held but not written.
-/

namespace Shapes

namespace ObjectOf

variable {o : ObjectShape} {tolerated : Option String} {entries : Fields Json}

theorem undeclared?_eq_none
    (hnames : ∀ name ∈ entries.names, o.declares name = true ∨ tolerated = some name) :
    o.undeclared? tolerated entries = none := by
  unfold undeclared?
  split
  · rfl
  · rw [List.find?_eq_none]
    intro name hmem
    rcases hnames name hmem with hdeclares | rfl
    · simp [hdeclares]
    · simp

end ObjectOf

namespace Json

/-- An entry that is added last does not show under other names. -/
theorem present?_append {entries : Fields Json} {field name : String} {added : Json}
    (hne : name ≠ field) :
    present? (entries ++ [(field, added)]) name = present? entries name := by
  rw [present?, present?, Fields.get?_append_of_ne hne]

end Json

namespace Shape

variable {registry : Registry} {shape inner : Shape} {tolerated : Option String} {budget : Nat}
  {document : Json} {value : Value}

/-- A list reads item by item, whatever the items and their documents come from. -/
theorem reads_list_map {α : Type} {items : Shape} {sources : List α} {part : α → Json}
    {item : α → Value}
    (hitems : ∀ a ∈ sources, Reads registry none budget items (part a) (item a)) :
    Reads registry none budget (.list items) (.array (sources.map part))
      (.list (sources.map item)) := by
  let content : Json → Value := fun raw =>
    (readNested registry budget items raw).result.toOption.getD default
  have hcontent : ∀ a ∈ sources, content (part a) = item a := by
    intro a hmem
    simp [content, readNested_eq_ok_iff.2 (hitems a hmem), Except.toOption]
  have hvalues : (sources.map part).map content = sources.map item := by
    rw [List.map_map]
    exact List.map_congr_left hcontent
  have hlist : Reads registry none budget (.list items) (.array (sources.map part))
      (.list ((sources.map part).map content)) := by
    refine .list fun input hmem => ?_
    obtain ⟨a, ha, rfl⟩ := List.mem_map.1 hmem
    rw [hcontent a ha]
    exact hitems a ha
  rwa [hvalues] at hlist

theorem reads_list {items : Shape} {values : List Value} {part : Value → Json}
    (hitems : ∀ item ∈ values, Reads registry none budget items (part item) item) :
    Reads registry none budget (.list items) (.array (values.map part)) (.list values) := by
  have hlist : Reads registry none budget (.list items) (.array (values.map part))
      (.list (values.map id)) := reads_list_map hitems
  rwa [List.map_id] at hlist

/-- Only `null` is read and written back as `null`. -/
theorem isNull_of_writes {part : Json} (hreads : Reads registry none budget shape document value)
    (hwrites : Writes registry shape value part) (hnull : part.isNull = true) :
    document.isNull = true := by
  by_cases htyped : shape = .any
  · subst htyped
    cases hreads with
    | any =>
      cases hwrites
      exact hnull
    | object hobject => cases hobject
  · rw [hwrites.isNull_eq_false htyped] at hnull
    cases hnull

section Again

variable {o : ObjectShape} {entries found : Fields Json} {content : String × Property Shape → Value}
  {part : String × Property Shape → Json}

/-- Fields are found again in other entries: none that was given is lost, and those that are there have
the documents that their contents were written as. -/
structure Refound (o : ObjectShape) (entries found : Fields Json)
    (content : String × Property Shape → Value) (part : String × Property Shape → Json) : Prop where
  kept : ∀ field ∈ o.properties, Json.present? found field.1 = none →
    Json.present? entries field.1 = none
  written : ∀ field ∈ o.properties, ∀ raw, Json.present? found field.1 = some raw →
    raw = part field ∧ (content field).isNull = false

variable (hread : ∀ field ∈ o.properties, ∀ less document,
    field.2.source? budget entries field.1 = some (less, document) →
      Reads registry none less field.2.shape document (content field))
  (habsent : ∀ field ∈ o.properties, field.2.source? budget entries field.1 = none →
    content field = .null)

include hread

/-- What was given is written: it is not `null`, and only `null` could be lost. -/
theorem refound_of_written (hdistinct : o.Distinct)
    (hwritten : ∀ field ∈ o.properties, (content field).isNull = false →
      Writes registry field.2.shape (content field) (part field))
    (hfound : ∀ field ∈ o.properties, Json.present? found field.1 =
      Json.present? (o.entriesOf (Value.isPresent (o.fieldsOf content)) part) field.1) :
    Refound o entries found content part := by
  have hentry : ∀ field ∈ o.properties, Json.present? found field.1 =
      if (content field).isNull = false ∧ (part field).isNull = false then some (part field)
      else none := by
    intro field hmem
    rw [hfound field hmem, Json.present?, ObjectOf.get?_entriesOf hdistinct hmem,
      ObjectOf.isPresent_fieldsOf hdistinct hmem]
    cases (content field).isNull <;> cases hnull : (part field).isNull <;> simp [hnull]
  constructor
  · intro field hmem hnone
    by_contra hgiven
    obtain ⟨raw, hraw⟩ := Option.ne_none_iff_exists'.1 hgiven
    have hcontent := hread field hmem budget raw
      (Property.source?_eq_some_iff.2 (Or.inl ⟨hraw, rfl⟩))
    have hheld := hcontent.isNull_eq_false
    have hnull : (part field).isNull = true := by
      rw [hentry field hmem] at hnone
      simpa [hheld] using hnone
    have hrawNull := isNull_of_writes hcontent (hwritten field hmem hheld) hnull
    have hrawHeld := (Option.filter_eq_some_iff.1 hraw).2
    simp [hrawNull] at hrawHeld
  · intro field hmem raw hraw
    rw [hentry field hmem] at hraw
    split at hraw
    · rename_i hboth
      exact ⟨(Option.some.inj hraw).symm, hboth.1⟩
    · cases hraw

include habsent

theorem Refound.accepts (hrefound : Refound o entries found content part) (hlocal : o.RulesLocal)
    (hapart : o.DefaultsApart) (haccepts : o.Accepts budget tolerated entries)
    (hknown : o.undeclared? tolerated found = none) : o.Accepts budget tolerated found := by
  refine ⟨hknown, hapart.obeys hlocal haccepts.rules (fun field hmem hgiven => ?_)
    (fun field hmem hheld => ?_), fun field hmem hnone hdefault => ?_⟩
  · by_contra hnot
    have hnone : Json.present? found field.1 = none := by simpa [Json.isPresent] using hnot
    simp [Json.isPresent, hrefound.kept field hmem hnone] at hgiven
  · obtain ⟨raw, hraw⟩ := Option.isSome_iff_exists.1 hheld
    obtain ⟨_, hcontent⟩ := hrefound.written field hmem raw hraw
    obtain ⟨less, document, hsource⟩ :=
      exists_source_of_content (hread field hmem) (habsent field hmem) hcontent
    rcases Property.source?_eq_some_iff.1 hsource with ⟨hgiven, _⟩ | ⟨_, hdefault, _⟩
    · exact Or.inl (by simp [Json.isPresent, hgiven])
    · exact Or.inr (by simp [hdefault])
  · exact haccepts.funded field hmem (hrefound.kept field hmem hnone) hdefault

/-- An object reads again what it has written, if its fields are found again. -/
theorem Refound.reads (hrefound : Refound o entries found content part)
    (hobject : shape.object? registry = some o) (haccepts : o.Accepts budget tolerated found)
    (hagain : ∀ field ∈ o.properties, ∀ less document,
      field.2.source? budget entries field.1 = some (less, document) →
        Reads registry none less field.2.shape (part field) (content field)) :
    Reads registry tolerated budget shape (.object found) (.object o.id (o.fieldsOf content)) := by
  refine .object hobject haccepts (fun field hmem less document hsource => ?_)
    fun field hmem hnone => ?_
  · rcases Property.source?_eq_some_iff.1 hsource with ⟨hraw, rfl⟩ | ⟨hnone, hdefault, rfl⟩
    · obtain ⟨rfl, hcontent⟩ := hrefound.written field hmem document hraw
      obtain ⟨before, given, hbefore⟩ :=
        exists_source_of_content (hread field hmem) (habsent field hmem) hcontent
      have hless : before ≤ less := by
        rcases Property.source?_eq_some_iff.1 hbefore with ⟨_, rfl⟩ | ⟨_, _, rfl⟩ <;> omega
      exact (hagain field hmem before given hbefore).mono hless
    · have hgiven := hrefound.kept field hmem hnone
      exact hread field hmem _ document
        (Property.source?_eq_some_iff.2 (Or.inr ⟨hgiven, hdefault, rfl⟩))
  · obtain ⟨hraw, hdefault⟩ := Property.source?_eq_none_iff.1 hnone
    have hgiven := hrefound.kept field hmem hraw
    exact habsent field hmem (Property.source?_eq_none_iff.2 ⟨hgiven, hdefault⟩)

end Again

/-- A document as it was written, or with a discriminator added that the object of the shape tolerates
without declaring it. -/
def Retagged (registry : Registry) (tolerated : Option String) (shape : Shape)
    (written found : Json) : Prop :=
  found = written ∨ ∃ field key entries, tolerated = some field ∧ written = .object entries ∧
    found = .object (entries ++ [(field, key)]) ∧
    ∀ o, shape.object? registry = some o → o.declares field = false

theorem Retagged.eq {written found : Json} (hretagged : Retagged registry none shape written found) :
    found = written := by
  rcases hretagged with heq | ⟨_, _, _, hnone, _⟩
  · exact heq
  · cases hnone

/-- A discriminator that was added is neither refused nor taken for a field. -/
theorem Retagged.entries {o : ObjectShape} {present : String → Bool}
    {part : String × Property Shape → Json} {found : Json}
    (hretagged : Retagged registry tolerated shape (.object (o.entriesOf present part)) found)
    (hobject : shape.object? registry = some o) :
    ∃ entries, found = .object entries ∧ o.undeclared? tolerated entries = none ∧
      ∀ field ∈ o.properties,
        Json.present? entries field.1 = Json.present? (o.entriesOf present part) field.1 := by
  rcases hretagged with rfl | ⟨added, key, written, rfl, heq, rfl, hundeclared⟩
  · refine ⟨_, rfl, ObjectOf.undeclared?_eq_none fun name hmem => ?_, fun _ _ => rfl⟩
    exact Or.inl (ObjectOf.declares_of_mem_names_entriesOf hmem)
  · cases heq
    refine ⟨_, rfl, ObjectOf.undeclared?_eq_none fun name hmem => ?_, fun field hmem => ?_⟩
    · rw [Fields.names, List.map_append, List.mem_append] at hmem
      rcases hmem with hmem | hmem
      · exact Or.inl (ObjectOf.declares_of_mem_names_entriesOf hmem)
      · obtain rfl := List.mem_singleton.1 hmem
        exact Or.inr rfl
    · apply Json.present?_append
      intro hname
      have hdeclares := ObjectOf.declares_iff.2 ⟨field.2, hmem⟩
      rw [hname, hundeclared o hobject] at hdeclares
      cases hdeclares

/-- What was read and written reads as the same value again. -/
theorem Reads.again (hreads : Reads registry tolerated budget inner document value)
    (hdistinct : ∀ o, shape.ReachesObject registry o → o.Distinct)
    (hexact : ∀ c, shape.Reaches registry (.oneOf c) → c.Exact registry)
    (hlocal : ∀ o, shape.ReachesObject registry o → o.RulesLocal)
    (hapart : ∀ o, shape.ReachesObject registry o → o.DefaultsApart)
    (hreaches : shape.Reaches registry inner) {written found : Json}
    (hwrites : Writes registry inner value written)
    (hretagged : Retagged registry tolerated inner written found) :
    Reads registry tolerated budget inner found value := by
  induction hreads generalizing written found with
  | any =>
    cases hwrites
    rw [hretagged.eq]
    exact .any
  | bool =>
    cases hwrites
    rw [hretagged.eq]
    exact .bool
  | int _ =>
    cases hwrites
    rw [hretagged.eq]
    exact .int (Number.toInt64?_ofInt64 _)
  | @float _ n =>
    cases hwrites with
    | float hfinite =>
      rw [Number.ofFloat?_toFloat] at hfinite
      cases hfinite
      rw [hretagged.eq]
      exact .float
  | string =>
    cases hwrites
    rw [hretagged.eq]
    exact .string
  | list _ ih =>
    cases hwrites with
    | list hitems =>
      rw [hretagged.eq]
      refine reads_list fun item hmem => ?_
      obtain ⟨input, hinput, rfl⟩ := List.mem_map.1 hmem
      exact ih input hinput (.item hreaches) (hitems _ hmem) (Or.inl rfl)
  | @object tolerated budget inner o entries content hobject haccepts hread habsent ih =>
    have hreached := hreaches.object hobject
    have hown := hdistinct o hreached
    obtain ⟨_, _, _, part, rfl, hparts⟩ := (writes_object_iff hobject).1 hwrites
    have hwritten : ∀ field ∈ o.properties, (content field).isNull = false →
        Writes registry field.2.shape (content field) (part field) := fun field hmem hheld =>
      hparts field hmem _ ((ObjectOf.present?_fieldsOf_eq_some_iff hown hmem).2 ⟨rfl, hheld⟩)
    have hagain : ∀ field ∈ o.properties, ∀ less document,
        field.2.source? budget entries field.1 = some (less, document) →
          Reads registry none less field.2.shape (part field) (content field) := by
      intro field hmem less document hsource
      have hheld := (hread field hmem less document hsource).isNull_eq_false
      exact ih field hmem less document hsource (.field hreaches hobject hmem)
        (hwritten field hmem hheld) (Or.inl rfl)
    obtain ⟨found, rfl, hknown, hfound⟩ := hretagged.entries hobject
    have hrefound := refound_of_written hread hown hwritten hfound
    have hfoundAccepts := hrefound.accepts hread habsent (hlocal o hreached) (hapart o hreached)
      haccepts hknown
    exact hrefound.reads hread habsent hobject hfoundAccepts hagain
  | @oneOf budget c entries raw key r inner hfield hkey htarget hinner ih =>
    cases hwrites with
    | @oneOf _ _ own _ document _ hown hwritten htag =>
      rw [htarget] at hown
      cases hown
      rw [hretagged.eq]
      have hvariant := OneOf.mem_of_target? htarget
      have hreached := hreaches.variant hvariant
      obtain ⟨o, hobject⟩ := hinner.exists_target
      obtain ⟨written, rfl, hdiscriminator⟩ := discriminator_of_writes hobject
        (hdistinct o (hreached.object hobject)) (hexact c hreaches _ hvariant o hobject) hfield hkey
        hinner hwritten
      obtain ⟨_, heq, htagged⟩ := OneOf.tag_eq_ok_iff.1 htag
      cases heq
      rcases htagged with ⟨hnone, rfl⟩ | ⟨found, hfound, hcoerce, rfl⟩
      · have hundeclared : o.declares c.field = false := by
          rcases hdiscriminator with ⟨hundeclared, _⟩ | ⟨found, hfound, _⟩
          · exact hundeclared
          · rw [hnone] at hfound
            cases hfound
        have hget : Fields.get? (written ++ [(c.field, key.toJson)]) c.field = some key.toJson :=
          Fields.get?_append_self hnone
        have hcoerce := OneOf.coerce_toJson_of_target? htarget
        refine .oneOf hget hcoerce htarget (ih hreached hwritten (Or.inr ?_))
        refine ⟨c.field, key.toJson, written, rfl, rfl, rfl, fun other hother => ?_⟩
        have htarget : r.target? registry = some other := hother
        rw [hobject] at htarget
        cases htarget
        exact hundeclared
      · exact .oneOf hfound hcoerce htarget (ih hreached hwritten (Or.inl rfl))

/-- A value that was read by a shape of a live scope can be written, and what is written reads as the
same value, if in all objects involved the rules name declared fields and defaults keep apart. -/
theorem read_write_read (hreachable : registry.Reachable) (hholds : registry.Holds shape)
    (hlocal : ∀ o, shape.ReachesObject registry o → o.RulesLocal)
    (hapart : ∀ o, shape.ReachesObject registry o → o.DefaultsApart)
    (hread : (read registry shape document).result = .ok value) :
    ∃ json, (write registry shape value).result = .ok json ∧
      (read registry shape json).result = .ok value := by
  have hsound := hreachable.sound
  have hdistinct : ∀ o, shape.ReachesObject registry o → o.Distinct := fun o hreached =>
    (usable_of_holds hsound hholds).distinct hsound hreached
  have hexact : ∀ c, shape.Reaches registry (.oneOf c) → c.Exact registry := fun c hreaches =>
    hsound.exact_of_holds (hsound.holds_of_reaches hholds hreaches)
  have hreads := reads_of_readNested hread
  obtain ⟨json, hwrites⟩ := hreads.exists_writes hdistinct hexact .refl fun o fields hplaces =>
    hreads.obeys hdistinct (fun o hreached => (hapart o hreached).safeToFill (hlocal o hreached))
      .refl hplaces
  refine ⟨json, write_of_writes hwrites, ?_⟩
  exact readNested_eq_ok_iff.2
    (hreads.again hdistinct hexact hlocal hapart .refl hwrites (Or.inl rfl))

end Shape

namespace Formulas

open Shape

/-- A formula is a term, told by its kind. -/
def formula : ObjectShape where
  id := "Formula"
  properties := [("term", {
    shape := .oneOf {
      field := "kind"
      kind := .string
      variants := [(.string "number", { id := "Number" }), (.string "negation", { id := "Negation" })]
      uniform := by decide
      distinct := by decide }
    required := true })]

def number : ObjectShape where
  id := "Number"
  properties := [
    ("value", { shape := .int, default := some (.ofInt64 0) }),
    ("note", { shape := .any, default := some .null })]

/-- The negation of a formula, which declares its own kind. -/
def negation : ObjectShape where
  id := "Negation"
  properties := [
    ("kind", { shape := .string }),
    ("of", { shape := .ref { id := "Formula" }, required := true })]

def scope : Scope := ⟨0, "Formula", [formula, number, negation].map (bindObject 0)⟩

def registry : Registry := ⟨1, [scope]⟩

private theorem reachable_registry : registry.Reachable := by
  have husable : ∀ o ∈ [formula, number, negation], (Shape.object o).Usable {} := by
    simp [usable_object_iff, ObjectOf.Distinct, Fields.Distinct, Fields.names, formula, number,
      negation, objectNodes, propertiesNodes, propertyNodes, nodes]
  exact .single (.freeze husable (show (Registry.freeze {} "Formula" _).result = _ from rfl))

/-- Minus zero, with the number left to its default. -/
def input : Json :=
  .object [("term", .object [
    ("kind", .string "negation"),
    ("of", .object [("term", .object [("kind", .string "number")])])])]

def minusZero : Value :=
  .object "Formula" [("term", .oneOf (.string "negation") (.object "Negation" [
    ("kind", .string "negation"),
    ("of", .object "Formula" [("term", .oneOf (.string "number") (.object "Number" [
      ("value", .int 0), ("note", .any .null)]))])]))]

/-- Minus zero makes the round trip: a choice whose variant declares the discriminator, a recursive
reference, and defaults of which one is `null`. -/
theorem minusZero_read_write_read :
    (read registry (.scope scope) input).result = .ok minusZero ∧
      ∃ json, (write registry (.scope scope) minusZero).result = .ok json ∧
        (read registry (.scope scope) json).result = .ok minusZero := by
  have hread : (read registry (.scope scope) input).result = .ok minusZero := rfl
  have hholds : registry.Holds (.scope scope) := .scope (List.mem_singleton.2 rfl)
  have hrules : ∀ o, (Shape.scope scope).ReachesObject registry o →
      o.RulesLocal ∧ o.DefaultsApart := by
    intro o hreached
    obtain ⟨s, hlive, hmem⟩ := reachable_registry.sound.mem_of_reachesObject hholds hreached
    obtain rfl := List.mem_singleton.1 hlive
    rcases hmem with hmem | hmem
    · have hall : ∀ o ∈ scope.objects, o.RulesLocal ∧ o.DefaultsApart := by decide
      exact hall o hmem
    · simp [scope, formula, number, negation, ScopeOf.nodes, bindObject, bindProperties, bindProperty,
        Shape.bind, objectNodes, propertiesNodes, propertyNodes, nodes] at hmem
  exact ⟨hread, read_write_read reachable_registry hholds (fun o hreached => (hrules o hreached).1)
    (fun o hreached => (hrules o hreached).2) hread⟩

end Formulas

end Shapes
