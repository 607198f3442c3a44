import Shapes.Proofs.Matching
import Shapes.Proofs.Scope.Held

/-!
What reading does not look at. An object that allows unknown entries ignores them, and a declared entry that is
`null` counts as absent. A document without all these entries, at every depth, reads as before.
-/

namespace Shapes

open Traced (Tally)

/-- Whether an object looks at an entry: it looks at the tolerated one, at declared ones that are present, and at
others only to refuse them. -/
def ObjectOf.heeds (o : ObjectShape) (tolerated : Option String) (entries : Fields Json) (name : String) :
    Bool :=
  tolerated == some name || if o.declares name then Json.isPresent entries name else !o.allowUnknown

namespace Json

variable (registry : Registry)

mutual

/-- The document without the entries that objects do not look at when it is read by the shape. -/
def pruned (shape : Shape) : Json → Json
  | .array items =>
    match shape with
    | .list inner => .array (prunedItems inner items)
    | _ => .array items
  | .object entries =>
    match shape.objectFor? registry entries with
    | some o => .object (prunedEntries o (o.heeds shape.tolerated entries) entries)
    | none => .object entries
  | document => document
termination_by structural document => document

def prunedItems (inner : Shape) : List Json → List Json
  | [] => []
  | item :: rest => item.pruned inner :: prunedItems inner rest
termination_by structural items => items

/-- The entries that are kept, with their content pruned by the shapes of the fields. -/
def prunedEntries (o : ObjectShape) (keep : String → Bool) : List (String × Json) → List (String × Json)
  | [] => []
  | (name, content) :: rest =>
    let kept := prunedEntries o keep rest
    if keep name then
      (name, match o.property? name with
        | some property => content.pruned property.shape
        | none => content) :: kept
    else kept
termination_by structural entries => entries

end

variable {registry} {shape : Shape} {o : ObjectShape} {keep : String → Bool} {tolerated : Option String}
  {entries : Fields Json} {name : String}

theorem prunedItems_eq_map (inner : Shape) (items : List Json) :
    prunedItems registry inner items = items.map fun item => item.pruned registry inner := by
  induction items with
  | nil => rfl
  | cons item rest ih => rw [prunedItems, ih, List.map_cons]

theorem names_prunedEntries :
    Fields.names (prunedEntries registry o keep entries) = entries.names.filter keep := by
  induction entries with
  | nil => rfl
  | cons entry rest ih =>
    obtain ⟨known, content⟩ := entry
    rw [prunedEntries, Fields.names, Fields.names, List.map_cons, List.filter_cons]
    split
    · exact congrArg (List.cons known) ih
    · exact ih

/-- An entry is kept or not whatever the others are. -/
theorem get?_prunedEntries :
    Fields.get? (prunedEntries registry o keep entries) name =
      if keep name then
        (Fields.get? entries name).map fun content =>
          match o.property? name with
          | some property => content.pruned registry property.shape
          | none => content
      else none := by
  induction entries with
  | nil => simp [prunedEntries]
  | cons entry rest ih =>
    obtain ⟨known, content⟩ := entry
    rw [prunedEntries, Fields.get?_cons]
    by_cases hname : name = known
    · subst hname
      by_cases hkeep : keep name = true
      · simp [hkeep, Fields.get?_cons]
      · simp [hkeep, ih]
    · rw [if_neg hname, ← ih]
      split
      · rw [Fields.get?_cons, if_neg hname]
      · rfl

theorem isNull_pruned (document : Json) : (document.pruned registry shape).isNull = document.isNull := by
  cases document with
  | array items => cases shape <;> rfl
  | object entries =>
    rw [pruned]
    split <;> rfl
  | _ => rfl

/-- What a key is read from has no entries. -/
theorem pruned_of_coerce {kind : KeyKind} {raw : Json} {key : Discriminant}
    (hkey : kind.coerce raw = some key) : raw.pruned registry shape = raw := by
  cases raw with
  | array => cases kind <;> cases hkey
  | object => cases kind <;> cases hkey
  | _ => rfl

/-- A declared field is present as before, with its content pruned. -/
theorem present?_prunedEntries {property : Property Shape} (hproperty : o.property? name = some property) :
    present? (prunedEntries registry o (o.heeds tolerated entries) entries) name =
      (present? entries name).map fun content => content.pruned registry property.shape := by
  have hdeclares : o.declares name = true := by rw [ObjectOf.declares, hproperty]; rfl
  rw [present?, get?_prunedEntries, hproperty]
  split
  · have hnull : ∀ content : Json, (!(content.pruned registry property.shape).isNull) = !content.isNull :=
      fun content => by rw [isNull_pruned]
    rw [Option.filter_map, present?]
    exact congrArg (Option.map _) (congrArg (Option.filter · _) (funext hnull))
  · rename_i hignored
    -- What is declared and not looked at is absent.
    have habsent : present? entries name = none := by
      simp only [ObjectOf.heeds, hdeclares, if_true, Bool.or_eq_true, not_or] at hignored
      simpa [isPresent] using hignored.2
    rw [habsent]
    rfl

end Json

namespace ObjectOf

variable {registry : Registry} {o : ObjectShape} {tolerated : Option String} {entries : Fields Json}

/-- No entry is dropped that would be refused. -/
theorem undeclared?_prunedEntries :
    o.undeclared? tolerated (Json.prunedEntries registry o (o.heeds tolerated entries) entries) =
      o.undeclared? tolerated entries := by
  unfold undeclared?
  split
  · rfl
  · rename_i hstrict
    rw [Json.names_prunedEntries, List.find?_filter]
    refine List.find?_congr fun name _ => ?_
    rw [Bool.eq_iff_iff]
    by_cases hdeclares : o.declares name = true
    · simp [hdeclares]
    · simp [heeds, hdeclares, hstrict]

/-- An object finds the same in the entries that are kept, if its rules name its own fields only and pruned
content matches. -/
theorem alike_pruned {matched : Shape → Json → Json → Prop} (hdistinct : o.Distinct) (hlocal : o.RulesLocal)
    (hcontent : ∀ field ∈ o.properties, ∀ content,
      matched field.2.shape content (content.pruned registry field.2.shape)) :
    o.Alike (· = ·) matched tolerated tolerated entries
      (Json.prunedEntries registry o (o.heeds tolerated entries) entries) := by
  refine ⟨?_, fun field hmem name hname => ?_, fun field hmem => ?_⟩
  · rw [undeclared?_prunedEntries]
    refine .refl ?_ _
    exact fun _ => rfl
  · have hdeclares := hlocal field hmem name hname
    rw [declares, Option.isSome_iff_exists] at hdeclares
    obtain ⟨property, hproperty⟩ := hdeclares
    rw [Json.isPresent, Json.isPresent, Json.present?_prunedEntries hproperty, Option.isSome_map]
  · rw [Json.present?_prunedEntries (Fields.get?_of_mem hdistinct hmem)]
    cases Json.present? entries field.1 with
    | none => exact .none
    | some content => exact .some (hcontent field hmem content)

end ObjectOf

/-- A choice finds its discriminator among the entries that the selected object keeps. -/
theorem OneOf.alike_pruned {registry : Registry} {c : OneOf} {entries : Fields Json} {key : Discriminant}
    {r : Reference} {o : ObjectShape} (hselects : c.Selects registry entries key r o) :
    c.Alike entries (Json.prunedEntries registry o (o.heeds (some c.field) entries) entries) := by
  obtain ⟨raw, hraw, hkey⟩ := hselects.discriminator
  have hheeds : o.heeds (some c.field) entries c.field = true := by simp [ObjectOf.heeds]
  have hkept : Fields.get? (Json.prunedEntries registry o (o.heeds (some c.field) entries) entries) c.field =
      some raw := by
    rw [Json.get?_prunedEntries, if_pos hheeds, hraw, Option.map_some]
    split
    · rw [Json.pruned_of_coerce hkey]
    · rfl
  rw [Alike, hraw, hkept]
  exact .some ⟨rfl, rfl⟩

namespace Shape

variable {registry : Registry} {root shape : Shape} {document other : Json}

/-- A document of a shape that is reached, and the document without what is not looked at. -/
def PrunesTo (registry : Registry) (root shape : Shape) (document other : Json) : Prop :=
  root.Reaches registry shape ∧ other = document.pruned registry shape

/-- A document matches the pruned one at every level. -/
theorem PrunesTo.matches (hdistinct : ∀ o, root.ReachesObject registry o → o.Distinct)
    (hlocal : ∀ o, root.ReachesObject registry o → o.RulesLocal)
    (hprunes : PrunesTo registry root shape document other) :
    shape.Matches registry (· = ·) (· = ·) (PrunesTo registry root) document other := by
  obtain ⟨hreaches, rfl⟩ := hprunes
  cases document with
  | array items =>
    cases shape with
    | list inner =>
      rw [Json.pruned, Json.prunedItems_eq_map]
      refine .array (by simp) ?_
      rintro _ ⟨⟩
      rw [List.forall₂_map_right_iff, List.forall₂_same]
      exact fun _ _ => ⟨.item hreaches, rfl⟩
    | _ => exact .same
  | object entries =>
    rw [Json.pruned]
    cases hobject : shape.objectFor? registry entries with
    | none => exact .same
    | some o =>
      have hreached := hreaches.objectFor hobject
      refine .object (by rintro rfl; cases hobject) ?_ ?_
      · rintro c rfl
        obtain ⟨_, _, hselects⟩ := objectFor?_oneOf_eq_some_iff.1 hobject
        exact OneOf.alike_pruned hselects
      · rintro _ hown
        cases hown.symm.trans hobject
        refine ObjectOf.alike_pruned (hdistinct o hreached) (hlocal o hreached) fun field hmem content => ?_
        obtain ⟨inner, hinner, hown⟩ := hreached
        exact ⟨.field hinner hown hmem, rfl⟩
  | _ => exact .same

/-- What reading does not look at has no influence: a document reads as it does without the declared entries that
are `null` and, where an object allows unknown entries, without those. -/
theorem read_pruned (hreachable : registry.Reachable) (husable : shape.Usable registry)
    (hlocal : ∀ o, shape.ReachesObject registry o → o.RulesLocal) (document : Json) :
    (read registry shape (document.pruned registry shape)).result = (read registry shape document).result := by
  have hdistinct : ∀ o, shape.ReachesObject registry o → o.Distinct := fun o hreached =>
    husable.distinct hreachable.sound hreached
  have htally : Tally (· = ·) (· = ·) (read registry shape document)
      (read registry shape (document.pruned registry shape)) :=
    tally_readNested Reading.congruent_eq (fun _ _ _ => PrunesTo.matches hdistinct hlocal) ⟨.refl, rfl⟩
  exact htally.result_eq.symm

end Shape

namespace Offices

open Registry Shape

/-- What stands in an office, by its kind. -/
def item : OneOf where
  field := "kind"
  kind := .string
  variants := [(.string "desk", { id := "Desk" }), (.string "lamp", { id := "Lamp" })]
  uniform := by decide
  distinct := by decide

def office : ObjectShape where
  id := "Office"
  properties := [
    ("name", { shape := .string, default := some (.string "office") }),
    ("items", { shape := .list (.oneOf item), required := true }),
    ("notes", { shape := .any })]
  allowUnknown := true

/-- A desk has a width unless it has a size, and nothing else. -/
def desk : ObjectShape where
  id := "Desk"
  properties := [("width", { shape := .int, requiredIfNot := ["size"] }), ("size", { shape := .string })]

def lamp : ObjectShape where
  id := "Lamp"
  properties := [("power", { shape := .int })]
  allowUnknown := true

def offices : Scope := ⟨0, "Office", [office, desk, lamp].map (bindObject 0)⟩

def registry : Registry := ⟨1, [offices]⟩

/-- An office with much that nobody looks at. -/
def input : Json := .object [
  ("floor", .ofInt64 3),
  ("name", .null),
  ("notes", .object [("of", .null)]),
  ("items", .array [
    .object [("colour", .string "red"), ("kind", .string "lamp"), ("power", .null)],
    .object [("size", .null), ("kind", .string "desk"), ("width", .ofInt64 4)]])]

def tidy : Json := .object [
  ("notes", .object [("of", .null)]),
  ("items", .array [
    .object [("kind", .string "lamp")],
    .object [("kind", .string "desk"), ("width", .ofInt64 4)]])]

theorem read_pruned_office :
    registry.Reachable ∧ (Shape.scope offices).Usable registry ∧
    (∀ o, (Shape.scope offices).ReachesObject registry o → o.RulesLocal) ∧
    input.pruned registry (.scope offices) = tidy ∧
    (read registry (.scope offices) tidy).result = (read registry (.scope offices) input).result := by
  have husable : ∀ o ∈ [office, desk, lamp], (Shape.object o).Usable {} := by
    simp [usable_object_iff, ObjectOf.Distinct, Fields.Distinct, Fields.names, office, desk, lamp, objectNodes,
      propertiesNodes, propertyNodes, nodes]
  have hreachable : registry.Reachable :=
    .single (.freeze husable (show (Registry.freeze {} "Office" _).result = _ from rfl))
  have hholds : registry.Holds (.scope offices) := .scope (List.mem_singleton.2 rfl)
  have hlocal : ∀ o, (Shape.scope offices).ReachesObject registry o → o.RulesLocal := by
    intro o hreached
    obtain ⟨s, hlive, hmem⟩ := hreachable.sound.mem_of_reachesObject hholds hreached
    obtain rfl := List.mem_singleton.1 hlive
    rcases hmem with hmem | hmem
    · have hall : ∀ o ∈ offices.objects, o.RulesLocal := by decide
      exact hall o hmem
    · simp [offices, office, desk, lamp, ScopeOf.nodes, bindObject, bindProperties, bindProperty,
        Shape.bind, objectNodes, propertiesNodes, propertyNodes, nodes] at hmem
  have hscope := usable_of_holds hreachable.sound hholds
  have hpruned : input.pruned registry (.scope offices) = tidy := rfl
  refine ⟨hreachable, hscope, hlocal, hpruned, ?_⟩
  rw [← hpruned]
  exact read_pruned hreachable hscope hlocal input

end Offices

end Shapes
