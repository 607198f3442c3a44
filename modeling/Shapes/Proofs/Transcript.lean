import Shapes.Proofs.Announcements
import Shapes.Proofs.Levels
import Shapes.Proofs.Soundness

/-!
The log of a reading against the value that was read. Each choice in the value was selected once, in the order in
which the value holds them, and the object that it stands for was resolved at once and once only. So the log can be
told from the value, and wherever a reading stops, no selection is left without its resolution.
-/

namespace Shapes

namespace Traced

variable {ε ε' α β : Type}

/-- What the computation announced, if it ends with a value, is told from the value. -/
def Tells (log : α → List Event) (x : Traced ε α) : Prop :=
  ∀ a, x.result = .ok a → x.events = log a

namespace Tells

theorem mapError {log : α → List Event} {x : Traced ε α} (hx : Tells log x) (f : ε → ε') :
    Tells log (x.mapError f) :=
  fun a hok => hx a (result_mapError_eq_ok.1 hok)

theorem fail (log : α → List Event) (error : ε) : Tells log (Traced.fail error) := nofun

theorem map {log : α → List Event} {mapped : β → List Event} {x : Traced ε α} (hx : Tells log x) {g : α → β}
    (hg : ∀ a, mapped (g a) = log a) : Tells mapped (x >>= fun a => Pure.pure (g a)) := by
  intro b hok
  obtain ⟨a, ha, hb⟩ := result_bind_eq_ok.1 hok
  cases hb
  rw [bind_of_ok ha, hx a ha, hg, events_pure, List.append_nil]

/-- A traversal announces what it announces at the items, told from what it gives there. -/
theorem traverse {log : α → β → List Event} {f : α → Traced ε β} {items : List α}
    (hf : ∀ a ∈ items, Tells (log a) (f a)) :
    Tells (fun bs => (List.zipWith log items bs).flatten) (Traced.traverse f items) := by
  induction items with
  | nil =>
    intro bs hok
    rfl
  | cons a rest ih =>
    intro bs hok
    simp only [Traced.traverse, result_bind_eq_ok, result_pure, Except.ok.injEq] at hok
    obtain ⟨b, hb, others, hothers, rfl⟩ := hok
    rw [Traced.traverse, bind_of_ok hb, bind_of_ok hothers, hf a (List.mem_cons_self ..) b hb,
      ih (fun item hmem => hf item (List.mem_cons_of_mem _ hmem)) others hothers]
    simp

theorem traverseFrom {log : β → List Event} {f : Nat → α → Traced ε β} {items : List α} {index : Nat}
    (hf : ∀ i, ∀ a ∈ items, Tells log (f i a)) :
    Tells (fun bs => bs.flatMap log) (Traced.traverseFrom f index items) := by
  induction items generalizing index with
  | nil =>
    intro bs hok
    cases hok
    rfl
  | cons a rest ih =>
    intro bs hok
    simp only [Traced.traverseFrom, result_bind_eq_ok, result_pure, Except.ok.injEq] at hok
    obtain ⟨b, hb, others, hothers, rfl⟩ := hok
    rw [Traced.traverseFrom, bind_of_ok hb, bind_of_ok hothers, hf index a (List.mem_cons_self ..) b hb,
      ih (fun i item hmem => hf i item (List.mem_cons_of_mem _ hmem)) others hothers]
    simp

end Tells

end Traced

open Traced (Tells)

/-- The announcement that the reference of a shape, if it is one, is resolved. -/
def Shape.resolution : Shape → List Event
  | .ref r => [.resolving r.id]
  | _ => []

namespace Value

section

variable (registry : Registry)

mutual

/-- What is announced when the value is read by the shape. -/
def transcript : Value → Shape → List Event
  | .list items, .list shape => itemsTranscript items shape
  | .object _ fields, shape =>
    shape.resolution ++ match shape.object? registry with
      | some o => fieldsTranscript fields o.properties
      | none => []
  | .oneOf key inner, .oneOf c =>
    match c.target? key with
    | some r => .dispatched c.field key r.id :: transcript inner (.ref r)
    | none => []
  | _, _ => []
termination_by structural value => value

def itemsTranscript : List Value → Shape → List Event
  | [], _ => []
  | item :: rest, shape => transcript item shape ++ itemsTranscript rest shape
termination_by structural items => items

/-- The fields stand in the order in which they are declared. -/
def fieldsTranscript : List (String × Value) → List (String × Property Shape) → List Event
  | (_, content) :: rest, (_, property) :: others =>
    transcript content property.shape ++ fieldsTranscript rest others
  | _, _ => []
termination_by structural fields => fields

end

end

mutual

/-- The choices in a value, each before the choices inside it. -/
def choices : Value → List Value
  | .oneOf key inner => .oneOf key inner :: inner.choices
  | .list items => itemsChoices items
  | .object _ fields => fieldsChoices fields
  | _ => []
termination_by structural value => value

def itemsChoices : List Value → List Value
  | [] => []
  | item :: rest => item.choices ++ itemsChoices rest
termination_by structural items => items

def fieldsChoices : List (String × Value) → List Value
  | [] => []
  | (_, content) :: rest => content.choices ++ fieldsChoices rest
termination_by structural fields => fields

end

variable {registry : Registry} {shape : Shape}

theorem itemsTranscript_eq_flatMap (items : List Value) :
    itemsTranscript registry items shape = items.flatMap fun item => item.transcript registry shape := by
  induction items with
  | nil => rfl
  | cons item rest ih => rw [itemsTranscript, ih, List.flatMap_cons]

theorem fieldsTranscript_eq_flatten (fields : Fields Value) (properties : List (String × Property Shape)) :
    fieldsTranscript registry fields properties = (List.zipWith (fun field (entry : String × Value) =>
      entry.2.transcript registry field.2.shape) properties fields).flatten := by
  induction fields generalizing properties with
  | nil => cases properties <;> rfl
  | cons entry rest ih =>
    cases properties with
    | nil => rfl
    | cons field others => rw [fieldsTranscript, ih, List.zipWith_cons_cons, List.flatten_cons]

theorem fieldsTranscript_fieldsOf {o : ObjectShape} {content : String × Property Shape → Value} :
    fieldsTranscript registry (o.fieldsOf content) o.properties =
      o.properties.flatMap fun field => (content field).transcript registry field.2.shape := by
  rw [fieldsTranscript_eq_flatten, ObjectOf.fieldsOf, List.zipWith_map_right, List.zipWith_self, List.flatMap_def]

theorem itemsChoices_eq_flatMap (items : List Value) : itemsChoices items = items.flatMap choices := by
  induction items with
  | nil => rfl
  | cons item rest ih => rw [itemsChoices, ih, List.flatMap_cons]

theorem fieldsChoices_eq_flatMap (fields : Fields Value) :
    fieldsChoices fields = fields.flatMap fun field => field.2.choices := by
  induction fields with
  | nil => rfl
  | cons field rest ih => rw [fieldsChoices, ih, List.flatMap_cons]

theorem transcript_null : Value.null.transcript registry shape = [] := by
  cases shape <;> rfl

theorem transcript_object {o : ObjectShape} (hobject : shape.object? registry = some o) (id : String)
    (fields : Fields Value) : (Value.object id fields).transcript registry shape =
      shape.resolution ++ fieldsTranscript registry fields o.properties := by
  cases shape <;> simp only [transcript, hobject]

end Value

namespace ObjectOf

variable {registry : Registry} {o : ObjectShape} {part default : Reader} {entries : Fields Json}

theorem tells_readField {name : String} {property : Property Shape}
    (hpart : ∀ raw, raw.depth < Json.depthEntries entries →
      Tells (Value.transcript registry · property.shape) (part property.shape raw))
    (hdefault : ∀ document, Tells (Value.transcript registry · property.shape) (default property.shape document)) :
    Tells (Value.transcript registry · property.shape) (readField part default entries name property) := by
  unfold readField
  split
  · rename_i raw hpresent
    split
    · exact .fail _ _
    · exact (hpart raw (Json.depth_lt_of_present? hpresent)).mapError _
  · split
    · exact .fail _ _
    · split
      · exact (hdefault _).mapError _
      · intro value hok
        cases hok
        exact Value.transcript_null.symm

/-- An object that reads announces its fields in the order in which it declares them. -/
theorem events_read {tolerated : Option String} {document : Json} {value : Value} (shape : Shape)
    (hobject : shape.object? registry = some o)
    (hpart : ∀ inner raw, raw.depth < document.depth → Tells (Value.transcript registry · inner) (part inner raw))
    (hdefault : ∀ inner raw, Tells (Value.transcript registry · inner) (default inner raw))
    (hread : (o.read part default tolerated document).result = .ok value) :
    shape.resolution ++ (o.read part default tolerated document).events = value.transcript registry shape := by
  cases document with
  | object entries =>
    unfold read at hread ⊢
    dsimp only at hread ⊢
    cases hknown : o.undeclared? tolerated entries with
    | some name =>
      rw [hknown] at hread
      cases hread
    | none =>
      simp only [hknown, Traced.result_bind_eq_ok, Traced.result_pure, Except.ok.injEq] at hread ⊢
      obtain ⟨fields, hfields, rfl⟩ := hread
      have hfield : ∀ field ∈ o.properties, Tells
          (fun entry : String × Value => entry.2.transcript registry field.2.shape)
          (do return (field.1, ← readField part default entries field.1 field.2)) := fun field _ =>
        (tells_readField (hpart field.2.shape) (hdefault field.2.shape)).map fun _ => rfl
      rw [Traced.bind_of_ok hfields, Tells.traverse hfield fields hfields, Value.transcript_object hobject,
        Value.fieldsTranscript_eq_flatten, Traced.events_pure, List.append_nil]
  | _ => cases hread

end ObjectOf

/-- A reference that is resolved announces so first. -/
theorem Reference.events_resolve (registry : Registry) (r : Reference) :
    (r.resolve registry).events = if (r.scope? registry).isSome then [.resolving r.id] else [] := by
  unfold resolve
  cases r.scope? registry with
  | none => rfl
  | some s =>
    show (Traced.andThen _ _).events = _
    unfold Traced.andThen
    cases s.object? r.id <;> rfl

theorem Reference.tells_resolve (registry : Registry) (r : Reference) :
    Tells (fun _ => [.resolving r.id]) (r.resolve registry).budgeted := by
  intro o hok
  obtain ⟨s, hscope, _⟩ := Option.bind_eq_some_iff.1 (Reference.resolve_budgeted_eq_ok_iff.1 hok)
  refine (r.events_resolve registry).trans ?_
  rw [hscope, Option.isSome_some, if_pos rfl]

/-- The key and the object of the variant that was selected. -/
def Event.selection? : Event → Option (Option Discriminant × Option String)
  | .dispatched _ key target => some (some key, some target)
  | _ => none

/-- The key and the object of a choice in a value. -/
def Value.selection (choice : Value) : Option Discriminant × Option String :=
  (choice.key?, choice.variantId?)

/-- A choice announces what it selects, and then what reading a reference to that announces. -/
theorem OneOf.events_read {registry : Registry} {c : OneOf} {part default : Reader} {document : Json} {value : Value}
    (hpart : ∀ inner raw, raw.depth < document.depth → Tells (Value.transcript registry · inner) (part inner raw))
    (hdefault : ∀ inner raw, Tells (Value.transcript registry · inner) (default inner raw))
    (hread : (c.read registry part default document).result = .ok value) :
    (c.read registry part default document).events = value.transcript registry (.oneOf c) := by
  cases document with
  | object entries =>
    obtain ⟨raw, key, r, o, inner, hraw, hkey, hvariant, hobject, hinner, rfl⟩ := OneOf.read_eq_ok_iff.1 hread
    have hresolve := Reference.resolve_budgeted_eq_ok_iff.2 hobject
    have hlog := ObjectOf.events_read (.ref r) hobject hpart hdefault hinner
    simp only [OneOf.read, hraw, hkey, hvariant]
    rw [Traced.bind_of_ok (Traced.result_announce _), Traced.bind_of_ok hresolve, Traced.bind_of_ok hinner,
      r.tells_resolve registry o hresolve]
    simp only [Value.transcript, hvariant, ← hlog]
    simp [Shape.resolution]
  | _ => cases hread

namespace Shape

variable {registry : Registry}

/-- The log of reading one level is that of the value, if the logs of reading the parts and defaults are. -/
theorem tells_readStep {part default : Reader} {document : Json} (shape : Shape)
    (hpart : ∀ inner raw, raw.depth < document.depth → Tells (Value.transcript registry · inner) (part inner raw))
    (hdefault : ∀ inner raw, Tells (Value.transcript registry · inner) (default inner raw)) :
    Tells (Value.transcript registry · shape) (readStep registry part default shape document) := by
  intro value hread
  cases shape with
  | list items =>
    cases document with
    | array inputs =>
      have hitems : Tells (·.flatMap (Value.transcript registry · items))
          (Traced.traverseFrom (fun index input => (part items input).inField (toString index)) 0 inputs) :=
        .traverseFrom fun index input hmem => (hpart items input (Json.depth_lt_of_mem_items hmem)).mapError _
      have hlist : Tells (Value.transcript registry · (.list items))
          (readStep registry part default (.list items) (.array inputs)) :=
        hitems.map fun values => Value.itemsTranscript_eq_flatMap values
      exact hlist value hread
    | _ => cases hread
  | object o => exact ObjectOf.events_read (.object o) rfl hpart hdefault hread
  | ref r =>
    obtain ⟨o, ho, hread⟩ := Traced.result_bind_eq_ok.1 hread
    have hobject := Reference.resolve_budgeted_eq_ok_iff.1 ho
    rw [readStep, Traced.bind_of_ok ho, r.tells_resolve registry o ho]
    exact ObjectOf.events_read (.ref r) hobject hpart hdefault hread
  | scope s =>
    simp only [readStep] at hread ⊢
    cases hroot : s.rootObject? with
    | none =>
      rw [hroot] at hread
      cases hread
    | some o =>
      rw [hroot] at hread
      exact ObjectOf.events_read (.scope s) hroot hpart hdefault hread
  | oneOf c => exact OneOf.events_read hpart hdefault hread
  | any =>
    cases hread
    rfl
  | int =>
    cases document with
    | number n =>
      simp only [readStep] at hread ⊢
      split at hread
      · cases hread
        rfl
      · cases hread
    | _ => cases hread
  | _ =>
    cases document <;> cases hread
    rfl

/-- Whatever reads, its log is that of the value. -/
theorem tells_readNested (budget : Nat) (shape : Shape) (document : Json) :
    Tells (Value.transcript registry · shape) (readNested registry budget shape document) := by
  induction budget, shape, document using readNested_induction with
  | hstep budget shape document ihPart ihDefault =>
    rw [readNested_eq]
    refine tells_readStep shape ihPart fun inner raw => ?_
    cases budget with
    | zero => exact .fail _ _
    | succ budget =>
      rw [readDefault_succ]
      exact ihDefault budget (Nat.lt_succ_self _) inner raw

/-- In the log of a value that was read, its choices are selected in order. -/
theorem Reads.selections {tolerated : Option String} {budget : Nat} {shape : Shape} {document : Json} {value : Value}
    (hreads : Reads registry tolerated budget shape document value) :
    (value.transcript registry shape).filterMap Event.selection? = value.choices.map Value.selection := by
  induction hreads with
  | list _ ih =>
    rw [Value.transcript, Value.itemsTranscript_eq_flatMap, Value.choices, Value.itemsChoices_eq_flatMap,
      List.filterMap_flatMap, List.map_flatMap, List.flatMap_map, List.flatMap_map]
    exact List.flatMap_congr fun input hmem => ih input hmem
  | @object _ _ shape o entries content hobject _ _ habsent ih =>
    have hresolution : shape.resolution.filterMap Event.selection? = [] := by
      cases shape <;> rfl
    rw [Value.transcript_object hobject, List.filterMap_append, hresolution, List.nil_append,
      Value.fieldsTranscript_fieldsOf, Value.choices, Value.fieldsChoices_eq_flatMap, ObjectOf.fieldsOf,
      List.filterMap_flatMap, List.map_flatMap, List.flatMap_map]
    refine List.flatMap_congr fun field hmem => ?_
    cases hsource : field.2.source? _ entries field.1 with
    | none =>
      rw [habsent field hmem hsource, Value.transcript_null]
      rfl
    | some source => exact ih field hmem source.1 source.2 hsource
  | @oneOf _ c _ _ key r inner _ _ hvariant hinner ih =>
    simp only [Value.transcript, hvariant, Value.choices, List.map_cons, List.filterMap_cons, Event.selection?, ih]
    rw [Value.selection, Value.key?, Value.variantId?, hinner.objectId?_of_ref]
  | _ => rfl

/-- The references of the shape, those of nested scopes apart, are bound to live scopes. -/
def Attached (registry : Registry) (shape : Shape) : Prop :=
  ∀ r ∈ shape.references, (r.scope? registry).isSome = true

variable {shape inner : Shape}

theorem Attached.of_nodes (hattached : shape.Attached registry) (hnodes : inner.nodes ⊆ shape.nodes) :
    inner.Attached registry := by
  intro r hr
  obtain ⟨node, hnode, hown⟩ := List.mem_flatMap.1 hr
  exact hattached r (List.mem_flatMap.2 ⟨node, hnodes hnode, hown⟩)

/-- What live scopes hold is attached. -/
theorem attached_of_holds (hsound : registry.Sound) (hholds : registry.Holds shape) : shape.Attached registry := by
  intro r hr
  obtain ⟨node, hnode, hown⟩ := List.mem_flatMap.1 hr
  obtain ⟨s, hlive, hmem⟩ : ∃ s ∈ registry.live, r ∈ s.references := by
    cases hholds.of_mem_nodes hnode with
    | scope => cases hown
    | object => cases hown
    | node hlive hmem => exact ⟨_, hlive, ScopeOf.mem_references_iff.2 ⟨node, hmem, hown⟩⟩
    | target hlive hmem =>
      obtain rfl := List.mem_singleton.1 hown
      exact ⟨_, hlive, hmem⟩
  rw [(hsound.target?_of_mem hlive hmem).1]
  rfl

/-- An attached shape reaches attached shapes only. -/
theorem Attached.of_reaches (hattached : shape.Attached registry) (hsound : registry.Sound)
    (husable : shape.Usable registry) (hreaches : shape.Reaches registry inner) : inner.Attached registry := by
  induction hreaches with
  | refl => exact hattached
  | item _ ih =>
    refine ih.of_nodes fun node hnode => ?_
    rw [nodes]
    exact List.mem_cons_of_mem _ hnode
  | @variant c variant _ hmem ih =>
    intro r hr
    obtain rfl : r = variant.2 := by simpa [references, nodes, ownReferences] using hr
    refine ih _ ?_
    rw [references_oneOf]
    exact List.mem_map_of_mem hmem
  | @field inner o field hreaches hobject hmem ih =>
    cases inner with
    | object own =>
      cases hobject
      refine ih.of_nodes fun node hnode => ?_
      rw [nodes]
      exact List.mem_cons_of_mem _ (mem_objectNodes.2 ⟨field, hmem, hnode⟩)
    | ref r => exact attached_of_holds hsound ((Registry.holds_of_target? hobject).field hmem)
    | scope s =>
      have hlive := (husable.of_reaches hsound hreaches).alive s (mem_nodes_self _)
      exact attached_of_holds hsound ((hsound.holds_of_object? (.scope hlive) hobject).field hmem)
    | _ => cases hobject

/-- Every selection in a log is followed at once by the resolution of the object that was selected. -/
def Followed (log : List Event) : Prop :=
  ∀ index field key target, log[index]? = some (.dispatched field key target) →
    log[index + 1]? = some (.resolving target)

theorem joins_followed : Traced.Joins Followed where
  nil := nofun
  append := by
    intro before after hbefore hafter index field key target hselected
    by_cases hindex : index < before.length
    · rw [List.getElem?_append_left hindex] at hselected
      have hresolved := hbefore index field key target hselected
      rwa [List.getElem?_append_left (List.getElem?_eq_some_iff.1 hresolved).1]
    · rw [List.getElem?_append_right (by omega)] at hselected ⊢
      rw [Nat.sub_add_comm (by omega)]
      exact hafter _ field key target hselected

theorem followed_read (hsound : registry.Sound) (husable : shape.Usable registry)
    (hattached : shape.Attached registry) (document : Json) : Followed (read registry shape document).events := by
  refine log_readNested joins_followed (fun r _ => ?_) (fun c key r hreaches hmem => ?_) .refl _ document
  · -- A resolution alone selects nothing.
    intro index field key target hselected
    have hmem := List.mem_of_getElem? hselected
    rw [r.events_resolve registry] at hmem
    split at hmem <;> simp at hmem
  · have hscope : (r.scope? registry).isSome = true := by
      refine hattached.of_reaches hsound husable hreaches r ?_
      rw [references_oneOf]
      exact List.mem_map_of_mem hmem
    intro index field chosen target hselected
    rw [r.events_resolve registry, if_pos hscope] at hselected ⊢
    match index with
    | 0 =>
      cases hselected
      rfl
    | 1 => cases hselected
    | index + 2 => cases hselected

/-- The log mirrors the value that is read. Each selection in it is followed at once by the resolution of what was
selected. If a value is read, the log is the one told from the value, in which the choices of the value, those that
come from defaults included, are selected in order and each resolved once. -/
theorem log_mirrors_value (hreachable : registry.Reachable) (husable : shape.Usable registry)
    (hattached : shape.Attached registry) (document : Json) :
    Followed (read registry shape document).events ∧
    ∀ value, (read registry shape document).result = .ok value →
      (read registry shape document).events = value.transcript registry shape ∧
      (read registry shape document).events.filterMap Event.selection? = value.choices.map Value.selection := by
  refine ⟨followed_read hreachable.sound husable hattached document, fun value hread => ?_⟩
  have hlog := tells_readNested _ shape document value hread
  refine ⟨hlog, ?_⟩
  rw [read, hlog]
  exact (reads_of_readNested hread).selections

end Shape

namespace Suppers

open Registry Shape

/-- A supper has dishes and a drink. -/
def dishes : OneOf where
  field := "dish"
  kind := .string
  variants := [(.string "bread", { id := "Bread" }), (.string "platter", { id := "Platter" })]
  uniform := by simp [Discriminant.kind]
  distinct := by decide

def drinks : OneOf where
  field := "drink"
  kind := .int
  variants := [(.int 1, { id := "Water" })]
  uniform := by simp [Discriminant.kind]
  distinct := by decide

/-- Without a drink of its own, a supper comes with water. -/
def supper : ObjectShape where
  id := "Supper"
  properties := [("dishes", { shape := .list (.oneOf dishes), required := true }),
    ("drink", { shape := .oneOf drinks, default := some (.object [("drink", .ofInt64 1)]) })]

def bread : ObjectShape where
  id := "Bread"
  properties := [("slices", { shape := .int })]

/-- A platter bears another dish. -/
def platter : ObjectShape where
  id := "Platter"
  properties := [("bears", { shape := .oneOf dishes })]

def water : ObjectShape where
  id := "Water"
  properties := []

def suppers : Scope := ⟨0, "Supper", [supper, bread, platter, water].map (bindObject 0)⟩

def registry : Registry := ⟨1, [suppers]⟩

/-- Bread on a platter, and more bread. -/
def document : Json :=
  .object [("dishes", .array [
    .object [("dish", .string "platter"), ("bears", .object [("dish", .string "bread")])],
    .object [("dish", .string "bread"), ("slices", .ofInt64 2)]])]

def value : Value :=
  .object "Supper" [
    ("dishes", .list [
      .oneOf (.string "platter") (.object "Platter" [
        ("bears", .oneOf (.string "bread") (.object "Bread" [("slices", .null)]))]),
      .oneOf (.string "bread") (.object "Bread" [("slices", .int 2)])]),
    ("drink", .oneOf (.int 1) (.object "Water" []))]

/-- The dish on the platter is selected after the platter, and the water after all the dishes. -/
theorem log_mirrors_value_supper :
    registry.Reachable ∧ (Shape.scope suppers).Usable registry ∧ (Shape.scope suppers).Attached registry ∧
    (read registry (.scope suppers) document).result = .ok value ∧
    Followed (read registry (.scope suppers) document).events ∧
    (read registry (.scope suppers) document).events = value.transcript registry (.scope suppers) ∧
    (read registry (.scope suppers) document).events.filterMap Event.selection? =
      [(some (.string "platter"), some "Platter"), (some (.string "bread"), some "Bread"),
        (some (.string "bread"), some "Bread"), (some (.int 1), some "Water")] := by
  have husable : ∀ o ∈ [supper, bread, platter, water], (Shape.object o).Usable {} := by
    simp [usable_object_iff, ObjectOf.Distinct, Fields.Distinct, Fields.names, supper, bread, platter, water,
      objectNodes, propertiesNodes, propertyNodes, nodes]
  have hfreeze : (Registry.freeze {} "Supper" [supper, bread, platter, water]).result = .ok (suppers, registry) := rfl
  obtain ⟨hreachable, hscope⟩ := usable_of_freeze .refl husable hfreeze
  have hattached : (Shape.scope suppers).Attached registry :=
    attached_of_holds hreachable.sound (.scope (List.mem_singleton.2 rfl))
  have hread : (read registry (.scope suppers) document).result = .ok value := rfl
  obtain ⟨hfollowed, hmirrors⟩ := log_mirrors_value hreachable hscope hattached document
  obtain ⟨hlog, hselections⟩ := hmirrors value hread
  exact ⟨hreachable, hscope, hattached, hread, hfollowed, hlog, hselections.trans rfl⟩

end Suppers

end Shapes
