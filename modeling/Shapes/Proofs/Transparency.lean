import Shapes.Proofs.Matching
import Shapes.Proofs.Termination

/-!
The discriminator of an object that does not declare it. A choice hands it to the object that it selects, which
tolerates it and does not see it otherwise: the object reads the entries as it would read them without it.
Objects further down do not tolerate it.
-/

namespace Shapes

open Traced (Tally)

namespace ObjectOf

variable {o : ObjectShape} {entries : Fields Json} {name : String} {tolerated : Option String}

/-- An object tolerates an entry by not looking at it. -/
theorem undeclared?_without (hundeclared : o.declares name = false) :
    o.undeclared? none (entries.without name) = o.undeclared? (some name) entries := by
  unfold undeclared?
  split
  · rfl
  · rw [Fields.names_without, List.find?_filter]
    refine List.find?_congr fun other _ => ?_
    rw [Bool.eq_iff_iff]
    by_cases hname : other = name
    · simp [hname, hundeclared]
    · simp [hname, Ne.symm hname]

/-- An object that does not declare an entry, nor names it in a rule, finds the same with or without it. -/
theorem alike_without (hundeclared : o.declares name = false)
    (hunnamed : ∀ field ∈ o.properties, name ∉ field.2.named) :
    o.Alike (· = ·) (fun _ raw other => raw = other) (some name) none entries (entries.without name) := by
  have hpresent : ∀ other, other ≠ name →
      Json.present? (entries.without name) other = Json.present? entries other := by
    intro other hne
    rw [Json.present?, Json.present?, Fields.get?_without_of_ne hne]
  refine ⟨?_, fun field hmem other hother => ?_, fun field hmem => ?_⟩
  · rw [undeclared?_without hundeclared]
    refine .refl ?_ _
    exact fun _ => rfl
  · rw [Json.isPresent, Json.isPresent, hpresent other]
    rintro rfl
    exact hunnamed field hmem hother
  · rw [hpresent field.1]
    · exact .refl (fun _ => rfl) _
    · rintro rfl
      rw [declares_iff.2 ⟨field.2, hmem⟩] at hundeclared
      cases hundeclared

/-- A strict object refuses entries among which is one that it neither declares nor tolerates. -/
theorem exists_undeclared? (hstrict : o.allowUnknown = false) (hundeclared : o.declares name = false)
    (htolerated : tolerated ≠ some name) (hmem : name ∈ entries.names) :
    ∃ first, o.undeclared? tolerated entries = some first := by
  rw [← Option.isSome_iff_exists, undeclared?, hstrict, if_neg Bool.false_ne_true, List.find?_isSome]
  exact ⟨name, hmem, by simp [hundeclared, htolerated]⟩

end ObjectOf

namespace Shape

variable {registry : Registry} {shape : Shape} {document : Json} {entries : Fields Json}
  {o : ObjectShape} {name : String}

theorem result_readNested_of_undeclared? (hobject : shape.objectFor? registry entries = some o)
    (hundeclared : o.undeclared? shape.tolerated entries = some name) (budget : Nat) :
    (readNested registry budget shape (.object entries)).result = .error (.failed (.unknownField name)) := by
  rw [result_eq_error_iff_of_objectFor? hobject, ObjectOf.result_read_eq_unknownField_iff, hundeclared]

/-- A reference reads as the object that it stands for. -/
theorem result_read_of_target? (hreachable : registry.Reachable) {r : Reference}
    (htarget : r.target? registry = some o) :
    (read registry (.object o) document).result = (read registry (.ref r) document).result := by
  have husable : (Shape.ref r).Usable registry := ⟨by simp [nodes], by simp [nodes]⟩
  have hlive : ∀ inner document, (Shape.ref r).TakesDefault registry inner document →
      (inner, document) ∈ registry.live.flatMap scopeDefaults :=
    fun inner document htakes => mem_of_takesDefault hreachable.sound husable htakes
  have hown : ∀ inner document, (Shape.ref r).TakesDefault registry inner document →
      (inner, document) ∈ (Shape.object o).defaults ++ registry.live.flatMap scopeDefaults :=
    fun inner document htakes => List.mem_append_right _ (hlive inner document htakes)
  have hobject : (Shape.object o).object? registry = some o := rfl
  have href : (Shape.ref r).object? registry = some o := htarget
  have hbudget : budget registry (.ref r) = (registry.live.flatMap scopeDefaults).length := Nat.zero_add _
  rw [read, read, result_readNested_of_object? hobject, ← result_readNested_of_object? href, hbudget,
    result_readNested_length_eq hlive hown .refl, List.length_append]
  rfl

end Shape

namespace OneOf

open Shape (Leads readNested readDefault)

variable {registry : Registry} {c : OneOf} {entries : Fields Json} {key : Discriminant} {r : Reference}
  {o : ObjectShape}

/-- A choice reads entries as the selected object reads those without the discriminator. -/
theorem result_read_of_transparent (hreachable : registry.Reachable)
    (hselects : c.Selects registry entries key r o) (hundeclared : o.declares c.field = false)
    (hunnamed : ∀ field ∈ o.properties, c.field ∉ field.2.named) :
    (Shape.read registry (.oneOf c) (.object entries)).result =
      (Shape.read registry (.object o) (.object (entries.without c.field))).result.map (.oneOf key) := by
  obtain ⟨⟨raw, hraw, hkey⟩, hvariant, hobject⟩ := hselects
  have hown : (Shape.ref r).object? registry = some o := hobject
  have halike : ∀ budget, Tally (· = ·) (· = ·)
      (o.read (readNested registry budget) (readDefault registry budget) (some c.field) (.object entries))
      (o.read (readNested registry budget) (readDefault registry budget) none
        (.object (entries.without c.field))) := by
    intro budget
    refine ObjectOf.tally_read Reading.congruent_eq ((ObjectOf.alike_without hundeclared hunnamed).imp ?_)
    rintro inner raw _ _ rfl
    exact Reading.tally_refl Reading.congruent_eq _
  rw [Shape.result_read_of_target? hreachable hobject, Shape.read, Shape.read, Shape.readNested_eq,
    Shape.readStep, result_read_of_selects hraw hkey hvariant hobject, (halike _).result_eq,
    Shape.result_readNested_of_object? hown]
  rfl

/-- The discriminator is transparent to an object that does not declare it and whose rules do not name it. The
choice reads entries as the object reads those without the discriminator, with the key on the value and with the
same error. So it does not matter how the key is spelled, and a strict object further down refuses an entry of
that name as ever. -/
theorem discriminator_transparent (hreachable : registry.Reachable)
    (hselects : c.Selects registry entries key r o) (hundeclared : o.declares c.field = false)
    (hunnamed : ∀ field ∈ o.properties, c.field ∉ field.2.named) :
    (Shape.read registry (.oneOf c) (.object entries)).result =
      (Shape.read registry (.object o) (.object (entries.without c.field))).result.map (.oneOf key) ∧
    (∀ others, c.Selects registry others key r o → others.without c.field = entries.without c.field →
      (Shape.read registry (.oneOf c) (.object others)).result =
        (Shape.read registry (.oneOf c) (.object entries)).result) ∧
    ∀ path inner nested p, Leads registry (.oneOf c) (.object entries) path inner (.object nested) →
      inner.objectFor? registry nested = some p → p.allowUnknown = false → p.declares c.field = false →
      inner.tolerated ≠ some c.field → c.field ∈ Fields.names nested →
      (∃ name, (Shape.read registry inner (.object nested)).result = .error (.failed (.unknownField name))) ∧
        ∀ value, (Shape.read registry (.oneOf c) (.object entries)).result ≠ .ok value := by
  refine ⟨result_read_of_transparent hreachable hselects hundeclared hunnamed, ?_, ?_⟩
  · intro others hothers hsame
    rw [result_read_of_transparent hreachable hselects hundeclared hunnamed,
      result_read_of_transparent hreachable hothers hundeclared hunnamed, hsame]
  · intro path inner nested p hleads hobject hstrict hown htolerated hmem
    obtain ⟨name, hname⟩ := ObjectOf.exists_undeclared? hstrict hown htolerated hmem
    refine ⟨⟨name, Shape.result_readNested_of_undeclared? hobject hname _⟩, fun value hread => ?_⟩
    obtain ⟨less, content, hreads⟩ := (Shape.reads_of_readNested hread).of_leads hleads
    have hrefused := Shape.result_readNested_of_undeclared? hobject hname less
    rw [Shape.readNested_eq_ok_iff.2 hreads] at hrefused
    cases hrefused

end OneOf

namespace Depots

open Registry Shape

/-- What is stored, by its kind. -/
def content : OneOf where
  field := "kind"
  kind := .int
  variants := [(.int 1, { id := "Crate" }), (.int 2, { id := "Sack" })]
  uniform := by decide
  distinct := by decide

def depot : ObjectShape where
  id := "Depot"
  properties := [("content", { shape := .oneOf content, required := true })]

def crate : ObjectShape where
  id := "Crate"
  properties := [("kind", { shape := .int })]

/-- A sack says nothing of its kind. -/
def sack : ObjectShape where
  id := "Sack"
  properties := [("weight", { shape := .int, required := true }), ("label", { shape := .ref { id := "Label" } })]

def label : ObjectShape where
  id := "Label"
  properties := [("text", { shape := .string })]

def depots : Scope := ⟨0, "Depot", [depot, crate, sack, label].map (bindObject 0)⟩

def registry : Registry := ⟨1, [depots]⟩

/-- A sack of a kind that is spelled in some way. -/
def oats (kind : Json) : Fields Json :=
  [("weight", .ofInt64 7), ("kind", kind), ("label", .object [("text", .string "oats")])]

/-- The kind is also told on the label. -/
def mislabelled (kind : Json) : Fields Json :=
  [("weight", .ofInt64 7), ("kind", kind), ("label", .object [("kind", kind), ("text", .string "oats")])]

/-- The spellings of the kind. -/
def spellings : List Json :=
  [.ofInt64 2, .number (.float 2.0 rfl), .string "2", .string " +2 "]

/-- However the kind is spelled, the sack is read as if it were not there; on the label it is refused. -/
theorem discriminator_transparent_sack :
    registry.Reachable ∧ (bindObject 0 sack).declares (content.bind 0).field = false ∧
    (∀ field ∈ (bindObject 0 sack).properties, (content.bind 0).field ∉ field.2.named) ∧
    ∀ kind ∈ spellings,
      (∃ r, (content.bind 0).Selects registry (oats kind) (.int 2) r (bindObject 0 sack)) ∧
      (read registry (.oneOf (content.bind 0)) (.object (oats kind))).result =
        (read registry (.object (bindObject 0 sack)) (.object [
          ("weight", .ofInt64 7), ("label", .object [("text", .string "oats")])])).result.map (.oneOf (.int 2)) ∧
      ∀ value, (read registry (.oneOf (content.bind 0)) (.object (mislabelled kind))).result ≠ .ok value := by
  have husable : ∀ o ∈ [depot, crate, sack, label], (Shape.object o).Usable {} := by
    simp [usable_object_iff, ObjectOf.Distinct, Fields.Distinct, Fields.names, depot, crate, sack, label,
      objectNodes, propertiesNodes, propertyNodes, nodes]
  have hreachable : registry.Reachable :=
    .single (.freeze husable (show (Registry.freeze {} "Depot" _).result = _ from rfl))
  have hundeclared : (bindObject 0 sack).declares (content.bind 0).field = false := rfl
  have hunnamed : ∀ field ∈ (bindObject 0 sack).properties, (content.bind 0).field ∉ field.2.named := by
    decide
  have hspelled : ∀ kind ∈ spellings, (content.bind 0).kind.coerce kind = some (.int 2) := by
    simp only [spellings, List.forall_mem_cons]
    exact ⟨rfl, rfl, rfl, rfl, List.forall_mem_nil _⟩
  refine ⟨hreachable, hundeclared, hunnamed, fun kind hmem => ?_⟩
  have hoats : (content.bind 0).Selects registry (oats kind) (.int 2) { id := "Sack", scope := some 0 }
      (bindObject 0 sack) := ⟨⟨kind, rfl, hspelled kind hmem⟩, rfl, rfl⟩
  have hmislabelled : (content.bind 0).Selects registry (mislabelled kind) (.int 2)
      { id := "Sack", scope := some 0 } (bindObject 0 sack) := ⟨⟨kind, rfl, hspelled kind hmem⟩, rfl, rfl⟩
  obtain ⟨hread, -, -⟩ := OneOf.discriminator_transparent hreachable hoats hundeclared hunnamed
  obtain ⟨-, -, hrefused⟩ := OneOf.discriminator_transparent hreachable hmislabelled hundeclared hunnamed
  refine ⟨⟨_, hoats⟩, hread, (hrefused ["label"] (.ref { id := "Label", scope := some 0 })
    [("kind", kind), ("text", .string "oats")] (bindObject 0 label) ?_ rfl rfl rfl (by simp [tolerated]) (.head _)).2⟩
  have hobject : (Shape.oneOf (content.bind 0)).objectFor? registry (mislabelled kind) =
      some (bindObject 0 sack) := objectFor?_oneOf_eq_some_iff.2 ⟨_, _, hmislabelled⟩
  have hfield : ("label", { shape := .ref { id := "Label", scope := some 0 } }) ∈
      (bindObject 0 sack).properties := .tail _ (.head _)
  exact .field hobject hfield rfl .here

end Depots

end Shapes
