import Shapes.Proofs.Reading
import Shapes.Proofs.Schema.Export

/-!
Shapes that read and write alike. Two shapes need not be equal for this: it is enough that they have one
schema, and that whatever they lead to in the same way has one schema too. As references may lead back,
this is not a walk over two shapes but a relation between shapes that is kept at every part.
-/

namespace Shapes

theorem Traced.traverse_congr_zip {ε α β : Type} {f g : α → Traced ε β} {items others : List α}
    (hlength : items.length = others.length)
    (hagree : ∀ pair ∈ items.zip others, f pair.1 = g pair.2) :
    traverse f items = traverse g others := by
  induction items generalizing others with
  | nil =>
    obtain rfl := List.length_eq_zero_iff.1 hlength.symm
    rfl
  | cons a rest ih =>
    cases others with
    | nil => cases hlength
    | cons b others =>
      have hrest := ih (Nat.succ.inj hlength) fun pair hmem => hagree pair (List.mem_cons_of_mem _ hmem)
      rw [traverse, traverse, hagree (a, b) (List.mem_cons_self ..), hrest]

/-- Looking up in lists with the same keys finds values in the same place. -/
theorem lookup_of_map_fst_eq {α β : Type} [BEq α] [LawfulBEq α] {items others : List (α × β)}
    (hkeys : items.map Prod.fst = others.map Prod.fst) (key : α) :
    (items.lookup key = none ∧ others.lookup key = none) ∨
      ∃ pair ∈ items.zip others, items.lookup key = some pair.1.2 ∧
        others.lookup key = some pair.2.2 := by
  induction items generalizing others with
  | nil =>
    obtain rfl := List.map_eq_nil_iff.1 hkeys.symm
    exact Or.inl ⟨rfl, rfl⟩
  | cons item rest ih =>
    obtain ⟨other, others, rfl, hkey, hothers⟩ := List.map_eq_cons_iff.1 hkeys.symm
    rw [List.lookup_cons, List.lookup_cons, hkey]
    cases hfound : key == item.1 with
    | true => exact Or.inr ⟨(item, other), List.mem_cons_self .., rfl, rfl⟩
    | false =>
      rcases ih hothers.symm with hnone | ⟨pair, hmem, hpair⟩
      · exact Or.inl hnone
      · exact Or.inr ⟨pair, List.mem_cons_of_mem _ hmem, hpair⟩

namespace Reference

variable {registry : Registry} {r : Reference} {o : ObjectShape}

/-- A reference with an object announces itself and gives the object. -/
theorem resolve_eq_of_target? (htarget : r.target? registry = some o) :
    r.resolve registry = do
      Traced.announce (.resolving r.id)
      return o := by
  obtain ⟨s, hscope, hobject⟩ := Option.bind_eq_some_iff.1 htarget
  rw [resolve, hscope]
  dsimp only
  rw [hobject]

theorem budgeted_resolve_eq_of_target? (htarget : r.target? registry = some o) :
    (r.resolve registry).budgeted = do
      Traced.announce (.resolving r.id)
      return o := by
  rw [resolve_eq_of_target? htarget]
  rfl

end Reference

namespace ObjectOf

variable {o p : ObjectShape} {property other : Property Shape}

theorem declares_objectSchema (o : ObjectShape) (name : String) :
    (Shape.objectSchema o).declares name = o.declares name := by
  rw [declares, declares, property?_objectSchema, Option.isSome_map]

theorem length_properties_eq_of_schema_eq (hschema : Shape.objectSchema o = Shape.objectSchema p) :
    o.properties.length = p.properties.length := by
  have hfields := (Shape.objectSchema_eq_iff.1 hschema).2.1
  simpa using congrArg List.length hfields

private theorem readField_eq_of_schema_eq {part default : Reader} {entries : Fields Json} {name : String}
    (hproperty : Shape.propertySchema property = Shape.propertySchema other)
    (hpart : ∀ raw, raw.depth < Json.depthEntries entries →
      part property.shape raw = part other.shape raw)
    (hdefault : ∀ document, default property.shape document = default other.shape document) :
    readField part default entries name property = readField part default entries name other := by
  obtain ⟨_, hrequired, hdocument, hrequiredIf, hrequiredIfNot, hconflicts, _⟩ :=
    Shape.propertySchema_eq_iff.1 hproperty
  unfold readField Property.conflict? Property.isRequired
  rw [hrequired, hdocument, hrequiredIf, hrequiredIfNot, hconflicts]
  split
  · rename_i raw hpresent
    rw [hpart raw (Json.depth_lt_of_present? hpresent)]
  · simp only [hdefault]

/-- Objects of one schema read alike, if the shapes of their fields do. -/
theorem read_eq_of_schema_eq {part default : Reader} {tolerated : Option String} {input : Json}
    (hschema : Shape.objectSchema o = Shape.objectSchema p)
    (hpart : ∀ fields ∈ o.properties.zip p.properties, ∀ raw, raw.depth < input.depth →
      part fields.1.2.shape raw = part fields.2.2.shape raw)
    (hdefault : ∀ fields ∈ o.properties.zip p.properties, ∀ document,
      default fields.1.2.shape document = default fields.2.2.shape document) :
    o.read part default tolerated input = p.read part default tolerated input := by
  obtain ⟨hid, hfields, hunknown⟩ := Shape.objectSchema_eq_iff.1 hschema
  cases input with
  | object entries =>
    have hundeclared : o.undeclared? tolerated entries = p.undeclared? tolerated entries := by
      unfold undeclared?
      simp only [← declares_objectSchema, hschema, hunknown]
    have htraverse :
        Traced.traverse (fun field => do
          return (field.1, ← readField part default entries field.1 field.2)) o.properties =
        Traced.traverse (fun field => do
          return (field.1, ← readField part default entries field.1 field.2)) p.properties := by
      refine Traced.traverse_congr_zip (length_properties_eq_of_schema_eq hschema) fun fields hmem => ?_
      obtain ⟨hname, hproperty⟩ := Prod.mk.inj (apply_eq_of_mem_zip hfields hmem)
      rw [hname, readField_eq_of_schema_eq hproperty (fun raw hraw => hpart fields hmem raw (by
        rw [Json.depth]; omega)) (hdefault fields hmem)]
    simp only [read, hundeclared, htraverse, hid]
  | _ => simp only [read, hid]

private theorem writeField_eq_of_schema_eq {part : Writer} {fields : Fields Value} {name : String}
    (hproperty : Shape.propertySchema property = Shape.propertySchema other)
    (hpart : ∀ content, content.depth < Value.depthFields fields →
      part property.shape content = part other.shape content) :
    writeField part fields name property = writeField part fields name other := by
  obtain ⟨_, hrequired, _, hrequiredIf, hrequiredIfNot, hconflicts, _⟩ :=
    Shape.propertySchema_eq_iff.1 hproperty
  unfold writeField Property.conflict? Property.isRequired
  rw [hrequired, hrequiredIf, hrequiredIfNot, hconflicts]
  split
  · rename_i content hpresent
    rw [hpart content (Value.depth_lt_of_present? hpresent)]
  · rfl

/-- Objects of one schema write alike, if the shapes of their fields do. -/
theorem write_eq_of_schema_eq {part : Writer} {value : Value}
    (hschema : Shape.objectSchema o = Shape.objectSchema p)
    (hpart : ∀ fields ∈ o.properties.zip p.properties, ∀ content, content.depth < value.depth →
      part fields.1.2.shape content = part fields.2.2.shape content) :
    o.write part value = p.write part value := by
  obtain ⟨hid, hfields, _⟩ := Shape.objectSchema_eq_iff.1 hschema
  cases value with
  | object id held =>
    have htraverse : Traced.traverse (fun field => writeField part held field.1 field.2) o.properties =
        Traced.traverse (fun field => writeField part held field.1 field.2) p.properties := by
      refine Traced.traverse_congr_zip (length_properties_eq_of_schema_eq hschema) fun fields hmem => ?_
      obtain ⟨hname, hproperty⟩ := Prod.mk.inj (apply_eq_of_mem_zip hfields hmem)
      rw [hname, writeField_eq_of_schema_eq hproperty fun content hcontent =>
        hpart fields hmem content (by rw [Value.depth]; omega)]
    simp only [write, ← declares_objectSchema, hschema, htraverse, hid]
  | _ => simp only [write, hid]

end ObjectOf

namespace OneOf

variable {c d : OneOf}

theorem target?_of_schema_eq (hkind : c.kind = d.kind) (hschema : c.schema = d.schema)
    (key : Discriminant) : (c.target? key = none ∧ d.target? key = none) ∨
      ∃ variants ∈ c.variants.zip d.variants, c.target? key = some variants.1.2 ∧
        d.target? key = some variants.2.2 :=
  lookup_of_map_fst_eq (keys_eq_of_schema_eq hkind hschema) key

theorem id_eq_of_mem_zip (hschema : c.schema = d.schema)
    {variants : (Discriminant × Reference) × (Discriminant × Reference)}
    (hmem : variants ∈ c.variants.zip d.variants) : variants.1.2.id = variants.2.2.id := by
  have hentry := apply_eq_of_mem_zip (OneOfSchema.mk.inj hschema).2 hmem
  exact (RefSchema.mk.inj (Prod.mk.inj hentry).2).1

/-- Choices of one schema read alike, if the objects that they choose among do. -/
theorem read_eq_of_schema_eq {registry : Registry} {part default : Reader} {input : Json}
    (hkind : c.kind = d.kind) (hschema : c.schema = d.schema)
    (hobject : ∀ variants ∈ c.variants.zip d.variants, ∃ o p,
      variants.1.2.target? registry = some o ∧ variants.2.2.target? registry = some p ∧
        o.read part default (some c.field) input = p.read part default (some c.field) input) :
    c.read registry part default input = d.read registry part default input := by
  have hfield : c.field = d.field := (OneOfSchema.mk.inj hschema).1
  have hkeys := keys_eq_of_schema_eq hkind hschema
  cases input with
  | object entries =>
    simp only [read, unknownVariant, ← hfield, ← hkind, ← hkeys]
    cases Fields.get? entries c.field with
    | none => rfl
    | some raw =>
      dsimp only
      cases c.kind.coerce raw with
      | none => rfl
      | some key =>
        dsimp only
        rcases target?_of_schema_eq hkind hschema key with ⟨hc, hd⟩ | ⟨variants, hmem, hc, hd⟩
        · rw [hc, hd]
        · obtain ⟨o, p, ho, hp, hread⟩ := hobject variants hmem
          rw [hc, hd]
          simp only [Reference.budgeted_resolve_eq_of_target? ho,
            Reference.budgeted_resolve_eq_of_target? hp, id_eq_of_mem_zip hschema hmem, bind_assoc,
            pure_bind, hread]
  | _ => simp only [read, hfield]

theorem tag_eq_of_schema_eq (hkind : c.kind = d.kind) (hschema : c.schema = d.schema)
    (key : Discriminant) (document : Json) : c.tag key document = d.tag key document := by
  have hfield : c.field = d.field := (OneOfSchema.mk.inj hschema).1
  cases document <;> simp only [tag, hfield, hkind]

end OneOf

namespace Shape

/-- A relation between shapes of one schema, with whatever they lead to in the same way. -/
structure Bisimulation (registry : Registry) (Alike : Shape → Shape → Prop) : Prop where
  schema : ∀ {a b}, Alike a b → a.schema = b.schema
  item : ∀ {items others}, Alike (.list items) (.list others) → Alike items others
  field : ∀ {o p}, Alike (.object o) (.object p) → ∀ fields ∈ o.properties.zip p.properties,
    Alike fields.1.2.shape fields.2.2.shape
  variant : ∀ {c d}, Alike (.oneOf c) (.oneOf d) → ∀ variants ∈ c.variants.zip d.variants,
    Alike (.ref variants.1.2) (.ref variants.2.2)
  target : ∀ {r q}, Alike (.ref r) (.ref q) → ∃ o p, r.target? registry = some o ∧
    q.target? registry = some p ∧ Alike (.object o) (.object p)
  root : ∀ {s t}, Alike (.scope s) (.scope t) → ∃ o p, s.rootObject? = some o ∧
    t.rootObject? = some p ∧ Alike (.object o) (.object p)

namespace Bisimulation

variable {registry : Registry} {Alike : Shape → Shape → Prop} {a b : Shape}

/-- Related shapes read alike, up to the errors and the announcements. -/
theorem readNested_eq (hbisimulation : Bisimulation registry Alike) (halike : Alike a b) (budget : Nat)
    (document : Json) : readNested registry budget a document = readNested registry budget b document := by
  induction budget, a, document using readNested_induction generalizing b with
  | hstep budget a document ihPart ihDefault =>
    have hdefault : ∀ {inner other}, Alike inner other → ∀ raw,
        readDefault registry budget inner raw = readDefault registry budget other raw := by
      intro inner other hinner raw
      cases budget with
      | zero => rfl
      | succ budget =>
        rw [readDefault_succ]
        exact ihDefault budget (Nat.lt_succ_self _) inner raw hinner
    have hobject : ∀ {o p tolerated}, Alike (.object o) (.object p) →
        o.read (readNested registry budget) (readDefault registry budget) tolerated document =
          p.read (readNested registry budget) (readDefault registry budget) tolerated document := by
      intro o p tolerated hobjects
      exact ObjectOf.read_eq_of_schema_eq (Schema.object.inj (hbisimulation.schema hobjects))
        (fun fields hmem raw hlt => ihPart _ raw hlt (hbisimulation.field hobjects fields hmem))
        fun fields hmem raw => hdefault (hbisimulation.field hobjects fields hmem) raw
    have hschema := hbisimulation.schema halike
    rw [Shape.readNested_eq, Shape.readNested_eq]
    cases a with
    | list items =>
      cases b with
      | list others =>
        cases document with
        | array inputs =>
          simp only [readStep]
          congr 1
          refine Traced.traverseFrom_congr fun index raw hmem => ?_
          rw [ihPart items raw (Json.depth_lt_of_mem_items hmem) (hbisimulation.item halike)]
        | _ => rfl
      | _ => cases hschema
    | object o =>
      cases b with
      | object p => exact hobject halike
      | _ => cases hschema
    | ref r =>
      cases b with
      | ref q =>
        obtain ⟨o, p, ho, hp, hobjects⟩ := hbisimulation.target halike
        have hid : r.id = q.id := (RefSchema.mk.inj (Schema.ref.inj hschema)).1
        simp only [readStep, Reference.budgeted_resolve_eq_of_target? ho,
          Reference.budgeted_resolve_eq_of_target? hp, hid, bind_assoc, pure_bind, hobject hobjects]
      | _ => cases hschema
    | oneOf c =>
      cases b with
      | oneOf d =>
        obtain ⟨hkind, hchoice⟩ := Schema.oneOf.inj hschema
        refine OneOf.read_eq_of_schema_eq hkind hchoice fun variants hmem => ?_
        obtain ⟨o, p, ho, hp, hobjects⟩ :=
          hbisimulation.target (hbisimulation.variant halike variants hmem)
        exact ⟨o, p, ho, hp, hobject hobjects⟩
      | _ => cases hschema
    | scope s =>
      cases b with
      | scope t =>
        obtain ⟨o, p, ho, hp, hobjects⟩ := hbisimulation.root halike
        simp only [readStep, ho, hp, hobject hobjects]
      | _ => cases hschema
    | _ => cases b <;> first | rfl | cases hschema

/-- Related shapes write alike, up to the errors and the announcements. -/
theorem write_eq (hbisimulation : Bisimulation registry Alike) (halike : Alike a b) (value : Value) :
    write registry a value = write registry b value := by
  induction hdepth : value.depth using Nat.strongRecOn generalizing a b value with
  | _ depth ih =>
    subst hdepth
    have hobject : ∀ {o p}, Alike (.object o) (.object p) →
        o.write (write registry) value = p.write (write registry) value := by
      intro o p hobjects
      exact ObjectOf.write_eq_of_schema_eq (Schema.object.inj (hbisimulation.schema hobjects))
        fun fields hmem content hlt =>
          ih content.depth hlt (hbisimulation.field hobjects fields hmem) content rfl
    have hschema := hbisimulation.schema halike
    rw [Shape.write_eq, Shape.write_eq]
    cases a with
    | list items =>
      cases b with
      | list others =>
        cases value with
        | list values =>
          simp only [writeStep]
          congr 1
          refine Traced.traverseFrom_congr fun index item hmem => ?_
          rw [ih item.depth (Value.depth_lt_of_mem_items hmem) (hbisimulation.item halike) item rfl]
        | _ => rfl
      | _ => cases hschema
    | object o =>
      cases b with
      | object p => exact hobject halike
      | _ => cases hschema
    | ref r =>
      cases b with
      | ref q =>
        obtain ⟨o, p, ho, hp, hobjects⟩ := hbisimulation.target halike
        have hid : r.id = q.id := (RefSchema.mk.inj (Schema.ref.inj hschema)).1
        simp only [writeStep, Reference.resolve_eq_of_target? ho, Reference.resolve_eq_of_target? hp,
          hid, bind_assoc, pure_bind, hobject hobjects]
      | _ => cases hschema
    | oneOf c =>
      cases b with
      | oneOf d =>
        obtain ⟨hkind, hchoice⟩ := Schema.oneOf.inj hschema
        cases value with
        | oneOf key content =>
          simp only [writeStep, OneOf.keys_eq_of_schema_eq hkind hchoice]
          rcases OneOf.target?_of_schema_eq hkind hchoice key with ⟨hc, hd⟩ | ⟨variants, hmem, hc, hd⟩
          · rw [hc, hd]
          · rw [hc, hd]
            have hless : content.depth < (Value.oneOf key content).depth := by
              rw [Value.depth]
              omega
            have hcontent := ih content.depth hless (hbisimulation.variant halike variants hmem) content rfl
            simp only [hcontent, OneOf.tag_eq_of_schema_eq hkind hchoice]
        | _ => rfl
      | _ => cases hschema
    | scope s =>
      cases b with
      | scope t =>
        obtain ⟨o, p, ho, hp, hobjects⟩ := hbisimulation.root halike
        simp only [writeStep, ho, hp, hobject hobjects]
      | _ => cases hschema
    | _ => cases b <;> first | rfl | cases hschema

/-- Related shapes read alike: they have as many defaults, so the same budget is enough for both. -/
theorem read_eq (hbisimulation : Bisimulation registry Alike) (halike : Alike a b) (document : Json) :
    read registry a document = read registry b document := by
  have hbudget : budget registry a = budget registry b := by
    rw [budget, budget, length_defaults_eq (hbisimulation.schema halike)]
  rw [read, read, hbudget, hbisimulation.readNested_eq halike]

end Bisimulation

end Shape

end Shapes
