import Shapes.Function.Declaration
import Shapes.Proofs.Schema.Defaults
import Shapes.Proofs.Scope.Ownership

/-!
Declarations travel. What is published of a function is read back from its document and built anew in any
registry, with the same schemas but for the defaults that are `null`. A signature is held against
representations only, and these are part of a schema, so the handler of the function can be bound again to
what was built.
-/

namespace Shapes

theorem Schema.toJson_ne_null (schema : Schema) : schema.toJson ≠ .null := by
  cases schema with
  | oneOf kind c => cases kind <;> nofun
  | _ => nofun

/-- The form in which a declaration travels. -/
def Declaration.schema (d : Declaration) : DeclarationSchema :=
  ⟨d.id, d.inputs.map Shape.schema, d.output.map Shape.schema, d.label, false⟩

namespace DeclarationSchema

variable {schema : DeclarationSchema}

/-- The document of a declaration. -/
def toJson (schema : DeclarationSchema) : Json :=
  .object ([("id", .string schema.id), ("inputs", .array (schema.inputs.map Schema.toJson)),
    ("output", (schema.output.map Schema.toJson).getD .null)] ++ Label.entry schema.label)

/-- The declaration without the defaults that are `null`. -/
def withoutNulls (schema : DeclarationSchema) : DeclarationSchema :=
  { schema with
    inputs := schema.inputs.map Schema.withoutNulls
    output := schema.output.map Schema.withoutNulls }

/-- Some default in the declared schemas is `null`. -/
def HasNullDefault (schema : DeclarationSchema) : Prop :=
  ∃ part ∈ schema.inputs ++ schema.output.toList, part.HasNullDefault

theorem withoutNulls_eq_self (hnull : ¬ schema.HasNullDefault) : schema.withoutNulls = schema := by
  obtain ⟨id, inputs, output, label, outputFirst⟩ := schema
  have hsame : ∀ part ∈ inputs ++ output.toList, part.withoutNulls = part := fun part hmem =>
    Schema.withoutNulls_eq_self_iff.2 fun hpart => hnull ⟨part, hmem, hpart⟩
  have hinputs : inputs.map Schema.withoutNulls = inputs :=
    (List.map_congr_left fun part hmem => hsame part (List.mem_append_left _ hmem)).trans (List.map_id _)
  have houtput : output.map Schema.withoutNulls = output := by
    cases output with
    | none => rfl
    | some part =>
      rw [Option.map_some, hsame part (List.mem_append_right _ (List.mem_singleton_self part))]
  rw [withoutNulls, hinputs, houtput]

/-- An output is told from a missing one, as the document of a schema is not `null`. -/
private theorem nullable_output_eq {entries : Fields Json} {output : Option Schema}
    (hget : entries.get? "output" = some ((output.map Schema.toJson).getD .null)) :
    Json.nullable entries "output" Schema.ofJson? = some (output.map Schema.withoutNulls) := by
  rw [Json.nullable, hget]
  cases output with
  | none => rfl
  | some part =>
    rw [Option.map_some, Option.map_some, Option.getD_some]
    split
    · rename_i hnone
      cases hnone
    · rename_i hnull
      exact absurd (Option.some.inj hnull) part.toJson_ne_null
    · rename_i content _ hcontent
      obtain rfl := Option.some.inj hcontent
      rw [Schema.ofJson?_toJson]
      rfl

/-- A declaration is read back from its document, without the defaults that are `null`. -/
theorem ofJson?_toJson (hfirst : schema.outputFirst = false) :
    ofJson? schema.toJson = some schema.withoutNulls := by
  obtain ⟨id, inputs, output, label, outputFirst⟩ := schema
  obtain rfl : outputFirst = false := hfirst
  let entries : Fields Json := [("id", .string id), ("inputs", .array (inputs.map Schema.toJson)),
    ("output", (output.map Schema.toJson).getD .null)] ++ Label.entry label
  have hid : entries.get? "id" = some (.string id) := rfl
  have hitems : entries.get? "inputs" = some (.array (inputs.map Schema.toJson)) := rfl
  have hinputs : (inputs.map Schema.toJson).mapM Schema.ofJson? =
      some (inputs.map Schema.withoutNulls) :=
    mapM_map_eq_some fun part _ => part.ofJson?_toJson
  have houtput : Json.nullable entries "output" Schema.ofJson? = some (output.map Schema.withoutNulls) :=
    nullable_output_eq rfl
  have hlabel : Json.nullable entries "display" Label.ofJson? = some label :=
    Label.nullable_eq (Label.get?_entry label "display")
  have hleads : leadsWithOutput entries = false := rfl
  show (do
    let id ← (← entries.get? "id").asString?
    let inputs ← (← (← entries.get? "inputs").asItems?).mapM Schema.ofJson?
    let output ← Json.nullable entries "output" Schema.ofJson?
    let label ← Json.nullable entries "display" Label.ofJson?
    return (⟨id, inputs, output, label, leadsWithOutput entries⟩ : DeclarationSchema)) = _
  simp only [hid, hitems, Json.asString?, Json.asItems?, hinputs, houtput, hlabel, hleads,
    Option.bind_eq_bind, Option.bind_some]
  rfl

/-- The schemas of a declaration build shapes of these schemas, whatever scopes are alive, and the inputs
come out in their order. -/
theorem rebuilt_inputs {schemas : List Schema} (hrebuilt : ∀ part ∈ schemas, part.Rebuilt)
    (registry : Registry) : ∃ copies later, (buildInputs schemas registry).result = .ok (copies, later) ∧
      copies.map Shape.schema = schemas := by
  induction schemas generalizing registry with
  | nil => exact ⟨[], registry, rfl, rfl⟩
  | cons part rest ih =>
    obtain ⟨hpart, hrest⟩ := List.forall_mem_cons.1 hrebuilt
    obtain ⟨copy, between, hcopy, hschema⟩ := hpart registry
    obtain ⟨copies, later, hcopies, hschemas⟩ := ih hrest between
    refine ⟨copy :: copies, later, ?_, by rw [List.map_cons, hschema, hschemas]⟩
    simp only [buildInputs, Build.bind_eq_ok_iff, Build.pure_eq_ok_iff]
    exact ⟨copy, between, hcopy, copies, later, hcopies, rfl, rfl⟩

theorem rebuilt_output {output : Option Schema} (hrebuilt : ∀ part ∈ output, part.Rebuilt)
    (registry : Registry) : ∃ copy later, (buildOutput output registry).result = .ok (copy, later) ∧
      copy.map Shape.schema = output := by
  cases output with
  | none => exact ⟨none, registry, rfl, rfl⟩
  | some part =>
    obtain ⟨copy, later, hcopy, hschema⟩ := hrebuilt part rfl registry
    refine ⟨some copy, later, ?_, by rw [Option.map_some, hschema]⟩
    simp only [buildOutput, Build.bind_eq_ok_iff, Build.pure_eq_ok_iff]
    exact ⟨copy, later, hcopy, rfl, rfl⟩

/-- A declaration is built with the schemas it travels with if each of these builds a shape of its own. -/
theorem rebuilt (hrebuilt : ∀ part ∈ schema.inputs ++ schema.output.toList, part.Rebuilt)
    (registry : Registry) :
    ∃ copy later, (schema.build registry).result = .ok (copy, later) ∧
      copy.schema = { schema with outputFirst := false } := by
  obtain ⟨id, inputs, output, label, outputFirst⟩ := schema
  have hinputs : ∀ part ∈ inputs, part.Rebuilt := fun part hmem =>
    hrebuilt part (List.mem_append_left _ hmem)
  have houtput : ∀ part ∈ output, part.Rebuilt := fun part hmem =>
    hrebuilt part (List.mem_append_right _ (Option.mem_toList.2 hmem))
  -- The scopes frozen for the part that stands first are alive when the other part is built.
  cases outputFirst with
  | true =>
    obtain ⟨result, between, hresult, hreturned⟩ := rebuilt_output houtput registry
    obtain ⟨copies, later, hcopies, hgiven⟩ := rebuilt_inputs hinputs between
    refine ⟨⟨id, copies, result, label⟩, later, ?_, by rw [Declaration.schema, hgiven, hreturned]⟩
    simp only [build, if_true, Build.bind_eq_ok_iff, Build.pure_eq_ok_iff]
    exact ⟨result, between, hresult, copies, later, hcopies, rfl, rfl⟩
  | false =>
    obtain ⟨copies, between, hcopies, hgiven⟩ := rebuilt_inputs hinputs registry
    obtain ⟨result, later, hresult, hreturned⟩ := rebuilt_output houtput between
    refine ⟨⟨id, copies, result, label⟩, later, ?_, by rw [Declaration.schema, hgiven, hreturned]⟩
    simp only [build, Bool.false_eq_true, if_false, Build.bind_eq_ok_iff, Build.pure_eq_ok_iff]
    exact ⟨copies, between, hcopies, result, later, hresult, rfl, rfl⟩

end DeclarationSchema

namespace Declaration

variable {d copy : Declaration}

theorem toJson_schema (d : Declaration) : d.schema.toJson = d.toJson := by
  rw [DeclarationSchema.toJson, toJson, schema, List.map_map, Option.map_map]
  rfl

/-- The output of a function that is declared so. -/
def toOutput (d : Declaration) : Output :=
  match d.output with
  | none => .nothing
  | some shape => .fixed shape

theorem shapes_eq (d : Declaration) : d.shapes = d.inputs ++ d.toOutput.shapes := by
  rw [shapes, toOutput]
  cases d.output <;> rfl

/-- Binds a handler to a declaration. -/
def bind (d : Declaration) (handler : Handler) : Traced BuildError BoundFunction :=
  BoundFunction.bind d.id d.inputs d.toOutput d.label handler

/-- A declaration is built back from what its document is read as. -/
theorem rebuilt_withoutNulls {home : Registry} (hsound : home.Sound)
    (husable : ∀ shape ∈ d.shapes, shape.Usable home) (registry : Registry) :
    ∃ copy later, (d.schema.withoutNulls.build registry).result = .ok (copy, later) ∧
      copy.schema = d.schema.withoutNulls := by
  refine DeclarationSchema.rebuilt (fun part hmem => ?_) registry
  obtain ⟨shape, hshape, rfl⟩ : ∃ shape ∈ d.shapes, shape.schema.withoutNulls = part := by
    simpa [schema, DeclarationSchema.withoutNulls, shapes, or_and_right, exists_or] using hmem
  exact (husable shape hshape).rebuilt_withoutNulls hsound

/-- Two declarations promise the same: they name the same function, with as many inputs and with an output
or without one, and everything that goes in and out has the same representation. -/
structure Agrees (copy d : Declaration) : Prop where
  id : copy.id = d.id
  label : copy.label = d.label
  inputs : copy.inputs.map Shape.representation = d.inputs.map Shape.representation
  output : copy.output.map Shape.representation = d.output.map Shape.representation

theorem Agrees.length_inputs (hagrees : copy.Agrees d) : copy.inputs.length = d.inputs.length := by
  simpa using congrArg List.length hagrees.inputs

theorem Agrees.output_eq_none_iff (hagrees : copy.Agrees d) : copy.output = none ↔ d.toOutput = .nothing := by
  have hpresent : copy.output.map Shape.representation = none ↔
      d.output.map Shape.representation = none := by
    rw [hagrees.output]
  rw [Option.map_eq_none_iff, Option.map_eq_none_iff] at hpresent
  rw [hpresent, toOutput]
  cases d.output <;> simp

/-- Defaults have no part in representations. -/
theorem agrees_of_schema_eq (hschema : copy.schema = d.schema.withoutNulls) : copy.Agrees d := by
  have hforget : ∀ schema : Schema, schema.withoutNulls.representation = schema.representation :=
    Schema.representation_rewrite Schema.forgettingNulls
  obtain ⟨hid, hinputs, houtput, hlabel, -⟩ := DeclarationSchema.mk.inj hschema
  refine ⟨hid, hlabel, ?_, ?_⟩
  · have hparts := congrArg (List.map Schema.representation) hinputs
    simpa only [schema, List.map_map, Function.comp_def, hforget, Shape.representation_schema] using hparts
  · have hpart := congrArg (Option.map Schema.representation) houtput
    simpa only [schema, Option.map_map, Function.comp_def, hforget, Shape.representation_schema] using hpart

end Declaration

/-- Parameters are held against representations only. -/
theorem Signature.parameterMismatch?_eq {copies inputs : List Shape}
    (hsame : copies.map Shape.representation = inputs.map Shape.representation)
    (index : Nat) (handlers : List Representation) :
    parameterMismatch? index copies handlers = parameterMismatch? index inputs handlers := by
  induction inputs generalizing copies index handlers with
  | nil =>
    obtain rfl := List.map_eq_nil_iff.1 hsame
    rfl
  | cons input rest ih =>
    obtain ⟨copy, others, rfl, hcopy, hothers⟩ := List.map_eq_cons_iff.1 hsame
    cases handlers with
    | nil => rfl
    | cons handler handlers =>
      rw [parameterMismatch?, parameterMismatch?, hcopy, ih hothers]

/-- A returned value is held against a representation only. -/
theorem Output.mismatch?_fixed_eq {a b : Shape} (hsame : a.representation = b.representation)
    (slots : List Slot) : mismatch? (.fixed a) slots = mismatch? (.fixed b) slots := by
  have hreturned : mismatch?.ofRepresentation a = mismatch?.ofRepresentation b := by
    funext handler
    rw [mismatch?.ofRepresentation, mismatch?.ofRepresentation, hsame]
  match slots with
  | [] => rfl
  | [.error] => rfl
  | [.value handler] => exact congrFun hreturned handler
  | [.error, _] => rfl
  | [.value handler, .error] => exact congrFun hreturned handler
  | [.value _, .value _] => rfl
  | .error :: _ :: _ :: _ => rfl
  | .value _ :: .error :: _ :: _ => rfl
  | .value _ :: .value _ :: _ :: _ => rfl

/-- Handlers are held against representations only, so they fit declarations that promise the same. -/
theorem Declaration.Agrees.mismatch?_eq {copy d : Declaration} (hagrees : copy.Agrees d)
    (signature : Signature) :
    signature.mismatch? copy.inputs copy.toOutput = signature.mismatch? d.inputs d.toOutput := by
  have houtput : copy.toOutput.mismatch? signature.outputs = d.toOutput.mismatch? signature.outputs := by
    have hpromised := hagrees.output
    unfold Declaration.toOutput
    cases hcopy : copy.output with
    | none =>
      rw [hcopy] at hpromised
      rw [Option.map_eq_none_iff.1 hpromised.symm]
    | some given =>
      rw [hcopy] at hpromised
      obtain ⟨shape, hshape, hsame⟩ := Option.map_eq_some_iff.1 hpromised.symm
      rw [hshape]
      exact Output.mismatch?_fixed_eq hsame.symm signature.outputs
  unfold Signature.mismatch?
  rw [hagrees.length_inputs, Signature.parameterMismatch?_eq hagrees.inputs, houtput]

namespace BoundFunction

variable {f : BoundFunction} {d : Declaration}

/-- Everything of a function is published but its handler. -/
theorem declaration_eq_ok_iff : f.declaration = .ok d ↔
    f = ⟨d.id, d.inputs, d.toOutput, d.label, f.handler⟩ := by
  obtain ⟨id, inputs, output, label, handler⟩ := f
  obtain ⟨did, dinputs, doutput, dlabel⟩ := d
  unfold declaration Declaration.toOutput
  cases output <;> cases doutput <;> simp

theorem exists_declaration (hstatic : f.output.isDynamic = false) : ∃ d, f.declaration = .ok d := by
  obtain ⟨id, inputs, output, label, handler⟩ := f
  cases output with
  | nothing => exact ⟨_, rfl⟩
  | fixed shape => exact ⟨_, rfl⟩
  | dynamic resolver => cases hstatic

/-- What is published of a function is enough to rebuild it. A function whose output is not dynamic is
published. The document of what is published is read, and whatever scopes are alive, a declaration is built
from it that promises the same, so that the handler of the function can be bound to it. The document of this
declaration is the one before, without the defaults that are `null`; it is the very same if there are none. -/
theorem rebuilt_from_declaration {home : Registry} {id : String} {inputs : List Shape} {output : Output}
    {label : Option Label} {handler : Handler} (hreachable : home.Reachable)
    (hbind : (bind id inputs output label handler).result = .ok f)
    (hstatic : f.output.isDynamic = false)
    (husable : ∀ shape ∈ f.inputs ++ f.output.shapes, shape.Usable home) :
    ∃ d, f.declaration = .ok d ∧
      ∃ schema, DeclarationSchema.ofJson? d.toJson = some schema ∧
        ∀ now, ∃ copy later, (schema.build now).result = .ok (copy, later) ∧
          copy.Agrees d ∧
          copy.inputs.length = f.inputs.length ∧
          (copy.output = none ↔ f.output = .nothing) ∧
          (copy.bind f.handler).result =
            .ok ⟨copy.id, copy.inputs, copy.toOutput, copy.label, f.handler⟩ ∧
          copy.toJson = d.schema.withoutNulls.toJson ∧
          (¬ d.schema.HasNullDefault → copy.toJson = d.toJson) := by
  obtain ⟨d, hd⟩ := exists_declaration hstatic
  obtain ⟨hfits, rfl⟩ := bind_eq_ok_iff.1 hbind
  obtain ⟨rfl, rfl, rfl, rfl, -⟩ := BoundFunction.mk.inj (declaration_eq_ok_iff.1 hd)
  have husable : ∀ shape ∈ d.shapes, shape.Usable home := by
    rwa [d.shapes_eq]
  refine ⟨d, hd, d.schema.withoutNulls, ?_, fun now => ?_⟩
  · rw [← d.toJson_schema]
    exact DeclarationSchema.ofJson?_toJson rfl
  obtain ⟨copy, later, hcopy, hsame⟩ := d.rebuilt_withoutNulls hreachable.sound husable now
  have hagrees := Declaration.agrees_of_schema_eq hsame
  have hdocument : copy.toJson = d.schema.withoutNulls.toJson := by
    rw [← copy.toJson_schema, hsame]
  refine ⟨copy, later, hcopy, hagrees, hagrees.length_inputs, hagrees.output_eq_none_iff, ?_, hdocument,
    fun hnull => ?_⟩
  · exact bind_eq_ok_iff.2 ⟨(hagrees.mismatch?_eq handler.signature).trans hfits, rfl⟩
  · rw [hdocument, DeclarationSchema.withoutNulls_eq_self hnull, d.toJson_schema]

end BoundFunction

namespace Trips

open Shape

/-- A leg of a trip leads to another one. That nothing is noted is a default. -/
def leg : ObjectShape where
  id := "Leg"
  properties := [
    ("by", { shape := .string, required := true }),
    ("then", {
      shape := .oneOf {
        field := "by"
        kind := .string
        variants := [(.string "train", { id := "Leg" }), (.string "ferry", { id := "Leg" })]
        uniform := by decide
        distinct := by decide } }),
    ("note", { shape := .any, default := some .null })]

def legs : Scope := ⟨0, "Leg", [bindObject 0 leg]⟩

def registry : Registry := ⟨1, [legs]⟩

/-- A request holds a scope, and a reference that was never bound. -/
def request : ObjectShape where
  id := "Request"
  properties := [
    ("first", { shape := .scope legs, required := true }),
    ("days", { shape := .list .int, default := some (.array []) }),
    ("alternative", {
      shape := .ref { id := "Request", label := some ⟨some "Alternative", none, none⟩ }
      conflicts := ["days"] })]

def handler : Handler where
  signature := ⟨[.object "Request", .float], [.value (.list .any), .error]⟩
  invoke _ := .ok [.value (.list []), .error none]

/-- Plans a trip within a budget. -/
def planner : BoundFunction :=
  ⟨"plan", [.object request, .float], .fixed (.list .any), some ⟨some "Plan", none, none⟩, handler⟩

def declared : Declaration :=
  ⟨"plan", [.object request, .float], some (.list .any), some ⟨some "Plan", none, none⟩⟩

theorem rebuilt_from_declaration_planner :
    planner.declaration = .ok declared ∧
      DeclarationSchema.ofJson? declared.toJson = some declared.schema.withoutNulls ∧
      declared.schema.HasNullDefault ∧
      ∀ now, ∃ copy later, (declared.schema.withoutNulls.build now).result = .ok (copy, later) ∧
        copy.Agrees declared ∧
        (copy.bind handler).result = .ok ⟨copy.id, copy.inputs, copy.toOutput, copy.label, handler⟩ ∧
        copy.toJson = declared.schema.withoutNulls.toJson := by
  have hleg : ∀ o ∈ [leg], (Shape.object o).Usable {} := by
    simp [usable_object_iff, ObjectOf.Distinct, Fields.Distinct, Fields.names, leg, objectNodes,
      propertiesNodes, propertyNodes, nodes]
  have hlegs : (Registry.freeze {} "Leg" [leg]).result = .ok (legs, registry) := rfl
  have hreachable : registry.Reachable := .single (.freeze hleg hlegs)
  have husable : ∀ shape ∈ planner.inputs ++ planner.output.shapes, shape.Usable registry := by
    have hrequest : (Shape.object request).Usable registry := by
      simp [usable_object_iff, ObjectOf.Distinct, Fields.Distinct, Fields.names, request, registry,
        objectNodes, propertiesNodes, propertyNodes, nodes]
    have hbudget : Shape.float.Usable registry :=
      usable_of_nodes_eq rfl (fun _ hobject => by cases hobject) (fun _ hscope => by cases hscope)
    have hoffers : (Shape.list .any).Usable registry :=
      usable_list_iff.2
        (usable_of_nodes_eq rfl (fun _ hobject => by cases hobject) (fun _ hscope => by cases hscope))
    simp [planner, Output.shapes, hrequest, hbudget, hoffers]
  have hbind : (BoundFunction.bind planner.id planner.inputs planner.output planner.label handler).result =
      .ok planner := rfl
  obtain ⟨d, hd, schema, hschema, hrebuilt⟩ :=
    BoundFunction.rebuilt_from_declaration hreachable hbind rfl husable
  obtain rfl : declared = d := Except.ok.inj hd
  have hread : DeclarationSchema.ofJson? declared.toJson = some declared.schema.withoutNulls := by
    rw [← declared.toJson_schema]
    exact DeclarationSchema.ofJson?_toJson rfl
  obtain rfl : declared.schema.withoutNulls = schema := Option.some.inj (hread.symm.trans hschema)
  refine ⟨hd, hschema, ?_, fun now => ?_⟩
  · refine ⟨.object (objectSchema request), List.mem_cons_self .., objectSchema (bindObject 0 leg),
      .field (List.mem_cons_self ..) (.member (List.mem_cons_self ..) .self), ?_⟩
    exact ⟨_, List.mem_cons_of_mem _ (List.mem_cons_of_mem _ (List.mem_cons_self ..)), rfl⟩
  · obtain ⟨copy, later, hcopy, hagrees, -, -, hbound, hdocument, -⟩ := hrebuilt now
    exact ⟨copy, later, hcopy, hagrees, hbound, hdocument⟩

end Trips

end Shapes
