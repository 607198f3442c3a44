import Shapes.Proofs.Function.Closures
import Shapes.Proofs.Function.Course
import Shapes.Proofs.Function.Signatures

/-!
Arguments that are read convert. A function is bound only if the representations of its parameters are those of
the declared inputs. That is enough: whatever is read by a shape converts to the native types of its
representation and stands for itself there. Only values of choices have to be asked for where there is a choice,
as they share their representation with all values.
-/

namespace Shapes

/-- The native types that are built in: flat ones, values of any kind, values of choices, and lists of these. -/
inductive NativeForm where
  | bool
  | int
  | float
  | string
  | any
  | oneOf
  | list (item : NativeForm)
deriving DecidableEq

namespace NativeForm

def native : NativeForm → NativeType
  | .bool => .bool
  | .int => .int
  | .float => .float
  | .string => .string
  | .any => .any
  | .oneOf => .oneOf
  | .list item => .list item.native

/-- Where values of choices are asked for, the shape is a choice. -/
def FacesChoices : NativeForm → Shape → Prop
  | .oneOf, shape => ∃ c, shape = .oneOf c
  | .list item, .list items => item.FacesChoices items
  | _, _ => True

end NativeForm

/-- The value converts to a native one, which stands for it. -/
def NativeType.Accepts (native : NativeType) (value : Value) : Prop :=
  ∃ a, native.ofValue value = .ok a ∧ native.toValue a = value

/-- The items of a list convert if each of them does. -/
theorem NativeType.ofItems_of_accepts {native : NativeType} {values : List Value}
    (haccepts : ∀ value ∈ values, native.Accepts value) (index : Nat) :
    ∃ natives, ofItems native.ofValue index values = .ok natives ∧ natives.map native.toValue = values := by
  induction values generalizing index with
  | nil => exact ⟨[], rfl, rfl⟩
  | cons value rest ih =>
    obtain ⟨a, hvalue, hback⟩ := haccepts value (List.mem_cons_self ..)
    obtain ⟨natives, hrest, hbacks⟩ := ih (fun other hmem => haccepts other (List.mem_cons_of_mem _ hmem)) (index + 1)
    refine ⟨a :: natives, ?_, ?_⟩
    · rw [ofItems, hvalue]
      dsimp only
      rw [hrest]
      rfl
    · rw [List.map_cons, hback, hbacks]

namespace NativeForm

variable {form : NativeForm} {shape : Shape} {registry : Registry} {document : Json} {value : Value}

/-- What is read by a shape of the same representation converts. -/
theorem accepts_of_reads {budget : Nat} {tolerated : Option String}
    (hsame : shape.representation = form.native.representation) (hfaces : form.FacesChoices shape)
    (hreads : Shape.Reads registry tolerated budget shape document value) : form.native.Accepts value := by
  induction form generalizing shape document value tolerated with
  | any => exact ⟨value, rfl, rfl⟩
  | oneOf =>
    obtain ⟨c, rfl⟩ := hfaces
    cases hreads with
    | oneOf => exact ⟨⟨_, _⟩, rfl, rfl⟩
    | object hobject => cases hobject
  | list item ih =>
    cases shape with
    | list items =>
      cases hreads with
      | object hobject => cases hobject
      | @list _ _ inputs content hitems =>
        have haccepts : ∀ value ∈ inputs.map content, item.native.Accepts value := by
          intro value hmem
          obtain ⟨input, hinput, rfl⟩ := List.mem_map.1 hmem
          exact ih (Representation.list.inj hsame) hfaces (hitems input hinput)
        obtain ⟨natives, hnatives, hbacks⟩ := NativeType.ofItems_of_accepts haccepts 0
        exact ⟨natives, hnatives, congrArg Value.list hbacks⟩
    | _ => cases hsame
  | _ =>
    -- Of the flat representations each belongs to one shape.
    cases shape <;> cases hsame
    cases hreads with
    | object hobject => cases hobject
    | _ => exact ⟨_, rfl, rfl⟩

end NativeForm

namespace BoundFunction

variable {registry : Registry} {forms : List NativeForm} {form : ResultForm}
  {f : Closure (forms.map NativeForm.native) form.Result} {id : String} {inputs : List Shape} {output : Output}
  {label : Option Label} {held : List Shape} {bound : BoundFunction} {documents : List Json} {values : List Value}

/-- What all arguments are read as converts, each to the parameter in its place. -/
theorem exists_converts (hcount : documents.length = inputs.length)
    (hsame : (forms.map NativeForm.native).map NativeType.representation = inputs.map Shape.representation)
    (hfaces : List.Forall₂ NativeForm.FacesChoices forms inputs)
    (hread : List.Forall₂ (fun (given : Shape × Json) value => (given.1.read registry given.2).result = .ok value)
      (inputs.zip documents) values) :
    ∃ natives, Closure.Converts (forms.map NativeForm.native) values natives := by
  induction hfaces generalizing documents values with
  | nil =>
    obtain rfl := List.length_eq_zero_iff.1 hcount
    cases hread
    exact ⟨(), .nil⟩
  | cons hface _ ih =>
    obtain ⟨document, others, rfl⟩ := List.exists_cons_of_length_eq_add_one hcount
    rw [List.map_cons, List.map_cons, List.map_cons, List.cons.injEq] at hsame
    cases hread with
    | cons hvalue hrest =>
      obtain ⟨a, hconverts, -⟩ :=
        NativeForm.accepts_of_reads hsame.1.symm hface (Shape.readNested_eq_ok_iff.1 hvalue)
      obtain ⟨natives, hothers⟩ := ih (Nat.succ.inj hcount) hsame.2 hrest
      exact ⟨(a, natives), .cons hconverts hothers⟩

/-- The closure runs on native arguments whenever all documents read. -/
theorem invoke_of_reads
    (hbind : (bind id inputs output label (.ofClosure (forms.map NativeForm.native) form f held)).result = .ok bound)
    (hfaces : List.Forall₂ NativeForm.FacesChoices forms inputs)
    (hread : bound.ReadsArguments registry documents values) :
    ∃ arguments, Closure.Converts (forms.map NativeForm.native) values arguments ∧
      bound.handler.invoke values = .ok (form.returns (f.run arguments)) := by
  obtain ⟨hfits, rfl⟩ := bind_eq_ok_iff.1 hbind
  obtain ⟨hcount, hvalues⟩ := hread
  obtain ⟨arguments, hconverts⟩ :=
    exists_converts hcount (Signature.mismatch?_eq_none_iff.1 hfits).parameters hfaces hvalues
  refine ⟨arguments, hconverts, ?_⟩
  simp only [Handler.ofClosure, Closure.apply_of_converts hconverts, Except.map]

/-- An argument error of a call with documents is that of an argument that does not read, if the handler takes
whatever is read. -/
theorem unread_of_argument
    (hinvokes : ∀ values, bound.ReadsArguments registry documents values →
      ∃ returns, bound.handler.invoke values = .ok returns)
    {name : String} {index : Nat} {cause : DataError}
    (hcall : (bound.callJson registry documents).result = .error (.failed (.argument name index cause))) :
    name = bound.id ∧ ∃ shape document, bound.inputs[index]? = some shape ∧ documents[index]? = some document ∧
      (shape.read registry document).result = .error (.failed cause) := by
  obtain ⟨log, outcome, hcourse⟩ := bound.exists_course registry documents
  have hend := (course_iff.1 hcourse).2
  rw [hcall] at hend
  cases hcourse with
  | @unread _ _ _ stop _ hgiven hstop _ =>
    cases stop with
    | unfinished => cases hend
    | failed =>
      cases hend
      obtain ⟨hshape, hdocument⟩ := List.getElem?_zip_eq_some.1 hgiven
      exact ⟨rfl, _, _, hshape, hdocument, hstop⟩
  | failed hready hfailed =>
    cases hend
    obtain ⟨returns, hinvoke⟩ := hinvokes _ hready.1
    obtain ⟨ending, hends, -⟩ := bound.existsUnique_endsAs returns
    rw [(call_eq_outcome_iff ending).2 ⟨hready.1.length_values, returns, hinvoke, hends⟩] at hfailed
    exact absurd hfailed (outcome_ne_argument index cause)
  | _ => cases hend

/-- What is read by a shape converts to every native type of its representation, and what it converts to stands
for it, if values of choices are asked for only where the shape has choices. So when a function bound from a closure
of such types is called with documents, the closure is handed native arguments whenever all documents read, and
every argument error is that of the input and the document at its index, which do not read. -/
theorem arguments_convert (registry : Registry) :
    (∀ (native : NativeForm) (shape : Shape), shape.representation = native.native.representation →
      native.FacesChoices shape → ∀ document value, (shape.read registry document).result = .ok value →
        ∃ a, native.native.ofValue value = .ok a ∧ native.native.toValue a = value) ∧
    ∀ (natives : List NativeForm) (form : ResultForm) (f : Closure (natives.map NativeForm.native) form.Result)
      (held : List Shape) (id : String) (inputs : List Shape) (output : Output) (label : Option Label)
      (bound : BoundFunction),
      (bind id inputs output label (.ofClosure (natives.map NativeForm.native) form f held)).result = .ok bound →
      List.Forall₂ NativeForm.FacesChoices natives inputs → ∀ documents,
        (∀ values, bound.ReadsArguments registry documents values →
          ∃ arguments, Closure.Converts (natives.map NativeForm.native) values arguments ∧
            bound.handler.invoke values = .ok (form.returns (f.run arguments))) ∧
        ∀ name index cause,
          (bound.callJson registry documents).result = .error (.failed (.argument name index cause)) →
          name = id ∧ ∃ shape document, inputs[index]? = some shape ∧ documents[index]? = some document ∧
            (shape.read registry document).result = .error (.failed cause) := by
  refine ⟨fun native shape hsame hfaces document value hread => ?_, ?_⟩
  · exact NativeForm.accepts_of_reads hsame hfaces (Shape.readNested_eq_ok_iff.1 hread)
  intro natives form f held id inputs output label bound hbind hfaces documents
  refine ⟨fun values => invoke_of_reads hbind hfaces, fun name index cause hcall => ?_⟩
  have hunread := unread_of_argument (fun values hread => ?_) hcall
  · obtain ⟨rfl, -, -⟩ := bind_ofClosure_eq_ok hbind
    exact hunread
  · obtain ⟨arguments, -, hinvoke⟩ := invoke_of_reads hbind hfaces hread
    exact ⟨_, hinvoke⟩

end BoundFunction

namespace Jewels

open Shape

/-- Jewels by their kind. -/
def jewels : OneOf where
  field := "kind"
  kind := .string
  variants := [(.string "ruby", { id := "Ruby", scope := some 0 })]
  uniform := by simp [Discriminant.kind]
  distinct := by decide

def ruby : ObjectShape where
  id := "Ruby"
  properties := [("carats", { shape := .int })]

def registry : Registry := ⟨1, [⟨0, "Ruby", [ruby]⟩]⟩

def parameters : List NativeForm := [.list (.list .int), .list .oneOf]

def inputs : List Shape := [.list (.list .int), .list (.oneOf jewels)]

/-- All prices, if there is anything to sell. -/
def appraise : Closure (parameters.map NativeForm.native) (ResultForm.value (.list .int)).Result :=
  fun (prices : List (List Int64)) (offered : List OneOfValue) => if offered.isEmpty then [] else prices.flatten

def bound : BoundFunction :=
  ⟨"appraise", inputs, .fixed (.list .int), none, .ofClosure _ (.value (.list .int)) appraise⟩

def prices : Json := .array [.array [.ofInt64 3], .array []]

def offered (carats : Json) : Json := .array [.object [("kind", .string "ruby"), ("carats", carats)]]

/-- A ruby that reads converts and comes back; one that does not read is the cause of the only argument error. -/
theorem arguments_convert_jewels :
    (BoundFunction.bind "appraise" inputs (.fixed (.list .int)) none
      (.ofClosure _ (.value (.list .int)) appraise)).result = .ok bound ∧
    List.Forall₂ NativeForm.FacesChoices parameters inputs ∧
    (∃ a, (NativeForm.list .oneOf).native.ofValue
        (.list [.oneOf (.string "ruby") (.object "Ruby" [("carats", .int 2)])]) = .ok a ∧
      (NativeForm.list .oneOf).native.toValue a =
        .list [.oneOf (.string "ruby") (.object "Ruby" [("carats", .int 2)])]) ∧
    (bound.callJson registry [prices, offered (.ofInt64 2)]).result = .ok (some (.array [.ofInt64 3])) ∧
    (bound.callJson registry [prices, offered .null]).result = .ok (some (.array [.ofInt64 3])) ∧
    ∃ shape document, inputs[1]? = some shape ∧ [prices, offered (.bool true)][1]? = some document ∧
      (shape.read registry document).result =
        .error (.failed (.inField "0" (.inField "carats" (.invalidInput "integer" "boolean")))) := by
  have hbind : (BoundFunction.bind "appraise" inputs (.fixed (.list .int)) none
      (.ofClosure _ (.value (.list .int)) appraise)).result = .ok bound := rfl
  have hfaces : List.Forall₂ NativeForm.FacesChoices parameters inputs := .cons trivial (.cons ⟨jewels, rfl⟩ .nil)
  have hread : (Shape.read registry (.list (.oneOf jewels)) (offered (.ofInt64 2))).result =
      .ok (.list [.oneOf (.string "ruby") (.object "Ruby" [("carats", .int 2)])]) := rfl
  obtain ⟨hconvert, hcalls⟩ := BoundFunction.arguments_convert registry
  have hunread : (bound.callJson registry [prices, offered (.bool true)]).result = .error (.failed
      (.argument "appraise" 1 (.inField "0" (.inField "carats" (.invalidInput "integer" "boolean"))))) := rfl
  refine ⟨hbind, hfaces, hconvert (.list .oneOf) (.list (.oneOf jewels)) rfl ⟨jewels, rfl⟩ _ _ hread, rfl, rfl, ?_⟩
  exact ((hcalls parameters _ appraise _ _ inputs _ _ _ hbind hfaces _).2 _ _ _ hunread).2

end Jewels

end Shapes
