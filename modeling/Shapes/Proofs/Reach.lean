import Shapes.Registry
import Shapes.Proofs.Outcome

/-!
What a shape leads to: through lists, fields, references, choices and nested scopes to the shapes of
all parts that its documents may have. References may lead back, so this is not a walk over the shape.
-/

namespace Shapes

namespace Reference

variable {registry : Registry} {r : Reference}

/-- The object a reference stands for among the live scopes. -/
def target? (registry : Registry) (r : Reference) : Option ObjectShape :=
  (r.scope? registry).bind (·.object? r.id)

theorem resolve_eq_ok_iff {o : ObjectShape} :
    (r.resolve registry).result = .ok o ↔ r.target? registry = some o := by
  unfold resolve target?
  cases r.scope? registry with
  | none => simp
  | some scope =>
    dsimp only [Option.bind_some]
    rw [Traced.result_bind]
    cases scope.object? r.id <;> simp [Except.bind]

theorem resolve_budgeted_eq_ok_iff {o : ObjectShape} :
    ((r.resolve registry).budgeted).result = .ok o ↔ r.target? registry = some o := by
  rw [Traced.budgeted, Traced.result_mapError_eq_ok, resolve_eq_ok_iff]

theorem resolve_eq_error {error : DataError} (herror : (r.resolve registry).result = .error error) :
    r.target? registry = none ∧ error = .unknownType r.id := by
  unfold resolve at herror
  unfold target?
  cases hscope : r.scope? registry with
  | none =>
    rw [hscope] at herror
    cases herror
    exact ⟨rfl, rfl⟩
  | some scope =>
    rw [hscope] at herror
    dsimp only [Option.bind_some] at herror ⊢
    cases hobject : scope.object? r.id with
    | none =>
      rw [hobject] at herror
      cases herror
      exact ⟨rfl, rfl⟩
    | some o =>
      rw [hobject] at herror
      cases herror

/-- An object is registered under its own id. -/
theorem id_of_target? {o : ObjectShape} (htarget : r.target? registry = some o) : o.id = r.id := by
  obtain ⟨scope, _, hobject⟩ := Option.bind_eq_some_iff.1 htarget
  simpa using List.find?_some hobject

end Reference

namespace Shape

/-- The object by which a shape reads and writes: itself, the target of a reference, or the root of
a scope. -/
def object? (registry : Registry) : Shape → Option ObjectShape
  | .object o => some o
  | .ref r => r.target? registry
  | .scope s => s.rootObject?
  | _ => none

/-- A shape reaches the shapes of the parts of its documents, and of their parts. -/
inductive Reaches (registry : Registry) (shape : Shape) : Shape → Prop
  | refl : Reaches registry shape shape
  | item {items : Shape} (hreaches : Reaches registry shape (.list items)) :
      Reaches registry shape items
  | variant {c : OneOf} {variant : Discriminant × Reference}
      (hreaches : Reaches registry shape (.oneOf c)) (hmem : variant ∈ c.variants) :
      Reaches registry shape (.ref variant.2)
  | field {inner : Shape} {o : ObjectShape} {field : String × Property Shape}
      (hreaches : Reaches registry shape inner) (hobject : inner.object? registry = some o)
      (hmem : field ∈ o.properties) : Reaches registry shape field.2.shape

/-- The objects among the shapes it reaches. -/
def ReachesObject (registry : Registry) (shape : Shape) (o : ObjectShape) : Prop :=
  ∃ inner, shape.Reaches registry inner ∧ inner.object? registry = some o

variable {registry : Registry} {shape inner : Shape}

theorem Reaches.object {o : ObjectShape} (hreaches : shape.Reaches registry inner)
    (hobject : inner.object? registry = some o) : shape.ReachesObject registry o :=
  ⟨inner, hreaches, hobject⟩

end Shape

namespace OneOf

variable {c : OneOf} {key : Discriminant} {r : Reference}

theorem mem_of_target? (htarget : c.target? key = some r) : (key, r) ∈ c.variants := by
  obtain ⟨before, after, heq, _⟩ := List.lookup_eq_some_iff.1 htarget
  rw [heq]
  simp

theorem kind_of_target? (htarget : c.target? key = some r) : key.kind = c.kind :=
  c.uniform _ (mem_of_target? htarget)

/-- A key of a choice is read back from the document that stands for it. -/
theorem coerce_toJson_of_target? (htarget : c.target? key = some r) :
    c.kind.coerce key.toJson = some key := by
  rw [← kind_of_target? htarget]
  exact KeyKind.coerce_toJson key

/-- An object can hold the keys of a choice, if it declares the discriminator field. -/
def Admits (c : OneOf) (o : ObjectShape) : Prop :=
  ∀ property, o.property? c.field = some property →
    property.shape.representation = c.kind.representation ∨
      property.shape.representation = .any

/-- An object keeps a key of a choice: if it declares the discriminator field as a float, the key is a
float without rounding. -/
def Keeps (c : OneOf) (key : Discriminant) (o : ObjectShape) : Prop :=
  ∀ property, o.property? c.field = some property → property.shape = .float → ∀ k, key = .int k →
    int64OfFloat? (Number.ofInt64 k).toFloat = some k

/-- Every object that a choice may select keeps its key. -/
def Exact (registry : Registry) (c : OneOf) : Prop :=
  ∀ variant ∈ c.variants, ∀ o, variant.2.target? registry = some o → c.Keeps variant.1 o

theorem Admits.keeps {o : ObjectShape} (hadmits : c.Admits o) (key : Discriminant) :
    c.Keeps key o := by
  intro property hproperty hfloat k _
  have hholds := hadmits property hproperty
  rw [hfloat] at hholds
  cases hkind : c.kind <;> simp [hkind, Shape.representation, KeyKind.representation] at hholds

end OneOf

end Shapes
