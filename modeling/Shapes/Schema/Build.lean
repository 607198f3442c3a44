import Shapes.Schema.Basic
import Shapes.Shape.Freeze

/-!
Building shapes from schemas. Scopes are frozen as they are met, so a shape built from its schema
passes every check that a shape built by hand passes.
-/

namespace Shapes

/-- Building something, which may freeze scopes. -/
abbrev Build := StateT Registry (Traced BuildError)

namespace Build

def refuse {α : Type} (error : BuildError) : Build α := fun _ =>
  Traced.fail error

/-- Goes on with a result that needs no registry. -/
def ofExcept {α : Type} (result : Except BuildError α) : Build α := fun registry =>
  Traced.ofExcept (result.map (·, registry))

/-- Freezes objects into a scope. -/
def freeze (root : String) (objects : List ObjectShape) : Build Scope := fun registry =>
  registry.freeze root objects

end Build

namespace RefSchema

/-- The unbound reference a schema describes. -/
def toReference (schema : RefSchema) : Reference :=
  { id := schema.id, label := schema.label }

end RefSchema

namespace OneOfSchema

/-- The variants under keys that are read from the names of the entries, up to the first name that
is not a key. -/
def variants (kind : KeyKind) (field : String) :
    List (String × RefSchema) →
      Except BuildError { variants : List (Discriminant × Reference) //
        ∀ variant ∈ variants, variant.1.kind = kind }
  | [] => .ok ⟨[], by simp⟩
  | (name, target) :: rest =>
    match hkey : kind.parse? name with
    | none => .error (.invalidDiscriminatorKey field name)
    | some key =>
      (variants kind field rest).map fun others =>
        ⟨(key, target.toReference) :: others.1, by
          intro variant hmem
          rcases List.mem_cons.1 hmem with rfl | hrest
          · exact KeyKind.kind_of_parse? hkey
          · exact others.2 variant hrest⟩

/-- The choice a schema describes. -/
def toOneOf (kind : KeyKind) (schema : OneOfSchema) : Except BuildError OneOf :=
  match variants kind schema.field schema.types with
  | .error error => .error error
  | .ok found => OneOf.declare schema.field kind found.1 found.2

end OneOfSchema

namespace Schema

mutual

/-- Builds the shape a schema describes. -/
def build : Schema → Build Shape
  | .any => return .any
  | .bool => return .bool
  | .integer => return .int
  | .float => return .float
  | .string => return .string
  | .list items => return .list (← items.build)
  | .object o => return .object (← buildObject o)
  | .ref r => return .ref r.toReference
  | .oneOf kind c => return .oneOf (← Build.ofExcept (c.toOneOf kind))
  | .scope s => return .scope (← buildScope s)
termination_by structural schema => schema

def buildObject : ObjectOf Schema → Build (ObjectOf Shape)
  | ⟨id, properties, allowUnknown⟩ => do
    let properties ← buildProperties properties
    Build.ofExcept (ObjectOf.declare id properties allowUnknown)
termination_by structural object => object

def buildProperties : List (String × Property Schema) → Build (List (String × Property Shape))
  | [] => return []
  | (name, property) :: rest => do
    let property ← buildProperty property
    let others ← buildProperties rest
    return (name, property) :: others
termination_by structural properties => properties

def buildProperty : Property Schema → Build (Property Shape)
  | ⟨schema, required, default, requiredIf, requiredIfNot, conflicts, label⟩ => do
    let shape ← schema.build
    return ⟨shape, required, default, requiredIf, requiredIfNot, conflicts, label⟩
termination_by structural property => property

/-- Builds and freezes a scope. -/
def buildScope : ScopeSchemaOf Schema → Build Scope
  | ⟨objects, root⟩ => do
    let objects ← buildObjects objects
    Build.freeze root objects
termination_by structural scope => scope

/-- Builds the objects of a scope in order. Each has to stand under its own id. -/
def buildObjects : List (String × ObjectOf Schema) → Build (List (ObjectOf Shape))
  | [] => return []
  | (key, o) :: rest => do
    if key = o.id then
      let object ← buildObject o
      let others ← buildObjects rest
      return object :: others
    else Build.refuse (.objectIdMismatch key o.id)
termination_by structural objects => objects

end

end Schema

end Shapes
