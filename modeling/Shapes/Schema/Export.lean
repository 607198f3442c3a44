import Shapes.Schema.Basic

/-!
The schema of a shape: the same declarations without handles.
-/

namespace Shapes

namespace Reference

def schema (reference : Reference) : RefSchema :=
  ⟨reference.id, reference.label⟩

end Reference

namespace OneOf

def schema (choice : OneOf) : OneOfSchema :=
  ⟨choice.field, choice.variants.map fun variant => (variant.1.text, variant.2.schema)⟩

end OneOf

namespace Shape

mutual

/-- The schema of a shape. -/
def schema : Shape → Schema
  | .any => .any
  | .bool => .bool
  | .int => .integer
  | .float => .float
  | .string => .string
  | .list items => .list items.schema
  | .object o => .object (objectSchema o)
  | .ref r => .ref r.schema
  | .oneOf c => .oneOf c.kind c.schema
  | .scope s => .scope (scopeSchema s)
termination_by structural shape => shape

def objectSchema : ObjectOf Shape → ObjectOf Schema
  | ⟨id, properties, allowUnknown⟩ => ⟨id, propertiesSchema properties, allowUnknown⟩
termination_by structural object => object

def propertiesSchema : List (String × Property Shape) → List (String × Property Schema)
  | [] => []
  | (name, property) :: rest => (name, propertySchema property) :: propertiesSchema rest
termination_by structural properties => properties

def propertySchema : Property Shape → Property Schema
  | ⟨shape, required, default, requiredIf, requiredIfNot, conflicts, label⟩ =>
    ⟨shape.schema, required, default, requiredIf, requiredIfNot, conflicts, label⟩
termination_by structural property => property

/-- The schema of a scope, with the objects under their ids. -/
def scopeSchema : ScopeOf Shape → ScopeSchemaOf Schema
  | ⟨_, root, objects⟩ => ⟨objectsSchema objects, root⟩
termination_by structural scope => scope

def objectsSchema : List (ObjectOf Shape) → List (String × ObjectOf Schema)
  | [] => []
  | o :: rest => (o.id, objectSchema o) :: objectsSchema rest
termination_by structural objects => objects

end

end Shape

end Shapes
