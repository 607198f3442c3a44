import Shapes.Shape.Basic

/-!
Schemas: the form in which shapes travel. A schema holds the same declarations as a shape, but
scopes are not frozen, references are not bound, and the keys of a one-of are names of entries.
-/

namespace Shapes

/-- A reference to an object of the enclosing scope. -/
structure RefSchema where
  id : String
  label : Option Label := none
deriving DecidableEq

/-- A choice among objects, with keys in the form of entry names. -/
structure OneOfSchema where
  field : String
  types : Fields RefSchema
deriving DecidableEq

/-- Objects under their keys, with a designated root. -/
structure ScopeSchemaOf (σ : Type) where
  objects : List (String × ObjectOf σ)
  root : String

/-- The form in which a shape travels. -/
inductive Schema where
  | any
  | bool
  | integer
  | float
  | string
  | list (items : Schema)
  | object (o : ObjectOf Schema)
  | ref (r : RefSchema)
  | oneOf (kind : KeyKind) (c : OneOfSchema)
  | scope (s : ScopeSchemaOf Schema)

/-- An object whose fields are schemas. -/
abbrev ObjectSchema := ObjectOf Schema

/-- The form in which a scope travels. -/
abbrev ScopeSchema := ScopeSchemaOf Schema

namespace Schema

/-- The tag of a schema. -/
def kindName : Schema → String
  | .any => "any"
  | .bool => "bool"
  | .integer => "integer"
  | .float => "float"
  | .string => "string"
  | .list _ => "list"
  | .object _ => "object"
  | .ref _ => "ref"
  | .oneOf .int _ => "one_of_int"
  | .oneOf .string _ => "one_of_string"
  | .scope _ => "scope"

/-- The tags, in the order in which the kinds of schema are numbered from 0. -/
def kindNames : List String :=
  ["any", "bool", "integer", "float", "string", "list", "object", "ref", "one_of_int",
    "one_of_string", "scope"]

end Schema

end Shapes
