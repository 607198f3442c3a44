import Shapes.Schema.Basic

/-!
Equality of schemas. Fields, objects and variants are compared without regard to their order.
-/

namespace Shapes

def sameDefault : Option Json → Option Json → Bool
  | none, none => true
  | some a, some b => a.same b
  | _, _ => false

namespace OneOfSchema

def same (a b : OneOfSchema) : Bool :=
  a.field == b.field && a.types.length == b.types.length &&
    a.types.all fun target => b.types.get? target.1 == some target.2

end OneOfSchema

namespace Schema

/-- Whether what two fields have beside their shapes is equal. -/
def sameOptions (a b : Property Schema) : Bool :=
  a.required == b.required && sameDefault a.default b.default && a.requiredIf == b.requiredIf &&
    a.requiredIfNot == b.requiredIfNot && a.conflicts == b.conflicts && a.label == b.label

mutual

def same : Schema → Schema → Bool
  | .any, .any => true
  | .bool, .bool => true
  | .integer, .integer => true
  | .float, .float => true
  | .string, .string => true
  | .list a, .list b => a.same b
  | .object a, .object b => sameObject a b
  | .ref a, .ref b => a == b
  | .oneOf k a, .oneOf l b => k == l && a.same b
  | .scope a, .scope b => sameScope a b
  | _, _ => false
termination_by structural schema => schema

def sameObject : ObjectOf Schema → ObjectSchema → Bool
  | ⟨id, properties, allowUnknown⟩, other =>
    id == other.id && allowUnknown == other.allowUnknown &&
      properties.length == other.properties.length && sameProperties properties other
termination_by structural object => object

/-- Whether every field is declared in the same way in another object. -/
def sameProperties : List (String × Property Schema) → ObjectSchema → Bool
  | [], _ => true
  | (name, property) :: rest, other =>
    (match other.property? name with
      | some found => sameProperty property found
      | none => false) && sameProperties rest other
termination_by structural properties => properties

def sameProperty : Property Schema → Property Schema → Bool
  | ⟨schema, required, default, requiredIf, requiredIfNot, conflicts, label⟩, other =>
    schema.same other.shape &&
      sameOptions ⟨schema, required, default, requiredIf, requiredIfNot, conflicts, label⟩ other
termination_by structural property => property

def sameScope : ScopeSchemaOf Schema → ScopeSchema → Bool
  | ⟨objects, root⟩, other =>
    root == other.root && objects.length == other.objects.length && sameObjects objects other.objects
termination_by structural scope => scope

def sameObjects : List (String × ObjectOf Schema) → Fields ObjectSchema → Bool
  | [], _ => true
  | (key, o) :: rest, others =>
    (match others.get? key with
      | some found => sameObject o found
      | none => false) && sameObjects rest others
termination_by structural objects => objects

end

end Schema

end Shapes
