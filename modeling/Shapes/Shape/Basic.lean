import Shapes.Value.Basic

/-!
Shapes: descriptions of data. Objects are named sets of fields; a scope groups objects so that
they can refer to each other by id, and a one-of selects one of them by a discriminator field.

A scope that has been frozen is known by a handle. A reference holds the handle of the scope it is
bound to and nothing of its content, so definitions may be cyclic.
-/

namespace Shapes

/-- The name of a frozen scope. -/
abbrev Handle := Nat

/-- How a thing is presented to people. -/
structure Label where
  name : Option String
  description : Option String
  icon : Option String
deriving DecidableEq

/-- One field of an object: the shape of its content, when it has to be present, which fields it
excludes, and what stands in for it when it is absent. -/
structure Property (σ : Type) where
  shape : σ
  required : Bool := false
  /-- The document read in place of an absent field. -/
  default : Option Json := none
  /-- The field is required when one of these is present. -/
  requiredIf : List String := []
  /-- The field is required when there are some of these and none is present. -/
  requiredIfNot : List String := []
  /-- Fields that may not be present together with this one. -/
  conflicts : List String := []
  label : Option Label := none

/-- A named set of fields, in declaration order. -/
structure ObjectOf (σ : Type) where
  id : String
  properties : List (String × Property σ)
  /-- Whether fields that are not declared are ignored rather than refused. -/
  allowUnknown : Bool := false

/-- A frozen group of objects with a designated root. -/
structure ScopeOf (σ : Type) where
  handle : Handle
  root : String
  objects : List (ObjectOf σ)

/-- A reference to the object of that id in the scope it is bound to. -/
structure Reference where
  id : String
  label : Option Label := none
  scope : Option Handle := none
deriving DecidableEq

/-- A choice among objects by the content of a discriminator field. All keys are of one kind and
no key is used twice. -/
structure OneOf where
  field : String
  kind : KeyKind
  variants : List (Discriminant × Reference)
  uniform : ∀ variant ∈ variants, variant.1.kind = kind
  distinct : (variants.map Prod.fst).Nodup

/-- A description of data. -/
inductive Shape where
  | any
  | bool
  | int
  | float
  | string
  | list (items : Shape)
  | object (o : ObjectOf Shape)
  | ref (r : Reference)
  | oneOf (c : OneOf)
  | scope (s : ScopeOf Shape)

/-- An object whose fields are shapes. -/
abbrev ObjectShape := ObjectOf Shape

/-- A frozen group of object shapes. -/
abbrev Scope := ScopeOf Shape

namespace ObjectOf

variable {σ : Type}

def property? (object : ObjectOf σ) (name : String) : Option (Property σ) :=
  Fields.get? object.properties name

def declares (object : ObjectOf σ) (name : String) : Bool :=
  (object.property? name).isSome

end ObjectOf

namespace ScopeOf

variable {σ : Type}

def object? (scope : ScopeOf σ) (id : String) : Option (ObjectOf σ) :=
  scope.objects.find? (·.id == id)

def rootObject? (scope : ScopeOf σ) : Option (ObjectOf σ) :=
  scope.object? scope.root

end ScopeOf

namespace OneOf

def target? (choice : OneOf) (key : Discriminant) : Option Reference :=
  choice.variants.lookup key

def keys (choice : OneOf) : List Discriminant :=
  choice.variants.map Prod.fst

end OneOf

namespace Shape

def kindName : Shape → String
  | .any => "any"
  | .bool => "bool"
  | .int => "integer"
  | .float => "float"
  | .string => "string"
  | .list _ => "list"
  | .object _ => "object"
  | .ref _ => "ref"
  | .oneOf c =>
    match c.kind with
    | .int => "one_of_int"
    | .string => "one_of_string"
  | .scope _ => "scope"

/-- The representation of the values a shape reads. -/
def representation : Shape → Representation
  | .any => .any
  | .bool => .bool
  | .int => .int
  | .float => .float
  | .string => .string
  | .list items => .list items.representation
  | .object o => .object o.id
  | .ref r => .object r.id
  | .oneOf _ => .any
  | .scope s => .object s.root

/-- Text that names a shape in messages. -/
def text : Shape → String
  | .object o => "object " ++ Text.quote o.id
  | .ref r => "ref " ++ Text.quote r.id
  | .scope s => "scope " ++ Text.quote s.root
  | .list items => "list of " ++ items.text
  | shape => shape.kindName

end Shape

end Shapes
