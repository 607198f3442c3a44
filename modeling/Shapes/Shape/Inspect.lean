import Shapes.Function.Call

/-!
Diagnostic text of shapes and functions: every part by name, and of references whether the scope
they are bound to is alive.
-/

namespace Shapes

namespace Inspect

/-- A named structure with its parts. -/
def composite (name : String) (parts : List (String × String)) : String :=
  name ++ " \x7b " ++ ", ".intercalate (parts.map fun part => part.1 ++ ": " ++ part.2) ++ " \x7d"

/-- A case with its content. -/
def case (name content : String) : String :=
  name ++ "(" ++ content ++ ")"

def list (items : List String) : String :=
  "[" ++ ", ".intercalate items ++ "]"

/-- A map from keys to contents. -/
def map (entries : List (String × String)) : String :=
  "\x7b" ++ ", ".intercalate (entries.map fun entry => entry.1 ++ ": " ++ entry.2) ++ "\x7d"

def bool (b : Bool) : String :=
  if b then "true" else "false"

/-- Something that may be missing. -/
def option (content : Option String) : String :=
  match content with
  | some text => case "Some" text
  | none => "None"

def names (fields : List String) : String :=
  list (fields.map Text.quote)

def label (l : Label) : String :=
  composite "Display" [("name", option (l.name.map Text.quote)),
    ("description", option (l.description.map Text.quote)), ("icon", option (l.icon.map Text.quote))]

mutual

def json : Json → String
  | .null => "Null"
  | .bool b => case "Bool" (bool b)
  | .number n => case "Number" n.text
  | .string s => case "String" (Text.quote s)
  | .array items => "Array " ++ list (jsonItems items)
  | .object entries => "Object " ++ map (jsonEntries entries)
termination_by structural document => document

def jsonItems : List Json → List String
  | [] => []
  | item :: rest => json item :: jsonItems rest
termination_by structural items => items

def jsonEntries : List (String × Json) → List (String × String)
  | [] => []
  | (name, content) :: rest => (Text.quote name, json content) :: jsonEntries rest
termination_by structural entries => entries

end

def reference (registry : Registry) (r : Reference) : String :=
  composite "RefType" [("id", Text.quote r.id), ("bound", bool (r.scope? registry).isSome)]

def choice (registry : Registry) (c : OneOf) : String :=
  composite "OneOfType" [("discriminator_field", Text.quote c.field),
    ("types", map (c.variants.map fun variant => (variant.1.quoted, reference registry variant.2)))]

def scope (s : Scope) : String :=
  composite "Scope" [("root", Text.quote s.root), ("objects", names (s.objects.map ObjectOf.id))]

mutual

def shape (registry : Registry) : Shape → String
  | .any => case "Any" "AnyType"
  | .bool => case "Bool" "BoolType"
  | .int => case "Int" "IntType"
  | .float => case "Float" "FloatType"
  | .string => case "String" "StringType"
  | .list items => case "List" (composite "ListType" [("items", shape registry items)])
  | .object o => case "Object" (object registry o)
  | .ref r => case "Ref" (reference registry r)
  | .oneOf c =>
    case (match c.kind with
      | .int => "OneOfInt"
      | .string => "OneOfString") (choice registry c)
  | .scope s => case "Scope" (scope s)
termination_by structural shape => shape

def object (registry : Registry) : ObjectOf Shape → String
  | ⟨id, fields, allowUnknown⟩ =>
    composite "ObjectType" [("id", Text.quote id), ("properties", map (properties registry fields)),
      ("allow_unknown_fields", bool allowUnknown)]
termination_by structural object => object

def properties (registry : Registry) : List (String × Property Shape) → List (String × String)
  | [] => []
  | (name, p) :: rest => (Text.quote name, property registry p) :: properties registry rest
termination_by structural properties => properties

def property (registry : Registry) : Property Shape → String
  | ⟨content, required, default, requiredIf, requiredIfNot, conflicts, l⟩ =>
    composite "PropertyType" [("type_", shape registry content), ("required", bool required),
      ("default", option (default.map json)), ("required_if", names requiredIf),
      ("required_if_not", names requiredIfNot), ("conflicts", names conflicts),
      ("display", option (l.map label))]
termination_by structural property => property

end

/-- A shape by itself: scopes and references are shown without their case. -/
def topShape (registry : Registry) : Shape → String
  | .ref r => reference registry r
  | .scope s => scope s
  | s => shape registry s

def function (registry : Registry) (f : BoundFunction) : String :=
  composite "CallableFunction" [("id", Text.quote f.id),
    ("inputs", list (f.inputs.map (shape registry))), ("dynamic", bool f.output.isDynamic)]

end Inspect

end Shapes
