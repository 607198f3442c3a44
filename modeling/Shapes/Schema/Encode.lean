import Shapes.Schema.Basic

/-!
Documents for schemas. The tag stands in front, and options that have their usual setting are left
out.
-/

namespace Shapes

namespace Label

/-- The document for a label: the parts it has. -/
def toJson (label : Label) : Json :=
  let part (name : String) (content : Option String) : List (String × Json) :=
    match content with
    | some text => [(name, .string text)]
    | none => []
  .object (part "name" label.name ++ part "description" label.description ++ part "icon" label.icon)

def entry : Option Label → List (String × Json)
  | some label => [("display", label.toJson)]
  | none => []

end Label

namespace RefSchema

def entries (schema : RefSchema) : List (String × Json) :=
  ("id", .string schema.id) :: Label.entry schema.label

end RefSchema

namespace OneOfSchema

def entries (schema : OneOfSchema) : List (String × Json) :=
  [("discriminator_field_name", .string schema.field),
    ("types", .object (schema.types.map fun target => (target.1, .object target.2.entries)))]

end OneOfSchema

namespace Schema

/-- The entry for a list of field names, left out when it is empty. -/
def namesEntry (name : String) (fields : List String) : List (String × Json) :=
  if fields.isEmpty then [] else [(name, .array (fields.map .string))]

/-- The entries for what a field has beside its shape. -/
def optionEntries (property : Property Schema) : List (String × Json) :=
  [("required", .bool property.required)] ++ namesEntry "required_if" property.requiredIf ++
    namesEntry "required_if_not" property.requiredIfNot ++ namesEntry "conflicts" property.conflicts ++
    (match property.default with
      | some document => [("default", document)]
      | none => []) ++
    Label.entry property.label

/-- A document with its tag in front. -/
def tagged (kind : String) (entries : List (String × Json)) : Json :=
  .object (("type_id", .string kind) :: entries)

mutual

def toJson : Schema → Json
  | .list items => tagged "list" [("items", items.toJson)]
  | .object o => tagged "object" (objectEntries o)
  | .ref r => tagged "ref" r.entries
  | .oneOf .int c => tagged "one_of_int" c.entries
  | .oneOf .string c => tagged "one_of_string" c.entries
  | .scope s => tagged "scope" (scopeEntries s)
  | schema => tagged schema.kindName []
termination_by structural schema => schema

def objectEntries : ObjectOf Schema → List (String × Json)
  | ⟨id, properties, allowUnknown⟩ =>
    [("id", .string id), ("properties", .object (propertiesEntries properties))] ++
      (if allowUnknown then [("allow_unknown_fields", .bool true)] else [])
termination_by structural object => object

def propertiesEntries : List (String × Property Schema) → List (String × Json)
  | [] => []
  | (name, property) :: rest => (name, propertyToJson property) :: propertiesEntries rest
termination_by structural properties => properties

def propertyToJson : Property Schema → Json
  | ⟨schema, required, default, requiredIf, requiredIfNot, conflicts, label⟩ =>
    .object (("type", schema.toJson) ::
      optionEntries ⟨schema, required, default, requiredIf, requiredIfNot, conflicts, label⟩)
termination_by structural property => property

def scopeEntries : ScopeSchemaOf Schema → List (String × Json)
  | ⟨objects, root⟩ => [("objects", .object (objectsEntries objects)), ("root", .string root)]
termination_by structural scope => scope

def objectsEntries : List (String × ObjectOf Schema) → List (String × Json)
  | [] => []
  | (key, o) :: rest => (key, .object (objectEntries o)) :: objectsEntries rest
termination_by structural objects => objects

end

end Schema

end Shapes
