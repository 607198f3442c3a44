import Shapes.Schema.Basic

/-!
Schemas from documents. The tag may stand anywhere, entries that are not known are ignored, and
what has a usual setting may be left out. `null` stands for nothing only where a label, a part of
one, or a default is expected. Inside a schema the kind of another may be given by its number
instead of its name.

Only documents with named entries are read. Derived decoders also take an array that lists the
contents of the entries in the order of their declaration, with the tag in front: `["integer"]` for
`{"type_id": "integer"}`, or `["ref", "B"]` for a reference to `B`. That form is left out here: labels,
references, fields, objects, choices, scopes and schemas in it are refused, and so are declarations.
What is written from schemas never has it.
-/

namespace Shapes

namespace Json

def asString? : Json → Option String
  | .string s => some s
  | _ => none

def asBool? : Json → Option Bool
  | .bool b => some b
  | _ => none

def asEntries? : Json → Option (Fields Json)
  | .object entries => some entries
  | _ => none

def asItems? : Json → Option (List Json)
  | .array items => some items
  | _ => none

def asStrings? (json : Json) : Option (List String) := do
  (← json.asItems?).mapM asString?

/-- What an optional entry holds: `absent` when it is left out, else what `read` gives. -/
def optional {α : Type} (entries : Fields Json) (name : String) (absent : α)
    (read : Json → Option α) : Option α :=
  match entries.get? name with
  | none => some absent
  | some content => read content

/-- What an entry holds that may be left out or `null`. -/
def nullable {α : Type} (entries : Fields Json) (name : String) (read : Json → Option α) :
    Option (Option α) :=
  match entries.get? name with
  | none => some none
  | some .null => some none
  | some content => (read content).map some

end Json

namespace Label

def ofJson? (json : Json) : Option Label := do
  let entries ← json.asEntries?
  let name ← Json.nullable entries "name" Json.asString?
  let description ← Json.nullable entries "description" Json.asString?
  let icon ← Json.nullable entries "icon" Json.asString?
  return ⟨name, description, icon⟩

end Label

namespace RefSchema

/-- The reference in the entries of a document. References in array form have no entries. -/
def ofEntries? (entries : Fields Json) : Option RefSchema := do
  let id ← (← entries.get? "id").asString?
  let label ← Json.nullable entries "display" Label.ofJson?
  return ⟨id, label⟩

end RefSchema

namespace OneOfSchema

/-- The choice in the entries of a document. -/
def ofEntries? (entries : Fields Json) : Option OneOfSchema := do
  let field ← (← entries.get? "discriminator_field_name").asString?
  let targets ← (← entries.get? "types").asEntries?
  let types ← targets.mapM fun target => do
    return (target.1, ← RefSchema.ofEntries? (← target.2.asEntries?))
  return ⟨field, types⟩

end OneOfSchema

namespace Schema

/-- The field in a document, given how the schema inside it is read. Fields in array form are
refused. -/
def propertyOfJson? (part : Json → Option Schema) (json : Json) : Option (Property Schema) := do
  let entries ← json.asEntries?
  let shape ← part (← entries.get? "type")
  let required ← Json.optional entries "required" false Json.asBool?
  let requiredIf ← Json.optional entries "required_if" [] Json.asStrings?
  let requiredIfNot ← Json.optional entries "required_if_not" [] Json.asStrings?
  let conflicts ← Json.optional entries "conflicts" [] Json.asStrings?
  let default ← Json.nullable entries "default" some
  let label ← Json.nullable entries "display" Label.ofJson?
  return ⟨shape, required, default, requiredIf, requiredIfNot, conflicts, label⟩

/-- The object in the entries of a document, given how the schemas inside it are read. -/
def objectOfEntries? (part : Json → Option Schema) (entries : Fields Json) :
    Option ObjectSchema := do
  let id ← (← entries.get? "id").asString?
  let fields ← (← entries.get? "properties").asEntries?
  let properties ← fields.mapM fun field => do return (field.1, ← propertyOfJson? part field.2)
  let allowUnknown ← Json.optional entries "allow_unknown_fields" false Json.asBool?
  return ⟨id, properties, allowUnknown⟩

/-- The scope in the entries of a document, given how the schemas inside it are read. -/
def scopeOfEntries? (part : Json → Option Schema) (entries : Fields Json) :
    Option ScopeSchema := do
  let members ← (← entries.get? "objects").asEntries?
  let objects ← members.mapM fun member => do
    return (member.1, ← objectOfEntries? part (← member.2.asEntries?))
  let root ← (← entries.get? "root").asString?
  return ⟨objects, root⟩

/-- The kind that the tag of a schema inside another gives, by name or by number. -/
def innerKind? : Json → Option String
  | .string name => some name
  | .number (.integer n _) => if 0 ≤ n then kindNames[n.toNat]? else none
  | _ => none

/-- The schema of a document, given what kind its tag gives and how the schemas inside it are
read. Schemas in array form are refused. -/
def ofJsonStep (kind? : Json → Option String) (part : Json → Option Schema) (json : Json) :
    Option Schema := do
  let entries ← json.asEntries?
  match ← kind? (← entries.get? "type_id") with
  | "any" => return .any
  | "bool" => return .bool
  | "integer" => return .integer
  | "float" => return .float
  | "string" => return .string
  | "list" => return .list (← part (← entries.get? "items"))
  | "object" => return .object (← objectOfEntries? part entries)
  | "ref" => return .ref (← RefSchema.ofEntries? entries)
  | "one_of_int" => return .oneOf .int (← OneOfSchema.ofEntries? entries)
  | "one_of_string" => return .oneOf .string (← OneOfSchema.ofEntries? entries)
  | "scope" => return .scope (← scopeOfEntries? part entries)
  | _ => none

/-- The schema of a document of at most the given depth, inside the document of another schema. The
document of a part lies inside, so a document of depth 0 has no parts. -/
def innerWithin : Nat → Json → Option Schema
  | 0 => ofJsonStep innerKind? fun _ => none
  | depth + 1 => ofJsonStep innerKind? (innerWithin depth)

/-- The schema of a document that lies in no other schema. Its own tag has to be a name. -/
def ofJson? (json : Json) : Option Schema :=
  ofJsonStep Json.asString? (innerWithin json.depth) json

end Schema

namespace ScopeSchemaOf

/-- The scope of a document without a tag. The schemas of its fields lie in no other schema. -/
def ofJson? (json : Json) : Option ScopeSchema := do
  Schema.scopeOfEntries? Schema.ofJson? (← json.asEntries?)

end ScopeSchemaOf

end Shapes
