import Shapes.Registry
import Shapes.Shape.Object
import Shapes.Shape.Traversal

/-!
Reading: documents become values by a shape. Reading goes down the document, and through references
and scopes on the spot. The default of an absent field is a document of its own; defaults may need
further defaults, so their nesting is limited by a budget. A chain of defaults longer than the
number of defaults there are never ends, which is why that number is budget enough.
-/

namespace Shapes

/-- The outcome of reading. -/
abbrev Reading := Traced (Stop DataError)

/-- A way to read documents by shapes. -/
abbrev Reader := Shape → Json → Reading Value

namespace Reading

def refuse {α : Type} (error : DataError) : Reading α :=
  Traced.fail (.failed error)

/-- Puts the errors of a reading inside a field. -/
def inField {α : Type} (field : String) (reading : Reading α) : Reading α :=
  reading.mapError (Stop.map (.inField field))

end Reading

namespace Json

/-- The content of an entry; `null` counts as absent. -/
def present? (entries : Fields Json) (name : String) : Option Json :=
  (entries.get? name).filter (!·.isNull)

/-- Whether an entry is there and not `null`. -/
def isPresent (entries : Fields Json) (name : String) : Bool :=
  (present? entries name).isSome

end Json

namespace ObjectOf

/-- The first entry that is not declared, nor the tolerated one. -/
def undeclared? (o : ObjectShape) (tolerated : Option String) (entries : Fields Json) :
    Option String :=
  if o.allowUnknown then none
  else entries.names.find? fun name => !o.declares name && tolerated != some name

/-- Reads a field of an object whose entries are given: the entry itself, or else the default. -/
def readField (part default : Reader) (entries : Fields Json) (name : String)
    (property : Property Shape) : Reading Value :=
  match Json.present? entries name with
  | some raw =>
    match property.conflict? (Json.isPresent entries) with
    | some other => .refuse (.conflict name other)
    | none => (part property.shape raw).inField name
  | none =>
    if property.isRequired (Json.isPresent entries) then .refuse (.missingField name)
    else
      match property.default with
      | some document => (default property.shape document).inField name
      | none => return .null

/-- Reads an object, tolerating one entry that need not be declared. Fields are read in declaration
order. -/
def read (part default : Reader) (tolerated : Option String) (o : ObjectShape) :
    Json → Reading Value
  | .object entries =>
    match o.undeclared? tolerated entries with
    | some name => .refuse (.unknownField name)
    | none => do
      let fields ← Traced.traverse
        (fun field => do return (field.1, ← readField part default entries field.1 field.2))
        o.properties
      return .object o.id fields
  | input => .refuse (.invalidInput ("object " ++ Text.quote o.id) input.kindName)

end ObjectOf

namespace OneOf

def unknownVariant (choice : OneOf) (key : String) : DataError :=
  .unknownVariant key (choice.keys.map Discriminant.text)

/-- Reads a one-of: the discriminator selects the object that reads the whole input. -/
def read (registry : Registry) (part default : Reader) (choice : OneOf) : Json → Reading Value
  | .object entries =>
    match Fields.get? entries choice.field with
    | none => .refuse (.missingDiscriminator choice.field)
    | some raw =>
      match choice.kind.coerce raw with
      | none =>
        .refuse (.inField choice.field
          (.mismatch (choice.kind.representation.text ++ " discriminator") raw.kindName))
      | some key =>
        match choice.target? key with
        | none => .refuse (choice.unknownVariant key.text)
        | some target => do
          Traced.announce (.dispatched choice.field key target.id)
          let o ← (target.resolve registry).budgeted
          let value ← o.read part default (some choice.field) (.object entries)
          return .oneOf key value
  | input =>
    .refuse (.invalidInput ("object with discriminator field " ++ Text.quote choice.field)
      input.kindName)

end OneOf

namespace Shape

def invalid (expected : String) (input : Json) : DataError :=
  .invalidInput expected input.kindName

/-- Reads a document by a shape, given how its parts and the defaults of absent fields are read. -/
def readStep (registry : Registry) (part default : Reader) : Reader
  | .any, input => return .any input
  | .bool, .bool b => return .bool b
  | .bool, input => .refuse (invalid "boolean" input)
  | .int, input =>
    match input with
    | .number n =>
      match n.toInt64? with
      | some k => return .int k
      | none => .refuse (invalid "integer" input)
    | _ => .refuse (invalid "integer" input)
  | .float, .number n => return .float n.toFloat
  | .float, input => .refuse (invalid "number" input)
  | .string, .string s => return .string s
  | .string, input => .refuse (invalid "string" input)
  | .list items, .array inputs => do
    let values ← Traced.traverseFrom
      (fun index input => (part items input).inField (toString index)) 0 inputs
    return .list values
  | .list _, input => .refuse (invalid "array" input)
  | .object o, input => o.read part default none input
  | .ref r, input => do
    let o ← (r.resolve registry).budgeted
    o.read part default none input
  | .oneOf c, input => c.read registry part default input
  | .scope s, input =>
    match s.rootObject? with
    | some o => o.read part default none input
    | none => .refuse (.unknownType s.root)

/-- Reads documents of at most the given depth. The parts of a document of depth 0 are never asked
for, as it has none. -/
def readWithin (registry : Registry) (default : Reader) : Nat → Reader
  | 0 => readStep registry (fun _ _ => return .null) default
  | depth + 1 => readStep registry (readWithin registry default depth) default

/-- Reads defaults that are nested up to the budget. -/
def readDefault (registry : Registry) : Nat → Reader
  | 0 => fun _ _ => Traced.fail .unfinished
  | budget + 1 => fun shape document =>
    readWithin registry (readDefault registry budget) document.depth shape document

/-- Reads a document with at most `budget` nested defaults. -/
def readNested (registry : Registry) (budget : Nat) : Reader := fun shape input =>
  readWithin registry (readDefault registry budget) input.depth shape input

/-- How deep defaults may be nested: the number of defaults in the shape and in the live scopes. -/
def budget (registry : Registry) (shape : Shape) : Nat :=
  shape.defaults.length + (registry.live.flatMap scopeDefaults).length

/-- Reads a document by a shape. -/
def read (registry : Registry) (shape : Shape) (input : Json) : Reading Value :=
  readNested registry (budget registry shape) shape input

end Shape

end Shapes
