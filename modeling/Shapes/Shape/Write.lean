import Shapes.Json.Text
import Shapes.Registry
import Shapes.Shape.Object

/-!
Writing: values become documents by a shape, if they conform to it. Fields are written in
declaration order, absent ones are left out, and a one-of adds its discriminator.
-/

namespace Shapes

/-- The outcome of writing. -/
abbrev Writing := Traced DataError

/-- A way to write values by shapes. -/
abbrev Writer := Shape → Value → Writing Json

namespace Writing

/-- Puts the errors of a writing inside a field. -/
def inField {α : Type} (field : String) (writing : Writing α) : Writing α :=
  writing.mapError (.inField field)

end Writing

namespace Value

/-- The content of a field; `null` counts as absent. -/
def present? (fields : Fields Value) (name : String) : Option Value :=
  (fields.get? name).filter (!·.isNull)

/-- Whether a field is there and not `null`. -/
def isPresent (fields : Fields Value) (name : String) : Bool :=
  (present? fields name).isSome

end Value

namespace ObjectOf

/-- Writes a field of an object whose fields are given; an absent field gives no entry. -/
def writeField (part : Writer) (fields : Fields Value) (name : String)
    (property : Property Shape) : Writing (Option (String × Json)) :=
  match Value.present? fields name with
  | some content =>
    match property.conflict? (Value.isPresent fields) with
    | some other => .fail (.conflict name other)
    | none => do return some (name, ← Writing.inField name (part property.shape content))
  | none =>
    if property.isRequired (Value.isPresent fields) then .fail (.missingField name)
    else return none

def write (part : Writer) (o : ObjectShape) : Value → Writing Json
  | .object actual fields =>
    if actual = o.id then
      match (Fields.names fields).find? (!o.declares ·) with
      | some name => .fail (.unknownField name)
      | none => do
        let entries ← Traced.traverse (fun field => writeField part fields field.1 field.2)
          o.properties
        return .object (entries.filterMap fun entry => entry)
    else .fail (.mismatch ("object " ++ Text.quote o.id) ("object " ++ Text.quote actual))
  | value => .fail (.mismatch ("object " ++ Text.quote o.id) value.kindName)

end ObjectOf

namespace OneOf

/-- Adds the discriminator to the document of a variant. A variant that writes the field itself has
to write its key. -/
def tag (choice : OneOf) (key : Discriminant) : Json → Except DataError Json
  | .object entries =>
    match Fields.get? entries choice.field with
    | none => .ok (.object (Fields.insert choice.field key.toJson entries))
    | some found =>
      if choice.kind.coerce found = some key then .ok (.object entries)
      else .error (.discriminatorConflict choice.field key.text found.text)
  | document => .error (.mismatch "object" document.kindName)

end OneOf

namespace Shape

/-- Writes a value by a shape, given how its parts are written. -/
def writeStep (registry : Registry) (part : Writer) : Writer
  | .any, value => return value.toJson
  | .bool, .bool b => return .bool b
  | .bool, value => .fail (.mismatch "bool" value.kindName)
  | .int, .int k => return .ofInt64 k
  | .int, value => .fail (.mismatch "int" value.kindName)
  | .float, .float x =>
    match Number.ofFloat? x with
    | some n => return .number n
    | none => .fail (.mismatch "finite float" (floatText x))
  | .float, value => .fail (.mismatch "float" value.kindName)
  | .string, .string s => return .string s
  | .string, value => .fail (.mismatch "string" value.kindName)
  | .list items, .list values => do
    let documents ← Traced.traverseFrom
      (fun index value => Writing.inField (toString index) (part items value)) 0 values
    return .array documents
  | .list _, value => .fail (.mismatch "list" value.kindName)
  | .object o, value => o.write part value
  | .ref r, value => do
    let o ← r.resolve registry
    o.write part value
  | .oneOf c, value =>
    match value with
    | .oneOf key inner =>
      match c.target? key with
      | none =>
        .fail (.unknownVariant key.quoted (c.keys.map Discriminant.text))
      | some target => do
        let document ← part (.ref target) inner
        Traced.ofExcept (c.tag key document)
    | _ => .fail (.mismatch "one-of" value.kindName)
  | .scope s, value =>
    match s.rootObject? with
    | some o => o.write part value
    | none => .fail (.unknownType s.root)

/-- Writes values of at most the given depth. The parts of a value of depth 0 are never asked for,
as it has none. -/
def writeWithin (registry : Registry) : Nat → Writer
  | 0 => writeStep registry fun _ _ => return .null
  | depth + 1 => writeStep registry (writeWithin registry depth)

/-- Writes a value by a shape. -/
def write (registry : Registry) (shape : Shape) (value : Value) : Writing Json :=
  writeWithin registry value.depth shape value

/-- Checks that a value conforms to a shape. -/
def validate (registry : Registry) (shape : Shape) (value : Value) : Writing Unit :=
  (fun _ => ()) <$> write registry shape value

end Shape

end Shapes
