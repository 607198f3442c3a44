import Shapes.Function.Call
import Shapes.Schema.Build
import Shapes.Schema.Decode
import Shapes.Schema.Encode
import Shapes.Schema.Export

/-!
Declarations: what is published of a function, that is, everything but its handler. A document has
to have the whole form of a declaration before anything in it is built.
-/

namespace Shapes

namespace Shape

def toJson (shape : Shape) : Json :=
  shape.schema.toJson

end Shape

/-- What is published of a function. -/
structure Declaration where
  id : String
  inputs : List Shape
  output : Option Shape
  label : Option Label

namespace Declaration

/-- The shapes that a declaration holds. -/
def shapes (d : Declaration) : List Shape :=
  d.inputs ++ d.output.toList

def toJson (d : Declaration) : Json :=
  .object ([("id", .string d.id), ("inputs", .array (d.inputs.map Shape.toJson)),
    ("output", (d.output.map Shape.toJson).getD .null)] ++ Label.entry d.label)

end Declaration

/-- The form in which a declaration travels. -/
structure DeclarationSchema where
  id : String
  inputs : List Schema
  output : Option Schema
  label : Option Label
  /-- Whether the output stands before the inputs. -/
  outputFirst : Bool

namespace DeclarationSchema

/-- Whether the first of the entries for output and inputs is the one for the output. -/
def leadsWithOutput (entries : Fields Json) : Bool :=
  match entries.find? fun entry => entry.1 == "inputs" || entry.1 == "output" with
  | some (name, _) => name == "output"
  | none => false

/-- The declaration in a document. Entries that are not known are ignored. -/
def ofJson? (json : Json) : Option DeclarationSchema := do
  let entries ← json.asEntries?
  let id ← (← entries.get? "id").asString?
  let inputs ← (← (← entries.get? "inputs").asItems?).mapM Schema.ofJson?
  let output ← Json.nullable entries "output" Schema.ofJson?
  let label ← Json.nullable entries "display" Label.ofJson?
  return ⟨id, inputs, output, label, leadsWithOutput entries⟩

def buildInputs : List Schema → Build (List Shape)
  | [] => return []
  | schema :: rest => do
    let shape ← schema.build
    let others ← buildInputs rest
    return shape :: others

def buildOutput : Option Schema → Build (Option Shape)
  | none => return none
  | some schema => return some (← schema.build)

/-- Builds the declaration a schema describes, shape by shape in the order of the document. The
first shape that cannot be built decides, and scopes frozen before it have been announced. -/
def build (schema : DeclarationSchema) : Build Declaration := do
  if schema.outputFirst then
    let output ← buildOutput schema.output
    let inputs ← buildInputs schema.inputs
    return ⟨schema.id, inputs, output, schema.label⟩
  else
    let inputs ← buildInputs schema.inputs
    let output ← buildOutput schema.output
    return ⟨schema.id, inputs, output, schema.label⟩

end DeclarationSchema

namespace BoundFunction

/-- What is published of a function. A dynamic output cannot be declared. -/
def declaration (f : BoundFunction) : Except CallError Declaration :=
  match f.output with
  | .nothing => .ok ⟨f.id, f.inputs, none, f.label⟩
  | .fixed shape => .ok ⟨f.id, f.inputs, some shape, f.label⟩
  | .dynamic _ => .error (.unrepresentable f.id)

end BoundFunction

end Shapes
