import Shapes.BuildError
import Shapes.Function.Handler
import Shapes.Shape.Basic

/-!
Declared outputs of functions, and which handlers fit a declaration.
-/

namespace Shapes

/-- Computes the shape of an output from the shapes of the inputs. -/
structure Resolver where
  resolve : List Shape → Except String Shape
  /-- The shapes the resolver holds, and thereby keeps alive. -/
  held : List Shape := []

/-- The declared output of a function. -/
inductive Output where
  | nothing
  | fixed (shape : Shape)
  /-- A value is returned whose shape depends on those of the inputs. -/
  | dynamic (resolver : Resolver)

namespace Output

/-- Number of data values a handler returns ahead of its error return. -/
def dataCount : Output → Nat
  | .nothing => 0
  | .fixed _ => 1
  | .dynamic _ => 1

def isDynamic : Output → Bool
  | .dynamic _ => true
  | _ => false

/-- The shapes in an output that are there before it is asked for. -/
def shapes : Output → List Shape
  | .nothing => []
  | .fixed shape => [shape]
  | .dynamic resolver => resolver.held

/-- How the return list of a handler differs from what the output asks for. -/
def mismatch? : Output → List Slot → Option SignatureMismatch
  | .nothing, [] => none
  | .nothing, [.error] => none
  | .nothing, [.value _] => some (.nonError 0)
  | .nothing, slots =>
    some (.returns "no return value or a single error return" slots.length)
  | .fixed shape, [.value handler] => ofRepresentation shape handler
  | .fixed shape, [.value handler, .error] => ofRepresentation shape handler
  | .fixed _, [.value _, .value _] => some (.nonError 1)
  | .fixed _, [.error] => some (.nonValue 0)
  | .fixed _, [.error, _] => some (.nonValue 0)
  | .fixed _, slots =>
    some (.returns "one return value, optionally followed by an error return" slots.length)
  | .dynamic _, [.value _, .error] => none
  | .dynamic _, [.error, _] => some (.nonValue 0)
  | .dynamic _, [_, .value _] => some (.nonError 1)
  | .dynamic _, slots => some (.returns "a value and an error return" slots.length)
where
  /-- The mismatch of a returned representation with a fixed output. -/
  ofRepresentation (shape : Shape) (handler : Representation) : Option SignatureMismatch :=
    if handler = shape.representation then none
    else some (.output shape.representation handler)

end Output

namespace Signature

/-- The first parameter whose representation differs from the declared one; the first parameter has
index `index`. -/
def parameterMismatch? : Nat → List Shape → List Representation → Option SignatureMismatch
  | index, declared :: inputs, handler :: handlers =>
    if declared.representation = handler then parameterMismatch? (index + 1) inputs handlers
    else some (.parameter index declared.representation handler)
  | _, _, _ => none

/-- How a signature differs from declared inputs and a declared output. -/
def mismatch? (signature : Signature) (inputs : List Shape) (output : Output) :
    Option SignatureMismatch :=
  if signature.inputs.length = inputs.length then
    (parameterMismatch? 0 inputs signature.inputs).or (output.mismatch? signature.outputs)
  else some (.arity inputs.length signature.inputs.length)

end Signature

end Shapes
