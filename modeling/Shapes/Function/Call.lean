import Shapes.Function.CallError
import Shapes.Function.Output
import Shapes.Shape.Read
import Shapes.Shape.Write

/-!
Functions: a declared signature bound to a handler. The handler is checked against the declaration
when the function is bound; what it returns is checked at every call.
-/

namespace Shapes

/-- A function bound to its handler. -/
structure BoundFunction where
  id : String
  inputs : List Shape
  output : Output
  label : Option Label
  handler : Handler

namespace BoundFunction

/-- The shapes that a function holds: those it was declared with and those in its code. -/
def shapes (f : BoundFunction) : List Shape :=
  f.inputs ++ f.output.shapes ++ f.handler.held

/-- Binds a handler to a declaration. -/
def bind (id : String) (inputs : List Shape) (output : Output) (label : Option Label)
    (handler : Handler) : Traced BuildError BoundFunction := do
  Traced.announce .signatureRead
  match handler.signature.mismatch? inputs output with
  | some mismatch => .fail (.signature id mismatch)
  | none =>
    Traced.announce (.functionBound id inputs.length handler.signature.outputs.length)
    return ⟨id, inputs, output, label, handler⟩

/-- The shape of the output for the given shapes of the inputs; none without a data value. -/
def outputFor (f : BoundFunction) (inputs : List Shape) : Traced CallError (Option Shape) :=
  match f.output with
  | .nothing => return none
  | .fixed shape => return some shape
  | .dynamic resolver => do
    Traced.announce (.resolverConsulted inputs)
    match resolver.resolve inputs with
    | .ok shape => return some shape
    | .error text => .fail (.resolution f.id text)

/-- The outcome of a call from what follows the data values in the return list. -/
def conclude (f : BoundFunction) (value : Option Value) :
    List Returned → Traced CallError (Option Value)
  | [] => return value
  | .error none :: _ => return value
  | .error (some text) :: _ => do
    Traced.announce (.handlerFailed f.id text)
    .fail (.execution f.id text)
  | .value _ :: _ => .fail (.invalidErrorReturn f.id)

/-- The outcome of a call from the return list of the handler. -/
def normalize (f : BoundFunction) (returns : List Returned) : Traced CallError (Option Value) :=
  let due := f.output.dataCount
  if returns.length = due ∨ returns.length = due + 1 then
    if due = 0 then f.conclude none returns
    else
      match returns with
      | .value v :: rest => f.conclude (some v) rest
      | _ => .fail (.invalidDataReturn f.id)
  else .fail (.returnCount f.id due returns.length)

/-- Calls the handler with native arguments. -/
def call (f : BoundFunction) (arguments : List Value) : Traced CallError (Option Value) :=
  if arguments.length = f.inputs.length then do
    Traced.announce (.handlerInvoked arguments)
    match f.handler.invoke arguments with
    | .error error => .fail (.argument f.id error.index error.cause)
    | .ok returns => f.normalize returns
  else .fail (.arity f.id f.inputs.length arguments.length)

/-- Reads the arguments by the declared inputs, the first of which has index 0. -/
def readArguments (registry : Registry) (f : BoundFunction) (arguments : List Json) :
    Traced (Stop CallError) (List Value) :=
  Traced.traverseFrom
    (fun index (input : Shape × Json) =>
      (input.1.read registry input.2).mapError (Stop.map (.argument f.id index)))
    0 (f.inputs.zip arguments)

/-- Calls the function with documents. The output shape is determined before the handler runs. -/
def callJson (registry : Registry) (f : BoundFunction) (arguments : List Json) :
    Traced (Stop CallError) (Option Json) :=
  if arguments.length = f.inputs.length then do
    let values ← f.readArguments registry arguments
    let output ← (f.outputFor f.inputs).budgeted
    let value ← (f.call values).budgeted
    match value, output with
    | some value, some shape =>
      let document ← ((shape.write registry value).mapError (.output f.id)).budgeted
      return some document
    | _, _ => return none
  else Traced.fail (.failed (.arity f.id f.inputs.length arguments.length))

end BoundFunction

end Shapes
