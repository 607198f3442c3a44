import Shapes.Shape.Basic

/-!
Events: what a computation announces while it runs. Some are published as log records; the others
tell how often user code ran, and with what.
-/

namespace Shapes

/-- Something that happened during a computation. -/
inductive Event where
  | scopeFrozen (root : String) (objects : Nat)
  /-- A reference whose scope is alive is about to be resolved. -/
  | resolving (id : String)
  /-- The variant of a one-of was found. -/
  | dispatched (field : String) (key : Discriminant) (target : String)
  | functionBound (id : String) (inputs returns : Nat)
  | handlerFailed (id error : String)
  | signatureRead
  | handlerInvoked (arguments : List Value)
  | resolverConsulted (inputs : List Shape)

/-- How detailed a log record is. -/
inductive Level where
  | debug
  | trace
deriving DecidableEq

/-- A published log record. -/
structure LogRecord where
  level : Level
  message : String
  fields : List (String × String)
deriving DecidableEq

namespace Event

/-- The log record of an event, if it is published. -/
def record? : Event → Option LogRecord
  | .scopeFrozen root objects =>
    some ⟨.debug, "scope frozen", [("root", root), ("objects", toString objects)]⟩
  | .resolving id => some ⟨.trace, "resolving reference", [("id", id)]⟩
  | .dispatched field key target =>
    some ⟨.trace, "one-of dispatch", [("field", field), ("key", key.text), ("target", target)]⟩
  | .functionBound id inputs returns =>
    some ⟨.debug, "function bound",
      [("id", id), ("inputs", toString inputs), ("returns", toString returns)]⟩
  | .handlerFailed id error =>
    some ⟨.debug, "handler returned an error", [("id", id), ("error", error)]⟩
  | .signatureRead => none
  | .handlerInvoked _ => none
  | .resolverConsulted _ => none

/-- The line an event leaves in the log of the function whose code ran. -/
def note? : Event → Option String
  | .signatureRead => some "signature"
  | .handlerInvoked arguments => some ("invoke " ++ toString arguments.length)
  | .resolverConsulted inputs => some ("resolve " ++ toString inputs.length)
  | _ => none

end Event

end Shapes
