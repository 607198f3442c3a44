import Shapes.Shape.Basic
import Shapes.Value.Native

/-!
Handlers: the native code behind functions. A handler reports the signature it was written against,
takes positional arguments, and returns a list of data values and error returns. Like any closure it
may have captured shapes, to read its arguments by, and owns these as long as it exists.
-/

namespace Shapes

/-- One place of a return list: a data value of some representation, or an error return. -/
inductive Slot where
  | value (representation : Representation)
  | error
deriving DecidableEq

/-- The signature a handler was written against. -/
structure Signature where
  inputs : List Representation
  outputs : List Slot
deriving DecidableEq

/-- One item of what a handler returned. An error return is empty when nothing failed. -/
inductive Returned where
  | value (v : Value)
  | error (text : Option String)

/-- An argument that does not convert to the native type of its parameter. -/
structure ArgumentError where
  index : Nat
  cause : DataError
deriving DecidableEq

namespace ArgumentError

def message (error : ArgumentError) : String :=
  "argument " ++ toString error.index ++ ": " ++ error.cause.message

end ArgumentError

/-- Native code with its signature. -/
structure Handler where
  signature : Signature
  invoke : List Value → Except ArgumentError (List Returned)
  /-- The shapes the code holds, by itself or in functions it holds, and thereby keeps alive. -/
  held : List Shape := []

end Shapes
