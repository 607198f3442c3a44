import Shapes.DataError

/-!
What can go wrong in a call of a function, or when it is asked about its output.
-/

namespace Shapes

/-- Why a call failed. Every error names the function. -/
inductive CallError where
  | arity (id : String) (expected actual : Nat)
  | argument (id : String) (index : Nat) (cause : DataError)
  | execution (id error : String)
  | invalidErrorReturn (id : String)
  | invalidDataReturn (id : String)
  | returnCount (id : String) (expected actual : Nat)
  /-- The resolver of the output shape failed. -/
  | resolution (id error : String)
  /-- A dynamic output has no declaration. -/
  | unrepresentable (id : String)
  /-- The returned value does not conform to the output. -/
  | output (id : String) (cause : DataError)
deriving DecidableEq

namespace CallError

/-- The function a call of which failed, as it begins every message. -/
def subject (id : String) : String :=
  "function " ++ Text.quote id

def message : CallError → String
  | .arity id expected actual =>
    subject id ++ " expects " ++ toString expected ++ " arguments, got " ++ toString actual
  | .argument id index cause =>
    subject id ++ ": argument " ++ toString index ++ ": " ++ cause.message
  | .execution id error => subject id ++ " returned an error: " ++ error
  | .invalidErrorReturn id => subject id ++ ": trailing return value is not an error return"
  | .invalidDataReturn id => subject id ++ ": data return slot holds an error return"
  | .returnCount id expected actual =>
    subject id ++ ": expected " ++ toString expected ++
      " return values plus an optional error, got " ++ toString actual
  | .resolution id error => subject id ++ ": cannot determine output type: " ++ error
  | .unrepresentable id =>
    subject id ++
      " cannot be represented as a function schema because its output type is dynamic"
  | .output id cause => subject id ++ ": " ++ cause.message

end CallError

end Shapes
