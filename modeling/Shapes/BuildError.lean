import Shapes.Representation
import Shapes.Text.Quoted

/-!
What can be wrong with a definition. A definition that is refused is never handed out.
-/

namespace Shapes

/-- How the signature of a handler differs from the declared one. -/
inductive SignatureMismatch where
  | arity (expected actual : Nat)
  | parameter (index : Nat) (declared handler : Representation)
  | output (declared handler : Representation)
  | returns (expected : String) (actual : Nat)
  /-- A data value is returned where an error return is due. -/
  | nonError (index : Nat)
  /-- An error is returned where a data value is due. -/
  | nonValue (index : Nat)
deriving DecidableEq

/-- Why a definition was refused. -/
inductive BuildError where
  | duplicateObject (id : String)
  | duplicateField (object field : String)
  | duplicateDiscriminator (field key : String)
  | invalidDiscriminatorKey (field key : String)
  | objectIdMismatch (key id : String)
  | unknownRoot (id : String)
  | unresolvedRef (id : String)
  /-- A variant declares the discriminator field with a shape that cannot hold the keys. -/
  | discriminatorConflict (object field : String) (declared expected : Representation)
  /-- The handler of the function with that id does not fit. -/
  | signature (id : String) (mismatch : SignatureMismatch)
deriving DecidableEq

namespace SignatureMismatch

def message : SignatureMismatch → String
  | .arity expected actual =>
    "handler takes " ++ toString actual ++ " parameters, declared " ++ toString expected
  | .parameter index declared handler =>
    "parameter " ++ toString index ++ ": handler takes " ++ handler.text ++ ", declared " ++
      declared.text
  | .output declared handler =>
    "handler returns " ++ handler.text ++ ", declared output is " ++ declared.text
  | .returns expected actual =>
    expected ++ ", but the handler has " ++ toString actual ++ " return values"
  | .nonError index => "return value " ++ toString index ++ " must be an error return"
  | .nonValue index =>
    "return value " ++ toString index ++
      " must be a data value, the handler returns an error there"

end SignatureMismatch

namespace BuildError

def message : BuildError → String
  | .duplicateObject id =>
    "object id " ++ Text.quote id ++ " is declared more than once in the scope"
  | .duplicateField object field =>
    "field " ++ Text.quote field ++ " is declared more than once in object " ++ Text.quote object
  | .duplicateDiscriminator field key =>
    "discriminator value " ++ key ++ " is mapped more than once for field " ++ Text.quote field
  | .invalidDiscriminatorKey field key =>
    "discriminator value " ++ Text.quote key ++ " for field " ++ Text.quote field ++
      " is not a valid integer"
  | .objectIdMismatch key id =>
    "object declared under key " ++ Text.quote key ++ " has id " ++ Text.quote id
  | .unknownRoot id => "root object " ++ Text.quote id ++ " is not declared in the scope"
  | .unresolvedRef id => "reference to " ++ Text.quote id ++ " does not resolve within its scope"
  | .discriminatorConflict object field declared expected =>
    "object " ++ Text.quote object ++ " declares discriminator field " ++ Text.quote field ++
      " as " ++ declared.text ++ ", but the one-of is keyed by " ++ expected.text
  | .signature id mismatch => "function " ++ Text.quote id ++ ": " ++ mismatch.message

end BuildError

end Shapes
