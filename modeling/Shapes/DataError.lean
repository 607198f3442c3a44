import Shapes.Text.Quoted

/-!
What can be wrong with data: an input that does not have its shape, or a value that does not
conform to it. Errors inside fields and list items carry the way to the place.
-/

namespace Shapes

/-- Why data was refused. -/
inductive DataError where
  /-- The input is of another kind than expected. -/
  | invalidInput (expected found : String)
  | missingDiscriminator (field : String)
  /-- The value is of another kind than expected. -/
  | mismatch (expected found : String)
  | unknownVariant (key : String) (valid : List String)
  /-- A reference has no scope, or its scope does not declare the object. -/
  | unknownType (id : String)
  | missingField (field : String)
  | unknownField (field : String)
  /-- Two fields are set that exclude each other. -/
  | conflict (field other : String)
  /-- The discriminator field of a variant holds something other than its key. -/
  | discriminatorConflict (field key found : String)
  /-- An error inside a field, or inside the list item of that index. -/
  | inField (field : String) (cause : DataError)
deriving DecidableEq

namespace DataError

/-- The innermost error. -/
def rootCause : DataError → DataError
  | .inField _ cause => cause.rootCause
  | error => error

/-- The fields the error is nested in, outermost first. -/
def path : DataError → List String
  | .inField field cause => field :: cause.path
  | _ => []

def message : DataError → String
  | .invalidInput expected found => "invalid input: expected " ++ expected ++ ", got " ++ found
  | .missingDiscriminator field => "missing discriminator field " ++ Text.quote field
  | .mismatch expected found => "type mismatch: expected " ++ expected ++ ", got " ++ found
  | .unknownVariant key valid =>
    "unknown variant " ++ key ++ " (valid values: " ++ ", ".intercalate valid ++ ")"
  | .unknownType id => "unknown type " ++ Text.quote id
  | .missingField field => "missing required field " ++ Text.quote field
  | .unknownField field => "unknown field " ++ Text.quote field
  | .conflict field other =>
    "field " ++ Text.quote field ++ " cannot be set together with " ++ Text.quote other
  | .discriminatorConflict field key found =>
    "discriminator field " ++ Text.quote field ++ " holds " ++ found ++ ", variant key is " ++ key
  | .inField field cause => "field " ++ Text.quote field ++ ": " ++ cause.message

/-- The error put inside the fields of `path`, outermost first. -/
def within (path : List String) (error : DataError) : DataError :=
  path.foldr .inField error

theorem eq_within_path (error : DataError) : error = error.rootCause.within error.path := by
  induction error with
  | inField field cause ih =>
    simp only [rootCause, path, within, List.foldr_cons, DataError.inField.injEq, true_and]
    exact ih
  | _ => rfl

end DataError

end Shapes
