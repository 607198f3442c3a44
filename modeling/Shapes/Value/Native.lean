import Shapes.Value.Basic

/-!
Native types: Lean types that stand for one representation, with the conversions from and to
values. Handlers are written against them.
-/

namespace Shapes

/-- A Lean type with its representation and its conversions. -/
structure NativeType where
  /-- The Lean type. -/
  Carrier : Type
  representation : Representation
  /-- Converts a value, which may be of another kind. -/
  ofValue : Value → Except DataError Carrier
  /-- The value that stands for a native one. -/
  toValue : Carrier → Value

/-- The value of a one-of, with the key that selected its variant. -/
structure OneOfValue where
  key : Discriminant
  value : Value

namespace NativeType

/-- The error for a value that is not of the representation `expected`. -/
def refuse (expected : Representation) (found : Value) : DataError :=
  .mismatch expected.text found.kindName

def bool : NativeType where
  Carrier := Bool
  representation := .bool
  ofValue
    | .bool b => .ok b
    | other => .error (refuse .bool other)
  toValue := .bool

def int : NativeType where
  Carrier := Int64
  representation := .int
  ofValue
    | .int k => .ok k
    | other => .error (refuse .int other)
  toValue := .int

def float : NativeType where
  Carrier := Float
  representation := .float
  ofValue
    | .float x => .ok x
    | other => .error (refuse .float other)
  toValue := .float

def string : NativeType where
  Carrier := String
  representation := .string
  ofValue
    | .string s => .ok s
    | other => .error (refuse .string other)
  toValue := .string

/-- All values, as they are. -/
def any : NativeType where
  Carrier := Value
  representation := .any
  ofValue := .ok
  toValue := id

/-- Values of one-ofs. -/
def oneOf : NativeType where
  Carrier := OneOfValue
  representation := .any
  ofValue
    | .oneOf key value => .ok ⟨key, value⟩
    | other => .error (.mismatch "one-of" other.kindName)
  toValue v := .oneOf v.key v.value

/-- Converts the items of a list, the first of which has index `index`. The first item that does
not convert decides. -/
def ofItems {α : Type} (convert : Value → Except DataError α) :
    Nat → List Value → Except DataError (List α)
  | _, [] => .ok []
  | index, item :: rest =>
    match convert item with
    | .error e => .error (.inField (toString index) e)
    | .ok a => (ofItems convert (index + 1) rest).map (a :: ·)

/-- Lists of a native type. -/
def list (item : NativeType) : NativeType where
  Carrier := List item.Carrier
  representation := .list item.representation
  ofValue
    | .list items => ofItems item.ofValue 0 items
    | other => .error (refuse (.list item.representation) other)
  toValue items := .list (items.map item.toValue)

end NativeType

end Shapes
