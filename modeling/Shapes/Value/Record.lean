import Shapes.Value.Native

/-!
Object values as records, whose fields handlers take out one by one.
-/

namespace Shapes

/-- The content of an object value: the id it was declared under and its fields. -/
structure Record where
  id : String
  fields : Fields Value

namespace Record

def empty (id : String) : Record :=
  ⟨id, []⟩

def toValue (record : Record) : Value :=
  .object record.id record.fields

def get? (record : Record) (field : String) : Option Value :=
  record.fields.get? field

def insert (record : Record) (field : String) (value : Value) : Record :=
  { record with fields := Fields.insert field value record.fields }

/-- Takes a field out and converts it. The field is gone afterwards, whether it converted or not. -/
def take (record : Record) (native : NativeType) (field : String) :
    Except DataError native.Carrier × Record :=
  match record.get? field with
  | none => (.error (.missingField field), record)
  | some value =>
    ((native.ofValue value).mapError (.inField field),
      { record with fields := Fields.erase field record.fields })

end Record

namespace Value

/-- The content of an object value declared under `id`. -/
def toRecord (id : String) : Value → Except DataError Record
  | .object actual fields =>
    if actual = id then .ok ⟨actual, fields⟩
    else .error (.mismatch ("object " ++ Text.quote id) ("object " ++ Text.quote actual))
  | other => .error (.mismatch ("object " ++ Text.quote id) other.kindName)

end Value

end Shapes
