import Shapes.DataError
import Shapes.Value.Discriminant

/-!
Native values: what reading an input by its shape gives, and what writing by a shape takes.
-/

namespace Shapes

inductive Value where
  | null
  | bool (b : Bool)
  | int (k : Int64)
  | float (x : Float)
  | string (s : String)
  | list (items : List Value)
  /-- An object declared under `id`; absent optional fields hold `null`. -/
  | object (id : String) (fields : List (String × Value))
  /-- The value of the variant with the given key. -/
  | oneOf (key : Discriminant) (value : Value)
  /-- An untyped document, passed through unchanged. -/
  | any (json : Json)

namespace Value

def kindName : Value → String
  | .null => "null"
  | .bool _ => "bool"
  | .int _ => "int"
  | .float _ => "float"
  | .string _ => "string"
  | .list _ => "list"
  | .object _ _ => "object"
  | .oneOf _ _ => "one-of"
  | .any _ => "any"

/-- Whether the value is `null`. The untyped document `null` is not. -/
def isNull : Value → Bool
  | .null => true
  | _ => false

def string? : Value → Option String
  | .string s => some s
  | _ => none

def int? : Value → Option Int64
  | .int k => some k
  | _ => none

def key? : Value → Option Discriminant
  | .oneOf key _ => some key
  | _ => none

/-- The id an object value was declared under. -/
def objectId? : Value → Option String
  | .object id _ => some id
  | _ => none

/-- The id of the object inside a one-of value. -/
def variantId? : Value → Option String
  | .oneOf _ value => value.objectId?
  | _ => none

mutual

/-- Levels of lists, objects and one-ofs below the value itself. -/
def depth : Value → Nat
  | .list items => depthItems items
  | .object _ fields => depthFields fields
  | .oneOf _ value => value.depth + 1
  | _ => 0
termination_by structural value => value

/-- One more than the deepest item, 0 without items. -/
def depthItems : List Value → Nat
  | [] => 0
  | item :: rest => max (item.depth + 1) (depthItems rest)
termination_by structural items => items

/-- One more than the deepest field, 0 without fields. -/
def depthFields : List (String × Value) → Nat
  | [] => 0
  | (_, value) :: rest => max (value.depth + 1) (depthFields rest)
termination_by structural fields => fields

end

mutual

/-- Whether two values are equal. The order of fields does not matter; floats compare as numbers,
so NaN differs from itself and both zeros are equal. -/
def same : Value → Value → Bool
  | .null, .null => true
  | .bool a, .bool b => a == b
  | .int a, .int b => a == b
  | .float a, .float b => a == b
  | .string a, .string b => a == b
  | .list as, .list bs => sameItems as bs
  | .object i as, .object j bs => i == j && as.length == bs.length && sameFields as bs
  | .oneOf k a, .oneOf l b => k == l && a.same b
  | .any a, .any b => a.same b
  | _, _ => false
termination_by structural value => value

def sameItems : List Value → List Value → Bool
  | [], [] => true
  | a :: as, b :: bs => a.same b && sameItems as bs
  | _, _ => false
termination_by structural items => items

/-- Whether every field has one of the same name and content among `others`. -/
def sameFields : List (String × Value) → Fields Value → Bool
  | [], _ => true
  | (name, a) :: as, others =>
    (match others.get? name with
      | some b => a.same b
      | none => false) && sameFields as others
termination_by structural fields => fields

end

mutual

/-- The document for a value, by its structure alone. A one-of gives its inner value without a
discriminator, a float that is not finite gives `null`, and `null` fields are left out. -/
def toJson : Value → Json
  | .null => .null
  | .bool b => .bool b
  | .int k => .ofInt64 k
  | .float x => ((Number.ofFloat? x).map Json.number).getD .null
  | .string s => .string s
  | .list items => .array (itemsToJson items)
  | .object _ fields => .object (fieldsToJson fields)
  | .oneOf _ value => value.toJson
  | .any json => json
termination_by structural value => value

def itemsToJson : List Value → List Json
  | [] => []
  | item :: rest => item.toJson :: itemsToJson rest
termination_by structural items => items

/-- The entries for the fields that are not `null`. -/
def fieldsToJson : List (String × Value) → List (String × Json)
  | [] => []
  | (name, value) :: rest =>
    if value.isNull then fieldsToJson rest else (name, value.toJson) :: fieldsToJson rest
termination_by structural fields => fields

end

theorem depth_lt_of_mem_items {item : Value} {items : List Value} (hmem : item ∈ items) :
    item.depth < depthItems items := by
  induction items with
  | nil => cases hmem
  | cons head rest ih =>
    rw [depthItems]
    rcases List.mem_cons.1 hmem with rfl | hrest
    · omega
    · have := ih hrest
      omega

theorem depth_lt_of_get? {name : String} {value : Value} {fields : Fields Value}
    (hget : fields.get? name = some value) : value.depth < depthFields fields := by
  induction fields with
  | nil => cases hget
  | cons entry rest ih =>
    obtain ⟨known, content⟩ := entry
    rw [Fields.get?_cons] at hget
    rw [depthFields]
    split at hget
    · cases hget
      omega
    · have := ih hget
      omega

end Value

end Shapes
