import Shapes.Json.Basic
import Shapes.Representation
import Shapes.Text.Quoted

/-!
Discriminators: the keys that tell the variants of a one-of apart, and how they are read from and
written to documents.
-/

namespace Shapes

inductive KeyKind where
  | int
  | string
deriving DecidableEq

/-- The key of a variant. -/
inductive Discriminant where
  | int (k : Int64)
  | string (s : String)
deriving DecidableEq

namespace Discriminant

def kind : Discriminant → KeyKind
  | .int _ => .int
  | .string _ => .string

/-- The plain text of the key. -/
def text : Discriminant → String
  | .int k => Text.ofInt64 k
  | .string s => s

/-- The text of the key with strings in quotation marks. -/
def quoted : Discriminant → String
  | .int k => Text.ofInt64 k
  | .string s => Text.quote s

def toJson : Discriminant → Json
  | .int k => .ofInt64 k
  | .string s => .string s

end Discriminant

namespace KeyKind

/-- The representation a field must have to hold keys of this kind. -/
def representation : KeyKind → Representation
  | .int => .int
  | .string => .string

/-- Reads a key from a document. Integers may be given as integral floats, or as text with white
space around it; strings only as strings. -/
def coerce : KeyKind → Json → Option Discriminant
  | .int, .string s => (Text.trimmedInt64? s).map .int
  | .int, .number n => n.toInt64?.map .int
  | .int, _ => none
  | .string, .string s => some (.string s)
  | .string, _ => none

/-- Reads a key from the name of an entry. -/
def parse? : KeyKind → String → Option Discriminant
  | .int, name => (Text.int64? name).map .int
  | .string, name => some (.string name)

theorem kind_of_coerce {kind : KeyKind} {json : Json} {key : Discriminant}
    (hcoerce : kind.coerce json = some key) : key.kind = kind := by
  cases kind <;> cases json <;> simp [coerce] at hcoerce
  · obtain ⟨k, _, rfl⟩ := hcoerce; rfl
  · obtain ⟨k, _, rfl⟩ := hcoerce; rfl
  · subst hcoerce; rfl

theorem kind_of_parse? {kind : KeyKind} {name : String} {key : Discriminant}
    (hparse : kind.parse? name = some key) : key.kind = kind := by
  cases kind <;> simp [parse?] at hparse
  · obtain ⟨k, _, rfl⟩ := hparse; rfl
  · subst hparse; rfl

theorem coerce_toJson (key : Discriminant) : key.kind.coerce key.toJson = some key := by
  cases key with
  | int k => simp [Discriminant.kind, Discriminant.toJson, Json.ofInt64, coerce]
  | string s => rfl

end KeyKind

end Shapes
