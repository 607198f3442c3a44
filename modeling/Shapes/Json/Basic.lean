import Shapes.Fields
import Shapes.Json.Number

/-!
JSON documents. The entries of an object keep the order in which they were written; two documents
are the same when they differ in that order only.
-/

namespace Shapes

inductive Json where
  | null
  | bool (b : Bool)
  | number (n : Number)
  | string (s : String)
  | array (items : List Json)
  | object (entries : List (String × Json))

instance : Inhabited Json := ⟨.null⟩

namespace Json

def kindName : Json → String
  | .null => "null"
  | .bool _ => "boolean"
  | .number _ => "number"
  | .string _ => "string"
  | .array _ => "array"
  | .object _ => "object"

def isNull : Json → Bool
  | .null => true
  | _ => false

def ofInt64 (k : Int64) : Json :=
  .number (.ofInt64 k)

mutual

/-- Levels of arrays and objects below the document itself. -/
def depth : Json → Nat
  | .array items => depthItems items
  | .object entries => depthEntries entries
  | _ => 0
termination_by structural json => json

/-- One more than the deepest item, 0 without items. -/
def depthItems : List Json → Nat
  | [] => 0
  | item :: rest => max (item.depth + 1) (depthItems rest)
termination_by structural items => items

/-- One more than the deepest entry, 0 without entries. -/
def depthEntries : List (String × Json) → Nat
  | [] => 0
  | (_, value) :: rest => max (value.depth + 1) (depthEntries rest)
termination_by structural entries => entries

end

mutual

/-- Whether two documents are equal up to the order of entries. -/
def same : Json → Json → Bool
  | .null, .null => true
  | .bool a, .bool b => a == b
  | .number a, .number b => a.same b
  | .string a, .string b => a == b
  | .array as, .array bs => sameItems as bs
  | .object as, .object bs => as.length == bs.length && sameEntries as bs
  | _, _ => false
termination_by structural json => json

def sameItems : List Json → List Json → Bool
  | [], [] => true
  | a :: as, b :: bs => a.same b && sameItems as bs
  | _, _ => false
termination_by structural items => items

/-- Whether every entry has one of the same name and content among `others`. -/
def sameEntries : List (String × Json) → Fields Json → Bool
  | [], _ => true
  | (name, a) :: as, others =>
    (match others.get? name with
      | some b => a.same b
      | none => false) && sameEntries as others
termination_by structural entries => entries

end

theorem depth_lt_of_mem_items {item : Json} {items : List Json} (hmem : item ∈ items) :
    item.depth < depthItems items := by
  induction items with
  | nil => cases hmem
  | cons head rest ih =>
    rw [depthItems]
    rcases List.mem_cons.1 hmem with rfl | hrest
    · omega
    · have := ih hrest
      omega

theorem depth_lt_of_mem_entries {name : String} {value : Json} {entries : Fields Json}
    (hmem : (name, value) ∈ entries) : value.depth < depthEntries entries := by
  induction entries with
  | nil => cases hmem
  | cons entry rest ih =>
    obtain ⟨known, content⟩ := entry
    rw [depthEntries]
    rcases List.mem_cons.1 hmem with heq | hmem
    · cases heq
      omega
    · have hlt := ih hmem
      omega

theorem depth_lt_of_get? {name : String} {value : Json} {entries : Fields Json}
    (hget : entries.get? name = some value) : value.depth < depthEntries entries := by
  induction entries with
  | nil => cases hget
  | cons entry rest ih =>
    obtain ⟨known, content⟩ := entry
    rw [Fields.get?_cons] at hget
    rw [depthEntries]
    split at hget
    · cases hget
      omega
    · have := ih hget
      omega

end Json

end Shapes
