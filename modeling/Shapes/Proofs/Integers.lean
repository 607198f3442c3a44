import Mathlib
import Shapes.Proofs.Decimal.Truncation
import Shapes.Proofs.Numerals
import Shapes.Proofs.Reading

/-!
Integers in documents. A number is read as the integer of 64 bits that it is equal to, and refused if there is none;
as a key it may also be given as text. Nothing is rounded, wrapped or taken to the end of the range.
-/

namespace Shapes

namespace Json

/-- The integer of 64 bits that the document is equal to. -/
def int64? : Json → Option Int64
  | .number m => m.toInt64?
  | _ => none

/-- The integer in the document, taken by way of the nearest float. -/
def throughFloat? : Json → Option Int64
  | .number m => m.throughFloat?
  | _ => none

/-- The document is a number, and equal to the integer. -/
def DenotesInteger (n : Int) : Json → Prop
  | .number m => m.Denotes n
  | _ => False

/-- The document is a text, and holds a numeral for the integer and nothing else but white space around it. -/
def NamesInteger (n : Int) : Json → Prop
  | .string s => Text.SurroundedNumeral s.toList n
  | _ => False

theorem int64?_eq_some_iff {document : Json} {k : Int64} :
    document.int64? = some k ↔ document.DenotesInteger k.toInt := by
  cases document with
  | number m => exact Number.toInt64?_eq_some_iff
  | _ => simp [int64?, DenotesInteger]

/-- Zero is one integer, whatever its sign as a float. -/
example : (Json.number (.float (-0.0) rfl)).int64? = some 0 := by decide +kernel

end Json

theorem Text.trimmedInt64?_eq_some_iff {text : String} {k : Int64} :
    trimmedInt64? text = some k ↔ SurroundedNumeral text.toList k.toInt := by
  rw [trimmedInt64?, Option.bind_eq_some_iff, ← integer?_trim_eq_some_iff]
  simp only [Shapes.int64?_eq_some_iff, exists_eq_right]

/-- Decimal text is a numeral. -/
theorem Text.trimmedInt64?_ofInt64 (k : Int64) : trimmedInt64? (ofInt64 k) = some k := by
  have hnumeral := integer?_eq_some_iff.1 (integer?_toString k.toInt)
  exact trimmedInt64?_eq_some_iff.2 hnumeral.surrounded

theorem KeyKind.coerce_int_eq_some_iff {document : Json} {k : Int64} :
    KeyKind.int.coerce document = some (.int k) ↔
      document.DenotesInteger k.toInt ∨ document.NamesInteger k.toInt := by
  cases document with
  | number m => simp [coerce, Json.DenotesInteger, Json.NamesInteger, Number.toInt64?_eq_some_iff]
  | string s => simp [coerce, Json.DenotesInteger, Json.NamesInteger, Text.trimmedInt64?_eq_some_iff]
  | _ => simp [coerce, Json.DenotesInteger, Json.NamesInteger]

example : KeyKind.int.coerce (.string "\t+007 ") = some (.int 7) := rfl

theorem Shape.result_read_int_eq_ok_iff {registry : Registry} {document : Json} {value : Value} :
    (Shape.read registry .int document).result = .ok value ↔ ∃ k, document.int64? = some k ∧ value = .int k := by
  refine readNested_eq_ok_iff.trans ⟨fun hreads => ?_, ?_⟩
  · cases hreads with
    | object hobject => cases hobject
    | int hinteger => exact ⟨_, hinteger, rfl⟩
  · rintro ⟨k, hinteger, rfl⟩
    cases document with
    | number m => exact .int hinteger
    | _ => cases hinteger

/-- The integers of 64 bits are those from `-2 ^ 63` to below `2 ^ 63`. -/
theorem exists_toInt_eq_iff (P : Int → Prop) {n : Int} :
    (∃ k : Int64, P k.toInt ∧ k.toInt = n) ↔ P n ∧ -2 ^ 63 ≤ n ∧ n < 2 ^ 63 := by
  constructor
  · rintro ⟨k, hk, rfl⟩
    exact ⟨hk, Int64.le_toInt k, Int64.toInt_lt k⟩
  · rintro ⟨hn, hlow, hhigh⟩
    have hrange : (Int64.ofInt n).toInt = n := Int64.toInt_ofInt_of_le hlow hhigh
    exact ⟨Int64.ofInt n, hrange.symm ▸ hn, hrange⟩

/-- A document is read as an integer exactly if it is a number equal to one from `-2 ^ 63` to below `2 ^ 63`, and as
that integer. Rounding to the nearest float, testing and cutting off comes to the same. The shape of integers reads
just these integers; integer keys are read from just these documents and from text that holds a numeral for such an
integer, among them the document and the decimal text of every key. -/
theorem Json.integers_exact (registry : Registry) :
    (∀ (document : Json) (n : Int), (∃ k : Int64, document.int64? = some k ∧ k.toInt = n) ↔
      document.DenotesInteger n ∧ -2 ^ 63 ≤ n ∧ n < 2 ^ 63) ∧
    (∀ document : Json, document.throughFloat? = document.int64?) ∧
    (∀ (document : Json) (value : Value), (Shape.read registry .int document).result = .ok value ↔
      ∃ k, document.int64? = some k ∧ value = .int k) ∧
    (∀ (document : Json) (n : Int), (∃ k : Int64, KeyKind.int.coerce document = some (.int k) ∧ k.toInt = n) ↔
      (document.DenotesInteger n ∨ document.NamesInteger n) ∧ -2 ^ 63 ≤ n ∧ n < 2 ^ 63) ∧
    ∀ k : Int64, KeyKind.int.coerce (.ofInt64 k) = some (.int k) ∧
      KeyKind.int.coerce (.string (Text.ofInt64 k)) = some (.int k) := by
  refine ⟨fun document n => ?_, fun document => ?_, fun document value => Shape.result_read_int_eq_ok_iff,
    fun document n => ?_, fun k => ⟨KeyKind.coerce_toJson (.int k), ?_⟩⟩
  · simp only [int64?_eq_some_iff]
    exact exists_toInt_eq_iff document.DenotesInteger
  · cases document with
    | number m => exact m.throughFloat?_eq
    | _ => rfl
  · simp only [KeyKind.coerce_int_eq_some_iff]
    exact exists_toInt_eq_iff fun n => document.DenotesInteger n ∨ document.NamesInteger n
  · rw [KeyKind.coerce, Text.trimmedInt64?_ofInt64]
    rfl

end Shapes
