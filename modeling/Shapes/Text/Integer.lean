import Shapes.Text.Blank

/-!
Decimal integers in text: an optional sign and at least one ASCII digit. Only integers of 64 bits
are read; nothing wraps or saturates.
-/

namespace Shapes

/-- The 64-bit integer equal to `n`, if `n` is in range. -/
def int64? (n : Int) : Option Int64 :=
  if -0x8000000000000000 ≤ n ∧ n < 0x8000000000000000 then some (Int64.ofInt n) else none

theorem int64?_toInt (k : Int64) : int64? k.toInt = some k := by
  have hlow := Int64.le_toInt k
  have hhigh := Int64.toInt_lt k
  simp only [int64?]
  rw [if_pos (by constructor <;> omega), Int64.ofInt_toInt]

theorem int64?_eq_some_iff {n : Int} {k : Int64} : int64? n = some k ↔ n = k.toInt := by
  constructor
  · intro h
    simp only [int64?] at h
    split at h
    · rename_i hrange
      cases h
      rw [Int64.toInt_ofInt_of_le (by omega) (by omega)]
    · cases h
  · rintro rfl
    exact int64?_toInt k

namespace Text

/-- The number that an unsigned text denotes: ASCII digits only, at least one. -/
def natural? (text : List Char) : Option Nat :=
  if text.isEmpty || !text.all Char.isDigit then none else some (Nat.ofDigitChars 10 text 0)

/-- The number that a text with an optional sign denotes. -/
def integer? : List Char → Option Int
  | '+' :: digits => (natural? digits).map fun n => (n : Int)
  | '-' :: digits => (natural? digits).map fun n => -(n : Int)
  | digits => (natural? digits).map fun n => (n : Int)

/-- The 64-bit integer that a text denotes. -/
def int64? (text : String) : Option Int64 :=
  (integer? text.toList).bind Shapes.int64?

/-- The 64-bit integer that a text denotes once the white space around it is removed. -/
def trimmedInt64? (text : String) : Option Int64 :=
  (integer? (trim text.toList)).bind Shapes.int64?

/-- Decimal text of a 64-bit integer. -/
def ofInt64 (k : Int64) : String :=
  toString k.toInt

theorem natural?_toDigits (n : Nat) : natural? (Nat.toDigits 10 n) = some n := by
  have hdigits : (Nat.toDigits 10 n).all Char.isDigit = true := by
    simp only [List.all_eq_true]
    exact fun c hc => Nat.isDigit_of_mem_toDigits (by decide) (by decide) hc
  simp [natural?, Nat.toDigits_ne_nil, hdigits]

theorem integer?_toString (n : Int) : integer? (toString n).toList = some n := by
  cases n with
  | ofNat n =>
    have htext : (toString (Int.ofNat n)).toList = Nat.toDigits 10 n := by
      simp [toString, Int.repr]
    rw [htext]
    have hread := natural?_toDigits n
    have hdigit : ∀ c ∈ Nat.toDigits 10 n, c.isDigit = true :=
      fun c hc => Nat.isDigit_of_mem_toDigits (by decide) (by decide) hc
    unfold integer?
    split
    · rename_i h; exact absurd (hdigit '+' (by simp [h])) (by decide)
    · rename_i h; exact absurd (hdigit '-' (by simp [h])) (by decide)
    · simp [hread]
  | negSucc n =>
    have htext : (toString (Int.negSucc n)).toList = '-' :: Nat.toDigits 10 (n + 1) := by
      simp [toString, Int.repr]
    rw [htext]
    simp [integer?, natural?_toDigits, Int.negSucc_eq]

theorem int64?_ofInt64 (k : Int64) : int64? (ofInt64 k) = some k := by
  rw [int64?, ofInt64, integer?_toString]
  exact int64?_toInt k

end Text

end Shapes
