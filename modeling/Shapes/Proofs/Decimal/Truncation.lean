import Mathlib
import Shapes.Proofs.Decimal.Order
import Shapes.Proofs.Decimal.Rounding

/-!
Integers taken out of numbers by way of floats. Nothing in this way is exact by itself: an integer beyond the
signed ones is rounded to a float, the greatest signed one rounds up when it serves as a bound, and cutting a float
off takes whatever lies beyond the range to its ends. The test in between lets through just what none of this changes.
-/

open Float.Model Float.Model.UnpackedFloat

namespace Shapes

/-- The float without its fraction, as an integer of 64 bits: the nearest one if it lies beyond, 0 for NaN. -/
def truncated (x : Float) : Int64 :=
  x.toModel.toInt64

/-- Whether the float has no fraction. -/
def isWhole (x : Float) : Bool :=
  ((Binary.ofFloat? x).bind Binary.integer?).isSome

/-- Whether the float lies from the least integer of 64 bits to below the greatest, both as floats. -/
def fitsInt64 (x : Float) : Bool :=
  decide ((Number.ofInt64 Int64.minValue).toFloat ≤ x) && decide (x < (Number.ofInt64 Int64.maxValue).toFloat)

namespace Number

/-- The integer of 64 bits that the number is stored as. -/
def stored? : Number → Option Int64
  | .integer n _ => int64? n
  | .float _ _ => none

/-- The integer in a number, taken by way of the nearest float unless the number is stored as one of 64 bits: a
float without fraction that fits is cut off. -/
def throughFloat? (n : Number) : Option Int64 :=
  match n.stored? with
  | some k => some k
  | none => if isWhole n.toFloat && fitsInt64 n.toFloat then some (truncated n.toFloat) else none

end Number

/-- Cutting a finite number off keeps what the exponent leaves of its mantissa. -/
private theorem toInt_finite {sign : Sign} {mantissa : Nat} {exponent : Int} {hpositive : 0 < mantissa}
    (low high : Int) :
    (UnpackedFloat.finite sign mantissa exponent hpositive).toInt low high =
      sign.apply ((mantissa * 2 ^ exponent.toNat / 2 ^ (-exponent).toNat : Nat) : Int) := by
  have hleft : (exponent - (exponent - 0).toNat : Int) = -((-exponent).toNat : Int) := by omega
  have hshift : (0 - -((-exponent).toNat : Int)).toNat = (-exponent).toNat := by omega
  simp only [toInt, roundToInt, decreaseExponent, shiftToExponent, hleft, hshift, mantissa_shiftRight]
  rw [Int.sub_zero, Nat.shiftLeft_eq]
  rfl

private theorem quotient_eq_of_size_eq {mantissa size : Nat} {exponent : Int}
    (hsize : (mantissa : ℚ) * 2 ^ exponent = size) :
    mantissa * 2 ^ exponent.toNat / 2 ^ (-exponent).toNat = size := by
  have hpower : (2 : ℚ) ^ exponent = 2 ^ exponent.toNat / 2 ^ (-exponent).toNat := by
    rw [← zpow_natCast, ← zpow_natCast, ← zpow_sub₀ (by norm_num)]
    congr 1
    omega
  rw [hpower, ← mul_div_assoc, div_eq_iff (by positivity)] at hsize
  have hproduct : mantissa * 2 ^ exponent.toNat = size * 2 ^ (-exponent).toNat := by exact_mod_cast hsize
  rw [hproduct, Nat.mul_div_cancel _ (by positivity)]

/-- Cutting an integer off changes nothing. -/
private theorem toInt_of_toRat {u : UnpackedFloat} {n : Int} (hn : unpackedToRat? u = some (n : ℚ))
    (low high : Int) : u.toInt low high = n := by
  cases u with
  | infinity => cases hn
  | notANumber => cases hn
  | zero sign =>
    have hzero : (0 : ℚ) = n := Option.some.inj hn
    exact_mod_cast hzero
  | finite sign mantissa exponent hpositive =>
    have hnonneg : (0 : ℚ) ≤ mantissa * 2 ^ exponent := by positivity
    rw [toInt_finite]
    cases sign with
    | negative =>
      have hvalue : (mantissa : ℚ) * 2 ^ exponent = (-n : Int) := by
        rw [Int.cast_neg, ← Option.some.inj hn, neg_neg]
      rw [hvalue] at hnonneg
      obtain ⟨size, hsize⟩ := Int.eq_ofNat_of_zero_le (by exact_mod_cast hnonneg)
      rw [hsize] at hvalue
      rw [quotient_eq_of_size_eq (by exact_mod_cast hvalue), Sign.apply, ← hsize, neg_neg]
    | positive =>
      have hvalue : (mantissa : ℚ) * 2 ^ exponent = n := Option.some.inj hn
      rw [hvalue] at hnonneg
      obtain ⟨size, rfl⟩ := Int.eq_ofNat_of_zero_le (by exact_mod_cast hnonneg)
      rw [quotient_eq_of_size_eq (by exact_mod_cast hvalue)]
      rfl

section

variable {x : Float} {q : ℚ}

theorem truncated_of_toRat {k : Int64} (hk : floatToRat? x = some (k.toInt : ℚ)) : truncated x = k := by
  have htruncated : truncated x =
      Int64.ofIntClamp (x.toModel.unpack.toInt Int64.minValue.toInt Int64.maxValue.toInt) := rfl
  rw [htruncated, toInt_of_toRat hk, Int64.ofIntClamp_toInt]

theorem isWhole_iff (hq : floatToRat? x = some q) : isWhole x = true ↔ ∃ n : Int, q = n := by
  rw [← Binary.map_toRat_ofFloat?] at hq
  obtain ⟨b, hb, rfl⟩ := Option.map_eq_some_iff.1 hq
  simp only [isWhole, hb, Option.bind_some, Option.isSome_iff_exists, Binary.integer?_eq_some_iff]

/-- As a float, the greatest integer of 64 bits is `2 ^ 63`, which no integer of 64 bits reaches. -/
private theorem toRat_greatest : floatToRat? (Number.ofInt64 Int64.maxValue).toFloat = some (2 ^ 63) := by
  have hunpack : (Number.ofInt64 Int64.maxValue).toFloat.toModel.unpack =
      .finite .positive (2 ^ 52) 11 (by decide) := rfl
  rw [floatToRat?, hunpack]
  norm_num [unpackedToRat?]

private theorem toRat_least : floatToRat? (Number.ofInt64 Int64.minValue).toFloat = some (-2 ^ 63) := by
  have hunpack : (Number.ofInt64 Int64.minValue).toFloat.toModel.unpack =
      .finite .negative (2 ^ 52) 11 (by decide) := rfl
  rw [floatToRat?, hunpack]
  norm_num [unpackedToRat?]

theorem fitsInt64_iff (hq : floatToRat? x = some q) : fitsInt64 x = true ↔ -2 ^ 63 ≤ q ∧ q < 2 ^ 63 := by
  rw [fitsInt64, Bool.and_eq_true, decide_eq_true_iff, decide_eq_true_iff, le_iff_of_toRat toRat_least hq,
    lt_iff_of_toRat hq toRat_greatest]

/-- A float that passes the test is cut off to the integer that it stands for, and no other passes. -/
theorem truncated_eq_some_iff (hq : floatToRat? x = some q) {k : Int64} :
    (if isWhole x && fitsInt64 x then some (truncated x) else none) = some k ↔ q = k.toInt := by
  rw [Option.ite_none_right_eq_some, Bool.and_eq_true, isWhole_iff hq, fitsInt64_iff hq, Option.some.injEq]
  constructor
  · rintro ⟨⟨⟨n, rfl⟩, hleast, hgreatest⟩, rfl⟩
    have hrange : (Int64.ofInt n).toInt = n :=
      Int64.toInt_ofInt_of_le (by exact_mod_cast hleast) (by exact_mod_cast hgreatest)
    rw [← hrange] at hq ⊢
    rw [truncated_of_toRat hq]
  · rintro rfl
    have hlow := Int64.le_toInt k
    have hhigh := Int64.toInt_lt k
    exact ⟨⟨⟨_, rfl⟩, by exact_mod_cast hlow, by exact_mod_cast hhigh⟩, truncated_of_toRat hq⟩

end

namespace Number

/-- An integer that is not one of 64 bits lies beyond them, and so does its nearest float. -/
private theorem fitsInt64_toFloat_of_none {i : Int}
    {range : -0x8000000000000000 ≤ i ∧ i < 0x10000000000000000} (hnone : int64? i = none) :
    fitsInt64 (integer i range).toFloat = false := by
  have hbeyond : 2 ^ 63 ≤ i := by
    by_contra hnot
    rw [int64?, if_pos (by omega)] at hnone
    cases hnone
  have hsize : i.natAbs.toUInt64.toNat = i.natAbs :=
    UInt64.toNat_ofNat_of_lt' (show i.natAbs < 2 ^ 64 by omega)
  have htoFloat : (integer i range).toFloat = i.natAbs.toUInt64.toFloat := by
    rw [toFloat, DecimalLiteral.signed, if_neg (by simp; omega)]
    rfl
  obtain ⟨q, hq, hrounded⟩ := exists_toRat_toFloat (n := i.natAbs.toUInt64) (by omega)
  rw [htoFloat, Bool.eq_false_iff, Ne, fitsInt64_iff hq]
  exact fun hfits => absurd hfits.2 (not_lt.2 hrounded)

/-- The way by the nearest float ends at the same integer, if any, as the exact one. -/
theorem throughFloat?_eq (n : Number) : n.throughFloat? = n.toInt64? := by
  cases n with
  | integer i range =>
    rw [throughFloat?, stored?, toInt64?]
    cases hstored : int64? i with
    | some k => rfl
    | none =>
      dsimp only
      rw [fitsInt64_toFloat_of_none hstored, Bool.and_false]
      rfl
  | float x finite =>
    obtain ⟨q, hq⟩ := Option.isSome_iff_exists.1 ((isSome_floatToRat? x).trans finite)
    refine Option.ext fun k => (truncated_eq_some_iff hq).trans ?_
    rw [toInt64?_eq_some_iff, Denotes, hq, Option.some.injEq]

end Number

end Shapes
