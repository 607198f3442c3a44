import Mathlib
import Shapes.Json.Number

/-!
Numbers of documents are finite as floats: converting a 64-bit integer rounds, but never overflows.
The argument follows the bit-level definition of floats: a number overflows only by its exponent, and
rounding an integer of 64 bits raises the exponent by far less than there is room for.
-/

open Float.Model Float.Model.UnpackedFloat

namespace Shapes

/-- Zero, or a finite number whose exponent binary64 has room for. -/
def ExponentFits : UnpackedFloat → Prop
  | .zero _ => True
  | .finite _ _ exponent _ => exponent ≤ 971
  | _ => False

private theorem isFinite_unpack {b : BitVec Format.binary64.numBits}
    (hexponent : unpackExponent b ≠ -1#_) :
    (UnpackedFloat.unpack Format.binary64 b).isFinite = true := by
  unfold UnpackedFloat.unpack
  simp only [hexponent, if_false]
  split
  · split <;> rfl
  · rfl

private theorem ofNat_ne_allOnes (biased : Nat) (hbiased : biased + 1 < 2 ^ 11) :
    BitVec.ofNat 11 biased ≠ -1#11 := by
  intro heq
  have hnat := congrArg BitVec.toNat heq
  simp only [BitVec.toNat_ofNat, BitVec.neg_one_eq_allOnes, BitVec.toNat_allOnes] at hnat
  omega

private theorem unpackExponent_pack {u : UnpackedFloat} (hfits : ExponentFits u) :
    unpackExponent (UnpackedFloat.pack Format.binary64 u) ≠ -1#_ := by
  cases u with
  | zero sign =>
    rw [UnpackedFloat.pack, packedZero, unpackExponent_packComponents]
    exact ofNat_ne_allOnes 0 (by decide)
  | finite sign mantissa exponent hpositive =>
    have hbiased : (exponent + (Format.binary64.exponentBias : Int) +
        Format.binary64.mantissaBitsWithoutImplicit).toNat + 1 < 2 ^ 11 := by
      simp only [ExponentFits] at hfits
      simp only [Format.exponentBias]
      omega
    unfold UnpackedFloat.pack
    dsimp only
    rw [if_neg (Nat.not_le.2 hbiased)]
    split
    · rw [unpackExponent_packComponents]
      exact ofNat_ne_allOnes _ hbiased
    · rw [unpackExponent_packComponents]
      exact ofNat_ne_allOnes 0 (by decide)
  | _ => exact hfits.elim

theorem isFinite_ofModel_pack {u : UnpackedFloat} (hfits : ExponentFits u) :
    (Float.ofModel (.pack u)).isFinite = true :=
  isFinite_unpack (unpackExponent_pack hfits)

/-- Shifting a mantissa to the right halves it as many times. -/
theorem mantissa_shiftRight (extended : ExtendedMantissa) (count : Nat) :
    (extended >>> count).mantissa = extended.mantissa / 2 ^ count := by
  induction count with
  | zero => exact (Nat.div_one _).symm
  | succ count ih =>
    change (extended >>> count).mantissa / 2 = _
    rw [ih, Nat.div_div_eq_div_mul, Nat.pow_succ]

/-- Rounding adds at most one to a mantissa. -/
theorem roundedMantissa_bounds (extended : ExtendedMantissa) :
    extended.mantissa ≤ extended.roundedMantissa ∧ extended.roundedMantissa ≤ extended.mantissa + 1 := by
  unfold ExtendedMantissa.roundedMantissa
  generalize extended.accuracy = accuracy
  cases accuracy with
  | exact => simp [Accuracy.roundToNearestEven]
  | inexact order =>
    cases order with
    | eq =>
      simp only [Accuracy.roundToNearestEven]
      omega
    | _ => simp [Accuracy.roundToNearestEven]

private theorem mantissa_shiftToTarget_le (mantissa : Nat) (exponent : Int) (accuracy : Accuracy) :
    (shiftToTargetExponent Format.binary64 mantissa exponent accuracy).1.mantissa ≤ mantissa := by
  simp only [shiftToTargetExponent, shiftToExponent, mantissa_shiftRight]
  refine Nat.le_trans (Nat.div_le_self _ _) ?_
  cases accuracy with
  | exact => exact Nat.le_refl _
  | inexact order => cases order <;> exact Nat.le_refl _

private theorem exponent_shiftToTarget_le (bits : Nat) (bound : Int) {mantissa : Nat}
    {exponent : Int} (accuracy : Accuracy) (hmantissa : mantissa < 2 ^ bits) (hbits : 0 < bits)
    (hbound : 0 ≤ bound) (hsum : bits + exponent ≤ bound) :
    (shiftToTargetExponent Format.binary64 mantissa exponent accuracy).2 ≤ bound := by
  have hlog : mantissa.log2 < bits := by
    by_cases hzero : mantissa = 0
    · simpa [hzero] using hbits
    · exact (Nat.log2_lt hzero).2 hmantissa
  simp only [shiftToTargetExponent, shiftToExponent, Format.targetExponent, totalExponent,
    Format.mantissaBits, Format.minExponent]
  omega

private theorem exponentFits_roundWithAccuracy {mantissa : Nat} {exponent : Int}
    (hmantissa : mantissa < 2 ^ 120) (hexponent : exponent ≤ 0) (sign : Sign) (accuracy : Accuracy) :
    ExponentFits (roundWithAccuracy Format.binary64 sign mantissa exponent accuracy) := by
  have hfirst : (shiftToTargetExponent Format.binary64 mantissa exponent accuracy).2 ≤ 120 :=
    exponent_shiftToTarget_le 120 120 accuracy hmantissa (by decide) (by decide) (by omega)
  have hrounded :
      (shiftToTargetExponent Format.binary64 mantissa exponent accuracy).1.roundedMantissa < 2 ^ 121 := by
    have hle := (roundedMantissa_bounds (shiftToTargetExponent Format.binary64 mantissa exponent accuracy).1).2
    have hshift := mantissa_shiftToTarget_le mantissa exponent accuracy
    omega
  have hsecond := exponent_shiftToTarget_le 121 300 .exact hrounded (by decide) (by decide)
    (show _ + (shiftToTargetExponent Format.binary64 mantissa exponent accuracy).2 ≤ (300 : Int) by omega)
  unfold roundWithAccuracy
  dsimp only
  split
  · trivial
  · simp only [ExponentFits]
    omega

private theorem exponentFits_round {mantissa : Nat} (hmantissa : mantissa < 2 ^ 64) (sign : Sign) :
    ExponentFits (UnpackedFloat.round Format.binary64 sign mantissa 0) := by
  unfold UnpackedFloat.round decreaseExponent
  dsimp only
  apply exponentFits_roundWithAccuracy
  · have hshift : (0 - Format.binary64.targetExponent (totalExponent mantissa 0)).toNat ≤ 52 := by
      simp only [Format.targetExponent, totalExponent, Format.mantissaBits, Format.minExponent]
      omega
    rw [Nat.shiftLeft_eq]
    calc mantissa * 2 ^ (0 - Format.binary64.targetExponent (totalExponent mantissa 0)).toNat
        ≤ mantissa * 2 ^ 52 := Nat.mul_le_mul_left mantissa (Nat.pow_le_pow_right (by decide) hshift)
      _ < 2 ^ 120 := by omega
  · omega

theorem isFinite_toFloat (n : UInt64) : n.toFloat.isFinite = true := by
  apply isFinite_ofModel_pack
  have hlt := n.toNat_lt
  change ExponentFits (UnpackedFloat.normalize Format.binary64 (n.toNat : Int) 0 .positive)
  unfold UnpackedFloat.normalize
  split
  · exact exponentFits_round (by omega) _
  · trivial
  · exact exponentFits_round (by omega) _

private theorem exponentFits_neg_unpack {b : BitVec Format.binary64.numBits}
    (hfinite : (UnpackedFloat.unpack Format.binary64 b).isFinite = true) :
    ExponentFits (UnpackedFloat.unpack Format.binary64 b).neg := by
  unfold UnpackedFloat.unpack at hfinite ⊢
  generalize unpackExponent b = field at hfinite ⊢
  have hlt : field.toNat < 2 ^ 11 := field.isLt
  have hbias : Format.binary64.exponentBias = 1023 := by decide
  dsimp only at hfinite ⊢
  split at hfinite
  · split at hfinite <;> cases hfinite
  · rename_i hne
    rw [if_neg hne]
    have hfield : field.toNat ≠ 2 ^ 11 - 1 := by
      intro hnat
      apply hne
      apply BitVec.eq_of_toNat_eq
      simpa [BitVec.neg_one_eq_allOnes] using hnat
    split
    · rename_i hzero
      split
      · trivial
      · simp only [UnpackedFloat.neg, ExponentFits, hbias, hzero]
        decide
    · simp only [UnpackedFloat.neg, ExponentFits, hbias]
      omega

theorem isFinite_neg {x : Float} (hfinite : x.isFinite = true) : (-x).isFinite = true :=
  isFinite_ofModel_pack (exponentFits_neg_unpack hfinite)

/-- A finite number is equal to itself, as only NaN is not. -/
theorem beq_self_of_isFinite {x : Float} (hfinite : x.isFinite = true) : (x == x) = true := by
  rw [Float.beq_self_iff]
  rintro rfl
  exact absurd hfinite (by decide)

namespace Number

theorem isFinite_toFloat (n : Number) : n.toFloat.isFinite = true := by
  cases n with
  | integer n range =>
    rw [toFloat, DecimalLiteral.signed]
    split
    · exact isFinite_neg (Shapes.isFinite_toFloat _)
    · exact Shapes.isFinite_toFloat _
  | float x finite => exact finite

theorem ofFloat?_toFloat (n : Number) :
    ofFloat? n.toFloat = some (.float n.toFloat n.isFinite_toFloat) :=
  dif_pos n.isFinite_toFloat

end Number

end Shapes
