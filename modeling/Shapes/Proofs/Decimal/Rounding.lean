import Mathlib
import Shapes.Proofs.Decimal.Exact
import Shapes.Proofs.Decimal.Finite

/-!
Integers rounded to floats. An integer of 64 bits that has the topmost bit set loses its eleven last bits, and may
gain one at the last place that is kept. Either way it stays at `2 ^ 63` or above.
-/

open Float.Model Float.Model.UnpackedFloat

namespace Shapes

/-- A number that fills the mantissa is packed without loss if its exponent has room. -/
private theorem unpack_pack_of_normal {sign : Sign} {mantissa : Nat} {exponent : Int}
    (hpositive : 0 < mantissa) (hlow : 2 ^ 52 ≤ mantissa) (hhigh : mantissa < 2 ^ 53)
    (hleast : -1074 ≤ exponent) (hgreatest : exponent ≤ 971) :
    UnpackedFloat.unpack Format.binary64
        (UnpackedFloat.pack Format.binary64 (.finite sign mantissa exponent hpositive)) =
      .finite sign mantissa exponent hpositive := by
  have hbias : Format.binary64.exponentBias = 1023 := by decide
  have hlog : mantissa.log2 = 52 := (Nat.log2_eq_iff hpositive.ne').2 ⟨hlow, hhigh⟩
  obtain ⟨biased, hbiased⟩ : ∃ biased : Nat, (biased : Int) = exponent + 1075 :=
    ⟨(exponent + 1075).toNat, by omega⟩
  have hpack : UnpackedFloat.pack Format.binary64 (.finite sign mantissa exponent hpositive) =
      packComponents Format.binary64 sign (BitVec.ofNat 11 biased) (BitVec.ofNat 52 mantissa) := by
    have hfield : (exponent + (1023 : Nat) + (52 : Nat)).toNat = biased := by omega
    unfold UnpackedFloat.pack
    dsimp only
    rw [hbias, hfield, hlog, if_neg (by omega)]
    rfl
  have hexponent : (BitVec.ofNat 11 biased).toNat = biased := by
    rw [BitVec.toNat_ofNat, Nat.mod_eq_of_lt (by omega)]
  have hmantissa : (1#1 ++ BitVec.ofNat 52 mantissa).toNat = mantissa := by
    rw [toNat_implicit_append, BitVec.toNat_ofNat]
    omega
  -- The exponent is neither that of infinities nor that of numbers with a shorter mantissa.
  have hones : BitVec.ofNat 11 biased ≠ -1#11 := by
    intro heq
    rw [heq] at hexponent
    change 2047 = biased at hexponent
    omega
  have hzeros : BitVec.ofNat 11 biased ≠ 0#11 := by
    intro heq
    rw [heq] at hexponent
    change 0 = biased at hexponent
    omega
  rw [hpack]
  unfold UnpackedFloat.unpack
  simp only [unpackMantissa_packComponents, unpackExponent_packComponents, unpackSign_packComponents,
    Sign.ofBitVec_toBitVec, hbias, hexponent, hmantissa]
  rw [if_neg hones, if_neg hzeros]
  congr 1
  omega

private theorem targetExponent_eq (bits : Nat) {mantissa : Nat} {exponent : Int}
    (hlow : 2 ^ bits ≤ mantissa) (hhigh : mantissa < 2 ^ (bits + 1)) (hleast : -1022 ≤ bits + exponent) :
    Format.binary64.targetExponent (totalExponent mantissa exponent) = bits + exponent - 52 := by
  have hpositive : 0 < mantissa := Nat.lt_of_lt_of_le (Nat.two_pow_pos bits) hlow
  have hlog : mantissa.log2 = bits := (Nat.log2_eq_iff hpositive.ne').2 ⟨hlow, hhigh⟩
  simp only [Format.targetExponent, totalExponent, Format.mantissaBits, Format.minExponent, hlog]
  omega

/-- An integer with the topmost of 64 bits set is cut to 53 bits. Rounding up may carry, which is shifted out
again. -/
private theorem exists_round_eq {size : Nat} (hlow : 2 ^ 63 ≤ size) (hhigh : size < 2 ^ 64) (sign : Sign) :
    ∃ (mantissa : Nat) (exponent : Int) (hpositive : 0 < mantissa),
      UnpackedFloat.round Format.binary64 sign size 0 = .finite sign mantissa exponent hpositive ∧
        2 ^ 52 ≤ mantissa ∧ mantissa < 2 ^ 53 ∧ (exponent = 11 ∨ exponent = 12) := by
  have htarget : Format.binary64.targetExponent (totalExponent size 0) = 11 :=
    targetExponent_eq 63 hlow hhigh (by decide)
  have hround : UnpackedFloat.round Format.binary64 sign size 0 =
      roundWithAccuracy Format.binary64 sign size 0 .exact := by
    unfold UnpackedFloat.round decreaseExponent
    rw [htarget]
    rfl
  obtain ⟨extended, hextended⟩ : ∃ extended : ExtendedMantissa,
      ExtendedMantissa.ofMantissaAndAccuracy size .exact >>> 11 = extended := ⟨_, rfl⟩
  have hfirst : shiftToTargetExponent Format.binary64 size 0 .exact = (extended, 11) := by
    rw [shiftToTargetExponent, htarget, shiftToExponent, ← hextended]
    rfl
  have hkept : extended.mantissa = size / 2 ^ 11 := by
    rw [← hextended, mantissa_shiftRight]
    rfl
  have hbounds := roundedMantissa_bounds extended
  rw [hround]
  unfold roundWithAccuracy
  rw [hfirst]
  dsimp only
  generalize extended.roundedMantissa = rounded at hbounds
  by_cases hcarry : rounded < 2 ^ 53
  · have hsecond : shiftToTargetExponent Format.binary64 rounded 11 .exact = (⟨rounded, false, false⟩, 11) := by
      rw [shiftToTargetExponent, targetExponent_eq 52 (by omega) hcarry (by decide)]
      rfl
    rw [hsecond]
    refine ⟨rounded, 11, by omega, ?_⟩
    rw [dif_neg (by dsimp only; omega)]
    exact ⟨rfl, by omega, hcarry, Or.inl rfl⟩
  · obtain rfl : rounded = 2 ^ 53 := by omega
    exact ⟨2 ^ 52, 12, by decide, rfl, by decide, by decide, Or.inr rfl⟩

/-- Rounding does not take an integer below `2 ^ 63`. -/
theorem exists_toRat_toFloat {n : UInt64} (hlow : 2 ^ 63 ≤ n.toNat) :
    ∃ q : ℚ, floatToRat? n.toFloat = some q ∧ 2 ^ 63 ≤ q := by
  obtain ⟨mantissa, exponent, hpositive, hround, hleast, hgreatest, hexponent⟩ :=
    exists_round_eq hlow n.toNat_lt .positive
  have hunpack : n.toFloat.toModel.unpack = .finite .positive mantissa exponent hpositive := by
    change UnpackedFloat.unpack _ (UnpackedFloat.pack _
      (UnpackedFloat.normalize Format.binary64 (n.toNat : Int) 0 .positive)) = _
    unfold UnpackedFloat.normalize
    rw [compare_gt_iff_gt.2 (by omega)]
    dsimp only
    rw [Int.toNat_natCast, hround, unpack_pack_of_normal _ hleast hgreatest (by omega) (by omega)]
  refine ⟨(mantissa : ℚ) * 2 ^ exponent, by rw [floatToRat?, hunpack]; rfl, ?_⟩
  have hmantissa : (2 : ℚ) ^ 52 ≤ mantissa := by exact_mod_cast hleast
  have hpower : (2 : ℚ) ^ (11 : Int) ≤ 2 ^ exponent := zpow_le_zpow_right₀ (by norm_num) (by omega)
  calc (2 : ℚ) ^ 63 = 2 ^ 52 * (2 : ℚ) ^ (11 : Int) := by norm_num
    _ ≤ (mantissa : ℚ) * 2 ^ exponent := mul_le_mul hmantissa hpower (by positivity) (by positivity)

end Shapes
