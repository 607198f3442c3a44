import Mathlib
import Shapes.Proofs.Decimal.Exact

/-!
Floats in order. A float has one mantissa and one exponent, so that comparing exponents first and mantissas
next compares the rationals that two floats stand for.
-/

open Float.Model Float.Model.UnpackedFloat

namespace Shapes

/-- Zero, or a finite number that fills the mantissa of binary64, or does not at the least exponent. -/
def Canonical : UnpackedFloat → Prop
  | .zero _ => True
  | .finite _ mantissa exponent _ =>
    mantissa < 2 ^ 53 ∧ (2 ^ 52 ≤ mantissa ∧ -1074 ≤ exponent ∨ exponent = -1074)
  | _ => False

private theorem canonical_unpack {b : BitVec Format.binary64.numBits}
    (hfinite : (UnpackedFloat.unpack Format.binary64 b).isFinite = true) :
    Canonical (UnpackedFloat.unpack Format.binary64 b) := by
  have hlt : (unpackMantissa b).toNat < 2 ^ 52 := (unpackMantissa b).isLt
  have hbias : (Format.binary64.exponentBias : Int) = 1023 := by decide
  unfold UnpackedFloat.unpack at hfinite ⊢
  dsimp only at hfinite ⊢
  split at hfinite
  · split at hfinite <;> cases hfinite
  · rename_i hne
    rw [if_neg hne]
    split
    · rename_i hzero
      split
      · trivial
      · refine ⟨by omega, Or.inr ?_⟩
        rw [hzero, hbias]
        rfl
    · rename_i hzero
      have hfield : (unpackExponent b).toNat ≠ 0 := fun heq => hzero (BitVec.eq_of_toNat_eq heq)
      simp only [Canonical]
      rw [toNat_implicit_append, hbias]
      omega

/-- The floats that stand for a rational are the finite ones. -/
theorem isSome_floatToRat? (x : Float) : (floatToRat? x).isSome = x.isFinite := by
  change _ = x.toModel.unpack.isFinite
  rw [floatToRat?]
  cases x.toModel.unpack with
  | finite sign => cases sign <;> rfl
  | _ => rfl

/-- Of two numbers the one of the lesser exponent is less, if the other fills its mantissa. -/
private theorem size_lt_of_exponent_lt {mantissa mantissa' : Nat} {exponent exponent' : Int}
    (hhigh : mantissa < 2 ^ 53) (hlow : 2 ^ 52 ≤ mantissa') (hless : exponent < exponent') :
    (mantissa : ℚ) * 2 ^ exponent < mantissa' * 2 ^ exponent' := by
  have hmantissa : (mantissa : ℚ) < 2 ^ 53 := by exact_mod_cast hhigh
  have hmantissa' : (2 : ℚ) ^ 52 ≤ mantissa' := by exact_mod_cast hlow
  calc (mantissa : ℚ) * 2 ^ exponent
      < 2 ^ 53 * 2 ^ exponent := mul_lt_mul_of_pos_right hmantissa (by positivity)
    _ = 2 ^ 52 * 2 ^ (exponent + 1) := by rw [zpow_add_one₀ (by norm_num)]; ring
    _ ≤ 2 ^ 52 * 2 ^ exponent' :=
        mul_le_mul_of_nonneg_left (zpow_le_zpow_right₀ (by norm_num) hless) (by positivity)
    _ ≤ mantissa' * 2 ^ exponent' := mul_le_mul_of_nonneg_right hmantissa' (by positivity)

private theorem compare_size {mantissa mantissa' : Nat} {exponent exponent' : Int} {sign sign' : Sign}
    {hpositive : 0 < mantissa} {hpositive' : 0 < mantissa'}
    (hcanonical : Canonical (.finite sign mantissa exponent hpositive))
    (hcanonical' : Canonical (.finite sign' mantissa' exponent' hpositive')) :
    (compare exponent exponent').then (compare mantissa mantissa') =
      compare ((mantissa : ℚ) * 2 ^ exponent) (mantissa' * 2 ^ exponent') := by
  obtain ⟨hhigh, hlow⟩ := hcanonical
  obtain ⟨hhigh', hlow'⟩ := hcanonical'
  rcases lt_trichotomy exponent exponent' with hless | rfl | hmore
  · rw [compare_lt_iff_lt.2 hless, compare_lt_iff_lt.2 (size_lt_of_exponent_lt hhigh (by omega) hless)]
    rfl
  · have hpower : (0 : ℚ) < 2 ^ exponent := by positivity
    have hmono : StrictMono fun size : Nat => (size : ℚ) * 2 ^ exponent :=
      fun _ _ hless => mul_lt_mul_of_pos_right (by exact_mod_cast hless) hpower
    rw [compare_eq_iff_eq.2 rfl, Ordering.eq_then, ← cmp_eq_compare, ← cmp_eq_compare]
    exact (hmono.cmp_map_eq mantissa mantissa').symm
  · rw [compare_gt_iff_gt.2 hmore, compare_gt_iff_gt.2 (size_lt_of_exponent_lt hhigh' (by omega) hmore)]
    rfl

private theorem compare_eq_of_toRat {u v : UnpackedFloat} {p q : ℚ} (hu : Canonical u) (hv : Canonical v)
    (hp : unpackedToRat? u = some p) (hq : unpackedToRat? v = some q) :
    u.compare v = some (compare p q) := by
  cases u with
  | infinity => cases hu
  | notANumber => cases hu
  | zero sign =>
    obtain rfl : 0 = p := Option.some.inj hp
    cases v with
    | infinity => cases hv
    | notANumber => cases hv
    | zero sign' =>
      obtain rfl : 0 = q := Option.some.inj hq
      exact congrArg some (compare_eq_iff_eq.2 rfl).symm
    | finite sign' mantissa' exponent' hpositive' =>
      have hsize : (0 : ℚ) < mantissa' * 2 ^ exponent' := by positivity
      cases sign' <;> obtain rfl := Option.some.inj hq
      · exact congrArg some (compare_gt_iff_gt.2 (neg_lt_zero.2 hsize)).symm
      · exact congrArg some (compare_lt_iff_lt.2 hsize).symm
  | finite sign mantissa exponent hpositive =>
    have hsize : (0 : ℚ) < mantissa * 2 ^ exponent := by positivity
    cases v with
    | infinity => cases hv
    | notANumber => cases hv
    | zero sign' =>
      obtain rfl : 0 = q := Option.some.inj hq
      cases sign <;> obtain rfl := Option.some.inj hp
      · exact congrArg some (compare_lt_iff_lt.2 (neg_lt_zero.2 hsize)).symm
      · exact congrArg some (compare_gt_iff_gt.2 hsize).symm
    | finite sign' mantissa' exponent' hpositive' =>
      have hsize' : (0 : ℚ) < mantissa' * 2 ^ exponent' := by positivity
      have hcompare := compare_size hu hv
      cases sign <;> cases sign' <;> obtain rfl := Option.some.inj hp <;> obtain rfl := Option.some.inj hq
      · refine congrArg some ?_
        rw [hcompare, ← Std.OrientedOrd.eq_swap, ← cmp_eq_compare, ← cmp_eq_compare]
        exact (StrictAnti.cmp_map_eq (fun _ _ => neg_lt_neg) _ _).symm
      · exact congrArg some (compare_lt_iff_lt.2 (by linarith)).symm
      · exact congrArg some (compare_gt_iff_gt.2 (by linarith)).symm
      · exact congrArg some hcompare

variable {x y : Float} {p q : ℚ}

/-- Floats compare as the rationals that they stand for. -/
theorem compare_of_toRat (hp : floatToRat? x = some p) (hq : floatToRat? y = some q) :
    x.toModel.unpack.compare y.toModel.unpack = some (compare p q) := by
  have hcanonical : ∀ {z : Float} {r : ℚ}, floatToRat? z = some r → Canonical z.toModel.unpack := by
    intro z r hr
    refine canonical_unpack (Eq.trans (isSome_floatToRat? z).symm ?_)
    rw [hr, Option.isSome_some]
  exact compare_eq_of_toRat (hcanonical hp) (hcanonical hq) hp hq

theorem lt_iff_of_toRat (hp : floatToRat? x = some p) (hq : floatToRat? y = some q) : x < y ↔ p < q := by
  have hlt : x < y ↔ (x.toModel.unpack.compare y.toModel.unpack == some .lt) = true := by
    change (decide _ = true) ↔ _
    rw [decide_eq_true_iff]
    rfl
  rw [hlt, compare_of_toRat hp hq, beq_iff_eq, Option.some.injEq, compare_lt_iff_lt]

theorem le_iff_of_toRat (hp : floatToRat? x = some p) (hq : floatToRat? y = some q) : x ≤ y ↔ p ≤ q := by
  have hle : x ≤ y ↔ (x.toModel.unpack.compare y.toModel.unpack).any Ordering.isLE = true := by
    change (decide _ = true) ↔ _
    rw [decide_eq_true_iff]
    rfl
  rw [hle, compare_of_toRat hp hq, Option.any_some, ← Ordering.ne_gt_iff_isLE]
  exact compare_le_iff_le

end Shapes
