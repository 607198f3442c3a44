import Mathlib
import Shapes.Json.Number

/-!
Numbers as rationals. A float stands for the rational that its sign, mantissa and exponent give, and
taking the integer out of a number never rounds.
-/

open Float.Model

namespace Shapes

namespace Binary

/-- The number itself. -/
def toRat (b : Binary) : ℚ :=
  let size : ℚ := b.significand * 2 ^ b.exponent
  if b.negative then -size else size

variable {b : Binary}

/-- A number has a size among the integers iff its size is an integer. -/
theorem magnitude?_eq_some_iff {m : Nat} :
    b.magnitude? = some m ↔ (b.significand : ℚ) * 2 ^ b.exponent = m := by
  obtain ⟨negative, significand, exponent⟩ := b
  cases exponent with
  | ofNat e =>
    have hsize : (significand : ℚ) * 2 ^ (Int.ofNat e) = (significand * Nat.pow 2 e : Nat) := by
      push_cast [Int.ofNat_eq_natCast, zpow_natCast]
      simp
    simp only [magnitude?, Option.some.injEq]
    rw [hsize, Nat.cast_inj]
  | negSucc e =>
    have hpos : (0 : ℚ) < 2 ^ (e + 1) := by positivity
    have hsize : (significand : ℚ) * 2 ^ (Int.negSucc e) = m ↔ significand = m * 2 ^ (e + 1) := by
      rw [zpow_negSucc, ← div_eq_mul_inv, div_eq_iff hpos.ne']
      exact_mod_cast Iff.rfl
    have htwo : 0 < 2 ^ (e + 1) := by positivity
    simp only [magnitude?]
    rw [hsize]
    show (if significand % 2 ^ (e + 1) = 0 then some (significand / 2 ^ (e + 1)) else none) = some m ↔ _
    constructor
    · intro hsome
      split at hsome
      · rename_i hdivides
        cases hsome
        exact (Nat.div_mul_cancel (Nat.dvd_of_mod_eq_zero hdivides)).symm
      · cases hsome
    · rintro rfl
      rw [if_pos (Nat.mul_mod_left _ _), Nat.mul_div_cancel _ htwo]

private theorem integer?_eq_map :
    b.integer? = b.magnitude?.map fun m : Nat => if b.negative then -(m : Int) else (m : Int) := by
  unfold integer?
  cases b.magnitude? <;> rfl

/-- A number has an integer iff it is one. -/
theorem integer?_eq_some_iff {n : Int} : b.integer? = some n ↔ b.toRat = n := by
  have hsize : (0 : ℚ) ≤ b.significand * 2 ^ b.exponent := by positivity
  simp only [integer?_eq_map, Option.map_eq_some_iff, magnitude?_eq_some_iff, toRat]
  generalize (b.significand : ℚ) * 2 ^ b.exponent = size at hsize
  cases b.negative with
  | false =>
    simp only [Bool.false_eq_true, if_false]
    constructor
    · rintro ⟨m, rfl, rfl⟩
      rfl
    · rintro rfl
      have hnonneg : 0 ≤ n := by exact_mod_cast hsize
      exact ⟨n.toNat, by exact_mod_cast (Int.toNat_of_nonneg hnonneg).symm, Int.toNat_of_nonneg hnonneg⟩
  | true =>
    simp only [if_true]
    constructor
    · rintro ⟨m, rfl, rfl⟩
      push_cast
      rfl
    · intro heq
      obtain rfl : size = -(n : ℚ) := by rw [← heq, neg_neg]
      have hnonneg : 0 ≤ -n := by exact_mod_cast hsize
      refine ⟨(-n).toNat, ?_, ?_⟩
      · exact_mod_cast (Int.toNat_of_nonneg hnonneg).symm
      · rw [Int.toNat_of_nonneg hnonneg, neg_neg]

end Binary

/-- The rational that a sign, a mantissa and an exponent stand for. Infinities and NaN stand for none. -/
def unpackedToRat? : UnpackedFloat → Option ℚ
  | .zero _ => some 0
  | .finite .negative mantissa exponent _ => some (-(mantissa * 2 ^ exponent))
  | .finite .positive mantissa exponent _ => some (mantissa * 2 ^ exponent)
  | _ => none

/-- The rational that a float stands for. -/
def floatToRat? (x : Float) : Option ℚ :=
  unpackedToRat? x.toModel.unpack

private theorem unpackedToRat?_finite {negative : Prop} [Decidable negative] {mantissa : Nat}
    {exponent : Int} (hpositive : 0 < mantissa) :
    unpackedToRat? (.finite (if negative then .negative else .positive) mantissa exponent hpositive) =
      some (if negative then -((mantissa : ℚ) * 2 ^ exponent) else (mantissa : ℚ) * 2 ^ exponent) := by
  split <;> rfl

/-- The bit that binary64 leaves out stands before the others. -/
theorem toNat_implicit_append (mantissa : BitVec 52) :
    (1#1 ++ mantissa).toNat = 2 ^ 52 + mantissa.toNat := by
  have hlt : mantissa.toNat < 2 ^ 52 := mantissa.isLt
  rw [BitVec.toNat_append, Nat.shiftLeft_eq, Nat.mul_comm, ← Nat.two_pow_add_eq_or_of_lt hlt]
  rfl

section Bits

variable (b : BitVec Format.binary64.numBits)

private theorem toNat_unpackMantissa :
    (UnpackedFloat.unpackMantissa b).toNat = b.toNat % 2 ^ 52 := by
  simp [UnpackedFloat.unpackMantissa, BitVec.extractLsb]

private theorem toNat_implicit_unpackMantissa :
    (1#1 ++ UnpackedFloat.unpackMantissa b).toNat = 2 ^ 52 + b.toNat % 2 ^ 52 := by
  rw [toNat_implicit_append, toNat_unpackMantissa]

private theorem toNat_unpackExponent :
    (UnpackedFloat.unpackExponent b).toNat = b.toNat / 2 ^ 52 % 2 ^ 11 := by
  simp [UnpackedFloat.unpackExponent, BitVec.extractLsb, Nat.shiftRight_eq_div_pow]

private theorem unpackSign_eq_zero_iff : UnpackedFloat.unpackSign b = 0#1 ↔ b.toNat < 2 ^ 63 := by
  have hlt : b.toNat < 2 ^ 64 := b.isLt
  have hsign : UnpackedFloat.unpackSign b = BitVec.extractLsb' 63 1 b := rfl
  rw [← BitVec.toNat_inj, hsign, BitVec.extractLsb'_toNat, BitVec.toNat_ofNat,
    Nat.shiftRight_eq_div_pow]
  omega

/-- The parts of the bits are the sign, mantissa and exponent of the float. -/
private theorem unpackedToRat?_unpack :
    unpackedToRat? (UnpackedFloat.unpack Format.binary64 b) =
      if b.toNat / 2 ^ 52 % 2 ^ 11 = 2047 then none
      else
        let size : ℚ :=
          if b.toNat / 2 ^ 52 % 2 ^ 11 = 0 then (b.toNat % 2 ^ 52 : Nat) * 2 ^ (-1074 : Int)
          else (2 ^ 52 + b.toNat % 2 ^ 52 : Nat) * 2 ^ ((b.toNat / 2 ^ 52 % 2 ^ 11 : Nat) - 1075 : Int)
        some (if 2 ^ 63 ≤ b.toNat then -size else size) := by
  have hbias : (Format.binary64.exponentBias : Int) = 1023 := by decide
  have hones : UnpackedFloat.unpackExponent b = -1#_ ↔ b.toNat / 2 ^ 52 % 2 ^ 11 = 2047 := by
    rw [← BitVec.toNat_inj, toNat_unpackExponent]
    rfl
  have hzeros : UnpackedFloat.unpackExponent b = 0#_ ↔ b.toNat / 2 ^ 52 % 2 ^ 11 = 0 := by
    rw [← BitVec.toNat_inj, toNat_unpackExponent]
    rfl
  have hempty : UnpackedFloat.unpackMantissa b = 0#_ ↔ b.toNat % 2 ^ 52 = 0 := by
    rw [← BitVec.toNat_inj, toNat_unpackMantissa]
    rfl
  have hsign : UnpackedFloat.Sign.ofBitVec (UnpackedFloat.unpackSign b) =
      if 2 ^ 63 ≤ b.toNat then .negative else .positive := by
    rw [UnpackedFloat.Sign.ofBitVec]
    simp only [unpackSign_eq_zero_iff, ← Nat.not_le, ite_not]
  unfold UnpackedFloat.unpack
  dsimp only
  rw [hsign, if_congr hones rfl rfl, if_congr hzeros rfl rfl]
  split
  · split <;> rfl
  · split
    · rename_i hbiased
      have hexponent : ((UnpackedFloat.unpackExponent b).toNat : Int) -
          (Format.binary64.exponentBias + (52 : Nat)) + 1 = -1074 := by
        rw [toNat_unpackExponent, hbiased, hbias]
        rfl
      split
      · rename_i hfraction
        rw [hempty.1 hfraction, Nat.cast_zero, zero_mul, neg_zero, ite_self]
        rfl
      · rw [unpackedToRat?_finite, toNat_unpackMantissa, hexponent]
    · have hexponent : ((UnpackedFloat.unpackExponent b).toNat : Int) -
          (Format.binary64.exponentBias + (52 : Nat)) = (b.toNat / 2 ^ 52 % 2 ^ 11 : Nat) - 1075 := by
        rw [toNat_unpackExponent, hbias]
        omega
      rw [unpackedToRat?_finite, toNat_implicit_unpackMantissa, hexponent]

end Bits

/-- What is read off the bits of a float is the float itself. -/
theorem Binary.map_toRat_ofFloat? (x : Float) :
    (Binary.ofFloat? x).map Binary.toRat = floatToRat? x := by
  have hbits : x.toBits.toNat = x.toModel.toBits.toBitVec.toNat := rfl
  have hmodel : floatToRat? x = unpackedToRat?
      (UnpackedFloat.unpack Format.binary64 x.toModel.toBits.toBitVec) := rfl
  rw [hmodel, unpackedToRat?_unpack]
  simp only [Binary.ofFloat?, hbits, Nat.pow_eq]
  split
  · rfl
  · split
    · simp [Binary.toRat]
    · simp [Binary.toRat]

/-- Floats that are equal as numbers stand for the same rational: both zeros stand for zero. -/
theorem floatToRat?_congr {x y : Float} (hequal : (x == y) = true) : floatToRat? x = floatToRat? y := by
  obtain ⟨-, -, hsame | ⟨hx, hy⟩ | ⟨hx, hy⟩⟩ := (UnpackedFloat.beq_iff_ne_notANumber_and_eq _ _).1 hequal
  · rw [floatToRat?, hsame, floatToRat?]
  · rw [floatToRat?, hx, floatToRat?, hy]
    rfl
  · rw [floatToRat?, hx, floatToRat?, hy]
    rfl

namespace Number

/-- The rational a number stands for, without rounding. -/
def Denotes (q : ℚ) : Number → Prop
  | .integer n _ => q = n
  | .float x _ => floatToRat? x = some q

/-- Taking the integer out of a number does not round: it gives the integer that the number stands for,
if that is one of 64 bits. -/
theorem toInt64?_eq_some_iff {n : Number} {k : Int64} :
    n.toInt64? = some k ↔ n.Denotes k.toInt := by
  cases n with
  | integer i range => simpa [toInt64?, Denotes] using int64?_eq_some_iff.trans eq_comm
  | float x finite =>
    simp only [toInt64?, int64OfFloat?, Denotes, ← Binary.map_toRat_ofFloat?,
      Option.bind_eq_some_iff, int64?_eq_some_iff, Option.map_eq_some_iff]
    constructor
    · rintro ⟨_, ⟨b, hb, hinteger⟩, rfl⟩
      exact ⟨b, hb, Binary.integer?_eq_some_iff.1 hinteger⟩
    · rintro ⟨b, hb, hvalue⟩
      exact ⟨_, ⟨b, hb, Binary.integer?_eq_some_iff.2 hvalue⟩, rfl⟩

/-- Numbers that are the same are equal to the same integer, if any. -/
theorem toInt64?_congr {n m : Number} (hsame : n.same m = true) : n.toInt64? = m.toInt64? := by
  refine Option.ext fun k => toInt64?_eq_some_iff.trans (Iff.trans ?_ toInt64?_eq_some_iff.symm)
  cases n with
  | integer i range =>
    cases m with
    | integer j range' =>
      obtain rfl := beq_iff_eq.1 hsame
      rfl
    | float y finite' => cases hsame
  | float x finite =>
    cases m with
    | integer j range' => cases hsame
    | float y finite' => rw [Denotes, Denotes, floatToRat?_congr hsame]

end Number

end Shapes
