import Shapes.Text.Integer

/-!
Finite floats as exact binary numbers. A float is read off its bits, so everything said about a
`Binary` is exact integer arithmetic.
-/

namespace Shapes

/-- The number `± significand · 2 ^ exponent`. -/
structure Binary where
  negative : Bool
  significand : Nat
  exponent : Int
deriving DecidableEq, Repr

namespace Binary

/-- The number a float stands for; infinities and NaN stand for none. -/
def ofFloat? (x : Float) : Option Binary :=
  let bits := x.toBits.toNat
  let negative := decide (Nat.pow 2 63 ≤ bits)
  let biased : Nat := bits / Nat.pow 2 52 % Nat.pow 2 11
  let fraction : Nat := bits % Nat.pow 2 52
  if biased = 2047 then none
  else if biased = 0 then some ⟨negative, fraction, -1074⟩
  else some ⟨negative, Nat.pow 2 52 + fraction, (biased : Int) - 1075⟩

/-- The size of the number, if it is an integer. -/
def magnitude? (b : Binary) : Option Nat :=
  match b.exponent with
  | .ofNat e => some (b.significand * Nat.pow 2 e)
  | .negSucc e =>
    if b.significand % Nat.pow 2 (e + 1) = 0 then some (b.significand / Nat.pow 2 (e + 1)) else none

/-- The integer the number is equal to, if it has no fraction. -/
def integer? (b : Binary) : Option Int :=
  b.magnitude?.map fun m => if b.negative then -(m : Int) else m

end Binary

/-- The 64-bit integer a float is equal to. Nothing is rounded: a float with a fraction or out of
range is equal to none. -/
def int64OfFloat? (x : Float) : Option Int64 :=
  ((Binary.ofFloat? x).bind Binary.integer?).bind int64?

end Shapes
