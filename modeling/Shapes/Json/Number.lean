import Shapes.Decimal.Literal
import Shapes.Decimal.Style

/-!
Numbers of a JSON document: integers of 64 bits, signed or unsigned, and finite floats. The
integer 1 and the float 1.0 are different numbers.
-/

namespace Shapes

inductive Number where
  | integer (n : Int) (range : -0x8000000000000000 ≤ n ∧ n < 0x10000000000000000)
  | float (x : Float) (finite : x.isFinite = true)
deriving DecidableEq

namespace Number

/-- The number for a float; infinities and NaN have none. -/
def ofFloat? (x : Float) : Option Number :=
  if finite : x.isFinite = true then some (.float x finite) else none

def ofInt? (n : Int) : Option Number :=
  if range : -0x8000000000000000 ≤ n ∧ n < 0x10000000000000000 then some (.integer n range) else none

def ofInt64 (k : Int64) : Number :=
  .integer k.toInt (by
    have hlow := Int64.le_toInt k
    have hhigh := Int64.toInt_lt k
    constructor <;> omega)

/-- The float nearest to the number. -/
def toFloat : Number → Float
  | .integer n _ => DecimalLiteral.signed (decide (n < 0)) (DecimalLiteral.ofSignificand n.natAbs)
  | .float x _ => x

/-- The 64-bit integer equal to the number, if there is one. Nothing is rounded. -/
def toInt64? : Number → Option Int64
  | .integer n _ => int64? n
  | .float x _ => int64OfFloat? x

/-- Equality of numbers: of integers, and of floats with both zeros equal. -/
def same : Number → Number → Bool
  | .integer m _, .integer n _ => m == n
  | .float x _, .float y _ => x == y
  | _, _ => false

def text : Number → String
  | .integer n _ => toString n
  | .float x _ => floatText x

/-- The number a literal stands for. A literal without fraction and exponent is an integer if it
is in range, save `-0`; any other is a float. A float beyond the largest has no number. -/
def ofLiteral? (literal : DecimalLiteral) : Option Number :=
  let size := Nat.ofDigitChars 10 literal.whole 0
  let n : Int := if literal.negative then -(size : Int) else size
  if literal.fraction.isNone && literal.exponent.isNone && !(literal.negative && size == 0) then
    match ofInt? n with
    | some number => some number
    | none => ofFloat? literal.scaled
  else ofFloat? literal.scaled

@[simp] theorem toInt64?_ofInt64 (k : Int64) : (ofInt64 k).toInt64? = some k :=
  int64?_toInt k

end Number

end Shapes
