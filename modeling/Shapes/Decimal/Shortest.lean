import Shapes.Decimal.Binary

/-!
The fewest decimal digits that read back as a given float. Among the decimals with that many
digits the nearest one is chosen, and of two equally near ones the even one.
-/

namespace Shapes

/-- The decimal number `coefficient · 10 ^ exponent`. -/
structure Decimal where
  coefficient : Nat
  exponent : Int
deriving DecidableEq, Repr

namespace Binary

def digitCount (n : Nat) : Nat :=
  (Nat.toDigits 10 n).length

/-- Exponent of the decimal digit in front: `10 ^ e ≤ numerator / denominator < 10 ^ (e + 1)`. -/
def decade (numerator denominator : Nat) : Int :=
  if denominator ≤ numerator then digitCount (numerator / denominator) - 1
  else -(digitCount ((numerator + denominator - 1) / numerator - 1) : Int)

/-- The reals around `significand · 2 ^ exponent` that round to it, in units of a quarter of the
last binary place: `low` to `high`, with both ends included iff the significand is even. Below a
power of two the neighbours are closer. -/
structure Interval where
  low : Nat
  value : Nat
  high : Nat
  closed : Bool

/-- The rounding interval of a positive number. -/
def interval (b : Binary) : Interval where
  low := 4 * b.significand - (if b.significand = Nat.pow 2 52 ∧ -1074 < b.exponent then 1 else 2)
  value := 4 * b.significand
  high := 4 * b.significand + 2
  closed := b.significand % 2 == 0

/-- The multiple of `10 ^ place` chosen for the number, if one of the two around it reads back. -/
def onGrid? (b : Binary) (place : Int) : Option Decimal :=
  let unit := Nat.pow 2 (b.exponent - 2).toNat * Nat.pow 10 (-place).toNat
  let grid := Nat.pow 2 (2 - b.exponent).toNat * Nat.pow 10 place.toNat
  let range := b.interval
  let value := range.value * unit
  let below := value / grid
  let fits (point : Nat) : Bool :=
    if range.closed then range.low * unit ≤ point && point ≤ range.high * unit
    else range.low * unit < point && point < range.high * unit
  let choose (c : Nat) : Option Decimal := some ⟨c, place⟩
  match fits (below * grid), fits ((below + 1) * grid) with
  | true, true =>
    let twice := 2 * (value - below * grid)
    if twice < grid then choose below
    else if grid < twice then choose (below + 1)
    else choose (if below % 2 = 0 then below else below + 1)
  | true, false => choose below
  | false, true => choose (below + 1)
  | false, false => none

/-- The shortest decimal that reads back as the number; seventeen digits always do. -/
def shortest (b : Binary) : Decimal :=
  if b.significand = 0 then ⟨0, 0⟩
  else
    let front := decade (b.significand * Nat.pow 2 b.exponent.toNat) (Nat.pow 2 (-b.exponent).toNat)
    ((List.range 17).findSome? fun extra : Nat => b.onGrid? (front - extra)).getD ⟨b.significand, 0⟩

end Binary

end Shapes
