import Shapes.Decimal.Shortest

/-!
Text of floats. Numbers of moderate size are written positionally and always show a fraction;
very large and very small ones are written with an exponent.
-/

namespace Shapes

/-- How a decimal number is laid out. -/
structure DecimalStyle where
  /-- Least exponent of the leading digit that is written positionally. -/
  positionalFrom : Int
  /-- Exponents of the leading digit from here on are not written positionally. -/
  positionalBelow : Int
  /-- Fraction of a positional number without one. -/
  emptyFraction : String
  /-- What stands between the digits and the exponent. -/
  mark : String
  /-- Sign of an exponent that is not negative. -/
  plus : String

namespace DecimalStyle

/-- JSON numbers: a leading digit from `10 ^ -5` to below `10 ^ 16` is positional, and a whole
number ends in `.0`. -/
def json : DecimalStyle where
  positionalFrom := -5
  positionalBelow := 16
  emptyFraction := ".0"
  mark := "e"
  plus := "+"

/-- Lays out the digits `d₀d₁…` of the number `d₀.d₁… · 10 ^ exponent`. -/
def layOut (style : DecimalStyle) (digits : List Char) (exponent : Int) : String :=
  let fraction (rest : List Char) : String := "." ++ String.ofList rest
  if style.positionalFrom ≤ exponent ∧ exponent < style.positionalBelow then
    if 0 ≤ exponent then
      let whole := exponent.toNat + 1
      let padding := List.replicate (whole - digits.length) '0'
      String.ofList (digits.take whole ++ padding) ++
        (if digits.length ≤ whole then style.emptyFraction else fraction (digits.drop whole))
    else "0" ++ fraction (List.replicate ((-exponent).toNat - 1) '0' ++ digits)
  else
    String.ofList (digits.take 1) ++
      (if digits.length ≤ 1 then "" else fraction (digits.drop 1)) ++
      style.mark ++ (if 0 ≤ exponent then style.plus else "") ++ toString exponent

/-- Writes a decimal number without trailing zeros in its digits. -/
def write (style : DecimalStyle) (d : Decimal) : String :=
  if d.coefficient = 0 then "0" ++ style.emptyFraction
  else
    let digits := Nat.toDigits 10 d.coefficient
    let significant := (digits.reverse.dropWhile (· == '0')).reverse
    style.layOut significant (d.exponent + digits.length - 1)

end DecimalStyle

/-- The shortest text of a float that reads back, with `NaN`, `inf` and `-inf` for the others. -/
def floatText (x : Float) : String :=
  match Binary.ofFloat? x with
  | some b => (if b.negative then "-" else "") ++ DecimalStyle.json.write b.shortest
  | none => if x.isNaN then "NaN" else if x < 0 then "-inf" else "inf"

end Shapes
