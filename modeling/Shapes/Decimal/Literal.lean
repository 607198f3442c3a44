import Shapes.Decimal.Binary

/-!
Decimal literals and the floats they are read as. Text that a person typed is read exactly: the
float nearest to the literal, ties to even. Numbers in documents are read by scaling the leading
digits, which is quick and may miss the nearest float by a few units in the last place.
-/

namespace Shapes

/-- A decimal literal `±whole.fraction · 10 ^ exponent`, as spelled. -/
structure DecimalLiteral where
  negative : Bool
  whole : List Char
  fraction : Option (List Char)
  exponent : Option Int
deriving DecidableEq

namespace DecimalLiteral

/-- An exponent after its mark: an optional sign and digits. Gives the exponent and the rest. -/
def exponent? (text : List Char) : Option (Int × List Char) :=
  let unsigned (digits : List Char) : Option (Nat × List Char) :=
    (Text.natural? (digits.takeWhile Char.isDigit)).map (·, digits.dropWhile Char.isDigit)
  match text with
  | '+' :: digits => (unsigned digits).map fun (n, rest) => ((n : Int), rest)
  | '-' :: digits => (unsigned digits).map fun (n, rest) => (-(n : Int), rest)
  | digits => (unsigned digits).map fun (n, rest) => ((n : Int), rest)

/-- A literal with its sign already read: digits, a fraction after a point, an exponent after `e`
or `E`, each as far as it goes. Gives the literal and the rest of the text. -/
def unsigned? (negative : Bool) (text : List Char) : Option (DecimalLiteral × List Char) :=
  let whole := text.takeWhile Char.isDigit
  let (fraction, rest) := match text.dropWhile Char.isDigit with
    | '.' :: rest => (some (rest.takeWhile Char.isDigit), rest.dropWhile Char.isDigit)
    | rest => (none, rest)
  match rest with
  | mark :: after =>
    if mark = 'e' ∨ mark = 'E' then
      (exponent? after).map fun (exponent, rest) => (⟨negative, whole, fraction, some exponent⟩, rest)
    else some (⟨negative, whole, fraction, none⟩, rest)
  | [] => some (⟨negative, whole, fraction, none⟩, [])

/-- The value `negative` gives to a size. -/
def signed (negative : Bool) (size : Float) : Float :=
  if negative then -size else size

/-- The float nearest to the literal. -/
def nearest (literal : DecimalLiteral) : Float :=
  let fraction := literal.fraction.getD []
  let coefficient := Nat.ofDigitChars 10 (literal.whole ++ fraction) 0
  let place := literal.exponent.getD 0 - fraction.length
  signed literal.negative (Float.ofScientific coefficient (place < 0) place.natAbs)

/-- Appends digits to a significand for as long as it stays below `2 ^ 64`. Gives the significand
and the digits left over. -/
def absorb (significand : Nat) : List Char → Nat × List Char
  | [] => (significand, [])
  | digit :: rest =>
    let longer := significand * 10 + (digit.toNat - '0'.toNat)
    if longer < Nat.pow 2 64 then absorb longer rest else (significand, digit :: rest)

/-- The float nearest to a significand below `2 ^ 64`. -/
def ofSignificand (significand : Nat) : Float :=
  significand.toUInt64.toFloat

/-- The float nearest to `10 ^ e`. -/
def power (e : Nat) : Float :=
  Float.ofScientific 1 false e

/-- `significand · 10 ^ exponent` by one multiplication, or by one or two divisions. -/
def scale (significand : Nat) (exponent : Int) : Float :=
  if significand = 0 ∨ exponent < -616 then 0
  else if exponent < -308 then ofSignificand significand / power 308 / power (-exponent - 308).toNat
  else if exponent < 0 then ofSignificand significand / power (-exponent).toNat
  else if exponent ≤ 308 then ofSignificand significand * power exponent.toNat
  else 1 / 0

/-- The literal read by scaling: whole digits that do not fit the significand count as zeros,
digits of the fraction that do not fit are dropped. -/
def scaled (literal : DecimalLiteral) : Float :=
  let (leading, dropped) := absorb 0 literal.whole
  let fraction := literal.fraction.getD []
  let (significand, left) := absorb leading fraction
  let place : Int := (dropped.length : Int) - (fraction.length - left.length : Nat)
  signed literal.negative (scale significand (place + literal.exponent.getD 0))

end DecimalLiteral

/-- The float that a text names: a literal with an optional sign, `inf`, `infinity` or `nan` in any
case. A literal needs a digit before or after its point. -/
def float? (text : String) : Option Float :=
  let unsigned (negative : Bool) (chars : List Char) : Option Float :=
    match String.ofList (chars.map Char.toLower) with
    | "inf" | "infinity" => some (DecimalLiteral.signed negative (1 / 0))
    | "nan" => some (0 / 0)
    | _ =>
      match DecimalLiteral.unsigned? negative chars with
      | some (literal, []) =>
        if literal.whole.isEmpty && (literal.fraction.getD []).isEmpty then none
        else some literal.nearest
      | _ => none
  match text.toList with
  | '-' :: chars => unsigned true chars
  | '+' :: chars => unsigned false chars
  | chars => unsigned false chars

end Shapes
