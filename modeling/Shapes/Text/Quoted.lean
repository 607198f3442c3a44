import Shapes.Text.Unprintable
import Shapes.Text.Extender

/-!
Names in messages: wrapped in quotation marks, with everything that would not show as itself
escaped. A message stays on one line, and two different names never look the same in it.
-/

namespace Shapes.Text

/-- Lower-case hexadecimal digits of `n`, without padding. -/
def hexadecimal (n : Nat) : String :=
  String.ofList (Nat.toDigits 16 n)

/-- How a character is written inside a quoted name. -/
def escape (c : Char) : String :=
  if c = '\x00' then "\\0"
  else if c = '\t' then "\\t"
  else if c = '\n' then "\\n"
  else if c = '\r' then "\\r"
  else if c = '\"' then "\\\""
  else if c = '\\' then "\\\\"
  else if isExtender c || isUnprintable c then "\\u\x7b" ++ hexadecimal c.toNat ++ "\x7d"
  else c.toString

/-- `name` in quotation marks. -/
def quote (name : String) : String :=
  "\"" ++ String.join (name.toList.map escape) ++ "\""

end Shapes.Text
