import Shapes.Json.Basic

/-!
Compact JSON text: no spaces, entries in stored order.
-/

namespace Shapes.Json

/-- How a character is written inside a string. -/
def escape (c : Char) : String :=
  if c = '\"' then "\\\""
  else if c = '\\' then "\\\\"
  else if c = '\x08' then "\\b"
  else if c = '\x0c' then "\\f"
  else if c = '\n' then "\\n"
  else if c = '\r' then "\\r"
  else if c = '\t' then "\\t"
  else if c.toNat < 0x10 then "\\u000" ++ String.ofList (Nat.toDigits 16 c.toNat)
  else if c.toNat < 0x20 then "\\u00" ++ String.ofList (Nat.toDigits 16 c.toNat)
  else c.toString

def stringText (s : String) : String :=
  "\"" ++ String.join (s.toList.map escape) ++ "\""

mutual

def text : Json → String
  | .null => "null"
  | .bool b => if b then "true" else "false"
  | .number n => n.text
  | .string s => stringText s
  | .array items => "[" ++ ",".intercalate (itemTexts items) ++ "]"
  | .object entries => "\x7b" ++ ",".intercalate (entryTexts entries) ++ "\x7d"
termination_by structural json => json

def itemTexts : List Json → List String
  | [] => []
  | item :: rest => item.text :: itemTexts rest
termination_by structural items => items

def entryTexts : List (String × Json) → List String
  | [] => []
  | (name, value) :: rest => (stringText name ++ ":" ++ value.text) :: entryTexts rest
termination_by structural entries => entries

end

end Shapes.Json
