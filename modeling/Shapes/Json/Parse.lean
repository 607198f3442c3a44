import Shapes.Json.Basic

/-!
Reading JSON text. A repeated name in an object replaces the earlier value and keeps its place.
Every reader takes the text from some point on and gives what it read with the rest.
-/

namespace Shapes.Json

/-- Drops the white space JSON allows between tokens. -/
def skipSpace : List Char → List Char
  | c :: rest => if c = ' ' ∨ c = '\t' ∨ c = '\n' ∨ c = '\r' then skipSpace rest else c :: rest
  | [] => []

def hexDigit? (c : Char) : Option Nat :=
  if '0' ≤ c ∧ c ≤ '9' then some (c.toNat - '0'.toNat)
  else if 'a' ≤ c ∧ c ≤ 'f' then some (c.toNat - 'a'.toNat + 10)
  else if 'A' ≤ c ∧ c ≤ 'F' then some (c.toNat - 'A'.toNat + 10)
  else none

def hex4? (a b c d : Char) : Option Nat := do
  return ((← hexDigit? a) * 16 + (← hexDigit? b)) * 256 + ((← hexDigit? c) * 16 + (← hexDigit? d))

/-- The character a one-letter escape stands for. -/
def letterEscape? : Char → Option Char
  | '\"' => some '\"'
  | '\\' => some '\\'
  | '/' => some '/'
  | 'b' => some '\x08'
  | 'f' => some '\x0c'
  | 'n' => some '\n'
  | 'r' => some '\r'
  | 't' => some '\t'
  | _ => none

/-- The characters of a string up to its closing quotation mark. A character beyond the basic plane
may be escaped as a surrogate pair; half a pair is refused, and so are bare control characters. -/
def stringBody? : List Char → Option (List Char × List Char)
  | [] => none
  | '\"' :: rest => some ([], rest)
  | '\\' :: 'u' :: a :: b :: c :: d :: '\\' :: 'u' :: e :: f :: g :: h :: rest => do
    let unit ← hex4? a b c d
    if 0xD800 ≤ unit ∧ unit < 0xDC00 then
      let low ← hex4? e f g h
      if 0xDC00 ≤ low ∧ low < 0xE000 then
        let (cs, rest) ← stringBody? rest
        return (Char.ofNat (0x10000 + (unit - 0xD800) * 1024 + (low - 0xDC00)) :: cs, rest)
      else none
    else if 0xDC00 ≤ unit ∧ unit < 0xE000 then none
    else
      let (cs, rest) ← stringBody? ('\\' :: 'u' :: e :: f :: g :: h :: rest)
      return (Char.ofNat unit :: cs, rest)
  | '\\' :: 'u' :: a :: b :: c :: d :: rest => do
    let unit ← hex4? a b c d
    if 0xD800 ≤ unit ∧ unit < 0xE000 then none
    else
      let (cs, rest) ← stringBody? rest
      return (Char.ofNat unit :: cs, rest)
  | '\\' :: letter :: rest => do
    let c ← letterEscape? letter
    let (cs, rest) ← stringBody? rest
    return (c :: cs, rest)
  | c :: rest => do
    if c.toNat < 0x20 then none
    else
      let (cs, rest) ← stringBody? rest
      return (c :: cs, rest)
termination_by structural text => text

/-- A number: no superfluous zero in front, and a digit on each side of a point. -/
def number? (text : List Char) : Option (Number × List Char) := do
  let (negative, unsigned) := match text with
    | '-' :: rest => (true, rest)
    | rest => (false, rest)
  let (literal, rest) ← DecimalLiteral.unsigned? negative unsigned
  match literal.whole with
  | [] => none
  | '0' :: _ :: _ => none
  | _ =>
    if literal.fraction = some [] then none
    else return (← Number.ofLiteral? literal, rest)

def after? (word : List Char) (text : List Char) : Option (List Char) :=
  if word.isPrefixOf text then some (text.drop word.length) else none

mutual

/-- A document, with at most `fuel` nested readings. -/
def value? : Nat → List Char → Option (Json × List Char)
  | 0, _ => none
  | fuel + 1, text =>
    match skipSpace text with
    | '\"' :: rest => (stringBody? rest).map fun (cs, rest) => (.string (String.ofList cs), rest)
    | '[' :: rest =>
      match skipSpace rest with
      | ']' :: rest => some (.array [], rest)
      | rest => (items? fuel rest).map fun (items, rest) => (.array items, rest)
    | '\x7b' :: rest =>
      match skipSpace rest with
      | '\x7d' :: rest => some (.object [], rest)
      | rest => (entries? fuel [] rest).map fun (entries, rest) => (.object entries, rest)
    | 'n' :: rest => (after? ['u', 'l', 'l'] rest).map (.null, ·)
    | 't' :: rest => (after? ['r', 'u', 'e'] rest).map (.bool true, ·)
    | 'f' :: rest => (after? ['a', 'l', 's', 'e'] rest).map (.bool false, ·)
    | rest => (number? rest).map fun (n, rest) => (.number n, rest)
termination_by structural fuel => fuel

/-- The items of an array up to its closing bracket. -/
def items? : Nat → List Char → Option (List Json × List Char)
  | 0, _ => none
  | fuel + 1, text => do
    let (item, rest) ← value? fuel text
    match skipSpace rest with
    | ']' :: rest => return ([item], rest)
    | ',' :: rest =>
      let (items, rest) ← items? fuel rest
      return (item :: items, rest)
    | _ => none
termination_by structural fuel => fuel

/-- The entries of an object up to its closing brace, added to those read before. -/
def entries? : Nat → Fields Json → List Char → Option (Fields Json × List Char)
  | 0, _, _ => none
  | fuel + 1, entries, text => do
    let rest ← after? ['\"'] (skipSpace text)
    let (name, rest) ← stringBody? rest
    let rest ← after? [':'] (skipSpace rest)
    let (value, rest) ← value? fuel rest
    let entries := Fields.insert (String.ofList name) value entries
    match skipSpace rest with
    | '\x7d' :: rest => return (entries, rest)
    | ',' :: rest => entries? fuel entries rest
    | _ => none
termination_by structural fuel => fuel

end

/-- The document a text holds, with white space around it. Every reading consumes a character, so
the length of the text is fuel enough. -/
def parse? (text : String) : Option Json := do
  let chars := text.toList
  let (json, rest) ← value? (chars.length + 1) chars
  if (skipSpace rest).isEmpty then return json else none

end Shapes.Json
