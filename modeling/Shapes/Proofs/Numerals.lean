import Mathlib
import Shapes.Text.Integer

/-!
Integers in text. A numeral is an optional sign and at least one decimal digit; reading accepts the numerals and
gives the integers that they denote. White space counts only around a numeral.
-/

namespace Shapes.Text

variable {text : List Char}

/-- A digit from 0 to 9. -/
def IsDecimal (c : Char) : Prop :=
  '0' ≤ c ∧ c ≤ '9'

instance (c : Char) : Decidable (IsDecimal c) :=
  inferInstanceAs (Decidable ('0' ≤ c ∧ c ≤ '9'))

/-- What digits denote in base ten, the last one being the units. -/
def decimalValue (digits : List Char) : Nat :=
  Nat.ofDigits 10 (digits.reverse.map fun c => c.toNat - '0'.toNat)

/-- The text is a numeral for the integer: an optional sign and at least one digit. -/
inductive Numeral : List Char → Int → Prop
  | plain {digits : List Char} (hne : digits ≠ []) (hdecimal : ∀ c ∈ digits, IsDecimal c) :
    Numeral digits (decimalValue digits)
  | plus {digits : List Char} (hne : digits ≠ []) (hdecimal : ∀ c ∈ digits, IsDecimal c) :
    Numeral ('+' :: digits) (decimalValue digits)
  | minus {digits : List Char} (hne : digits ≠ []) (hdecimal : ∀ c ∈ digits, IsDecimal c) :
    Numeral ('-' :: digits) (-(decimalValue digits : Int))

/-- The text is a numeral for the integer with any white space around it. -/
inductive SurroundedNumeral : List Char → Int → Prop
  | intro {before numeral after : List Char} {n : Int} (hbefore : ∀ c ∈ before, isBlank c = true)
    (hnumeral : Numeral numeral n) (hafter : ∀ c ∈ after, isBlank c = true) :
    SurroundedNumeral (before ++ numeral ++ after) n

theorem Numeral.surrounded {n : Int} (hnumeral : Numeral text n) : SurroundedNumeral text n := by
  have hsurrounded : SurroundedNumeral ([] ++ text ++ []) n :=
    .intro (List.forall_mem_nil _) hnumeral (List.forall_mem_nil _)
  rwa [List.append_nil] at hsurrounded

theorem isDigit_iff {c : Char} : c.isDigit = true ↔ IsDecimal c := by
  rw [Char.isDigit_iff_toNat]
  rfl

/-- Summing up from the front gives the value that counts from the back. -/
theorem ofDigitChars_eq (digits : List Char) : Nat.ofDigitChars 10 digits 0 = decimalValue digits := by
  induction digits using List.reverseRecOn with
  | nil => rfl
  | append_singleton front digit ih =>
    rw [Nat.ofDigitChars_append, ih, Nat.ofDigitChars_cons, Nat.ofDigitChars_nil]
    simp only [decimalValue, List.reverse_append, List.reverse_singleton, List.singleton_append, List.map_cons,
      Nat.ofDigits_cons]
    exact Nat.add_comm _ _

theorem natural?_eq_some_iff {n : Nat} :
    natural? text = some n ↔ (text ≠ [] ∧ ∀ c ∈ text, IsDecimal c) ∧ decimalValue text = n := by
  rw [natural?, Option.ite_none_left_eq_some, ofDigitChars_eq]
  simp [isDigit_iff]

/-- Digits are read alike behind any sign. -/
private theorem map_natural?_eq_some_iff {sign : Int → Int} {n : Int} :
    Option.map sign (do let size ← natural? text; pure (size : Int)) = some n ↔
      (text ≠ [] ∧ ∀ c ∈ text, IsDecimal c) ∧ sign (decimalValue text) = n := by
  simp only [bind_pure_comp, Option.map_eq_map, Option.map_map, Option.map_eq_some_iff, natural?_eq_some_iff,
    Function.comp_apply, and_assoc, exists_and_left, exists_eq_left']

/-- Reading accepts exactly the numerals. -/
theorem integer?_eq_some_iff {n : Int} : integer? text = some n ↔ Numeral text n := by
  constructor
  · intro hread
    unfold integer? at hread
    split at hread <;> obtain ⟨⟨hne, hdecimal⟩, rfl⟩ := map_natural?_eq_some_iff.1 hread
    · exact .plus hne hdecimal
    · exact .minus hne hdecimal
    · exact .plain hne hdecimal
  · intro hnumeral
    cases hnumeral with
    | plus hne hdecimal => exact map_natural?_eq_some_iff.2 ⟨⟨hne, hdecimal⟩, rfl⟩
    | minus hne hdecimal => exact map_natural?_eq_some_iff.2 ⟨⟨hne, hdecimal⟩, rfl⟩
    | plain hne hdecimal =>
      -- Neither sign is a digit.
      unfold integer?
      split
      · exact absurd (hdecimal '+' (List.mem_cons_self ..)) (by decide)
      · exact absurd (hdecimal '-' (List.mem_cons_self ..)) (by decide)
      · exact map_natural?_eq_some_iff.2 ⟨⟨hne, hdecimal⟩, rfl⟩

theorem isBlank_of_isDecimal {c : Char} (hdecimal : IsDecimal c) : isBlank c = false := by
  have hlow : 48 ≤ c.toNat := hdecimal.1
  have hhigh : c.toNat ≤ 57 := hdecimal.2
  have hapart : ∀ range ∈ blanks, range.2 < 48 ∨ 57 < range.1 := by decide
  rw [Bool.eq_false_iff, isBlank, Ne, Ranges.holds_iff]
  rintro ⟨range, hmem, hrange⟩
  have := hapart range hmem
  omega

/-- No white space stands inside a numeral. -/
theorem Numeral.isBlank_eq_false {n : Int} (hnumeral : Numeral text n) : ∀ c ∈ text, isBlank c = false := by
  have hdigits : ∀ {digits : List Char}, (∀ c ∈ digits, IsDecimal c) → ∀ c ∈ digits, isBlank c = false :=
    fun hdecimal c hmem => isBlank_of_isDecimal (hdecimal c hmem)
  cases hnumeral with
  | plain _ hdecimal => exact hdigits hdecimal
  | plus _ hdecimal => exact List.forall_mem_cons.2 ⟨by decide, hdigits hdecimal⟩
  | minus _ hdecimal => exact List.forall_mem_cons.2 ⟨by decide, hdigits hdecimal⟩

/-- Trimming removes white space at both ends and nothing else. -/
theorem exists_eq_append_trim (text : List Char) :
    ∃ before after, text = before ++ trim text ++ after ∧ (∀ c ∈ before, isBlank c = true) ∧
      ∀ c ∈ after, isBlank c = true := by
  refine ⟨text.takeWhile isBlank, (text.dropWhile isBlank).rtakeWhile isBlank, ?_, fun c => List.mem_takeWhile_imp,
    fun c => List.mem_rtakeWhile_imp⟩
  have htrim : trim text = (text.dropWhile isBlank).rdropWhile isBlank := rfl
  rw [htrim, List.append_assoc, List.rdropWhile_append_rtakeWhile, List.takeWhile_append_dropWhile]

/-- Reading trimmed text accepts exactly the numerals with white space around them. -/
theorem integer?_trim_eq_some_iff {n : Int} : integer? (trim text) = some n ↔ SurroundedNumeral text n := by
  rw [integer?_eq_some_iff]
  constructor
  · intro hnumeral
    obtain ⟨before, after, htext, hbefore, hafter⟩ := exists_eq_append_trim text
    rw [htext]
    exact .intro hbefore hnumeral hafter
  · rintro ⟨hbefore, hnumeral, hafter⟩
    rwa [trim_append hbefore hnumeral.isBlank_eq_false hafter]

end Shapes.Text
