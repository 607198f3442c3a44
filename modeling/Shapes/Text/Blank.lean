import Shapes.Text.Ranges

/-!
White space in the sense of the Unicode property White_Space, and text without the white space
around it.
-/

namespace Shapes.Text

/-- The characters with the property White_Space. -/
def blanks : Ranges := [
  (0x0009, 0x000D), (0x0020, 0x0020), (0x0085, 0x0085), (0x00A0, 0x00A0), (0x1680, 0x1680),
  (0x2000, 0x200A), (0x2028, 0x2029), (0x202F, 0x202F), (0x205F, 0x205F), (0x3000, 0x3000)]

/-- Whether `c` is white space. -/
def isBlank (c : Char) : Bool :=
  blanks.holds c

/-- The text between the white space at its two ends. -/
def trim (text : List Char) : List Char :=
  ((text.dropWhile isBlank).reverse.dropWhile isBlank).reverse

/-- Trimming leaves a text without white space that has white space around it. -/
theorem trim_append {before middle after : List Char} (hbefore : ∀ c ∈ before, isBlank c = true)
    (hmiddle : ∀ c ∈ middle, isBlank c = false) (hafter : ∀ c ∈ after, isBlank c = true) :
    trim (before ++ middle ++ after) = middle := by
  have hkeep : ∀ text : List Char, (∀ c ∈ text, isBlank c = false) → text.dropWhile isBlank = text := by
    intro text hnone
    cases text with
    | nil => rfl
    | cons c rest => simp [hnone c (by simp)]
  rw [trim, List.append_assoc, List.dropWhile_append_of_pos hbefore, List.dropWhile_append, hkeep middle hmiddle]
  split
  · rename_i hempty
    obtain rfl := List.isEmpty_iff.1 hempty
    have hdrop : (after ++ []).dropWhile isBlank = [] := List.dropWhile_append_of_pos hafter
    rw [List.append_nil] at hdrop
    rw [hdrop]
    rfl
  · rw [List.reverse_append, List.dropWhile_append_of_pos (by simpa using hafter),
      hkeep middle.reverse (by simpa using hmiddle), List.reverse_reverse]

end Shapes.Text
