import Mathlib
import ParameterDrift.Proofs.Text.Segments
import ParameterDrift.Text.Case
/-! # Blanks and letters that do not count

Trimming takes away the blanks that are put around a text
(`ParameterDrift.Text.trim_append_append`), and what it leaves is trimmed. Upper case forgets in
which case an ASCII letter was written, and since no letter is blank, the two do not get into each
other's way (`ParameterDrift.Text.upper_trim_eq_of_sameLetters`).
-/

namespace ParameterDrift.Text

/-- A text of blanks. -/
def IsBlankRun (text : List Char) : Prop :=
  ∀ c ∈ text, isBlank c = true

instance (text : List Char) : Decidable (IsBlankRun text) :=
  decidable_of_iff (text.all isBlank = true) List.all_eq_true

/-- Two texts are the same but for the case of their ASCII letters. -/
def SameLetters (left right : List Char) : Prop :=
  left.map Char.toLower = right.map Char.toLower

instance (left right : List Char) : Decidable (SameLetters left right) :=
  inferInstanceAs (Decidable (_ = _))

variable {before text after left right : List Char} {c : Char}

/-! ### Trimming -/

theorem trimStart_append_of_isBlankRun (blank : IsBlankRun before) :
    trimStart (before ++ text) = trimStart text :=
  List.dropWhile_append_of_pos blank

theorem trimEnd_append_of_isBlankRun (blank : IsBlankRun after) :
    trimEnd (text ++ after) = trimEnd text := by
  have reversed : IsBlankRun after.reverse := fun c member => blank c (List.mem_reverse.mp member)
  rw [trimEnd, dropEndWhile, List.reverse_append, List.dropWhile_append_of_pos reversed]
  rfl

/-- Blanks around a text are trimmed away. -/
theorem trim_append_append (blankBefore : IsBlankRun before) (blankAfter : IsBlankRun after) :
    trim (before ++ text ++ after) = trim text := by
  rw [trim, List.append_assoc, trimStart_append_of_isBlankRun blankBefore, trim, trimStart,
    List.dropWhile_append]
  split
  · next empty =>
    -- a text of blanks is gone with the blanks behind it
    rw [List.isEmpty_iff] at empty
    rw [List.dropWhile_eq_nil_iff.mpr blankAfter, trimStart, empty]
  · exact trimEnd_append_of_isBlankRun blankAfter

/-- A text that ends in a character other than a blank is trimmed at its start only. -/
theorem trim_concat (solid : isBlank c = false) : trim (text ++ [c]) = trimStart text ++ [c] := by
  have start : trimStart (text ++ [c]) = trimStart text ++ [c] := by
    rw [trimStart, List.dropWhile_append]
    split
    · next empty =>
      rw [List.isEmpty_iff] at empty
      rw [List.dropWhile_cons_of_neg (by rw [solid]; exact Bool.false_ne_true), trimStart, empty]
      rfl
    · rfl
  rw [trim, start, trimEnd, dropEndWhile, List.reverse_concat,
    List.dropWhile_cons_of_neg (by rw [solid]; exact Bool.false_ne_true), List.reverse_cons,
    List.reverse_reverse]

/-- What is left of a text has no blank at either end. -/
theorem trimmed_trim (text : List Char) : Trimmed (trim text) where
  first := by
    intro c head
    have kept : trim text <+: trimStart text := by
      have suffix : (trimStart text).reverse.dropWhile isBlank <:+ (trimStart text).reverse :=
        List.dropWhile_suffix isBlank
      rw [← List.reverse_reverse (trimStart text)]
      exact List.reverse_prefix.mpr suffix
    obtain ⟨rest, whole⟩ := kept
    have start : (trimStart text).head? = some c := by
      rw [← whole, List.head?_append, head, Option.some_or]
    have solid := List.head?_dropWhile_not isBlank text
    rw [← trimStart, start] at solid
    exact solid
  last := by
    intro c last
    rw [trim, trimEnd, dropEndWhile, List.getLast?_reverse] at last
    have solid := List.head?_dropWhile_not isBlank (trimStart text).reverse
    rw [last] at solid
    exact solid

/-! ### Letter case -/

/-- An ASCII letter is ASCII and no blank. -/
theorem solid_of_isAlpha (letter : c.isAlpha = true) : c.toNat < 0x80 ∧ isBlank c = false := by
  simp only [Char.isAlpha, Char.isUpper, Char.isLower, Bool.or_eq_true, Bool.and_eq_true,
    decide_eq_true_eq, ge_iff_le, UInt32.le_iff_toNat_le] at letter
  change (65 ≤ c.toNat ∧ c.toNat ≤ 90) ∨ (97 ≤ c.toNat ∧ c.toNat ≤ 122) at letter
  simp only [isBlank, isWhiteSpace, inRanges, whiteSpaceRanges, separatorRanges, List.any_cons,
    List.any_nil, Bool.or_eq_false_iff, Bool.and_eq_false_iff, decide_eq_false_iff_not, and_true]
  omega

theorem isAlpha_of_isUpper (capital : c.isUpper = true) : c.isAlpha = true := by
  rw [Char.isAlpha, capital, Bool.true_or]

theorem isBlank_toLower (c : Char) : isBlank c.toLower = isBlank c := by
  by_cases capital : c.isUpper = true
  · have letter := isAlpha_of_isUpper capital
    rw [(solid_of_isAlpha letter).2,
      (solid_of_isAlpha ((Char.isAlpha_toLower_eq_isAlpha c).trans letter)).2]
  · rw [Char.toLower_eq_of_not_isUpper capital]

/-- The case of an ASCII character does not matter for its capital. -/
theorem upperChar_toLower (c : Char) : Case.upperChar c.toLower = Case.upperChar c := by
  by_cases capital : c.isUpper = true
  · have letter := isAlpha_of_isUpper capital
    rw [Case.upperChar, Case.upperChar, if_pos (solid_of_isAlpha letter).1,
      if_pos (solid_of_isAlpha ((Char.isAlpha_toLower_eq_isAlpha c).trans letter)).1,
      Char.toUpper_toLower_eq_toUpper]
  · rw [Char.toLower_eq_of_not_isUpper capital]

/-- The case of the ASCII letters does not matter for capitals. -/
theorem upper_map_toLower (text : List Char) : upper (text.map Char.toLower) = upper text := by
  rw [upper, List.flatMap_map]
  exact List.flatMap_congr fun c _ => upperChar_toLower c

/-- The case of the ASCII letters does not matter for trimming. -/
theorem trim_map_toLower (text : List Char) :
    trim (text.map Char.toLower) = (trim text).map Char.toLower := by
  have same : isBlank ∘ Char.toLower = isBlank := funext isBlank_toLower
  rw [trim, trimStart, List.dropWhile_map, same, trimEnd, dropEndWhile, ← List.map_reverse,
    List.dropWhile_map, same, ← List.map_reverse]
  rfl

/-- Trimmed and in upper case, texts that are the same but for the case of letters are the same. -/
theorem upper_trim_eq_of_sameLetters (same : SameLetters left right) :
    upper (trim left) = upper (trim right) := by
  rw [← upper_map_toLower, ← trim_map_toLower, same, trim_map_toLower, upper_map_toLower]

end ParameterDrift.Text
