import Mathlib.Data.List.TakeWhile
import ParameterDrift.Proofs.Outcome
import ParameterDrift.Proofs.Text.Segments
import ParameterDrift.Signature.Implemented
/-! # When an identifier cannot be read

Reading an identifier fails at the escape of a code point beyond the last of Unicode and nowhere
else: any other backslash, brace or run of digits is plain text
(`ParameterDrift.Identifier.exists_unescape_eq_ok_iff`). A path is shown by the plain text of its
segments, and since an escape holds neither a slash nor a blank, a path can be shown exactly when it
holds no such escape (`ParameterDrift.DisplayPath.exists_ofString_eq_ok_iff`).
-/

namespace ParameterDrift.Identifier

/-- The escape of a code point: its digits in braces after a backslash and a `u`. -/
def codePointEscape (digits : List Char) : List Char :=
  '\\' :: 'u' :: '\x7b' :: (digits ++ ['\x7d'])

/-- Digits that a code point is written with: one to six hexadecimal ones. -/
def IsCodePoint (digits : List Char) : Prop :=
  1 ≤ digits.length ∧ digits.length ≤ maxCodePointDigits ∧
    ∀ c ∈ digits, Numeral.isHexDigit c = true

/-- A text holds the escape of a code point beyond the last. -/
def HoldsFarCodePoint (text : List Char) : Prop :=
  ∃ digits, IsCodePoint digits ∧ lastCodePoint < codePoint digits ∧
    codePointEscape digits <:+: text

/-- A text holds the escape of half a surrogate pair, a code point that no text can hold. -/
def HoldsSurrogate (text : List Char) : Prop :=
  ∃ digits, IsCodePoint digits ∧ codePoint digits ≤ lastCodePoint ∧
    ¬ (codePoint digits).isValidChar ∧ codePointEscape digits <:+: text

variable {c : Char} {digits text rest : List Char}

/-- Without a backslash there is no escape. -/
theorem not_holdsSurrogate_of_notMem (plain : '\\' ∉ text) : ¬ HoldsSurrogate text := by
  rintro ⟨digits, _, _, _, before, after, rfl⟩
  exact plain (List.mem_append_left after (List.mem_append_right before List.mem_cons_self))

/-- Digits are found up to the closing brace. -/
theorem codePointDigits?_eq_some_iff :
    codePointDigits? text = some (digits, rest) ↔
      IsCodePoint digits ∧ text = digits ++ '\x7d' :: rest := by
  constructor
  · intro found
    unfold codePointDigits? at found
    split at found
    · next after closed =>
      split at found
      · next bounds =>
        obtain ⟨rfl, rfl⟩ := Prod.mk.inj (Option.some.inj found)
        rw [Bool.and_eq_true, decide_eq_true_eq, decide_eq_true_eq] at bounds
        refine ⟨⟨bounds.1, bounds.2, fun c member => List.mem_takeWhile_imp member⟩, ?_⟩
        rw [← closed, List.takeWhile_append_dropWhile]
      · cases found
    · cases found
  · intro given
    obtain ⟨⟨some?, few, hexadecimal⟩, rfl⟩ := given
    have run : (digits ++ '\x7d' :: rest).takeWhile Numeral.isHexDigit = digits := by
      rw [List.takeWhile_append_of_pos hexadecimal, List.takeWhile_cons_of_neg (by decide),
        List.append_nil]
    have closed : (digits ++ '\x7d' :: rest).dropWhile Numeral.isHexDigit = '\x7d' :: rest := by
      rw [List.dropWhile_append_of_pos hexadecimal, List.dropWhile_cons_of_neg (by decide)]
    unfold codePointDigits?
    rw [closed, run]
    simp [some?, few]

theorem ne_backslash_of_isHexDigit (hexadecimal : Numeral.isHexDigit c = true) : c ≠ '\\' := by
  rintro rfl
  exact absurd hexadecimal (by decide)

/-- Behind its backslash the escape of a code point holds no other. -/
theorem IsCodePoint.backslash_notMem (written : IsCodePoint digits) :
    '\\' ∉ 'u' :: '\x7b' :: (digits ++ ['\x7d']) := by
  simp only [List.mem_cons, List.mem_append, List.not_mem_nil, or_false, not_or]
  refine ⟨by decide, by decide, fun member => ?_, by decide⟩
  exact ne_backslash_of_isHexDigit (written.2.2 '\\' member) rfl

/-- A hexadecimal digit is neither a slash nor a blank. -/
theorem solid_of_isHexDigit (hexadecimal : Numeral.isHexDigit c = true) :
    c ≠ '/' ∧ Text.isBlank c = false := by
  constructor
  · rintro rfl
    exact absurd hexadecimal (by decide)
  · simp only [Numeral.isHexDigit, Numeral.isDigit, Bool.or_eq_true, Bool.and_eq_true,
      decide_eq_true_eq, Char.le_def, UInt32.le_iff_toNat_le] at hexadecimal
    change ((48 ≤ c.toNat ∧ c.toNat ≤ 57) ∨ (97 ≤ c.toNat ∧ c.toNat ≤ 102)) ∨
      (65 ≤ c.toNat ∧ c.toNat ≤ 70) at hexadecimal
    simp only [Text.isBlank, Text.isWhiteSpace, Text.inRanges, Text.whiteSpaceRanges,
      Text.separatorRanges, List.any_cons, List.any_nil, Bool.or_eq_false_iff,
      Bool.and_eq_false_iff, decide_eq_false_iff_not, and_true]
    omega

/-! ### Where an escape can stand -/

/-- A far code point begins at the first character or later. -/
theorem holdsFarCodePoint_cons_iff :
    HoldsFarCodePoint (c :: rest) ↔
      (∃ digits, IsCodePoint digits ∧ lastCodePoint < codePoint digits ∧
        codePointEscape digits <+: c :: rest) ∨ HoldsFarCodePoint rest := by
  simp only [HoldsFarCodePoint, List.infix_cons_iff, ← exists_or, ← and_or_left]

/-- An escape begins with a backslash. -/
theorem holdsFarCodePoint_append_iff {before : List Char} (plain : '\\' ∉ before) :
    HoldsFarCodePoint (before ++ rest) ↔ HoldsFarCodePoint rest := by
  induction before with
  | nil => rfl
  | cons c before ih =>
    rw [List.mem_cons, not_or] at plain
    rw [List.cons_append, holdsFarCodePoint_cons_iff, ih plain.2, or_iff_right]
    intro given
    obtain ⟨digits, _, _, begins⟩ := given
    exact plain.1 (List.cons_prefix_cons.mp begins).1

/-- After its opening an escape has digits and a closing brace. -/
theorem codePointEscape_prefix_iff :
    codePointEscape digits <+: '\\' :: 'u' :: '\x7b' :: text ↔
      ∃ after, text = digits ++ '\x7d' :: after := by
  simp only [codePointEscape, List.cons_prefix_cons, true_and]
  constructor
  · intro given
    obtain ⟨after, whole⟩ := given
    exact ⟨after, by rw [← whole, List.append_assoc, List.singleton_append]⟩
  · intro given
    obtain ⟨after, rfl⟩ := given
    exact ⟨after, by rw [List.append_assoc, List.singleton_append]⟩

/-- Where a code point is read, it alone decides for the text that it takes up. -/
theorem holdsFarCodePoint_escape_iff
    (found : codePointDigits? text = some (digits, rest)) :
    HoldsFarCodePoint ('\\' :: 'u' :: '\x7b' :: text) ↔
      lastCodePoint < codePoint digits ∨ HoldsFarCodePoint rest := by
  obtain ⟨written, rfl⟩ := codePointDigits?_eq_some_iff.mp found
  have inside : HoldsFarCodePoint ('u' :: '\x7b' :: (digits ++ '\x7d' :: rest)) ↔
      HoldsFarCodePoint rest := by
    have skipped : HoldsFarCodePoint ('u' :: '\x7b' :: (digits ++ ['\x7d']) ++ rest) ↔
        HoldsFarCodePoint rest := holdsFarCodePoint_append_iff written.backslash_notMem
    rwa [List.cons_append, List.cons_append, List.append_assoc, List.singleton_append] at skipped
  rw [holdsFarCodePoint_cons_iff, inside]
  refine or_congr_left ⟨?_, fun far => ⟨digits, written, far,
    codePointEscape_prefix_iff.mpr ⟨rest, rfl⟩⟩⟩
  intro given
  obtain ⟨others, otherWritten, far, begins⟩ := given
  obtain ⟨after, same⟩ := codePointEscape_prefix_iff.mp begins
  have also := codePointDigits?_eq_some_iff.mpr ⟨otherWritten, same⟩
  rw [found] at also
  rw [(Prod.mk.inj (Option.some.inj also)).1]
  exact far

/-- Where no code point is read, the backslash counts for nothing. -/
theorem holdsFarCodePoint_cons_iff_of_not
    (unread : ∀ inner, c :: rest = '\\' :: 'u' :: '\x7b' :: inner → codePointDigits? inner = none) :
    HoldsFarCodePoint (c :: rest) ↔ HoldsFarCodePoint rest := by
  rw [holdsFarCodePoint_cons_iff, or_iff_right]
  intro given
  obtain ⟨digits, written, _, after, whole⟩ := given
  have escape : c :: rest = '\\' :: 'u' :: '\x7b' :: (digits ++ '\x7d' :: after) := by
    rw [← whole, codePointEscape]
    simp
  have read : codePointDigits? (digits ++ '\x7d' :: after) = some (digits, after) :=
    codePointDigits?_eq_some_iff.mpr ⟨written, rfl⟩
  rw [unread _ escape] at read
  cases read

/-! ### Reading -/

/-- Code points are replaced unless one of them is far. -/
theorem exists_replaceCodePoints_eq_ok_iff (text : List Char) :
    (∃ plain, replaceCodePoints text = .ok plain) ↔ ¬ HoldsFarCodePoint text := by
  -- the cases are those of the scan: the end, a code point beyond the last, one that can be read,
  -- an opening that none follows, and any other character
  fun_induction replaceCodePoints text with
  | case1 =>
    refine ⟨?_, fun _ => ⟨[], rfl⟩⟩
    rintro _ ⟨digits, _, _, inside⟩
    cases List.infix_nil.mp inside
  | case2 inner digits after found far =>
    rw [holdsFarCodePoint_escape_iff found]
    refine ⟨?_, fun near => absurd (Or.inl far) near⟩
    intro given
    obtain ⟨_, ⟨⟩⟩ := given
  | case3 inner digits after found near ih =>
    rw [Outcome.exists_map_eq_ok_iff, ih, holdsFarCodePoint_escape_iff found, or_iff_right near]
  | case4 inner unread ih =>
    rw [Outcome.exists_map_eq_ok_iff, ih, holdsFarCodePoint_cons_iff_of_not (c := '\\')]
    intro other same
    rw [List.cons.injEq, List.cons.injEq, List.cons.injEq] at same
    rw [← same.2.2.2, unread]
  | case5 c rest other ih =>
    rw [Outcome.exists_map_eq_ok_iff, ih, holdsFarCodePoint_cons_iff_of_not]
    intro inner same
    rw [List.cons.injEq] at same
    exact (other inner same.1 same.2).elim

/-- The quote in front belongs to no escape. -/
theorem holdsFarCodePoint_dropQuote_iff :
    HoldsFarCodePoint (dropQuote text) ↔ HoldsFarCodePoint text := by
  unfold dropQuote
  split
  · next rest =>
    have plain : '\\' ∉ ['\''] := by decide
    exact (holdsFarCodePoint_append_iff plain).symm
  · rfl

/-- **When an identifier is read.** Reading fails exactly at a code point beyond the last. -/
theorem exists_unescape_eq_ok_iff (text : List Char) :
    (∃ plain, unescape text = .ok plain) ↔ ¬ HoldsFarCodePoint text := by
  rw [unescape, Outcome.exists_map_eq_ok_iff, exists_replaceCodePoints_eq_ok_iff,
    holdsFarCodePoint_dropQuote_iff]

/-- The escape of a code point holds neither a slash nor a blank. -/
theorem solid_of_mem_codePointEscape (written : IsCodePoint digits)
    (member : c ∈ codePointEscape digits) : c ≠ '/' ∧ Text.isBlank c = false := by
  simp only [codePointEscape, List.mem_cons, List.mem_append, List.not_mem_nil, or_false] at member
  rcases member with rfl | rfl | rfl | inside | rfl
  · decide
  · decide
  · decide
  · exact solid_of_isHexDigit (written.2.2 c inside)
  · decide

/-- A path holds the escape of a code point of some kind when one of its segments does. -/
theorem exists_escape_iff_exists_segment {kind : List Char → Prop} {path : List Char} :
    (∃ digits, IsCodePoint digits ∧ kind digits ∧ codePointEscape digits <:+: path) ↔
      ∃ segment ∈ Text.segments path,
        ∃ digits, IsCodePoint digits ∧ kind digits ∧ codePointEscape digits <:+: segment := by
  have each : ∀ digits, IsCodePoint digits → (codePointEscape digits <:+: path ↔
      ∃ segment ∈ Text.segments path, codePointEscape digits <:+: segment) := by
    intro digits written
    refine Text.infix_iff_exists_segment (List.cons_ne_nil _ _) ?_ ?_
    · exact fun slash => (solid_of_mem_codePointEscape written slash).1 rfl
    · exact fun c member => (solid_of_mem_codePointEscape written member).2
  constructor
  · intro given
    obtain ⟨digits, written, ofKind, inside⟩ := given
    obtain ⟨segment, member, here⟩ := (each digits written).mp inside
    exact ⟨segment, member, digits, written, ofKind, here⟩
  · intro given
    obtain ⟨segment, member, digits, written, ofKind, inside⟩ := given
    exact ⟨digits, written, ofKind, (each digits written).mpr ⟨segment, member, inside⟩⟩

/-- An escape has no slash, so it stands in one segment. -/
theorem holdsFarCodePoint_iff_exists_segment {path : List Char} :
    HoldsFarCodePoint path ↔ ∃ segment ∈ Text.segments path, HoldsFarCodePoint segment :=
  exists_escape_iff_exists_segment

end ParameterDrift.Identifier

namespace ParameterDrift.DisplayPath

/-- **When a path is shown.** A path has a form for readers exactly when it holds no code point
beyond the last. -/
theorem exists_ofString_eq_ok_iff (path : String) :
    (∃ shown, ofString path = .ok shown) ↔ ¬ Identifier.HoldsFarCodePoint path.toList := by
  rw [ofString, Outcome.exists_map_eq_ok_iff, ofPath, Outcome.exists_map_eq_ok_iff,
    Outcome.exists_mapM_eq_ok_iff, Identifier.holdsFarCodePoint_iff_exists_segment]
  simp only [Identifier.exists_unescape_eq_ok_iff, not_exists, not_and]

end ParameterDrift.DisplayPath
