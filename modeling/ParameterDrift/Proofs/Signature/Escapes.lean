import ParameterDrift.Proofs.Signature.CodePoint
/-! # What reading an identifier keeps

Reading takes quotes and backslashes away and puts characters in the place of code points. It keeps
every character that escapes are not written with (`ParameterDrift.Identifier.mem_of_unescape`) and
all that stands before the first backslash, but for a quote in front
(`ParameterDrift.Identifier.mem_of_unescape_append`). So a text that is not its own plain text shows
it: it is the plain text after a quote, or it holds a backslash
(`ParameterDrift.Identifier.eq_or_quoted_or_mem_of_unescape`).
-/

namespace ParameterDrift.Identifier

/-- A character that escapes are written with. -/
def IsEscapeMark (c : Char) : Prop :=
  c ∈ ['\'', '\\', 'u', '\x7b', '\x7d'] ∨ Numeral.isHexDigit c = true

instance (c : Char) : Decidable (IsEscapeMark c) :=
  inferInstanceAs (Decidable (_ ∨ _))

variable {c : Char} {text rest before middle plain : List Char}

/-- No blank takes part in an escape. -/
theorem not_isEscapeMark_of_isBlank (blank : Text.isBlank c = true) : ¬ IsEscapeMark c := by
  rintro (mark | hexadecimal)
  · simp only [List.mem_cons, List.not_mem_nil, or_false] at mark
    rcases mark with rfl | rfl | rfl | rfl | rfl <;> exact absurd blank (by decide)
  · rw [(solid_of_isHexDigit hexadecimal).2] at blank
    cases blank

/-- Unescaping is replacing code points and then dropping backslashes. -/
theorem unescape_eq_ok_iff :
    unescape text = .ok plain ↔
      ∃ middle, replaceCodePoints (dropQuote text) = .ok middle ∧ dropBackslashes middle = plain :=
  Outcome.map_eq_ok_iff

/-! ### Characters that are kept -/

theorem mem_dropQuote (member : c ∈ text) (other : c ≠ '\'') : c ∈ dropQuote text := by
  unfold dropQuote
  split
  · next rest => exact (List.mem_cons.mp member).resolve_left other
  · exact member

theorem mem_dropBackslashes (member : c ∈ text) (other : c ≠ '\\') : c ∈ dropBackslashes text := by
  -- the cases are those of the scan: the end, a backslash before a line feed, one before another
  -- character, and any other character
  fun_induction dropBackslashes text with
  | case1 => exact member
  | case2 rest ih =>
    rw [List.mem_cons, List.mem_cons] at member ⊢
    exact member.imp_right fun inside => inside.imp_right ih
  | case3 first rest notLineFeed ih =>
    rw [List.mem_cons, List.mem_cons, or_iff_right other] at member
    exact List.mem_cons.mpr (member.imp_right ih)
  | case4 first rest notEscape ih =>
    exact List.mem_cons.mpr ((List.mem_cons.mp member).imp_right ih)

/-- Characters that take part in no escape stay. -/
theorem mem_replaceCodePoints (read : replaceCodePoints text = .ok middle) (member : c ∈ text)
    (other : ¬ IsEscapeMark c) : c ∈ middle := by
  fun_induction replaceCodePoints text generalizing middle with
  | case1 => exact absurd member List.not_mem_nil
  | case2 inner digits after found far => cases read
  | case3 inner digits after found near ih =>
    obtain ⟨later, readLater, rfl⟩ := Outcome.map_eq_ok_iff.mp read
    obtain ⟨written, rfl⟩ := codePointDigits?_eq_some_iff.mp found
    refine List.mem_cons_of_mem _ (ih readLater ?_)
    by_contra outside
    apply other
    simp only [List.mem_cons, List.mem_append, outside, or_false] at member
    rcases member with rfl | rfl | rfl | digit | rfl
    · exact Or.inl (by decide)
    · exact Or.inl (by decide)
    · exact Or.inl (by decide)
    · exact Or.inr (written.2.2 c digit)
    · exact Or.inl (by decide)
  | case4 inner unread ih =>
    obtain ⟨later, readLater, rfl⟩ := Outcome.map_eq_ok_iff.mp read
    exact List.mem_cons.mpr ((List.mem_cons.mp member).imp_right (ih readLater))
  | case5 first rest notCodePoint ih =>
    obtain ⟨later, readLater, rfl⟩ := Outcome.map_eq_ok_iff.mp read
    exact List.mem_cons.mpr ((List.mem_cons.mp member).imp_right (ih readLater))

/-- A character that no escape is written with is kept. -/
theorem mem_of_unescape (read : unescape text = .ok plain) (member : c ∈ text)
    (other : ¬ IsEscapeMark c) : c ∈ plain := by
  obtain ⟨middle, replaced, rfl⟩ := unescape_eq_ok_iff.mp read
  have notQuote : c ≠ '\'' := by
    rintro rfl
    exact other (Or.inl (by decide))
  have notBackslash : c ≠ '\\' := by
    rintro rfl
    exact other (Or.inl (by decide))
  exact mem_dropBackslashes
    (mem_replaceCodePoints replaced (mem_dropQuote member notQuote) other) notBackslash

/-! ### Text without backslashes -/

/-- What comes before the first backslash is kept when code points are replaced. -/
theorem replaceCodePoints_append (unescaped : '\\' ∉ before) :
    replaceCodePoints (before ++ rest) = (replaceCodePoints rest).map (before ++ ·) := by
  induction before with
  | nil =>
    rw [List.nil_append]
    cases replaceCodePoints rest with
    | error fault => rfl
    | ok later => rfl
  | cons first before ih =>
    rw [List.mem_cons, not_or] at unescaped
    have notCodePoint : ∀ inner, first = '\\' → before ++ rest = 'u' :: '\x7b' :: inner → False :=
      fun inner same _ => unescaped.1 same.symm
    rw [List.cons_append, replaceCodePoints, ih unescaped.2]
    · cases replaceCodePoints rest with
      | error fault => rfl
      | ok later => rfl
    · exact notCodePoint

theorem dropBackslashes_cons_of_ne (other : c ≠ '\\') (rest : List Char) :
    dropBackslashes (c :: rest) = c :: dropBackslashes rest := by
  rw [dropBackslashes.eq_def]
  split
  · next same => cases same
  · next same =>
    cases same
    exact absurd rfl other
  · next same =>
    cases same
    rfl

/-- What comes before the first backslash is kept when backslashes are dropped. -/
theorem dropBackslashes_append (unescaped : '\\' ∉ before) :
    dropBackslashes (before ++ rest) = before ++ dropBackslashes rest := by
  induction before with
  | nil => rfl
  | cons first before ih =>
    rw [List.mem_cons, not_or] at unescaped
    rw [List.cons_append, dropBackslashes_cons_of_ne (Ne.symm unescaped.1), ih unescaped.2,
      List.cons_append]

theorem dropBackslashes_eq_self (unescaped : '\\' ∉ text) : dropBackslashes text = text := by
  have whole : dropBackslashes (text ++ []) = text ++ dropBackslashes [] :=
    dropBackslashes_append unescaped
  rwa [dropBackslashes, List.append_nil] at whole

/-- A text is what is left of it or has a quote in front. -/
theorem eq_or_eq_quoted (text : List Char) :
    text = dropQuote text ∨ text = '\'' :: dropQuote text := by
  unfold dropQuote
  split
  · exact Or.inr rfl
  · exact Or.inl rfl

/-- What stands before the first backslash is kept, but for a quote in front. -/
theorem mem_of_unescape_append (read : unescape (before ++ rest) = .ok plain)
    (unescaped : '\\' ∉ before) (member : c ∈ before) (other : c ≠ '\'') : c ∈ plain := by
  obtain ⟨middle, replaced, rfl⟩ := unescape_eq_ok_iff.mp read
  have dropped : ∃ front, dropQuote (before ++ rest) = front ++ rest ∧ c ∈ front ∧
      '\\' ∉ front := by
    cases before with
    | nil => exact absurd member List.not_mem_nil
    | cons first before =>
      rw [List.cons_append, dropQuote.eq_def]
      split
      · next same =>
        cases same
        exact ⟨before, rfl, (List.mem_cons.mp member).resolve_left other,
          fun inside => unescaped (List.mem_cons_of_mem _ inside)⟩
      · exact ⟨first :: before, rfl, member, unescaped⟩
  obtain ⟨front, same, inFront, frontUnescaped⟩ := dropped
  rw [same, replaceCodePoints_append frontUnescaped] at replaced
  obtain ⟨later, _, rfl⟩ := Outcome.map_eq_ok_iff.mp replaced
  refine mem_dropBackslashes (List.mem_append_left later inFront) ?_
  rintro rfl
  exact frontUnescaped inFront

/-- **What escapes look like.** A text is its own plain text, or has it after a quote, or holds a
backslash. -/
theorem eq_or_quoted_or_mem_of_unescape (read : unescape text = .ok plain) :
    text = plain ∨ text = '\'' :: plain ∨ '\\' ∈ text := by
  by_cases escaped : '\\' ∈ text
  · exact Or.inr (Or.inr escaped)
  · have unescaped : '\\' ∉ dropQuote text := by
      intro inside
      rcases eq_or_eq_quoted text with same | same
      · exact escaped (same ▸ inside)
      · exact escaped (same ▸ List.mem_cons_of_mem _ inside)
    have verbatim : unescape text = .ok (dropQuote text) := by
      have replaced : replaceCodePoints (dropQuote text ++ []) = .ok (dropQuote text ++ []) := by
        rw [replaceCodePoints_append unescaped, replaceCodePoints]
        rfl
      rw [List.append_nil] at replaced
      exact unescape_eq_ok_iff.mpr ⟨_, replaced, dropBackslashes_eq_self unescaped⟩
    rw [verbatim] at read
    cases read
    exact (eq_or_eq_quoted text).imp_right Or.inl

end ParameterDrift.Identifier
