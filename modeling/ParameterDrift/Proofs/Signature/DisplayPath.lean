import Mathlib.Data.List.Chain
import ParameterDrift.Proofs.Signature.Escapes
/-! # How a path is shown

A path is shown with a slash before each of its segments, in which escapes are read. Empty segments
are left out before the reading, but a segment may be empty after it, and an escape may stand for a
slash. So a path is shown with single slashes and none at its end exactly when no segment brings two
slashes together where it stands (`ParameterDrift.DisplayPath.isNormal_iff`). Where no escape stands
for a slash, only a segment that is a lone quote does.
-/

namespace ParameterDrift

/-! ### Where characters come from -/

namespace Identifier

variable {c : Char} {text plain middle : List Char}

/-- An escape in a text stands for a character. -/
def HoldsEscaped (c : Char) (text : List Char) : Prop :=
  ∃ digits, IsCodePoint digits ∧ character (codePoint digits) = c ∧ codePointEscape digits <:+: text

theorem HoldsEscaped.mono {whole : List Char} (held : HoldsEscaped c text)
    (inside : text <:+: whole) : HoldsEscaped c whole := by
  obtain ⟨digits, written, same, here⟩ := held
  exact ⟨digits, written, same, here.trans inside⟩

theorem HoldsEscaped.cons (held : HoldsEscaped c text) (first : Char) :
    HoldsEscaped c (first :: text) :=
  held.mono (List.suffix_cons first text).isInfix

theorem not_holdsEscaped_of_notMem (unescaped : '\\' ∉ text) : ¬ HoldsEscaped c text := by
  intro held
  obtain ⟨digits, _, _, inside⟩ := held
  exact unescaped (inside.subset List.mem_cons_self)

theorem mem_of_mem_dropBackslashes (member : c ∈ dropBackslashes text) : c ∈ text := by
  fun_induction dropBackslashes text with
  | case1 => exact member
  | case2 rest ih =>
    rw [List.mem_cons, List.mem_cons] at member ⊢
    exact member.imp_right fun inside => inside.imp_right ih
  | case3 first rest notLineFeed ih =>
    exact List.mem_cons_of_mem _ (List.mem_cons.mpr ((List.mem_cons.mp member).imp_right ih))
  | case4 first rest notEscape ih =>
    exact List.mem_cons.mpr ((List.mem_cons.mp member).imp_right ih)

/-- A character after the replacement was there or was escaped. -/
theorem mem_or_holdsEscaped_of_replaceCodePoints (read : replaceCodePoints text = .ok middle)
    (member : c ∈ middle) : c ∈ text ∨ HoldsEscaped c text := by
  fun_induction replaceCodePoints text generalizing middle with
  | case1 =>
    cases read
    exact .inl member
  | case2 inner digits after found far => cases read
  | case3 inner digits after found near ih =>
    obtain ⟨later, readLater, rfl⟩ := Outcome.map_eq_ok_iff.mp read
    obtain ⟨written, rfl⟩ := codePointDigits?_eq_some_iff.mp found
    -- the text is the escape and what comes after it
    have whole : '\\' :: 'u' :: '\x7b' :: (digits ++ '\x7d' :: after) =
        codePointEscape digits ++ after := by
      rw [codePointEscape, List.cons_append, List.cons_append, List.cons_append, List.append_assoc,
        List.singleton_append]
    rw [whole]
    rcases List.mem_cons.mp member with same | inLater
    · exact .inr ⟨digits, written, same.symm, (List.prefix_append _ _).isInfix⟩
    · exact (ih readLater inLater).imp (List.mem_append_right _)
        fun held => held.mono (List.suffix_append _ _).isInfix
  | case4 inner unread ih =>
    obtain ⟨later, readLater, rfl⟩ := Outcome.map_eq_ok_iff.mp read
    rcases List.mem_cons.mp member with same | inLater
    · exact .inl (List.mem_cons.mpr (.inl same))
    · exact (ih readLater inLater).imp (List.mem_cons_of_mem _) fun held => held.cons _
  | case5 first rest notCodePoint ih =>
    obtain ⟨later, readLater, rfl⟩ := Outcome.map_eq_ok_iff.mp read
    rcases List.mem_cons.mp member with same | inLater
    · exact .inl (List.mem_cons.mpr (.inl same))
    · exact (ih readLater inLater).imp (List.mem_cons_of_mem _) fun held => held.cons _

theorem infix_dropQuote (text : List Char) : dropQuote text <:+: text := by
  rcases eq_or_eq_quoted text with same | same
  · exact same ▸ List.infix_rfl
  · exact ⟨['\''], [], by rw [List.append_nil]; exact same.symm⟩

/-- A character of a plain text stands in the text, or an escape stands for it. -/
theorem mem_or_holdsEscaped_of_unescape (read : unescape text = .ok plain) (member : c ∈ plain) :
    c ∈ text ∨ HoldsEscaped c text := by
  obtain ⟨middle, replaced, rfl⟩ := unescape_eq_ok_iff.mp read
  exact (mem_or_holdsEscaped_of_replaceCodePoints replaced (mem_of_mem_dropBackslashes member)).imp
    (fun inside => (infix_dropQuote text).subset inside)
    fun held => held.mono (infix_dropQuote text)

/-! ### Texts that nothing is left of -/

/-- Dropping backslashes leaves nothing of nothing only. -/
theorem eq_nil_of_dropBackslashes (empty : dropBackslashes text = []) : text = [] := by
  fun_induction dropBackslashes text with
  | case1 => rfl
  | _ => cases empty

/-- Replacing code points leaves nothing of nothing only. -/
theorem eq_nil_of_replaceCodePoints (read : replaceCodePoints text = .ok middle)
    (empty : middle = []) : text = [] := by
  fun_induction replaceCodePoints text with
  | case1 => rfl
  | case2 inner digits after found far => cases read
  | _ =>
    -- every other step puts a character in front of what is read later
    obtain ⟨later, _, rfl⟩ := Outcome.map_eq_ok_iff.mp read
    cases empty

/-- Nothing is left of a lone quote, and of no other text. -/
theorem unescape_eq_nil_iff : unescape text = .ok [] ↔ text = [] ∨ text = ['\''] := by
  constructor
  · intro read
    obtain ⟨middle, replaced, empty⟩ := unescape_eq_ok_iff.mp read
    have unquoted : dropQuote text = [] :=
      eq_nil_of_replaceCodePoints replaced (eq_nil_of_dropBackslashes empty)
    have quoted := eq_or_eq_quoted text
    rwa [unquoted] at quoted
  · intro given
    have unquoted : dropQuote text = [] := by
      rcases given with rfl | rfl
      · rfl
      · rfl
    rw [unescape, unquoted, replaceCodePoints]
    rfl

end Identifier

namespace DisplayPath

open Identifier (unescape HoldsEscaped)

/-! ### Slashes -/

/-- No two slashes stand side by side. -/
def SlashesApart (text : List Char) : Prop :=
  text.IsChain fun c next => ¬ (c = '/' ∧ next = '/')

instance (text : List Char) : Decidable (SlashesApart text) :=
  inferInstanceAs (Decidable (List.IsChain _ text))

/-- **A path as it should be shown.** It begins with a slash, no two slashes stand side by side, and
none stands at the end but that of the root. -/
structure IsNormal (shown : List Char) : Prop where
  first : shown.head? = some '/'
  apart : SlashesApart shown
  last : shown.getLast? = some '/' → shown = ['/']

variable {text plain segment : List Char} {plains : List (List Char)}

theorem slashesApart_of_notMem (free : '/' ∉ text) : SlashesApart text := by
  apply List.Pairwise.isChain
  apply List.pairwise_of_forall_mem_list
  intro c member next _ both
  exact free (both.1 ▸ member)

/-- A slash may follow a text that ends in none. -/
theorem slashesApart_concat_iff :
    SlashesApart (text ++ ['/']) ↔ SlashesApart text ∧ text.getLast? ≠ some '/' := by
  rw [SlashesApart, List.isChain_append]
  refine and_congr_right fun _ => ?_
  constructor
  · intro given last
    exact given.2 '/' last '/' rfl ⟨rfl, rfl⟩
  · intro notLast
    refine ⟨List.isChain_singleton _, fun c last next _ both => notLast ?_⟩
    rw [← both.1]
    exact last

/-- A text without slashes keeps the slashes around it apart unless it is empty. -/
theorem slashesApart_between_iff (free : '/' ∉ plain) :
    SlashesApart ('/' :: (plain ++ ['/'])) ↔ plain ≠ [] := by
  cases plain with
  | nil => exact iff_of_false (by decide) fun something => something rfl
  | cons c rest =>
    refine iff_of_true ?_ (List.cons_ne_nil c rest)
    have around : SlashesApart ((c :: rest) ++ ['/']) :=
      slashesApart_concat_iff.mpr
        ⟨slashesApart_of_notMem free, fun last => free (List.mem_of_getLast? last)⟩
    exact List.isChain_cons_cons.mpr ⟨fun both => free (both.2 ▸ List.mem_cons_self), around⟩

theorem joinSegments_cons_cons (plain next : List Char) (rest : List (List Char)) :
    Text.joinSegments (plain :: next :: rest) =
      ('/' :: plain) ++ Text.joinSegments (next :: rest) := by
  rw [Text.joinSegments, Text.joinSegments, List.intercalate_cons_cons, List.append_assoc]
  rfl

/-- Segments keep the slashes of a path apart when each does so where it stands. -/
theorem slashesApart_joinSegments_iff (some? : plains ≠ []) :
    SlashesApart (Text.joinSegments plains ++ ['/']) ↔
      ∀ plain ∈ plains, SlashesApart ('/' :: (plain ++ ['/'])) := by
  induction plains with
  | nil => exact absurd rfl some?
  | cons plain rest ih =>
    cases rest with
    | nil =>
      rw [List.forall_mem_singleton, Text.joinSegments, List.intercalate_singleton]
      rfl
    | cons next rest =>
      rw [List.forall_mem_cons, ← ih (List.cons_ne_nil next rest), joinSegments_cons_cons,
        List.append_assoc]
      -- the slash before the next segment closes this one and opens the next
      exact List.isChain_split

/-- Only no segments and one empty segment are joined to the root. -/
theorem eq_of_joinSegments_eq_root (root : Text.joinSegments plains = ['/']) :
    plains = [] ∨ plains = [[]] := by
  have empty : ['/'].intercalate plains = [] := (List.cons.inj root).2
  cases plains with
  | nil => exact .inl rfl
  | cons plain rest =>
    cases rest with
    | nil =>
      rw [List.intercalate_singleton] at empty
      exact .inr (by rw [empty])
    | cons next rest =>
      rw [List.intercalate_cons_cons] at empty
      simp at empty

/-- **Joined segments are shown as they should be** when each keeps the slashes around it apart, or
when there is but one and it is empty. -/
theorem isNormal_joinSegments_iff : IsNormal (Text.joinSegments plains) ↔
    plains = [[]] ∨ ∀ plain ∈ plains, SlashesApart ('/' :: (plain ++ ['/'])) := by
  have root : IsNormal ['/'] := ⟨rfl, List.isChain_singleton _, fun _ => rfl⟩
  by_cases isRoot : Text.joinSegments plains = ['/']
  · rw [isRoot]
    refine iff_of_true root ?_
    rcases eq_of_joinSegments_eq_root isRoot with rfl | rfl
    · exact .inr fun _ member => absurd member List.not_mem_nil
    · exact .inl rfl
  · have some? : plains ≠ [] := by
      rintro rfl
      exact isRoot rfl
    have notEmpty : plains ≠ [[]] := by
      rintro rfl
      exact isRoot rfl
    rw [or_iff_right notEmpty, ← slashesApart_joinSegments_iff some?, slashesApart_concat_iff]
    exact ⟨fun normal => ⟨normal.apart, fun last => isRoot (normal.last last)⟩,
      fun both => ⟨rfl, both.1, fun last => absurd last both.2⟩⟩

/-! ### Paths -/

/-- A segment is empty when it is shown exactly when it is a lone quote. -/
theorem unescape_segment_eq_nil_iff (member : segment ∈ Text.segments text) :
    unescape segment = .ok [] ↔ segment = ['\''] := by
  rw [Identifier.unescape_eq_nil_iff, or_iff_right (Text.of_mem_segments member).1]

/-- A segment in which no escape stands for a slash keeps the slashes around it apart unless it is a
lone quote. -/
theorem slashesApart_segment_iff (member : segment ∈ Text.segments text)
    (unescaped : ¬ HoldsEscaped '/' segment) (read : unescape segment = .ok plain) :
    SlashesApart ('/' :: (plain ++ ['/'])) ↔ segment ≠ ['\''] := by
  have free : '/' ∉ plain := by
    intro inside
    rcases Identifier.mem_or_holdsEscaped_of_unescape read inside with written | held
    · exact (Text.of_mem_segments member).2 written
    · exact unescaped held
  rw [slashesApart_between_iff free, not_iff_not, ← unescape_segment_eq_nil_iff member, read,
    Except.ok.injEq]

/-- What a path holds escaped is held by one of its segments. -/
theorem holdsEscaped_iff_exists_segment {c : Char} :
    HoldsEscaped c text ↔ ∃ segment ∈ Text.segments text, HoldsEscaped c segment :=
  Identifier.exists_escape_iff_exists_segment

/-- What is shown of a path are its segments, each read. -/
theorem exists_plains_of_ofString {path shown : String} (read : ofString path = .ok shown) :
    ∃ plains, (Text.segments path.toList).mapM unescape = .ok plains ∧
      shown.toList = Text.joinSegments plains := by
  obtain ⟨whole, ofPath, rfl⟩ := Outcome.map_eq_ok_iff.mp read
  obtain ⟨plains, each, rfl⟩ := Outcome.map_eq_ok_iff.mp ofPath
  exact ⟨plains, each, String.toList_ofList⟩

/-- Only a lone quote is shown as one empty segment. -/
theorem eq_singleton_nil_iff_of_segments
    (each : (Text.segments text).mapM unescape = .ok plains) :
    plains = [[]] ↔ Text.segments text = [['\'']] := by
  constructor
  · rintro rfl
    have alone := Outcome.mapM_eq_ok_iff.mp each
    obtain ⟨segment, rest, read, none, same⟩ := List.forall₂_cons_right_iff.mp alone
    rw [List.forall₂_nil_right_iff] at none
    have member : segment ∈ Text.segments text := same ▸ List.mem_cons_self
    rw [same, none, (unescape_segment_eq_nil_iff member).mp read]
  · intro lone
    rw [lone, Outcome.mapM_eq_ok_iff, List.forall₂_cons_left_iff] at each
    obtain ⟨plain, rest, read, none, rfl⟩ := each
    rw [List.forall₂_nil_left_iff] at none
    rw [none, Except.ok.inj (read.symm.trans (Identifier.unescape_eq_nil_iff.mpr (.inr rfl)))]

/-- A shown path is normal when the path is a lone quote or none of its segments is shown with a
slash at an end or with two in a row. -/
theorem isNormal_iff_segments {path shown : String} (read : ofString path = .ok shown) :
    IsNormal shown.toList ↔ Text.segments path.toList = [['\'']] ∨
      ∀ segment ∈ Text.segments path.toList, ∀ plain, unescape segment = .ok plain →
        SlashesApart ('/' :: (plain ++ ['/'])) := by
  obtain ⟨plains, each, same⟩ := exists_plains_of_ofString read
  rw [same, isNormal_joinSegments_iff, eq_singleton_nil_iff_of_segments each]
  refine or_congr_right ⟨?_, ?_⟩
  · intro apart segment member plain plainRead
    obtain ⟨other, among, otherRead⟩ := Outcome.exists_mem_of_mapM each member
    rw [plainRead] at otherRead
    exact Except.ok.inj otherRead ▸ apart other among
  · intro apart plain among
    obtain ⟨segment, member, plainRead⟩ := Outcome.exists_of_mem_mapM each among
    exact apart segment member plain plainRead

/-- Where no escape stands for a slash, all segments that can be read keep slashes apart when none
of them is a lone quote. -/
theorem forall_slashesApart_iff (unescaped : ¬ HoldsEscaped '/' text) :
    (∀ segment ∈ Text.segments text, ∀ plain, unescape segment = .ok plain →
        SlashesApart ('/' :: (plain ++ ['/']))) ↔ ['\''] ∉ Text.segments text := by
  have plainSegment : ∀ segment ∈ Text.segments text, ¬ HoldsEscaped '/' segment := by
    intro segment member held
    exact unescaped (holdsEscaped_iff_exists_segment.mpr ⟨segment, member, held⟩)
  constructor
  · intro apart lone
    have empty : unescape ['\''] = .ok [] := (unescape_segment_eq_nil_iff lone).mpr rfl
    exact (slashesApart_segment_iff lone (plainSegment _ lone) empty).mp (apart _ lone [] empty) rfl
  · intro notLone segment member plain read
    apply (slashesApart_segment_iff member (plainSegment _ member) read).mpr
    intro lone
    exact notLone (lone ▸ member)

/-- **When a path is shown as it should be.** It always begins with a slash. Slashes are single, and
none stands at the end, exactly when each segment keeps the slashes around it apart or the path is a
lone quote; and where no escape stands for a slash, exactly when no segment is a lone quote or the
path is one. -/
theorem isNormal_iff {path shown : String} (read : ofString path = .ok shown) :
    shown.toList.head? = some '/' ∧
      (IsNormal shown.toList ↔ Text.segments path.toList = [['\'']] ∨
        ∀ segment ∈ Text.segments path.toList, ∀ plain, unescape segment = .ok plain →
          SlashesApart ('/' :: (plain ++ ['/']))) ∧
      (¬ HoldsEscaped '/' path.toList → (IsNormal shown.toList ↔
        Text.segments path.toList = [['\'']] ∨ ['\''] ∉ Text.segments path.toList)) := by
  refine ⟨?_, isNormal_iff_segments read, fun unescaped => ?_⟩
  · obtain ⟨plains, _, same⟩ := exists_plains_of_ofString read
    rw [same]
    rfl
  · rw [isNormal_iff_segments read, forall_slashesApart_iff unescaped]

/-- Slashes that are doubled and at the end are not shown, and neither is the quote of a name. -/
theorem isNormal_iff_pets :
    ofString "pets//'petId/" = .ok "/pets/petId" ∧ IsNormal "/pets/petId".toList := by
  have read : ofString "pets//'petId/" = .ok "/pets/petId" := by decide +kernel
  have unescaped : ¬ HoldsEscaped '/' "pets//'petId/".toList :=
    Identifier.not_holdsEscaped_of_notMem (by decide)
  have noLoneQuote : ['\''] ∉ Text.segments "pets//'petId/".toList := by decide
  exact ⟨read, ((isNormal_iff read).2.2 unescaped).mpr (.inr noLoneQuote)⟩

/-- A segment that is a lone quote leaves two slashes side by side, or one at the end. -/
theorem not_isNormal_of_lone_quote :
    ofString "/'/pets" = .ok "//pets" ∧ ¬ IsNormal "//pets".toList ∧
      ofString "/pets/'" = .ok "/pets/" ∧ ¬ IsNormal "/pets/".toList :=
  ⟨by decide +kernel, fun normal => absurd normal.apart (by decide), by decide +kernel,
    fun normal => absurd (normal.last rfl) (by decide)⟩

end DisplayPath

end ParameterDrift
