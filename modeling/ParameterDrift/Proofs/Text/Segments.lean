import Mathlib.Data.List.Infix
import ParameterDrift.Text.Segments
/-! # What trimming and splitting keep of a path

The segments of a path are cut out at slashes and blanks only. So a text that holds neither stands
in a path exactly when it stands in one of the segments
(`ParameterDrift.Text.infix_iff_exists_segment`). A path that is put together from parts without
slashes has those for segments that are not empty (`ParameterDrift.Text.segments_intercalate`).
-/

namespace ParameterDrift.Text

/-- A text without the separator stands on one side of it. -/
theorem infix_append_cons_iff {α : Type} {separator : α} {part left right : List α}
    (free : separator ∉ part) :
    part <:+: left ++ separator :: right ↔ part <:+: left ∨ part <:+: right := by
  constructor
  · intro given
    obtain ⟨before, after, whole⟩ := given
    rw [List.append_assoc, List.append_eq_append_iff] at whole
    obtain ⟨gap, leftEq, partEq⟩ | ⟨gap, beforeEq, rightEq⟩ := whole
    · -- The part begins on the left, and cannot reach past the separator.
      obtain ⟨inner, gapEq, afterEq⟩ | ⟨inner, partLong, separatorEq⟩ :=
        List.append_eq_append_iff.mp partEq
      · left
        exact ⟨before, inner, by rw [leftEq, gapEq, List.append_assoc]⟩
      · cases inner with
        | nil =>
          left
          rw [List.append_nil] at partLong
          exact ⟨before, [], by rw [leftEq, partLong, List.append_nil]⟩
        | cons first inner =>
          rw [List.cons_append, List.cons.injEq] at separatorEq
          exact absurd (by rw [partLong, separatorEq.1]; simp) free
    · right
      cases gap with
      | nil =>
        cases part with
        | nil => exact List.nil_infix
        | cons first part =>
          rw [List.nil_append, List.cons_append, List.cons.injEq] at rightEq
          exact absurd (by rw [rightEq.1]; exact List.mem_cons_self) free
      | cons first gap =>
        rw [List.cons_append, List.cons.injEq] at rightEq
        exact ⟨gap, after, by rw [List.append_assoc]; exact rightEq.2.symm⟩
  · intro given
    rcases given with inside | inside
    · exact inside.trans (List.prefix_append left (separator :: right)).isInfix
    · exact inside.trans ⟨left ++ [separator], [], by simp⟩

/-- A part does not begin at a character that it has not. -/
theorem infix_cons_iff_of_notMem {α : Type} {first : α} {part rest : List α}
    (free : first ∉ part) : part <:+: first :: rest ↔ part <:+: rest := by
  have sides : part <:+: [] ++ first :: rest ↔ part <:+: [] ∨ part <:+: rest :=
    infix_append_cons_iff free
  rw [List.nil_append, List.infix_nil] at sides
  rw [sides]
  refine ⟨?_, Or.inr⟩
  intro given
  rcases given with rfl | inside
  · exact List.nil_infix
  · exact inside

/-- Dropping characters of a class from the front keeps a text that holds none of them. -/
theorem infix_dropWhile_iff {class? : Char → Bool} {part text : List Char}
    (free : ∀ c ∈ part, class? c = false) : part <:+: text.dropWhile class? ↔ part <:+: text := by
  induction text with
  | nil => rfl
  | cons c rest ih =>
    rw [List.dropWhile_cons]
    cases dropped : class? c with
    | true =>
      have absent : c ∉ part := fun member => by
        rw [free c member] at dropped
        cases dropped
      rw [if_pos rfl, ih, infix_cons_iff_of_notMem absent]
    | false => rfl

/-- A part without blanks is not trimmed away. -/
theorem infix_trim_iff {part text : List Char} (free : ∀ c ∈ part, isBlank c = false) :
    part <:+: trim text ↔ part <:+: text := by
  have freeReverse : ∀ c ∈ part.reverse, isBlank c = false := fun c member =>
    free c (List.mem_reverse.mp member)
  calc part <:+: trim text
      ↔ part.reverse <:+: (trimStart text).reverse.dropWhile isBlank := by
        rw [trim, trimEnd, dropEndWhile, ← List.reverse_infix, List.reverse_reverse]
    _ ↔ part.reverse <:+: (trimStart text).reverse := infix_dropWhile_iff freeReverse
    _ ↔ part <:+: trimStart text := List.reverse_infix
    _ ↔ part <:+: text := infix_dropWhile_iff free

/-- The pieces of a text are those of the library's split. -/
theorem pieces_eq_splitOn (text : List Char) : pieces text = text.splitOn '/' := by
  induction text with
  | nil => rfl
  | cons c rest ih =>
    rw [pieces, ih, List.splitOn_cons_eq_if_modifyHead]
    by_cases slash : c = '/'
    · rw [if_pos slash, if_pos (beq_iff_eq.mpr slash)]
    · rw [if_neg slash, if_neg (fun same => slash (beq_iff_eq.mp same))]
      cases split : rest.splitOn '/' with
      | nil => exact absurd split (List.splitOn_ne_nil '/' rest)
      | cons piece others => rfl

theorem slash_notMem_of_mem_pieces {segment text : List Char} (member : segment ∈ pieces text) :
    '/' ∉ segment := by
  induction text generalizing segment with
  | nil =>
    rw [pieces, List.mem_singleton] at member
    rw [member]
    exact List.not_mem_nil
  | cons c rest ih =>
    rw [pieces] at member
    split at member
    · rcases List.mem_cons.mp member with rfl | later
      · exact List.not_mem_nil
      · exact ih later
    · next notSlash =>
      split at member
      · next piece others split =>
        rcases List.mem_cons.mp member with rfl | later
        · rw [List.mem_cons, not_or]
          exact ⟨Ne.symm notSlash, ih (split ▸ List.mem_cons_self)⟩
        · exact ih (split ▸ List.mem_cons_of_mem piece later)
      · rw [List.mem_singleton.mp member, List.mem_singleton]
        exact Ne.symm notSlash

/-- A segment is not empty and holds no slash. -/
theorem of_mem_segments {segment text : List Char} (member : segment ∈ segments text) :
    segment ≠ [] ∧ '/' ∉ segment := by
  obtain ⟨among, something⟩ := List.mem_filter.mp member
  refine ⟨?_, slash_notMem_of_mem_pieces among⟩
  rintro rfl
  cases something

/-- A part without slashes stands in one of the joined pieces. -/
theorem infix_intercalate_iff {part : List Char} (free : '/' ∉ part) (pieces : List (List Char))
    (nonempty : pieces ≠ []) :
    part <:+: ['/'].intercalate pieces ↔ ∃ piece ∈ pieces, part <:+: piece := by
  induction pieces with
  | nil => exact absurd rfl nonempty
  | cons piece others ih =>
    cases others with
    | nil => simp
    | cons next others =>
      rw [List.intercalate_cons_cons, List.append_assoc, List.singleton_append,
        infix_append_cons_iff free, ih (List.cons_ne_nil next others)]
      simp only [List.exists_mem_cons_iff]

/-- **What stands in the segments.** A text that is not empty and holds neither a slash nor a blank
stands in a path when it stands in one of its segments. -/
theorem infix_iff_exists_segment {part path : List Char} (something : part ≠ [])
    (free : '/' ∉ part) (solid : ∀ c ∈ part, isBlank c = false) :
    part <:+: path ↔ ∃ segment ∈ segments path, part <:+: segment := by
  have joined : ['/'].intercalate (pieces (trim path)) = trim path := by
    rw [pieces_eq_splitOn, List.intercalate_splitOn]
  have pieceExists : pieces (trim path) ≠ [] := by
    rw [pieces_eq_splitOn]
    exact List.splitOn_ne_nil '/' (trim path)
  rw [← infix_trim_iff solid, ← joined, infix_intercalate_iff free _ pieceExists]
  constructor
  · intro given
    obtain ⟨piece, member, inside⟩ := given
    refine ⟨piece, List.mem_filter.mpr ⟨member, ?_⟩, inside⟩
    cases piece with
    | nil => exact absurd (List.infix_nil.mp inside) something
    | cons c piece => rfl
  · intro given
    obtain ⟨segment, member, inside⟩ := given
    exact ⟨segment, (List.mem_filter.mp member).1, inside⟩

/-- A character that is no slash and no blank stands in one of the segments. -/
theorem mem_iff_exists_segment {c : Char} {path : List Char} (notSlash : c ≠ '/')
    (solid : isBlank c = false) : c ∈ path ↔ ∃ segment ∈ segments path, c ∈ segment := by
  have single : [c] <:+: path ↔ ∃ segment ∈ segments path, [c] <:+: segment := by
    refine infix_iff_exists_segment (List.cons_ne_nil c []) ?_ ?_
    · rwa [List.mem_singleton, eq_comm]
    · rwa [List.forall_mem_singleton]
  simpa only [List.singleton_infix_iff] using single

/-! ### Paths that are put together -/

/-- No blank stands at either end of a text. -/
structure Trimmed (text : List Char) : Prop where
  first : ∀ c ∈ text.head?, isBlank c = false
  last : ∀ c ∈ text.getLast?, isBlank c = false

variable {left right text : List Char} {parts segments others : List (List Char)}

theorem Trimmed.trim_eq (trimmed : Trimmed text) : trim text = text := by
  have keeps : ∀ text : List Char, (∀ c ∈ text.head?, isBlank c = false) →
      text.dropWhile isBlank = text := by
    intro text solid
    cases text with
    | nil => rfl
    | cons c rest =>
      have solid : isBlank c = false := solid c rfl
      rw [List.dropWhile_cons, solid, if_neg Bool.false_ne_true]
  have lastSolid : ∀ c ∈ text.reverse.head?, isBlank c = false := by
    rw [List.head?_reverse]
    exact trimmed.last
  rw [trim, trimStart, keeps text trimmed.first, trimEnd, dropEndWhile, keeps _ lastSolid,
    List.reverse_reverse]

theorem trimmed_of_solid (solid : ∀ c ∈ text, isBlank c = false) : Trimmed text where
  first c head := solid c (List.mem_of_mem_head? head)
  last c last := solid c (List.mem_of_mem_getLast? last)

theorem Trimmed.append (leftTrimmed : Trimmed left) (rightTrimmed : Trimmed right) :
    Trimmed (left ++ right) where
  first := by
    intro c head
    rw [List.head?_append, Option.mem_def, Option.or_eq_some_iff] at head
    rcases head with inLeft | ⟨_, inRight⟩
    · exact leftTrimmed.first c inLeft
    · exact rightTrimmed.first c inRight
  last := by
    intro c last
    rw [List.getLast?_append, Option.mem_def, Option.or_eq_some_iff] at last
    rcases last with inRight | ⟨_, inLeft⟩
    · exact rightTrimmed.last c inRight
    · exact leftTrimmed.last c inLeft

theorem trimmed_flatten (each : ∀ part ∈ parts, Trimmed part) : Trimmed parts.flatten := by
  induction parts with
  | nil => exact trimmed_of_solid fun c member => absurd member List.not_mem_nil
  | cons part rest ih =>
    rw [List.forall_mem_cons] at each
    exact each.1.append (ih each.2)

/-- Trimmed texts with slashes between them are joined to one. -/
theorem trimmed_intercalate (each : ∀ part ∈ parts, Trimmed part) :
    Trimmed (['/'].intercalate parts) := by
  have slash : Trimmed ['/'] :=
    trimmed_of_solid (List.forall_mem_singleton.mpr (by decide))
  induction parts with
  | nil => exact trimmed_of_solid fun c member => absurd member List.not_mem_nil
  | cons part rest ih =>
    rw [List.forall_mem_cons] at each
    cases rest with
    | nil =>
      rw [List.intercalate_singleton]
      exact each.1
    | cons next rest =>
      rw [List.intercalate_cons_cons]
      exact (each.1.append slash).append (ih each.2)

/-- Joined parts are taken apart again, empty ones aside. -/
theorem filter_pieces_intercalate (free : ∀ part ∈ parts, '/' ∉ part) :
    (pieces (['/'].intercalate parts)).filter (fun part => !part.isEmpty) =
      parts.filter fun part => !part.isEmpty := by
  by_cases empty : parts = []
  · subst empty
    rfl
  · rw [pieces_eq_splitOn, List.splitOn_intercalate '/' free empty]

/-- The segments of a path that is put together are the parts that are not empty. -/
theorem segments_intercalate (free : ∀ part ∈ parts, '/' ∉ part)
    (trimmed : ∀ part ∈ parts, Trimmed part) :
    Text.segments (['/'].intercalate parts) = parts.filter fun part => !part.isEmpty := by
  rw [Text.segments, (trimmed_intercalate trimmed).trim_eq, filter_pieces_intercalate free]

/-- Joined segments are taken apart again. -/
theorem filter_pieces_joinSegments (free : ∀ segment ∈ segments, '/' ∉ segment)
    (something : ∀ segment ∈ segments, segment ≠ []) :
    (pieces (joinSegments segments)).filter (fun part => !part.isEmpty) = segments := by
  have inner : (pieces (['/'].intercalate segments)).filter (fun part => !part.isEmpty) =
      segments := by
    rw [filter_pieces_intercalate free, List.filter_eq_self]
    intro segment member
    simp [something segment member]
  rw [joinSegments, pieces, if_pos rfl, List.filter_cons_of_neg (by simp), inner]

/-- A character of a path that is no slash stands in one of its segments. -/
theorem mem_joinSegments_iff {c : Char} (notSlash : c ≠ '/') :
    c ∈ joinSegments segments ↔ ∃ segment ∈ segments, c ∈ segment := by
  rw [joinSegments, List.mem_cons, or_iff_right notSlash]
  cases segments with
  | nil => simp
  | cons segment others =>
    have notAmong : '/' ∉ [c] := by rwa [List.mem_singleton, eq_comm]
    have single := infix_intercalate_iff notAmong (segment :: others) (List.cons_ne_nil _ _)
    simpa only [List.singleton_infix_iff] using single

/-- Segments that are joined can be told apart again. -/
theorem joinSegments_inj (free : ∀ segment ∈ segments ++ others, '/' ∉ segment ∧ segment ≠ []) :
    joinSegments segments = joinSegments others ↔ segments = others := by
  rw [List.forall_mem_append] at free
  refine ⟨?_, congrArg joinSegments⟩
  intro same
  rw [← filter_pieces_joinSegments (fun segment member => (free.1 segment member).1)
      (fun segment member => (free.1 segment member).2), same,
    filter_pieces_joinSegments (fun segment member => (free.2 segment member).1)
      (fun segment member => (free.2 segment member).2)]

end ParameterDrift.Text
