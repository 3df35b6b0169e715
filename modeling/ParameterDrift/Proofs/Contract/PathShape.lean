import ParameterDrift.Contract.PathShape
import ParameterDrift.Proofs.Text.Segments
/-! # What a shape keeps of a path

A shape is made of the characters of the path and of braces
(`ParameterDrift.PathShape.mem_of_mem_ofPath`), and a segment in whose shape no brace is opened is
its own shape (`ParameterDrift.PathShape.ofSegment_eq_self`).
-/

namespace ParameterDrift.PathShape

variable {c : Char} {content text rest path : List Char}

theorem ofSegment_cons_of_none (unopened : afterTemplate? c rest = none) :
    ofSegment (c :: rest) = c :: ofSegment rest := by
  rw [ofSegment]
  split
  · next found =>
    rw [unopened] at found
    cases found
  · rfl

/-- A template becomes its empty braces. -/
theorem ofSegment_cons_of_some {after : List Char} (closed : afterTemplate? c rest = some after) :
    ofSegment (c :: rest) = '\x7b' :: '\x7d' :: ofSegment after := by
  rw [ofSegment]
  split
  · next found =>
    rw [closed] at found
    cases found
    rfl
  · next unfound =>
    rw [closed] at unfound
    cases unfound

/-- What follows a mark that is not in front of it is found. -/
theorem after?_append_cons (free : c ∉ content) : after? c (content ++ c :: rest) = some rest := by
  induction content with
  | nil => rw [List.nil_append, after?, if_pos rfl]
  | cons first content ih =>
    rw [List.mem_cons, not_or] at free
    rw [List.cons_append, after?, if_neg (Ne.symm free.1), ih free.2]

theorem mem_of_mem_after? {mark : Char} (found : after? mark text = some rest) (member : c ∈ rest) :
    c ∈ text := by
  fun_induction after? mark text with
  | case1 => cases found
  | case2 others =>
    cases found
    exact List.mem_cons_of_mem _ member
  | case3 first others different ih => exact List.mem_cons_of_mem first (ih found)

theorem mem_of_mem_afterTemplate? {first : Char} (closed : afterTemplate? first text = some rest)
    (member : c ∈ rest) : c ∈ text := by
  obtain ⟨mark, _, found⟩ := Option.bind_eq_some_iff.mp closed
  exact mem_of_mem_after? found member

/-! ### Segments -/

/-- A shape has the characters of its text and braces. -/
theorem mem_of_mem_ofSegment (member : c ∈ ofSegment text) :
    c ∈ text ∨ c = '\x7b' ∨ c = '\x7d' := by
  fun_induction ofSegment text with
  | case1 => exact absurd member List.not_mem_nil
  | case2 first rest after closed ih =>
    rw [List.mem_cons, List.mem_cons] at member
    rcases member with opening | closing | inside
    · exact Or.inr (Or.inl opening)
    · exact Or.inr (Or.inr closing)
    · refine (ih inside).imp_left fun given => ?_
      exact List.mem_cons_of_mem first (mem_of_mem_afterTemplate? closed given)
  | case3 first rest unclosed ih =>
    rcases List.mem_cons.mp member with rfl | inside
    · exact Or.inl List.mem_cons_self
    · exact (ih inside).imp_left (List.mem_cons_of_mem first)

/-- A shape has no slash that its text has not. -/
theorem slash_notMem_ofSegment (free : '/' ∉ text) : '/' ∉ ofSegment text := by
  intro member
  rcases mem_of_mem_ofSegment member with inside | opening | closing
  · exact free inside
  · exact absurd opening (by decide)
  · exact absurd closing (by decide)

theorem ofSegment_ne_nil (something : text ≠ []) : ofSegment text ≠ [] := by
  fun_cases ofSegment text with
  | case1 => exact absurd rfl something
  | case2 first rest after closed => exact List.cons_ne_nil _ _
  | case3 first rest unclosed => exact List.cons_ne_nil _ _

/-- Where no template is seen, nothing is changed. -/
theorem ofSegment_eq_self (untemplated : '\x7b' ∉ ofSegment text) : ofSegment text = text := by
  fun_induction ofSegment text with
  | case1 => rfl
  | case2 first rest after closed ih => exact absurd List.mem_cons_self untemplated
  | case3 first rest unclosed ih =>
    rw [ih fun inside => untemplated (List.mem_cons_of_mem first inside)]

/-! ### Paths -/

/-- The shape of a path has the characters of the shapes of its segments, slashes apart. -/
theorem mem_ofPath_iff (notSlash : c ≠ '/') :
    c ∈ ofPath path ↔ ∃ segment ∈ Text.segments path, c ∈ ofSegment segment := by
  rw [ofPath, Text.mem_joinSegments_iff notSlash]
  simp only [List.mem_map, exists_exists_and_eq_and]

/-- What a shape holds besides slashes and braces, the path holds. -/
theorem mem_of_mem_ofPath (member : c ∈ ofPath path) (solid : Text.isBlank c = false)
    (other : c ∉ ['/', '\x7b', '\x7d']) : c ∈ path := by
  simp only [List.mem_cons, List.not_mem_nil, or_false, not_or] at other
  obtain ⟨notSlash, notOpening, notClosing⟩ := other
  obtain ⟨segment, among, inside⟩ := (mem_ofPath_iff notSlash).mp member
  rw [Text.mem_iff_exists_segment notSlash solid]
  refine ⟨segment, among, (mem_of_mem_ofSegment inside).resolve_right ?_⟩
  rintro (opening | closing)
  · exact notOpening opening
  · exact notClosing closing

end ParameterDrift.PathShape
