import Mathlib.Data.List.Forall2
import ParameterDrift.Proofs.Contract.PathShape
/-! # The structure of a path

A well-formed path is written segment by segment, and a segment part by part: literal text, and
templates in brackets of either kind. Its structure is what is left when the contents and the
brackets of the templates are forgotten. Two well-formed paths have one shape exactly when they have
one structure, since the braces in a shape stand for nothing but templates
(`ParameterDrift.PathShape.ofPath_eq_iff`).
-/

namespace ParameterDrift

/-- The kinds of brackets that a template may stand in. -/
inductive Bracket
  | brace
  | square
  deriving DecidableEq, Repr

namespace Bracket

def opening : Bracket → Char
  | .brace => '\x7b'
  | .square => '['

def closing : Bracket → Char
  | .brace => '\x7d'
  | .square => ']'

theorem closing?_opening (bracket : Bracket) :
    PathShape.closing? bracket.opening = some bracket.closing := by
  cases bracket <;> rfl

end Bracket

/-- A character that may stand in literal text: no slash, no bracket and no blank. -/
def IsLiteral (c : Char) : Prop :=
  c ∉ ['/', '\x7b', '\x7d', '[', ']'] ∧ Text.isBlank c = false

instance (c : Char) : Decidable (IsLiteral c) :=
  inferInstanceAs (Decidable (_ ∧ _))

/-- A part of a segment. -/
inductive PathPart
  | literal (text : List Char) (something : text ≠ []) (plain : ∀ c ∈ text, IsLiteral c)
  | template (bracket : Bracket) (content : List Char)
      (inside : '/' ∉ content ∧ bracket.closing ∉ content)

namespace PathPart

/-- A part as it is written. -/
def text : PathPart → List Char
  | .literal text .. => text
  | .template bracket content .. => bracket.opening :: (content ++ [bracket.closing])

/-- What stands at each place of a part: a character of literal text, or a template. -/
def outline : PathPart → List (Option Char)
  | .literal text .. => text.map some
  | .template .. => [none]

/-- Whether a part is literal text. -/
def isLiteral : PathPart → Bool
  | .literal .. => true
  | .template .. => false

end PathPart

/-- A segment as it is written. -/
def segmentText (segment : List PathPart) : List Char :=
  segment.flatMap PathPart.text

/-- The literal text of a segment and the places of its templates in it. -/
def segmentOutline (segment : List PathPart) : List (Option Char) :=
  segment.flatMap PathPart.outline

/-- A well-formed path. Between slashes stand segments or, where slashes are doubled or stand at an
end, nothing. -/
structure WrittenPath where
  pieces : List (List PathPart)

namespace WrittenPath

/-- A path as it is written. -/
def text (path : WrittenPath) : List Char :=
  ['/'].intercalate (path.pieces.map segmentText)

/-- The segments of a path. -/
def segments (path : WrittenPath) : List (List PathPart) :=
  path.pieces.filter fun piece => !piece.isEmpty

/-- Two paths have as many segments, and segments at one place have the same literal text and the
same places of templates. -/
def SameStructure (left right : WrittenPath) : Prop :=
  List.Forall₂ (fun leftSegment rightSegment =>
    segmentOutline leftSegment = segmentOutline rightSegment) left.segments right.segments

/-- A string is a path written in this way. -/
def Writes (path : WrittenPath) (s : String) : Prop :=
  s.toList = path.text

instance (path : WrittenPath) (s : String) : Decidable (path.Writes s) :=
  inferInstanceAs (Decidable (_ = _))

end WrittenPath

/-- A string is a well-formed path. -/
def IsPath (s : String) : Prop :=
  ∃ path : WrittenPath, path.Writes s

/-- Two strings are well-formed paths of one structure. -/
def AlikePaths (left right : String) : Prop :=
  ∃ leftPath rightPath : WrittenPath, leftPath.Writes left ∧ rightPath.Writes right ∧
    leftPath.SameStructure rightPath

/-! ### Parts and segments -/

variable {c : Char} {part : PathPart} {segment : List PathPart} {content rest : List Char}

/-- Literal characters can be checked one by one. -/
theorem isLiteral_of_all {text : List Char}
    (all : text.all (fun c => decide (IsLiteral c)) = true) : ∀ c ∈ text, IsLiteral c :=
  fun c member => of_decide_eq_true (List.all_eq_true.mp all c member)

/-- A literal character opens no bracket. -/
theorem IsLiteral.closing?_eq_none (plain : IsLiteral c) : PathShape.closing? c = none := by
  have notBrace : c ≠ '\x7b' := by
    rintro rfl
    exact plain.1 (by decide)
  have notSquare : c ≠ '[' := by
    rintro rfl
    exact plain.1 (by decide)
  rw [PathShape.closing?, if_neg notBrace, if_neg notSquare]

theorem PathPart.text_ne_nil (part : PathPart) : part.text ≠ [] := by
  cases part with
  | literal text something plain => exact something
  | template bracket content inside => exact List.cons_ne_nil _ _

theorem PathPart.slash_notMem_text (part : PathPart) : '/' ∉ part.text := by
  cases part with
  | literal text something plain => exact fun member => (plain '/' member).1 (by decide)
  | template bracket content inside =>
    have opening : '/' ≠ bracket.opening := by cases bracket <;> decide
    have closing : '/' ≠ bracket.closing := by cases bracket <;> decide
    simp only [text, List.mem_cons, List.mem_append, List.not_mem_nil, or_false, not_or]
    exact ⟨opening, inside.1, closing⟩

theorem PathPart.trimmed_text (part : PathPart) : Text.Trimmed part.text := by
  cases part with
  | literal text something plain =>
    exact Text.trimmed_of_solid fun c member => (plain c member).2
  | template bracket content inside =>
    constructor
    · rintro c ⟨⟩
      cases bracket <;> decide
    · intro c last
      rw [text, ← List.cons_append, List.getLast?_concat] at last
      cases last
      cases bracket <;> decide

theorem PathPart.outline_ne_nil (part : PathPart) : part.outline ≠ [] := by
  cases part with
  | literal text something plain => exact fun empty => something (List.map_eq_nil_iff.mp empty)
  | template bracket content inside => exact List.cons_ne_nil _ _

/-- The characters of an outline are literal. -/
theorem PathPart.isLiteral_of_mem_outline (member : some c ∈ part.outline) : IsLiteral c := by
  cases part with
  | literal text something plain =>
    obtain ⟨_, among, ⟨⟩⟩ := List.mem_map.mp member
    exact plain c among
  | template bracket content inside => simp [outline] at member

theorem slash_notMem_segmentText (segment : List PathPart) : '/' ∉ segmentText segment := by
  intro member
  obtain ⟨part, _, among⟩ := List.mem_flatMap.mp member
  exact part.slash_notMem_text among

theorem trimmed_segmentText (segment : List PathPart) : Text.Trimmed (segmentText segment) := by
  rw [segmentText, List.flatMap_def]
  refine Text.trimmed_flatten ?_
  intro text member
  obtain ⟨part, _, rfl⟩ := List.mem_map.mp member
  exact part.trimmed_text

theorem isEmpty_segmentText (segment : List PathPart) :
    (segmentText segment).isEmpty = segment.isEmpty := by
  cases segment with
  | nil => rfl
  | cons part rest =>
    rw [segmentText, List.flatMap_cons]
    cases written : part.text with
    | nil => exact absurd written part.text_ne_nil
    | cons c others => rfl

namespace WrittenPath

/-- The segments of a path are cut out as they were written. -/
theorem segments_text (path : WrittenPath) :
    Text.segments path.text = path.segments.map segmentText := by
  have free : ∀ piece ∈ path.pieces.map segmentText, '/' ∉ piece := by
    intro piece member
    obtain ⟨segment, _, rfl⟩ := List.mem_map.mp member
    exact slash_notMem_segmentText segment
  have trimmed : ∀ piece ∈ path.pieces.map segmentText, Text.Trimmed piece := by
    intro piece member
    obtain ⟨segment, _, rfl⟩ := List.mem_map.mp member
    exact trimmed_segmentText segment
  rw [text, Text.segments_intercalate free trimmed, List.filter_map, segments]
  refine congrArg (List.map segmentText) (List.filter_congr ?_)
  intro segment _
  rw [Function.comp_apply, isEmpty_segmentText]

end WrittenPath

/-! ### Templates -/

/-- A segment has a hole where it has a part that is no literal. -/
theorem none_mem_segmentOutline_iff :
    none ∈ segmentOutline segment ↔ ∃ part ∈ segment, part.isLiteral = false := by
  rw [segmentOutline, List.mem_flatMap]
  refine exists_congr fun part => and_congr_right fun _ => ?_
  cases part with
  | literal text something plain => simp [PathPart.outline, PathPart.isLiteral]
  | template bracket content inside => simp [PathPart.outline, PathPart.isLiteral]

/-- A segment without templates corresponds to segments without templates only. -/
theorem WrittenPath.SameStructure.literal {left right : WrittenPath}
    (same : left.SameStructure right) :
    List.Forall₂ (fun leftSegment rightSegment =>
      (∀ part ∈ leftSegment, part.isLiteral = true) ↔
        ∀ part ∈ rightSegment, part.isLiteral = true) left.segments right.segments := by
  have without : ∀ segment : List PathPart,
      (∀ part ∈ segment, part.isLiteral = true) ↔ none ∉ segmentOutline segment := by
    intro segment
    rw [none_mem_segmentOutline_iff]
    simp
  refine List.Forall₂.imp ?_ same
  intro leftSegment rightSegment outlines
  rw [without, without, outlines]

/-! ### Shapes -/

namespace PathShape

/-- What a shape shows at a place. -/
def mark : Option Char → List Char
  | some c => [c]
  | none => ['\x7b', '\x7d']

/-- What a shape shows of an outline. -/
def shown (outline : List (Option Char)) : List Char :=
  outline.flatMap mark

/-- Literal characters are kept in the shape. -/
theorem ofSegment_literal {text : List Char} (plain : ∀ c ∈ text, IsLiteral c) :
    ofSegment (text ++ rest) = text ++ ofSegment rest := by
  induction text with
  | nil => rfl
  | cons c text ih =>
    rw [List.forall_mem_cons] at plain
    have unopened : afterTemplate? c (text ++ rest) = none := by
      rw [afterTemplate?, plain.1.closing?_eq_none, Option.bind_none]
    rw [List.cons_append, ofSegment_cons_of_none unopened, ih plain.2, List.cons_append]

/-- Literal text is its own shape. -/
theorem ofSegment_eq_self_of_literal {text : List Char} (plain : ∀ c ∈ text, IsLiteral c) :
    ofSegment text = text := by
  have verbatim : ofSegment (text ++ []) = text ++ ofSegment [] := ofSegment_literal plain
  rwa [ofSegment, List.append_nil] at verbatim

/-- A part becomes its outline in the shape. -/
theorem ofSegment_part (part : PathPart) (rest : List Char) :
    ofSegment (part.text ++ rest) = shown part.outline ++ ofSegment rest := by
  cases part with
  | literal text something plain =>
    have verbatim : shown (text.map some) = text := by
      rw [shown, List.flatMap_map]
      exact List.flatMap_singleton' text
    rw [PathPart.text, PathPart.outline, verbatim, ofSegment_literal plain]
  | template bracket content inside =>
    have closed : afterTemplate? bracket.opening (content ++ bracket.closing :: rest) =
        some rest := by
      rw [afterTemplate?, bracket.closing?_opening, Option.bind_some,
        after?_append_cons inside.2]
    rw [PathPart.text, List.cons_append, List.append_assoc, List.singleton_append,
      ofSegment_cons_of_some closed]
    rfl

/-- The shape of a segment shows its outline. -/
theorem ofSegment_segmentText (segment : List PathPart) :
    ofSegment (segmentText segment) = shown (segmentOutline segment) := by
  induction segment with
  | nil => rw [segmentText, List.flatMap_nil, ofSegment]; rfl
  | cons part rest ih =>
    have parted : shown (segmentOutline (part :: rest)) =
        shown part.outline ++ shown (segmentOutline rest) := by
      rw [shown, segmentOutline, List.flatMap_cons, List.flatMap_append]
      rfl
    rw [segmentText, List.flatMap_cons, ofSegment_part, ← segmentText, ih, parted]

/-- Literal text holds no braces, so what is shown can be read in one way only. -/
theorem shown_inj {left right : List (Option Char)} (leftPlain : ∀ c, some c ∈ left → IsLiteral c)
    (rightPlain : ∀ c, some c ∈ right → IsLiteral c) (same : shown left = shown right) :
    left = right := by
  have notBrace : ∀ c, IsLiteral c → c ≠ '\x7b' := by
    rintro c plain rfl
    exact plain.1 (by decide)
  induction left generalizing right with
  | nil =>
    cases right with
    | nil => rfl
    | cons place right => cases place <;> cases same
  | cons place left ih =>
    cases right with
    | nil => cases place <;> cases same
    | cons other right =>
      have later : shown left = shown right → left = right :=
        ih (fun c member => leftPlain c (List.mem_cons_of_mem _ member))
          (fun c member => rightPlain c (List.mem_cons_of_mem _ member))
      cases place with
      | none =>
        cases other with
        | none =>
          rw [later (List.cons.inj (List.cons.inj same).2).2]
        | some c =>
          exact absurd (List.cons.inj same).1.symm
            (notBrace c (rightPlain c List.mem_cons_self))
      | some c =>
        cases other with
        | none =>
          exact absurd (List.cons.inj same).1 (notBrace c (leftPlain c List.mem_cons_self))
        | some d =>
          rw [(List.cons.inj same).1, later (List.cons.inj same).2]

/-- The characters of the outline of a segment are literal. -/
theorem isLiteral_of_mem_segmentOutline (member : some c ∈ segmentOutline segment) :
    IsLiteral c := by
  obtain ⟨part, _, among⟩ := List.mem_flatMap.mp member
  exact part.isLiteral_of_mem_outline among

theorem slash_notMem_shown (segment : List PathPart) : '/' ∉ shown (segmentOutline segment) := by
  intro member
  obtain ⟨place, among, stands⟩ := List.mem_flatMap.mp member
  cases place with
  | none => exact absurd stands (by decide)
  | some c =>
    rw [mark, List.mem_singleton] at stands
    subst stands
    exact (isLiteral_of_mem_segmentOutline among).1 (by decide)

/-- The outline of a segment with parts is not empty. -/
theorem shown_segmentOutline_ne_nil (something : segment ≠ []) :
    shown (segmentOutline segment) ≠ [] := by
  cases segment with
  | nil => exact absurd rfl something
  | cons part rest =>
    cases outlined : part.outline with
    | nil => exact absurd outlined part.outline_ne_nil
    | cons place others =>
      rw [segmentOutline, List.flatMap_cons, outlined, List.cons_append, shown, List.flatMap_cons]
      cases place <;> exact List.cons_ne_nil _ _

/-- The shape of a path is the outlines of its segments. -/
theorem ofPath_text (path : WrittenPath) :
    ofPath path.text =
      Text.joinSegments (path.segments.map fun segment => shown (segmentOutline segment)) := by
  rw [ofPath, path.segments_text, List.map_map]
  refine congrArg Text.joinSegments (List.map_congr_left ?_)
  intro segment _
  exact ofSegment_segmentText segment

/-- **One shape is one structure.** -/
theorem ofPath_eq_iff (left right : WrittenPath) :
    ofPath left.text = ofPath right.text ↔ left.SameStructure right := by
  have free : ∀ text ∈ (left.segments.map fun segment => shown (segmentOutline segment)) ++
      right.segments.map (fun segment => shown (segmentOutline segment)),
      '/' ∉ text ∧ text ≠ [] := by
    intro text member
    rw [← List.map_append] at member
    obtain ⟨segment, among, rfl⟩ := List.mem_map.mp member
    refine ⟨slash_notMem_shown segment, shown_segmentOutline_ne_nil ?_⟩
    rcases List.mem_append.mp among with inLeft | inRight
    · simpa using (List.mem_filter.mp inLeft).2
    · simpa using (List.mem_filter.mp inRight).2
  rw [ofPath_text, ofPath_text, Text.joinSegments_inj free, ← List.forall₂_eq_eq_eq,
    List.forall₂_map_left_iff, List.forall₂_map_right_iff, WrittenPath.SameStructure]
  constructor
  · intro same
    refine same.imp ?_
    intro leftSegment rightSegment shows
    exact shown_inj (fun c => isLiteral_of_mem_segmentOutline)
      (fun c => isLiteral_of_mem_segmentOutline) shows
  · intro same
    exact same.imp fun leftSegment rightSegment outlines => congrArg shown outlines

/-- Two paths have one shape when they have the same structure. -/
theorem ofString_eq_iff {left right : WrittenPath} {s t : String} (leftWritten : left.Writes s)
    (rightWritten : right.Writes t) : ofString s = ofString t ↔ left.SameStructure right := by
  rw [ofString, ofString, String.ofList_inj, leftWritten, rightWritten, ofPath_eq_iff]

/-- Whichever way two paths are taken to be written, their structures are the same or not. -/
theorem ofString_eq_iff_alikePaths {s t : String} (left : IsPath s) (right : IsPath t) :
    ofString s = ofString t ↔ AlikePaths s t := by
  constructor
  · intro same
    obtain ⟨leftPath, leftWritten⟩ := left
    obtain ⟨rightPath, rightWritten⟩ := right
    exact ⟨leftPath, rightPath, leftWritten, rightWritten,
      (ofString_eq_iff leftWritten rightWritten).mp same⟩
  · rintro ⟨leftPath, rightPath, leftWritten, rightWritten, same⟩
    exact (ofString_eq_iff leftWritten rightWritten).mpr same

end PathShape

end ParameterDrift
