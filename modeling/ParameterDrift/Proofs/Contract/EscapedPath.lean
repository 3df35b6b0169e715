import Mathlib.Data.List.ReduceOption
import ParameterDrift.Proofs.Contract.PathStructure
import ParameterDrift.Proofs.Signature.Escapes
import ParameterDrift.Service
/-! # Paths that are written with escapes

A segment of a resource path may be an identifier, and an identifier may be written with escapes.
Readers are shown its plain text, but a resource is paired by the shape of its path as it is
written, and the escapes are part of that shape. So a path is paired as its plain path is exactly
when no segment is escaped, and with a contract that is written without quotes and backslashes an
escaped one is not paired at all (`ParameterDrift.Contract.operation?_written_eq_plain_iff`).
-/

namespace ParameterDrift

/-- A segment of a resource path: a template, or an identifier with literal plain text. -/
inductive ResourceSegment
  | template (bracket : Bracket) (content : List Char)
      (inside : '/' ∉ content ∧ bracket.closing ∉ content)
  | identifier (text plain : List Char) (read : Identifier.unescape text = .ok plain)
      (something : plain ≠ []) (literal : ∀ c ∈ plain, IsLiteral c)

namespace ResourceSegment

/-- The part of a path that a segment becomes when its escapes are read. -/
def plainPart : ResourceSegment → PathPart
  | .template bracket content inside => .template bracket content inside
  | .identifier _ plain _ something literal => .literal plain something literal

/-- A segment as it is written. -/
def text : ResourceSegment → List Char
  | .template bracket content inside => (PathPart.template bracket content inside).text
  | .identifier text .. => text

/-- A segment with its escapes read. -/
def plainText (segment : ResourceSegment) : List Char :=
  segment.plainPart.text

end ResourceSegment

/-- A resource path. Between slashes stand segments or, where slashes are doubled or stand at an
end, nothing. -/
structure ResourcePath where
  pieces : List (Option ResourceSegment)

namespace ResourcePath

def segments (path : ResourcePath) : List ResourceSegment :=
  path.pieces.reduceOption

/-- A path with its segments spelled in some way. -/
def spelled (path : ResourcePath) (spell : ResourceSegment → List Char) : List Char :=
  ['/'].intercalate (path.pieces.map fun piece => piece.elim [] spell)

/-- A path as it is written. -/
def written (path : ResourcePath) : String :=
  String.ofList (path.spelled ResourceSegment.text)

/-- A path with the plain text of every identifier. -/
def plain (path : ResourcePath) : String :=
  String.ofList (path.spelled ResourceSegment.plainText)

/-- No segment is written otherwise than its plain text. -/
def IsPlain (path : ResourcePath) : Prop :=
  ∀ segment ∈ path.segments, segment.text = segment.plainText

instance (path : ResourcePath) : Decidable path.IsPlain :=
  inferInstanceAs (Decidable (∀ segment ∈ path.segments, _ = _))

end ResourcePath

/-- The paths of a contract are written without quotes and backslashes. -/
def Contract.WithoutEscapes (contract : Contract) : Prop :=
  ∀ operation ∈ contract.operations,
    '\'' ∉ operation.path.toList ∧ '\\' ∉ operation.path.toList

instance (contract : Contract) : Decidable contract.WithoutEscapes :=
  inferInstanceAs (Decidable (∀ operation ∈ contract.operations, _ ∧ _))

/-! ### Segments -/

namespace ResourceSegment

variable {segment : ResourceSegment}

/-- Segments that are spelled in this way are cut out of a path as they were spelled. -/
structure IsSpelling (spell : ResourceSegment → List Char) : Prop where
  free : ∀ segment, '/' ∉ spell segment
  trimmed : ∀ segment, Text.Trimmed (spell segment)
  something : ∀ segment, spell segment ≠ []

/-- The plain text of a segment spells it. -/
theorem isSpelling_plainText : IsSpelling plainText where
  free segment := segment.plainPart.slash_notMem_text
  trimmed segment := segment.plainPart.trimmed_text
  something segment := segment.plainPart.text_ne_nil

/-- Reading keeps slashes and blanks, so that there are none in an identifier. -/
theorem isSpelling_text : IsSpelling text where
  free segment := by
    cases segment with
    | template bracket content inside =>
      exact (PathPart.template bracket content inside).slash_notMem_text
    | identifier text plain read something literal =>
      intro member
      have kept : '/' ∈ plain := Identifier.mem_of_unescape read member (by decide)
      exact (literal '/' kept).1 (by decide)
  trimmed segment := by
    cases segment with
    | template bracket content inside =>
      exact (PathPart.template bracket content inside).trimmed_text
    | identifier text plain read something literal =>
      refine Text.trimmed_of_solid fun c member => ?_
      by_contra blank
      rw [Bool.not_eq_false] at blank
      have kept := Identifier.mem_of_unescape read member
        (Identifier.not_isEscapeMark_of_isBlank blank)
      rw [(literal c kept).2] at blank
      cases blank
  something segment := by
    cases segment with
    | template bracket content inside =>
      exact (PathPart.template bracket content inside).text_ne_nil
    | identifier text plain read something literal =>
      rintro rfl
      rcases Identifier.eq_or_quoted_or_mem_of_unescape read with same | quoted | escaped
      · exact something same.symm
      · cases quoted
      · cases escaped

/-- The shapes of a segment in both spellings agree only where it has no escapes. -/
theorem ofSegment_text_eq_iff (segment : ResourceSegment) :
    PathShape.ofSegment segment.text = PathShape.ofSegment segment.plainText ↔
      segment.text = segment.plainText := by
  cases segment with
  | template bracket content inside => exact iff_of_true rfl rfl
  | identifier text plain read something literal =>
    refine ⟨fun same => ?_, fun same => congrArg PathShape.ofSegment same⟩
    change PathShape.ofSegment text = PathShape.ofSegment plain at same
    rw [PathShape.ofSegment_eq_self_of_literal literal] at same
    -- the plain text has no template, so the written text has none either
    have untemplated : '\x7b' ∉ PathShape.ofSegment text := by
      intro member
      rw [same] at member
      exact (literal '\x7b' member).1 (by decide)
    rw [PathShape.ofSegment_eq_self untemplated] at same
    exact same

/-- What is in front of the first backslash is literal, so the shape reaches up to it. -/
theorem exists_mark_mem_ofSegment (escaped : segment.text ≠ segment.plainText) :
    ∃ mark ∈ ['\'', '\\'], mark ∈ PathShape.ofSegment segment.text := by
  cases segment with
  | template bracket content inside => exact absurd rfl escaped
  | identifier text plain read something literal =>
    change ∃ mark ∈ ['\'', '\\'], mark ∈ PathShape.ofSegment text
    have quoteLiteral : IsLiteral '\'' := by decide
    have backslashLiteral : IsLiteral '\\' := by decide
    rcases Identifier.eq_or_quoted_or_mem_of_unescape read with same | rfl | inside
    · exact absurd same escaped
    · have quotedLiteral : ∀ c ∈ '\'' :: plain, IsLiteral c :=
        List.forall_mem_cons.mpr ⟨quoteLiteral, literal⟩
      rw [PathShape.ofSegment_eq_self_of_literal quotedLiteral]
      exact ⟨'\'', by decide, List.mem_cons_self⟩
    · obtain ⟨before, after, rfl, unescaped⟩ := List.eq_append_cons_of_mem inside
      have beforeLiteral : ∀ c ∈ before, IsLiteral c := by
        intro c member
        by_cases quote : c = '\''
        · rw [quote]
          exact quoteLiteral
        · exact literal c (Identifier.mem_of_unescape_append read unescaped member quote)
      have unopened : PathShape.afterTemplate? '\\' after = none := by
        rw [PathShape.afterTemplate?, backslashLiteral.closing?_eq_none, Option.bind_none]
      rw [PathShape.ofSegment_literal beforeLiteral, PathShape.ofSegment_cons_of_none unopened]
      exact ⟨'\\', by decide, List.mem_append_right before List.mem_cons_self⟩

end ResourceSegment

/-! ### Shapes -/

namespace ResourcePath

variable {path : ResourcePath} {spell : ResourceSegment → List Char}

/-- A spelled path has the spelled segments. -/
theorem segments_spelled (spelling : ResourceSegment.IsSpelling spell) (path : ResourcePath) :
    Text.segments (path.spelled spell) = path.segments.map spell := by
  have free : ∀ text ∈ path.pieces.map fun piece => piece.elim [] spell, '/' ∉ text := by
    intro text member
    obtain ⟨piece, _, rfl⟩ := List.mem_map.mp member
    cases piece with
    | none => exact List.not_mem_nil
    | some segment => exact spelling.free segment
  have trimmed : ∀ text ∈ path.pieces.map fun piece => piece.elim [] spell, Text.Trimmed text := by
    intro text member
    obtain ⟨piece, _, rfl⟩ := List.mem_map.mp member
    cases piece with
    | none => exact Text.trimmed_of_solid fun c absent => absurd absent List.not_mem_nil
    | some segment => exact spelling.trimmed segment
  rw [spelled, Text.segments_intercalate free trimmed, segments]
  induction path.pieces with
  | nil => rfl
  | cons piece others ih =>
    cases piece with
    | none =>
      rw [List.map_cons, List.reduceOption_cons_of_none, ← ih]
      rfl
    | some segment =>
      have kept : (!(spell segment).isEmpty) = true := by simp [spelling.something segment]
      rw [List.map_cons, List.reduceOption_cons_of_some, List.map_cons, ← ih]
      exact List.filter_cons_of_pos kept

/-- The shape of a spelled path is that of the spelled segments. -/
theorem ofPath_spelled (spelling : ResourceSegment.IsSpelling spell) (path : ResourcePath) :
    PathShape.ofPath (path.spelled spell) =
      Text.joinSegments (path.segments.map fun segment => PathShape.ofSegment (spell segment)) := by
  rw [PathShape.ofPath, segments_spelled spelling, List.map_map]
  rfl

/-- The escapes of a path show in its shape. -/
theorem ofString_written_eq_iff (path : ResourcePath) :
    PathShape.ofString path.written = PathShape.ofString path.plain ↔ path.IsPlain := by
  have free : ∀ text ∈ path.segments.map (fun segment => PathShape.ofSegment segment.text) ++
      path.segments.map (fun segment => PathShape.ofSegment segment.plainText),
      '/' ∉ text ∧ text ≠ [] := by
    have each : ∀ spell, ResourceSegment.IsSpelling spell →
        ∀ text ∈ path.segments.map (fun segment => PathShape.ofSegment (spell segment)),
          '/' ∉ text ∧ text ≠ [] := by
      intro spell spelling text member
      obtain ⟨segment, _, rfl⟩ := List.mem_map.mp member
      exact ⟨PathShape.slash_notMem_ofSegment (spelling.free segment),
        PathShape.ofSegment_ne_nil (spelling.something segment)⟩
    exact List.forall_mem_append.mpr
      ⟨each _ ResourceSegment.isSpelling_text, each _ ResourceSegment.isSpelling_plainText⟩
  rw [PathShape.ofString, PathShape.ofString, String.ofList_inj, written, plain,
    String.toList_ofList, String.toList_ofList, ofPath_spelled ResourceSegment.isSpelling_text,
    ofPath_spelled ResourceSegment.isSpelling_plainText, Text.joinSegments_inj free,
    List.map_inj_left, IsPlain]
  exact forall₂_congr fun segment _ => segment.ofSegment_text_eq_iff

/-- The shape of an escaped path is that of no path without quotes and backslashes. -/
theorem exists_mark_mem_of_shape (escaped : ¬ path.IsPlain) {other : String}
    (same : PathShape.ofString other = PathShape.ofString path.written) :
    ∃ mark ∈ ['\'', '\\'], mark ∈ other.toList := by
  rw [IsPlain, not_forall₂] at escaped
  obtain ⟨segment, among, different⟩ := escaped
  obtain ⟨mark, isMark, shown⟩ := segment.exists_mark_mem_ofSegment different
  have solid : mark ∉ ['/', '\x7b', '\x7d'] ∧ Text.isBlank mark = false := by
    rcases List.mem_pair.mp isMark with rfl | rfl <;> decide
  have inShape : mark ∈ PathShape.ofPath path.written.toList := by
    have notSlash : mark ≠ '/' := fun slash => solid.1 (slash ▸ List.mem_cons_self)
    rw [written, String.toList_ofList, ofPath_spelled ResourceSegment.isSpelling_text,
      Text.mem_joinSegments_iff notSlash]
    exact ⟨_, List.mem_map_of_mem among, shown⟩
  rw [PathShape.ofString, PathShape.ofString, String.ofList_inj] at same
  rw [← same] at inShape
  exact ⟨mark, isMark, PathShape.mem_of_mem_ofPath inShape solid.2 solid.1⟩

end ResourcePath

/-! ### Pairing -/

namespace Contract

/-- A path with escapes pairs with nothing in a contract without them. -/
theorem operation?_eq_none_of_escaped {contract : Contract} {path : ResourcePath}
    (escaped : ¬ path.IsPlain) (without : contract.WithoutEscapes) (method : String) :
    contract.operation? method path.written = none := by
  rw [operation?, List.find?_eq_none]
  intro operation member paired
  rw [Bool.and_eq_true, beq_iff_eq, beq_iff_eq] at paired
  obtain ⟨mark, isMark, inPath⟩ := path.exists_mark_mem_of_shape escaped paired.2
  rcases List.mem_pair.mp isMark with rfl | rfl
  · exact (without operation member).1 inPath
  · exact (without operation member).2 inPath

/-- **Pairing does not read escapes.** With every contract the written path is paired as its plain
path is exactly when no segment is escaped. A resource with an escaped path is skipped by every
contract whose paths are written without quotes and backslashes, whatever operations it has. -/
theorem operation?_written_eq_plain_iff (path : ResourcePath) :
    (∀ method, (∀ contract : Contract,
        contract.operation? method path.written = contract.operation? method path.plain) ↔
          path.IsPlain) ∧
      (¬ path.IsPlain → ∀ contract : Contract, contract.WithoutEscapes →
        ∀ (settings : Settings) (resource : Resource), resource.path = path.written →
          contract.block settings resource = .ok (.skipped resource)) := by
  constructor
  · intro method
    constructor
    · intro agree
      -- the contract that documents the plain path tells the two apart
      let documented : Operation := { method := Text.lowerString method, path := path.plain }
      have alike := agree { operations := [documented] }
      have found : Contract.operation? { operations := [documented] } method path.plain =
          some documented := by
        simp [operation?, documented]
      rw [found, operation?] at alike
      have paired := List.find?_some alike
      rw [Bool.and_eq_true, beq_iff_eq, beq_iff_eq] at paired
      exact path.ofString_written_eq_iff.mp paired.2.symm
    · intro isPlain contract
      rw [operation?, operation?, path.ofString_written_eq_iff.mpr isPlain]
  · intro escaped contract without settings resource written
    rw [block, written, operation?_eq_none_of_escaped escaped without]

/-- A path with a quoted segment and one with an escaped hyphen. -/
def orderPath : ResourcePath where
  pieces := [none,
    some (.identifier "'order".toList "order".toList (by decide +kernel) (by decide)
      (isLiteral_of_all (by decide))),
    some (.identifier "x\\-id".toList "x-id".toList (by decide +kernel) (by decide)
      (isLiteral_of_all (by decide)))]

/-- The operation on an order, which has a parameter. -/
def orderOperation : Operation where
  method := "get"
  path := "/order/x-id"
  parameters := [{ name := some "limit", location := some "query" }]

/-- A contract with the operation on an order. -/
def orders : Contract where
  operations := [orderOperation]

/-- A resource on an order that lacks the parameter. -/
def orderResource : Resource where
  method := "get"
  path := "/'order/x\\-id"

/-- What is to be found about it. -/
def orderMissing : Finding where
  kind := .missing
  severity := .error
  location := some {}
  arguments := ["limit", "get", "/order/x-id"]

/-- The contract skips the resource. -/
theorem operation?_written_eq_plain_iff_order :
    ¬ orderPath.IsPlain ∧ orders.WithoutEscapes ∧ orderResource.path = orderPath.written ∧
      orders.block {} orderResource = .ok (.skipped orderResource) := by
  have escaped : ¬ orderPath.IsPlain := by decide +kernel
  have without : orders.WithoutEscapes := by decide +kernel
  have written : orderResource.path = orderPath.written := by decide +kernel
  exact ⟨escaped, without, written,
    (operation?_written_eq_plain_iff orderPath).2 escaped orders without {} orderResource written⟩

/-- The path is shown as the one that the contract documents, but it is not paired like it: a
parameter that is missing goes unfound. -/
theorem operation?_written_ne_plain_order :
    orderPath.written = "/'order/x\\-id" ∧ orderPath.plain = "/order/x-id" ∧
      DisplayPath.ofString orderPath.written = .ok orderPath.plain ∧
      orders.operation? "get" orderPath.written = none ∧
      orders.operation? "get" orderPath.plain = some orderOperation ∧
      (orders.validate { resources := [orderResource] } {}).outcome = .ok [] ∧
      (orders.validate { resources := [{ orderResource with path := orderPath.plain }] }
        {}).outcome = .ok [orderMissing] := by
  decide +kernel

end Contract

end ParameterDrift
