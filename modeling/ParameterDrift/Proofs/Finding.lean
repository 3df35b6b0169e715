import ParameterDrift.CommandLine
import ParameterDrift.Proofs.Checked
import ParameterDrift.Proofs.Raw.Writing
/-! # Findings that can be told

The template of a kind asks for some arguments. A finding that has as many arguments as the template
has places is told: its message is filled in, and with it its value
(`ParameterDrift.Finding.IsComplete.exists_message`). Its value holds all that it is
(`ParameterDrift.Finding.check_of_toRaw`). It is told on a line, and its value is written, when line
and column of its location have no more digits than are written
(`ParameterDrift.Finding.IsComplete.exists_line_iff`).
-/

namespace ParameterDrift

/-- The place of an argument, when a part of a template asks for one. -/
def TemplatePart.place? : TemplatePart → Option Nat
  | .words _ => none
  | .argument index => some index

/-- The places of the arguments in the template of a kind. -/
def FindingKind.places (kind : FindingKind) : List Nat :=
  kind.template.filterMap TemplatePart.place?

namespace Finding

/-- A finding has as many arguments as its template has places. -/
def IsComplete (finding : Finding) : Prop :=
  finding.arguments.length = finding.kind.places.length

/-- Line and column of a finding's location, if it has one, have no more digits than are written. -/
def IsWritable (finding : Finding) : Prop :=
  ∀ location, finding.location = some location → location.isWritable = true

/-- The text that stands for the location of a finding. -/
def placeText (finding : Finding) : String :=
  (finding.location.map Location.toText).getD contractLocation

variable {finding : Finding}

/-- A message is told when there is an argument for every place. -/
theorem exists_message_iff : (∃ message, finding.message = .ok message) ↔
    ∀ index ∈ finding.kind.places, index < finding.arguments.length := by
  rw [message, Outcome.exists_map_eq_ok_iff, Outcome.exists_mapM_eq_ok_iff]
  simp only [FindingKind.places, List.mem_filterMap]
  constructor
  · rintro filled index ⟨part, member, place⟩
    obtain ⟨text, found⟩ := filled part member
    cases part with
    | words _ => cases place
    | argument other =>
      cases place
      by_contra beyond
      rw [TemplatePart.fill, List.getElem?_eq_none (Nat.le_of_not_lt beyond)] at found
      cases found
  · intro given part member
    cases part with
    | words text => exact ⟨text, rfl⟩
    | argument index =>
      have within := given index ⟨.argument index, member, rfl⟩
      exact ⟨finding.arguments[index], by rw [TemplatePart.fill, List.getElem?_eq_getElem within]⟩

/-- The places of a template are numbered in order and without gaps. -/
theorem places_eq_range (kind : FindingKind) : kind.places = List.range kind.places.length := by
  cases kind with
  | missing => rfl
  | undefined => rfl
  | typeMismatch => rfl

/-- A place in the template of a kind counts its arguments. -/
theorem lt_of_mem_places {kind : FindingKind} {index : Nat} (member : index ∈ kind.places) :
    index < kind.places.length := by
  rw [places_eq_range] at member
  exact List.mem_range.mp member

/-- The location of a finding is written when its numbers are. -/
theorem place_eq_ok_iff {text : String} :
    finding.place = .ok text ↔ finding.IsWritable ∧ finding.placeText = text := by
  rw [place, placeText, IsWritable]
  cases finding.location with
  | none => simp
  | some location =>
    simp only [Location.written_eq_ok_iff, Option.some.injEq, forall_eq', Option.map_some,
      Option.getD_some]

/-- The line of a finding tells its location, its severity in capitals, its code and its message. -/
theorem line_eq_ok_iff {line : String} : finding.line = .ok line ↔
    finding.IsWritable ∧ ∃ message, finding.message = .ok message ∧
      finding.placeText ++ ": " ++ Text.upperString finding.severity.name ++ " [" ++
        finding.code ++ "] " ++ message = line := by
  simp only [Finding.line, Outcome.bind_eq_ok_iff, place_eq_ok_iff, Outcome.mapError_eq_ok_iff,
    Except.ok.injEq]
  constructor
  · rintro ⟨_, ⟨writable, rfl⟩, message, told, rfl⟩
    exact ⟨writable, message, told, rfl⟩
  · rintro ⟨writable, message, told, rfl⟩
    exact ⟨_, ⟨writable, rfl⟩, message, told, rfl⟩

/-- The value of a finding is written when the numbers of its location are. -/
theorem isWritable_of_toRaw {value : Raw} (told : finding.toRaw = .ok value) :
    value.isWritable = true ↔ finding.IsWritable := by
  obtain ⟨message, -, rfl⟩ := Outcome.map_eq_ok_iff.mp told
  have arguments : Raw.areWritable (finding.arguments.map .text) = true := by
    rw [Raw.areWritable_iff]
    intro item member
    obtain ⟨text, _, rfl⟩ := List.mem_map.mp member
    rfl
  rw [IsWritable]
  cases finding.location with
  | none =>
    simp [Raw.ofFields, Raw.isWritable, Raw.entriesWritable, Scalar.isWritable, arguments]
  | some location =>
    simp [Raw.ofFields, Raw.isWritable, Raw.entriesWritable, Scalar.isWritable, arguments,
      Location.toRaw, Location.isWritable]

namespace IsComplete

/-- A complete finding has a message. -/
theorem exists_message (complete : finding.IsComplete) :
    ∃ message, finding.message = .ok message :=
  exists_message_iff.mpr fun _ member => complete ▸ lt_of_mem_places member

/-- A complete finding has a line when the place that it points at can be written. -/
theorem exists_line_iff (complete : finding.IsComplete) :
    (∃ line, finding.line = .ok line) ↔ finding.IsWritable := by
  obtain ⟨message, told⟩ := complete.exists_message
  simp only [line_eq_ok_iff, exists_and_left, told, Except.ok.injEq, exists_eq_left', exists_eq',
    and_true]

/-- A complete finding that has no line has a location with a number that is too long. -/
theorem eq_of_line_eq_error (complete : finding.IsComplete) {fault : LineFault}
    (failed : finding.line = .error fault) : fault = .location .tooManyDigits := by
  obtain ⟨message, told⟩ := complete.exists_message
  rw [line, told] at failed
  cases placed : finding.place with
  | error reason =>
    rw [placed] at failed
    cases failed
    cases reason
    rfl
  | ok place =>
    rw [placed] at failed
    cases failed

/-- A complete finding has a value, wherever it points at. -/
theorem exists_toRaw (complete : finding.IsComplete) : ∃ value, finding.toRaw = .ok value :=
  Outcome.exists_map_eq_ok_iff.mpr complete.exists_message

end IsComplete

/-- A finding is read back from its value. -/
theorem check_of_toRaw {value : Raw} (told : finding.toRaw = .ok value) :
    check value = .valid finding := by
  obtain ⟨message, -, rfl⟩ := Outcome.map_eq_ok_iff.mp told
  clear told
  obtain ⟨kind, severity, location, arguments⟩ := finding
  have texts : Checked.items .notTuple Checked.text (.list (arguments.map .text)) =
      .valid arguments :=
    Checked.items_of_forall₂ (List.forall₂_map_left_iff.mpr (List.forall₂_same.mpr fun _ _ => rfl))
  -- all but the arguments is computed once the kind, the severity and the location are known
  trans (fun arguments => ⟨kind, severity, location, arguments⟩) <$>
    (Checked.items .notTuple Checked.text (.list (arguments.map .text))).under
      (.name "message_args")
  · cases kind with
    | _ =>
      cases severity with
      | _ =>
        cases location with
        | _ => rfl
  · rw [texts, Checked.under_valid, Checked.map_valid]

end Finding

end ParameterDrift
