import ParameterDrift.Proofs.Finding
import ParameterDrift.Proofs.Raw.ReadBack
/-! # What is printed

A reader of the JSON output finds the values of all findings in order, each with its code and its
message. A reader of the text finds one line for each finding in order, and a last line with their
number and that of the resources (`ParameterDrift.CommandLine.Prints`). Findings that are complete
are printed in this sense when the locations of all of them are writable
(`ParameterDrift.CommandLine.exists_printFindings_eq`), and when one of them is not, printing ends
with a failure in either format (`ParameterDrift.CommandLine.printFindings_failure_eq`).
-/

namespace ParameterDrift

/-! ### What tells a finding -/

namespace Finding

/-- A value that tells a finding: the finding is read from it, and it has a code and a message. -/
def IsToldBy (finding : Finding) (value : Raw) : Prop :=
  check value = .valid finding ∧ ∃ entries message, value = .mapping entries ∧
    finding.message = .ok message ∧ Raw.lookup "code" entries = some (.text finding.code) ∧
    Raw.lookup "message" entries = some (.text message)

/-- What stands on a line for the location of a finding. -/
def shownPlace (finding : Finding) : String :=
  match finding.location with
  | none => "<contract>"
  | some location =>
    (if location.file = "" then "<unknown>" else location.file) ++ ":" ++ toString location.line ++
      ":" ++ toString location.column

/-- What stands on a line for the severity of a finding. -/
def shownSeverity (finding : Finding) : String :=
  match finding.severity with
  | .error => "ERROR"
  | .warning => "WARNING"

/-- A line that tells a finding. -/
def IsToldOn (finding : Finding) (line : String) : Prop :=
  ∃ message, finding.message = .ok message ∧
    line = finding.shownPlace ++ ": " ++ finding.shownSeverity ++ " [" ++ finding.code ++ "] " ++
      message

variable {finding : Finding} {value : Raw} {line : String}

/-- The value of a finding tells it. -/
theorem isToldBy_of_toRaw (told : finding.toRaw = .ok value) : finding.IsToldBy value := by
  refine ⟨check_of_toRaw told, ?_⟩
  obtain ⟨message, filled, rfl⟩ := Outcome.map_eq_ok_iff.mp told
  exact ⟨_, message, rfl, filled, rfl, rfl⟩

/-- The value of a finding is kept by the JSON that is written for it. -/
theorem isKept_of_toRaw (told : finding.toRaw = .ok value) : Json.IsKept value := by
  obtain ⟨message, -, rfl⟩ := Outcome.map_eq_ok_iff.mp told
  have fields (named : List (String × Raw)) (each : ∀ field ∈ named, Json.IsKept field.2) :
      Json.IsKept (.ofFields named) := by
    refine .mapping ?_ ?_
    · intro entry member
      obtain ⟨field, _, rfl⟩ := List.mem_map.mp member
      exact ⟨field.1, rfl⟩
    · intro entry member
      obtain ⟨field, among, rfl⟩ := List.mem_map.mp member
      exact each field among
  have arguments : Json.IsKept (.list (finding.arguments.map .text)) := by
    refine .list fun item member => ?_
    obtain ⟨argument, _, rfl⟩ := List.mem_map.mp member
    exact .text argument
  refine fields _ ?_
  simp only [List.forall_mem_cons]
  refine ⟨.text _, .text _, ?_, arguments, .text _, .text _, by simp⟩
  cases finding.location with
  | none => exact .null
  | some location => exact fields _ (by simp [Json.IsKept.text, Json.IsKept.int])

/-- The line of a finding tells it. -/
theorem isToldOn_of_line (told : finding.line = .ok line) : finding.IsToldOn line := by
  obtain ⟨_, message, filled, rfl⟩ := line_eq_ok_iff.mp told
  refine ⟨message, filled, ?_⟩
  have place : finding.placeText = finding.shownPlace := by
    rw [placeText, shownPlace]
    cases finding.location with
    | none => rfl
    | some location => rfl
  have severity : Text.upperString finding.severity.name = finding.shownSeverity := by
    rw [shownSeverity]
    cases finding.severity with
    | error => decide +kernel
    | warning => decide +kernel
  rw [place, severity]

end Finding

namespace CommandLine

/-- What is printed about findings: a JSON text from which their values are read, or a line for each
of them and a last line with their number and that of the resources. -/
inductive Prints (findings : List Finding) (manifest : Manifest) : Format → String → Prop
  | json {output : String} {values : List Raw} : Json.read output = some (.list values) →
      List.Forall₂ Finding.IsToldBy findings values → Prints findings manifest .json output
  | text {printed : List String} : List.Forall₂ Finding.IsToldOn findings printed →
      Prints findings manifest .text
        (String.join (printed.map (· ++ "\n")) ++ toString findings.length ++ " finding(s) in " ++
          toString manifest.resources.length ++ " resource(s).\n")

variable {findings : List Finding}

/-- Lines that can be told are printed one after the other. -/
theorem printLines_of_forall₂ {printed : List String}
    (told : List.Forall₂ (fun finding line => Finding.line finding = .ok line) findings printed)
    (last : String) :
    printLines last findings =
      { output := String.join (printed.map (· ++ "\n")) ++ last ++ "\n" } := by
  induction told with
  | nil => rfl
  | cons first _ ih =>
    rw [printLines, first, ih]
    simp only [List.map_cons, String.join_cons, String.append_assoc]

/-- When a line cannot be told, printing lines ends with the failure to tell it. -/
theorem printLines_failure_eq (complete : ∀ finding ∈ findings, finding.IsComplete)
    (long : ∃ finding ∈ findings, ¬ finding.IsWritable) (last : String) :
    (printLines last findings).failure = some (.writing .tooManyDigits) := by
  induction findings with
  | nil =>
    obtain ⟨_, member, _⟩ := long
    cases member
  | cons finding rest ih =>
    rw [List.forall_mem_cons] at complete
    rw [printLines]
    cases told : finding.line with
    | error fault => rw [complete.1.eq_of_line_eq_error told]; rfl
    | ok line =>
      -- the first line is told, so the finding that is not comes later
      have writable := complete.1.exists_line_iff.mp ⟨line, told⟩
      refine ih complete.2 ?_
      obtain ⟨other, member, tooLong⟩ := long
      rcases List.mem_cons.mp member with rfl | later
      · exact absurd writable tooLong
      · exact ⟨other, later, tooLong⟩

/-- The values of complete findings are written as one list when all of them are writable. -/
theorem exists_values (complete : ∀ finding ∈ findings, finding.IsComplete) :
    ∃ values, findings.mapM Finding.toRaw = .ok values ∧
      ((Raw.list values).isWritable = true ↔ ∀ finding ∈ findings, finding.IsWritable) := by
  obtain ⟨values, told⟩ := Outcome.exists_mapM_eq_ok_iff.mpr fun finding member =>
    (complete finding member).exists_toRaw
  refine ⟨values, told, ?_⟩
  rw [Raw.isWritable_list_iff]
  constructor
  · intro writable finding member
    obtain ⟨value, among, toRaw⟩ := Outcome.exists_mem_of_mapM told member
    exact (Finding.isWritable_of_toRaw toRaw).mp (writable value among)
  · intro writable value member
    obtain ⟨finding, among, toRaw⟩ := Outcome.exists_of_mem_mapM told member
    exact (Finding.isWritable_of_toRaw toRaw).mpr (writable finding among)

/-- Complete findings are printed when all of them are writable. -/
theorem exists_printFindings_eq (complete : ∀ finding ∈ findings, finding.IsComplete)
    (writable : ∀ finding ∈ findings, finding.IsWritable) (format : Format) (manifest : Manifest) :
    ∃ output, printFindings format findings manifest = { output := output } ∧
      Prints findings manifest format output := by
  cases format with
  | json =>
    obtain ⟨values, told, allWritable⟩ := exists_values complete
    have written : Json.written Json.indented (.list values) =
        .ok (Json.render Json.indented (.list values)) := if_pos (allWritable.mpr writable)
    have kept : Json.IsKept (.list values) := by
      refine .list fun value member => ?_
      obtain ⟨finding, _, toRaw⟩ := Outcome.exists_of_mem_mapM told member
      exact Finding.isKept_of_toRaw toRaw
    refine ⟨_, ?_, .json (Json.read_render Json.indented kept) ?_⟩
    · rw [printFindings, printValues, told]
      simp only [Except.mapError, bind, Except.bind, written]
    · exact (Outcome.mapM_eq_ok_iff.mp told).imp fun _ _ => Finding.isToldBy_of_toRaw
  | text =>
    obtain ⟨printed, told⟩ := Outcome.exists_mapM_eq_ok_iff.mpr fun finding member =>
      (complete finding member).exists_line_iff.mpr (writable finding member)
    have lines := Outcome.mapM_eq_ok_iff.mp told
    refine ⟨_, ?_, .text (lines.imp fun _ _ => Finding.isToldOn_of_line)⟩
    rw [printFindings, printLines_of_forall₂ lines, summary]
    simp only [String.append_assoc]
    rfl

/-- When one of them is not, printing ends with a failure. -/
theorem printFindings_failure_eq (complete : ∀ finding ∈ findings, finding.IsComplete)
    (long : ∃ finding ∈ findings, ¬ finding.IsWritable) (format : Format) (manifest : Manifest) :
    (printFindings format findings manifest).failure = some (.writing .tooManyDigits) := by
  cases format with
  | json =>
    obtain ⟨values, told, allWritable⟩ := exists_values complete
    have refused : Json.written Json.indented (.list values) = .error .tooManyDigits := by
      refine if_neg fun writable => ?_
      obtain ⟨finding, member, tooLong⟩ := long
      exact tooLong (allWritable.mp writable finding member)
    rw [printFindings, printValues, told]
    simp only [Except.mapError, bind, Except.bind, refused]
  | text => exact printLines_failure_eq complete long _

end CommandLine

end ParameterDrift
