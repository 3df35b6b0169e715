import ParameterDrift.Proofs.CommandLine.Printing
import ParameterDrift.Proofs.Service.Reports
import ParameterDrift.Proofs.Service.Severity
import ParameterDrift.Proofs.Signature.CodePoint
/-! # What the exit status tells

A call of the command that validates loads settings, a contract and a manifest, and prints the
findings. When all of these are there, the call comes to its end: it prints every finding, and its
exit status is one when there are findings and they count as failures
(`ParameterDrift.CommandLine.run_validate_eq`). Findings count by the severity that holds, which is
the one of the call or else that of the settings; since every finding carries it, they all count or
none does. The status does not depend on the format, nor do the findings on the severity.
-/

namespace ParameterDrift

/-- All findings of some severity make a check fail when there are any and either the severity is
error or warnings count. -/
theorem Settings.isFailure_iff {settings : Settings} {findings : List Finding} {severity : Severity}
    (alike : ∀ finding ∈ findings, finding.severity = severity) :
    settings.isFailure findings = true ↔
      findings ≠ [] ∧ (severity = .error ∨ settings.failOnWarning = true) := by
  rw [isFailure]
  cases findings with
  | nil => simp
  | cons finding rest =>
    have graded : ((finding :: rest).any fun finding => finding.severity == .error) = true ↔
        severity = .error := by
      rw [List.any_eq_true]
      constructor
      · rintro ⟨other, member, grave⟩
        exact (alike other member).symm.trans (eq_of_beq grave)
      · intro grave
        exact ⟨finding, List.mem_cons_self,
          beq_of_eq ((alike finding List.mem_cons_self).trans grave)⟩
    split
    · next warningsCount => simp [warningsCount]
    · next onlyErrors => rw [graded]; simp [onlyErrors]

namespace CommandLine

/-- Arguments of the command that validates, and the request that they make. -/
def Asks (workspace : Workspace) (arguments : List String) (request : ValidateRequest) : Prop :=
  ∃ parsed, Arguments.parse Command.validate.options true arguments = .ok parsed ∧
    parsed.asksHelp = false ∧ ValidateRequest.ofArguments workspace parsed = .ok request

/-- A request for which everything is there: its settings, its contract and its manifest are loaded,
its log level is accepted, and the manifest is validated to its end. No name and no path in them is
written with half a surrogate pair, for which a text has no place. -/
structure Completes (workspace : Workspace) (request : ValidateRequest) (settings : Settings)
    (contract : Contract) (manifest : Manifest) (findings : List Finding) : Prop where
  settingsLoaded : Settings.load workspace request.config = .ok settings
  levelAccepted : ∃ threshold,
    Log.threshold (request.logLevel.getD settings.logLevel) = .ok threshold
  contractLoaded : Contract.load workspace request.contract = .ok contract
  manifestLoaded : Manifest.load workspace request.manifest = .ok manifest
  wholeNames : ∀ resource ∈ manifest.resources, ∀ declaration ∈ resource.declarations,
    ¬ Identifier.HoldsSurrogate declaration.name.toList
  wholePaths : ∀ operation ∈ contract.operations,
    ¬ Identifier.HoldsSurrogate operation.path.toList
  validated : (contract.validate manifest
    (settings.overriddenBy request.severity request.logLevel)).outcome = .ok findings

variable {workspace : Workspace} {arguments : List String} {request : ValidateRequest}
  {settings : Settings} {contract : Contract} {manifest : Manifest} {findings : List Finding}

/-- A call of the command that validates does what it asks for. -/
theorem run_eq_settled (asked : Asks workspace arguments request) :
    run workspace ("validate" :: arguments) = settled (validate workspace request) := by
  obtain ⟨parsed, read, noHelp, made⟩ := asked
  have command : Arguments.parse Command.program.options false ("validate" :: arguments) =
      .ok { positional := "validate" :: arguments } := rfl
  have called :
      runCommand workspace .validate arguments = settled (validate workspace request) := by
    simp only [runCommand, used, read, noHelp, made, bind, Except.bind]
    rfl
  rw [← called, run, command]
  rfl

namespace Completes

variable (completes : Completes workspace request settings contract manifest findings)

include completes

/-- The findings of the call are those of the validation. -/
theorem findings_eq : findings = (contract.validate manifest
    (settings.overriddenBy request.severity request.logLevel)).findings :=
  (Run.outcome_eq_ok_iff.mp completes.validated).2.symm

/-- Every finding of the call has the severity that is asked for, else the one of the settings. -/
theorem severity {finding : Finding} (member : finding ∈ findings) :
    finding.severity = request.severity.getD settings.severity :=
  Contract.severity_of_mem (completes.findings_eq ▸ member)

/-- The findings of the call have as many arguments as their kinds ask. -/
theorem isComplete : ∀ finding ∈ findings, finding.IsComplete :=
  fun _ member => Contract.isComplete_of_mem (completes.findings_eq ▸ member)

/-- The call comes to its end, with what was printed and a status that tells whether that ended with
a failure or the findings count as failures. -/
theorem validate_eq : validate workspace request = .ok
    { exitCode :=
        if (printFindings request.format findings manifest).failure.isSome ∨
          (findings ≠ [] ∧ (request.severity.getD settings.severity = .error ∨
            settings.failOnWarning = true)) then 1 else 0
      output := (printFindings request.format findings manifest).output
      failure := (printFindings request.format findings manifest).failure } := by
  obtain ⟨threshold, accepted⟩ := completes.levelAccepted
  have counts := (settings.overriddenBy request.severity request.logLevel).isFailure_iff
    fun finding member => completes.severity member
  have effective : effectiveSettings workspace request =
      .ok (settings.overriddenBy request.severity request.logLevel) := by
    rw [effectiveSettings, completes.settingsLoaded]
    rfl
  have level : Log.threshold (settings.overriddenBy request.severity request.logLevel).logLevel =
      .ok threshold := accepted
  simp only [validate, effective, level, completes.contractLoaded, completes.manifestLoaded,
    completes.validated, Except.mapError, bind, Except.bind, counts, Bool.or_eq_true]
  rfl

/-- When all findings are writable, they are printed, and the status tells whether they count. -/
theorem run_eq_of_isWritable (asked : Asks workspace arguments request)
    (writable : ∀ finding ∈ findings, finding.IsWritable) :
    ∃ output, Prints findings manifest request.format output ∧
      run workspace ("validate" :: arguments) =
        { exitCode :=
            if findings ≠ [] ∧ (request.severity.getD settings.severity = .error ∨
              settings.failOnWarning = true) then 1 else 0
          output := output, errors := "", failure := none } := by
  obtain ⟨output, printed, prints⟩ :=
    exists_printFindings_eq completes.isComplete writable request.format manifest
  refine ⟨output, prints, ?_⟩
  rw [run_eq_settled asked, completes.validate_eq, printed]
  simp only [settled, Option.isSome_none, Bool.false_eq_true, false_or]

/-- When one of them is not, the call fails, whether they count or not. -/
theorem run_fails_of_not_isWritable (asked : Asks workspace arguments request)
    (long : ∃ finding ∈ findings, ¬ finding.IsWritable) :
    (run workspace ("validate" :: arguments)).exitCode = 1 ∧
      (run workspace ("validate" :: arguments)).failure = some (.writing .tooManyDigits) := by
  have failed := printFindings_failure_eq completes.isComplete long request.format manifest
  rw [run_eq_settled asked, completes.validate_eq, failed]
  simp only [settled, Option.isSome_some, true_or, ↓reduceIte, and_self]

/-- The status does not depend on the format. -/
theorem exitCode_eq_of_format {format : Format} {others : List String}
    (asked : Asks workspace arguments request)
    (alsoAsked : Asks workspace others { request with format := format }) :
    (run workspace ("validate" :: others)).exitCode =
      (run workspace ("validate" :: arguments)).exitCode := by
  have also : Completes workspace { request with format := format } settings contract manifest
      findings :=
    ⟨completes.settingsLoaded, completes.levelAccepted, completes.contractLoaded,
      completes.manifestLoaded, completes.wholeNames, completes.wholePaths, completes.validated⟩
  by_cases writable : ∀ finding ∈ findings, finding.IsWritable
  · obtain ⟨_, _, ended⟩ := completes.run_eq_of_isWritable asked writable
    obtain ⟨_, _, alsoEnded⟩ := also.run_eq_of_isWritable alsoAsked writable
    rw [ended, alsoEnded]
  · simp only [not_forall, exists_prop] at writable
    rw [(completes.run_fails_of_not_isWritable asked writable).1,
      (also.run_fails_of_not_isWritable alsoAsked writable).1]

end Completes

/-- **The exit status tells whether there is drift that counts**, unless a finding cannot be told.
When everything that a call of the command that validates asks for is there, every finding carries
the severity that holds. When the locations of all findings are writable, the call prints the
findings and ends with status one when there are any and either that severity is error or warnings
count, and with zero otherwise. When one is not, the call ends with a failure and with status one.
Calls that ask for the same in another format end with the same status, and with another severity
the findings are the same but for their severity. -/
theorem run_validate_eq (asked : Asks workspace arguments request)
    (completes : Completes workspace request settings contract manifest findings) :
    (∀ finding ∈ findings, finding.severity = request.severity.getD settings.severity) ∧
    ((∀ finding ∈ findings, finding.IsWritable) →
      ∃ output, Prints findings manifest request.format output ∧
        run workspace ("validate" :: arguments) =
          { exitCode :=
              if findings ≠ [] ∧ (request.severity.getD settings.severity = .error ∨
                settings.failOnWarning = true) then 1 else 0
            output := output, errors := "", failure := none }) ∧
    ((∃ finding ∈ findings, ¬ finding.IsWritable) →
      (run workspace ("validate" :: arguments)).exitCode = 1 ∧
        (run workspace ("validate" :: arguments)).failure = some (.writing .tooManyDigits)) ∧
    (∀ format others, Asks workspace others { request with format := format } →
      (run workspace ("validate" :: others)).exitCode =
        (run workspace ("validate" :: arguments)).exitCode) ∧
    ∀ severity, (contract.validate manifest { settings.overriddenBy request.severity
        request.logLevel with severity := severity }).outcome =
      .ok (findings.map fun finding => { finding with severity := severity }) := by
  refine ⟨fun finding => completes.severity, completes.run_eq_of_isWritable asked,
    completes.run_fails_of_not_isWritable asked,
    fun format others => completes.exitCode_eq_of_format asked, fun severity => ?_⟩
  change (contract.validate manifest
    ((settings.overriddenBy request.severity request.logLevel).graded severity)).outcome = _
  rw [Contract.validate_graded, Run.outcome_graded, completes.validated]
  rfl

/-- A workspace with a contract, a manifest that misses its parameter, and settings. -/
def driftWorkspace : Workspace where
  root := "/"
  contents :=
    [("c", .file "swagger: 2\npaths:\n /:\n  get:\n   parameters: [\x7bname: a\x7d]".toUTF8),
      ("m", .file "resources: [\x7bmethod: get, path: /\x7d]".toUTF8),
      ("s", .file "severity: warning".toUTF8)]

/-- The arguments of a call in that workspace. -/
def driftArguments : List String :=
  ["c", "m", "--config", "s", "--severity=error", "--format", "json"]

/-- What the call asks for. -/
def driftRequest : ValidateRequest where
  contract := "c"
  manifest := "m"
  severity := some .error
  format := .json
  config := some "s"

/-- The contract of the workspace. -/
def driftContract : Contract where
  operations := [{ method := "get", path := "/", parameters := [{ name := some "a" }] }]

/-- The manifest of the workspace. -/
def driftManifest : Manifest where
  source := "m"
  resources := [{ method := "get", path := "/", location := { file := "m" } }]

/-- The finding of the call. -/
def driftFinding : Finding where
  kind := .missing
  severity := .error
  location := some { file := "m" }
  arguments := ["a", "get", "/"]

/-- The JSON output of the call. -/
def driftValues : String :=
  "[\n  \x7b\n    \"kind\": \"missing_parameter\",\n    \"severity\": \"error\",\n" ++
    "    \"location\": \x7b\n      \"file\": \"m\",\n      \"line\": 0,\n" ++
    "      \"column\": 0\n    \x7d,\n" ++
    "    \"message_args\": [\n      \"a\",\n      \"get\",\n      \"/\"\n    ],\n" ++
    "    \"code\": \"PARAM_001\",\n    \"message\": \"missing implementation for the 'a' " ++
    "parameter documented in the contract for the 'get' operation on path '/'\"\n  \x7d\n]\n"

/-- The text output of the same call. -/
def driftLines : String :=
  "m:0:0: ERROR [PARAM_001] missing implementation for the 'a' parameter documented in the " ++
    "contract for the 'get' operation on path '/'\n1 finding(s) in 1 resource(s).\n"

theorem asks_drift : Asks driftWorkspace driftArguments driftRequest :=
  ⟨{ options := [("--config", some "s"), ("--severity", some "error"), ("--format", some "json")]
     positional := ["c", "m"] },
    by decide +kernel, by decide +kernel, by decide +kernel⟩

theorem completes_drift : Completes driftWorkspace driftRequest { severity := .warning }
    driftContract driftManifest [driftFinding] where
  settingsLoaded := by decide +kernel
  levelAccepted := ⟨30, by decide +kernel⟩
  contractLoaded := by decide +kernel
  manifestLoaded := by decide +kernel
  wholeNames resource member declaration among := by
    rw [List.mem_singleton.mp member] at among
    cases among
  wholePaths operation member := by
    rw [List.mem_singleton.mp member]
    exact Identifier.not_holdsSurrogate_of_notMem (by decide)
  validated := by decide +kernel

theorem isWritable_driftFinding : driftFinding.IsWritable := by
  rintro _ ⟨⟩
  decide +kernel

/-- The call asks for another severity than the settings have. It fails, and what it prints tells
the finding; as text, the same is told on lines. -/
theorem run_validate_eq_drift :
    Asks driftWorkspace driftArguments driftRequest ∧
      Completes driftWorkspace driftRequest { severity := .warning } driftContract driftManifest
        [driftFinding] ∧
      run driftWorkspace ("validate" :: driftArguments) =
        { exitCode := 1, output := driftValues } ∧
      Prints [driftFinding] driftManifest .json driftValues ∧
      run driftWorkspace ["validate", "c", "m", "--config=s", "--severity", "error"] =
        { exitCode := 1, output := driftLines } := by
  have ended : run driftWorkspace ("validate" :: driftArguments) =
      { exitCode := 1, output := driftValues } := by decide +kernel
  obtain ⟨_, printed, _⟩ := run_validate_eq asks_drift completes_drift
  obtain ⟨output, prints, same⟩ := printed
    fun finding member => List.mem_singleton.mp member ▸ isWritable_driftFinding
  have shown : output = driftValues := congrArg Outcome.output (same.symm.trans ended)
  exact ⟨asks_drift, completes_drift, ended, shown ▸ prints, by decide +kernel⟩

/-- A workspace with the same contract, and a manifest whose resource stands on a line with too many
digits. -/
def farWorkspace : Workspace where
  root := "/"
  contents :=
    [("c", .file "swagger: 2\npaths:\n /:\n  get:\n   parameters: [\x7bname: a\x7d]".toUTF8),
      ("m", .file "".toUTF8)]
  read text :=
    if text.isEmpty then
      .ok (.ofFields [("resources", .list [.ofFields [("method", .text "get"), ("path", .text "/"),
        ("line", .int Numeral.firstUnwritten)]])])
    else Markup.read text

/-- A request in that workspace for warnings, which do not count. -/
def farRequest : ValidateRequest where
  contract := "c"
  manifest := "m"
  severity := some .warning
  format := .text

/-- The location of its resource. -/
def farLocation : Location where
  file := "m"
  line := Numeral.firstUnwritten

/-- The manifest of the workspace. -/
def farManifest : Manifest where
  source := "m"
  resources := [{ method := "get", path := "/", location := farLocation }]

/-- The finding of the request. -/
def farFinding : Finding where
  kind := .missing
  severity := .warning
  location := some farLocation
  arguments := ["a", "get", "/"]

/-- A call that only finds a warning may end with status one all the same: its line is not told. -/
theorem exitCode_eq_one_of_farFinding :
    Asks farWorkspace ["c", "m", "--severity", "warning"] farRequest ∧
      Completes farWorkspace farRequest {} driftContract farManifest [farFinding] ∧
      run farWorkspace ["validate", "c", "m", "--severity", "warning"] =
        { exitCode := 1, failure := some (.writing .tooManyDigits) } := by
  refine ⟨⟨{ options := [("--severity", some "warning")], positional := ["c", "m"] },
    by decide +kernel, by decide +kernel, by decide +kernel⟩, ?_, by decide +kernel⟩
  exact
    { settingsLoaded := by decide +kernel
      levelAccepted := ⟨30, by decide +kernel⟩
      contractLoaded := by decide +kernel
      manifestLoaded := by decide +kernel
      wholeNames := by
        intro resource member declaration among
        rw [List.mem_singleton.mp member] at among
        cases among
      wholePaths := completes_drift.wholePaths
      validated := by decide +kernel }

end CommandLine

end ParameterDrift
