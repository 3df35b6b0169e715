import ParameterDrift.Proofs.Reconciliation.Halves
import ParameterDrift.Proofs.Service.Reports
import ParameterDrift.Proofs.Template
/-! # What a finding says

Every finding of a reconciliation has a message and a value. Its arguments are as many as its
template asks for, and its message is the text of the template in which each number in braces has
given way to the argument of that number, whatever braces and numbers stand in the arguments
themselves (`ParameterDrift.Context.tells_of_mem_reconcile`). So the names, types, methods and paths
of a document and of a manifest stand in a message as they are. A line is told of a finding unless
line or column of its location have more digits than are written.
-/

namespace ParameterDrift

/-- The template of a kind as text. -/
def FindingKind.text : FindingKind → String
  | .missing =>
    "missing implementation for the '\x7b0\x7d' parameter documented in the contract " ++
      "for the '\x7b1\x7d' operation on path '\x7b2\x7d'"
  | .undefined =>
    "undefined parameter '\x7b0\x7d' in the '\x7b1\x7d' operation on path '\x7b2\x7d': " ++
      "it is not documented in the contract"
  | .typeMismatch =>
    "type mismatch: the contract declares '\x7b0\x7d' but the implementation declares " ++
      "'\x7b1\x7d' for the '\x7b2\x7d' parameter of the '\x7b3\x7d' operation on path '\x7b4\x7d'"

/-- The template of a kind is what its text is read as. -/
theorem FindingKind.written_template (kind : FindingKind) :
    Template.written kind.template = kind.text.toList := by
  cases kind with
  | _ => decide +kernel

/-- The words of a template have no braces. -/
theorem FindingKind.all_isPlain_template (kind : FindingKind) :
    kind.template.all Template.isPlain := by
  cases kind with
  | _ => decide +kernel

/-- The message of a finding is its template as text, formatted with its arguments. -/
theorem Finding.format_text (finding : Finding) :
    Template.format finding.arguments finding.kind.text.toList =
      finding.message.toOption.map String.toList := by
  rw [← FindingKind.written_template,
    Template.format_written finding.kind.all_isPlain_template]
  rfl

namespace Context

/-- **What a finding tells.** The places of its template are numbered like its arguments; it has a
message, which is its template formatted with the arguments, and with it a value; it has a line
exactly when the numbers of its location are writable, and nothing else stands in its way; and among
the arguments are the name of the parameter that it is about, the method and the path, which
for an undefined parameter is the path as it is shown. -/
structure Tells (context : Context) (implemented : List ImplementedParameter)
    (spec : List ContractParameter) (components : Components) (finding : Finding) : Prop where
  numbered : finding.kind.places = List.range finding.arguments.length
  message : ∃ text, finding.message = .ok text ∧
    Template.format finding.arguments finding.kind.text.toList = some text.toList
  line : (∃ line, finding.line = .ok line) ↔ finding.IsWritable
  lineFault : ∀ fault, finding.line = .error fault → fault = .location .tooManyDigits
  value : ∃ value, finding.toRaw = .ok value
  implementedName : finding.kind ≠ .missing → ∃ own ∈ implemented,
    finding.location = some own.location ∧ finding.subject? = some own.name ∧
      own.name ∈ finding.arguments
  documentedName : finding.kind = .missing → ∃ entry ∈ spec, ∃ parameter name,
    entry.resolve components = .ok parameter ∧ parameter.name = some name ∧
      finding.subject? = some name ∧ name ∈ finding.arguments
  method : context.method ∈ finding.arguments
  path : finding.kind ≠ .undefined → context.path ∈ finding.arguments
  shownPath : finding.kind = .undefined → ∃ shown ∈ finding.arguments,
    DisplayPath.ofString context.path = .ok shown

variable {context : Context} {own : ImplementedParameter} {implemented : List ImplementedParameter}
  {entry : ContractParameter} {spec : List ContractParameter} {components : Components}
  {finding : Finding} {report : Report}

/-- A reported finding has one argument for each place, in order. -/
theorem Reports.numbered (reported : context.Reports finding) :
    finding.kind.places = List.range finding.arguments.length := by
  rw [reported.isComplete]
  exact Finding.places_eq_range finding.kind

/-- A reported finding has a message, which is its text with the places filled. -/
theorem Reports.exists_message (reported : context.Reports finding) :
    ∃ text, finding.message = .ok text ∧
      Template.format finding.arguments finding.kind.text.toList = some text.toList := by
  obtain ⟨text, told⟩ := reported.isComplete.exists_message
  refine ⟨text, told, ?_⟩
  rw [Finding.format_text, told]
  rfl

/-- A reported finding names the method. -/
theorem Reports.method_mem (reported : context.Reports finding) :
    context.method ∈ finding.arguments := by
  cases reported with
  | undefined made =>
    obtain ⟨shown, _, rfl⟩ := Outcome.map_eq_ok_iff.mp made
    exact .tail _ (.head _)
  | mismatch => exact .tail _ (.tail _ (.tail _ (.head _)))
  | missing => exact .tail _ (.head _)

/-- A reported finding names the path unless it says that a parameter is undefined. -/
theorem Reports.path_mem (reported : context.Reports finding)
    (documented : finding.kind ≠ .undefined) : context.path ∈ finding.arguments := by
  cases reported with
  | undefined made =>
    obtain ⟨shown, _, rfl⟩ := Outcome.map_eq_ok_iff.mp made
    exact absurd rfl documented
  | mismatch => exact .tail _ (.tail _ (.tail _ (.tail _ (.head _))))
  | missing => exact .tail _ (.tail _ (.head _))

/-- An undefined finding names the path as shown. -/
theorem Reports.exists_shown (reported : context.Reports finding)
    (undefined : finding.kind = .undefined) :
    ∃ shown ∈ finding.arguments, DisplayPath.ofString context.path = .ok shown := by
  cases reported with
  | undefined made =>
    obtain ⟨shown, path, rfl⟩ := Outcome.map_eq_ok_iff.mp made
    exact ⟨shown, .tail _ (.tail _ (.head _)), path⟩
  | mismatch => cases undefined
  | missing => cases undefined

/-- A finding tells what it is about, wherever it comes from. -/
theorem tells_of_mem_reconcile
    (returned : context.reconcile implemented spec components = .ok report)
    (member : finding ∈ report.findings) :
    context.Tells implemented spec components finding := by
  have reported := reports_of_mem_reconcile returned member
  rw [findings_eq_halves returned, List.mem_append] at member
  constructor
  case numbered => exact reported.numbered
  case message => exact reported.exists_message
  case line => exact reported.isComplete.exists_line_iff
  case lineFault => exact fun fault failed => reported.isComplete.eq_of_line_eq_error failed
  case value => exact reported.isComplete.exists_toRaw
  case method => exact reported.method_mem
  case path => exact reported.path_mem
  case shownPath => exact reported.exists_shown
  case implementedName =>
    intro notMissing
    have about := member.resolve_right fun missing =>
      notMissing (of_decide_eq_true (List.mem_filter.mp missing).2)
    rw [aboutImplemented_of_reconcile returned] at about
    obtain ⟨own, among, found⟩ := List.mem_filterMap.mp about
    exact ⟨own, among, location_of_verdict found, subject?_of_verdict found,
      Finding.mem_arguments_of_subject? (subject?_of_verdict found)⟩
  case documentedName =>
    intro isMissing
    have about := member.resolve_left fun implemented =>
      of_decide_eq_true (List.mem_filter.mp implemented).2 isMissing
    rw [aboutMissing_of_reconcile returned] at about
    obtain ⟨entry, among, found⟩ := List.mem_filterMap.mp about
    obtain ⟨parameter, name, resolves, named, _, _, rfl⟩ := missing_eq_some_iff.mp found
    exact ⟨entry, among, parameter, name, resolves, named, rfl, .head _⟩

/-- A context whose path looks like the place of an argument. -/
def braced : Context where
  method := "get"
  path := "/\x7b1\x7d"

/-- Documented parameters whose names and types do so too. -/
def bracedSpec : List ContractParameter :=
  [{ name := some "\x7b0\x7d", schema := some { type := some "\x7b3\x7d" } },
    { name := some "\x7b4\x7d" }]

/-- Implemented parameters, one of another type and one that is not documented. -/
def bracedParameters : List ImplementedParameter :=
  [{ name := "\x7b0\x7d", declaredType := "\x7b2\x7d", form := .required },
    { name := "\x7b2\x7d", declaredType := "int", form := .required }]

/-- The messages about them. -/
def bracedMessages : List String :=
  ["type mismatch: the contract declares '\x7b3\x7d[]' but the implementation declares " ++
      "'\x7b2\x7d' for the '\x7b0\x7d' parameter of the 'get' operation on path '/\x7b1\x7d'",
    "undefined parameter '\x7b2\x7d' in the 'get' operation on path '/\x7b1\x7d': " ++
      "it is not documented in the contract",
    "missing implementation for the '\x7b4\x7d' parameter documented in the contract " ++
      "for the 'get' operation on path '/\x7b1\x7d'"]

theorem tells_of_mem_reconcile_braced :
    ∃ report, braced.reconcile bracedParameters bracedSpec [] = .ok report ∧
      report.findings.map Finding.message = bracedMessages.map .ok ∧
      ∀ finding ∈ report.findings, braced.Tells bracedParameters bracedSpec [] finding := by
  have messages : (braced.reconcile bracedParameters bracedSpec []).map
      (fun report => report.findings.map Finding.message) = .ok (bracedMessages.map .ok) := by
    decide +kernel
  obtain ⟨report, returned, told⟩ := Outcome.map_eq_ok_iff.mp messages
  exact ⟨report, returned, told, fun finding => tells_of_mem_reconcile returned⟩

/-- An implemented parameter on a line whose number has one digit too many. -/
def farParameter : ImplementedParameter where
  name := "a"
  declaredType := "int"
  form := .required
  location := { file := "m.bal", line := Numeral.firstUnwritten }

/-- The finding about it has a message and a value, but no line. -/
theorem line_eq_error_of_farParameter :
    (braced.reconcile [farParameter] [] []).map
        (fun report => report.findings.map fun finding =>
          (finding.message.isOk, finding.toRaw.isOk, finding.line)) =
      .ok [(true, true, .error (.location .tooManyDigits))] := by
  decide +kernel

end Context

end ParameterDrift
