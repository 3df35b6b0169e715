import ParameterDrift.Service
/-! # Collecting findings

A reconciliation or a validation may be asked to report to a collector, which keeps what is reported
to it in order. A reconciliation makes its findings first and reports them when both passes are
over. A validation lets the reconciliations of all resources report to one collector, and gathers
the findings itself as well.
-/

namespace ParameterDrift

/-- What was reported, in order. -/
structure Collector where
  findings : List Finding := []
  deriving DecidableEq, Repr

namespace Collector

/-- The collector after one more report. -/
def report (collector : Collector) (kind : FindingKind) (location : Option Location)
    (severity : Severity) (arguments : List String) : Collector :=
  { findings := collector.findings ++ [{ kind, severity, location, arguments }] }

/-- The collector after the reports of some findings, one after the other. -/
def reportAll (collector : Collector) (findings : List Finding) : Collector :=
  findings.foldl
    (fun collector finding =>
      collector.report finding.kind finding.location finding.severity finding.arguments)
    collector

end Collector

/-- Reconcile, and report the findings to a collector. -/
def Context.reconcileInto (context : Context) (collector : Collector)
    (implemented : List ImplementedParameter) (spec : List ContractParameter)
    (components : Components) : Except Identifier.CodePointFault Report × Collector :=
  match context.reconcile implemented spec components with
  | .error fault => (.error fault, collector)
  | .ok report => (.ok report, collector.reportAll report.findings)

/-- Reconcile some resources one after the other, given what was found before them. -/
def Contract.validateFrom (contract : Contract) (settings : Settings) :
    List Resource → List Finding → Collector →
      Except Identifier.CodePointFault (List Finding) × Collector
  | [], found, collector => (.ok found, collector)
  | resource :: rest, found, collector =>
    match contract.operation? resource.method resource.path with
    | none => contract.validateFrom settings rest found collector
    | some operation =>
      match resource.implemented with
      | .error fault => (.error fault, collector)
      | .ok implemented =>
        match (settings.context operation resource).reconcileInto collector
            (implemented.map Prod.snd) operation.parameters contract.components with
        | (.error fault, collector) => (.error fault, collector)
        | (.ok report, collector) =>
          contract.validateFrom settings rest (found ++ report.findings) collector

/-- Validate a manifest, and report to a collector: the findings or the fault, and the collector
as it is left behind. -/
def Contract.validateInto (contract : Contract) (manifest : Manifest) (settings : Settings)
    (collector : Collector) : Except Identifier.CodePointFault (List Finding) × Collector :=
  contract.validateFrom settings manifest.resources [] collector

end ParameterDrift
