import ParameterDrift.Contract.Reference
import ParameterDrift.Reconciliation.Context
import ParameterDrift.Signature.Implemented
/-! # Reconciliation

The parameters of an operation and those of the resource that implements it are compared in two
passes. Each implemented parameter must be documented, and with a type that fits: the first entry
of the contract that resolves to its name decides. Each documented parameter whose location is not
exempt must be implemented. Entries whose reference leads nowhere are skipped in both passes, and
the attempts to follow them are told beside the findings.
-/

namespace ParameterDrift

/-- The outcome of looking for a name among the entries of a contract: the references that led
nowhere on the way, and the first parameter of that name. -/
structure Search where
  dangling : List String := []
  found : Option ContractParameter := none

/-- Look for the first entry that resolves to a name. -/
def search (components : Components) (name : String) : List ContractParameter → Search
  | [] => {}
  | entry :: rest =>
    match entry.resolve components with
    | .error ref =>
      let later := search components name rest
      { later with dangling := ref :: later.dangling }
    | .ok parameter =>
      if parameter.name = some name then { found := some parameter }
      else search components name rest

/-- What is found for a name is the first resolved parameter of that name. -/
theorem found_search (components : Components) (name : String) (entries : List ContractParameter) :
    (search components name entries).found =
      (ContractParameter.resolveAll components entries).find? fun parameter =>
        parameter.name = some name := by
  induction entries with
  | nil => rfl
  | cons entry rest ih =>
    cases outcome : entry.resolve components with
    | error ref =>
      simpa [search, ContractParameter.resolveAll, outcome, Except.toOption] using ih
    | ok parameter =>
      by_cases named : parameter.name = some name
      · simp [search, ContractParameter.resolveAll, outcome, Except.toOption, named]
      · simpa [search, ContractParameter.resolveAll, outcome, Except.toOption, named] using ih

/-- What a reconciliation tells: its findings, and every reference that was tried and led nowhere,
in the order of the attempts. -/
structure Report where
  findings : List Finding := []
  dangling : List String := []
  deriving DecidableEq, Repr

namespace Context

/-- The finding about an implemented parameter that is not documented. It names the path as it is
shown to readers, which may fail. -/
def undefinedFinding (context : Context) (parameter : ImplementedParameter) :
    Except Identifier.CodePointFault Finding :=
  (DisplayPath.ofString context.path).map fun path =>
    { kind := .undefined
      severity := context.severity
      location := some parameter.location
      arguments := [parameter.name, context.method, path] }

/-- The finding about a parameter that is documented with another type. -/
def mismatchFinding (context : Context) (parameter : ImplementedParameter)
    (contractType : String) : Finding where
  kind := .typeMismatch
  severity := context.severity
  location := some parameter.location
  arguments :=
    [contractType, parameter.declaredType, parameter.name, context.method, context.path]

/-- The finding about a documented parameter that is not implemented. -/
def missingFinding (context : Context) (name : String) : Finding where
  kind := .missing
  severity := context.severity
  location := context.location
  arguments := [name, context.method, context.path]

/-- The finding about an implemented parameter, given the contract's parameter of its name. -/
def findingFor (context : Context) (parameter : ImplementedParameter) :
    Option ContractParameter → Except Identifier.CodePointFault (Option Finding)
  | none => (context.undefinedFinding parameter).map some
  | some documented =>
    .ok ((TypeName.mismatch? documented.schema parameter.declaredType).map
      (context.mismatchFinding parameter))

/-- The first pass: every implemented parameter against the contract. -/
def checkImplemented (context : Context) (spec : List ContractParameter)
    (components : Components) : List ImplementedParameter → Except Identifier.CodePointFault Report
  | [] => .ok {}
  | parameter :: rest => do
    let outcome := search components parameter.name spec
    let finding ← context.findingFor parameter outcome.found
    let later ← context.checkImplemented spec components rest
    .ok ⟨finding.toList ++ later.findings, outcome.dangling ++ later.dangling⟩

/-- The name that a resolved parameter is missed by when nothing of that name is implemented. -/
def missed? (context : Context) (implemented : List ImplementedParameter)
    (parameter : ContractParameter) : Option String :=
  match parameter.name with
  | none => none
  | some name =>
    if context.isExempt parameter.location || implemented.any fun own => own.name == name then none
    else some name

/-- The second pass: every entry of the contract against the implementation. -/
def checkDocumented (context : Context) (implemented : List ImplementedParameter)
    (components : Components) : List ContractParameter → Report
  | [] => {}
  | entry :: rest =>
    let later := context.checkDocumented implemented components rest
    match entry.resolve components with
    | .error ref => { later with dangling := ref :: later.dangling }
    | .ok parameter =>
      let finding := (context.missed? implemented parameter).map context.missingFinding
      { later with findings := finding.toList ++ later.findings }

/-- The second pass reports, in order, the resolved parameters that are missed. -/
theorem findings_checkDocumented (context : Context) (implemented : List ImplementedParameter)
    (components : Components) (entries : List ContractParameter) :
    (context.checkDocumented implemented components entries).findings =
      ((ContractParameter.resolveAll components entries).filterMap
        (context.missed? implemented)).map context.missingFinding := by
  induction entries with
  | nil => rfl
  | cons entry rest ih =>
    cases outcome : entry.resolve components with
    | error ref =>
      simpa [checkDocumented, ContractParameter.resolveAll, outcome, Except.toOption] using ih
    | ok parameter =>
      cases missed : context.missed? implemented parameter with
      | none =>
        simpa [checkDocumented, ContractParameter.resolveAll, outcome, Except.toOption, missed]
          using ih
      | some name =>
        simpa [checkDocumented, ContractParameter.resolveAll, outcome, Except.toOption, missed]
          using ih

/-- The second pass tries every reference that leads nowhere once. -/
theorem dangling_checkDocumented (context : Context) (implemented : List ImplementedParameter)
    (components : Components) (entries : List ContractParameter) :
    (context.checkDocumented implemented components entries).dangling =
      ContractParameter.danglingAll components entries := by
  induction entries with
  | nil => rfl
  | cons entry rest ih =>
    cases outcome : entry.resolve components with
    | error ref => simpa [checkDocumented, ContractParameter.danglingAll, outcome] using ih
    | ok parameter => simpa [checkDocumented, ContractParameter.danglingAll, outcome] using ih

/-- Both passes, the implemented parameters first. -/
def reconcile (context : Context) (implemented : List ImplementedParameter)
    (spec : List ContractParameter) (components : Components) :
    Except Identifier.CodePointFault Report :=
  (context.checkImplemented spec components implemented).map fun first =>
    let second := context.checkDocumented implemented components spec
    ⟨first.findings ++ second.findings, first.dangling ++ second.dangling⟩

end Context

end ParameterDrift
