import ParameterDrift.Main
import ParameterDrift.Proofs.Outcome
import ParameterDrift.Proofs.Keyed
import ParameterDrift.Raw.Json.Reading
import ParameterDrift.Proofs.Raw.Entries
import ParameterDrift.Proofs.Raw.Writing
import ParameterDrift.Proofs.Raw.ReadBack
import ParameterDrift.Proofs.Text.Segments
import ParameterDrift.Proofs.Text.Case
import ParameterDrift.Proofs.Signature.CodePoint
import ParameterDrift.Proofs.Contract.Merge
import ParameterDrift.Proofs.Contract.Parts
import ParameterDrift.Proofs.Contract.Places
import ParameterDrift.Proofs.Contract.Readable
import ParameterDrift.Proofs.Contract.MergeOrder
import ParameterDrift.Proofs.Contract.Override
import ParameterDrift.Proofs.Contract.Extraction
import ParameterDrift.Proofs.Reconciliation.Passes
import ParameterDrift.Proofs.Reconciliation.Verdicts
import ParameterDrift.Proofs.Reconciliation.Faults
import ParameterDrift.Proofs.Redirect
import ParameterDrift.Proofs.Contract.Upgrade.Translation
import ParameterDrift.Proofs.Contract.Upgrade.Parameter
import ParameterDrift.Proofs.Contract.Upgrade.Operations
import ParameterDrift.Proofs.Contract.Upgrade.Components
import ParameterDrift.Proofs.Contract.Upgrade.Document
import ParameterDrift.Proofs.Contract.Reference
import ParameterDrift.Proofs.Contract.Bodies
import ParameterDrift.Proofs.Contract.Structured
import ParameterDrift.Proofs.Contract.Pointer
import ParameterDrift.Proofs.Reconciliation.References
import ParameterDrift.Collector
import ParameterDrift.Proofs.Finding
import ParameterDrift.Proofs.Service.Reports
import ParameterDrift.Proofs.Service.Deciding
import ParameterDrift.Proofs.Service.Severity
import ParameterDrift.Proofs.Service.Blocks
import ParameterDrift.Proofs.Service.Exemption
import ParameterDrift.Proofs.Contract.PathStructure
import ParameterDrift.Proofs.Contract.Pairing
import ParameterDrift.Proofs.Signature.Escapes
import ParameterDrift.Proofs.Contract.EscapedPath
import ParameterDrift.Proofs.Signature.Spelling
import ParameterDrift.Proofs.Service.Respelling
import ParameterDrift.Proofs.Checked
import ParameterDrift.Proofs.Workspace
import ParameterDrift.Proofs.Signature.Flat
import ParameterDrift.Proofs.Loading
import ParameterDrift.Proofs.CommandLine.Printing
import ParameterDrift.Proofs.CommandLine.ExitStatus
import ParameterDrift.Proofs.TypeName
import ParameterDrift.Proofs.Reconciliation.Fitting
import ParameterDrift.Proofs.Signature.Lexeme
import ParameterDrift.Proofs.Signature.Backslashed
import ParameterDrift.Proofs.Reconciliation.Halves
import ParameterDrift.Proofs.Reconciliation.Exemption
import ParameterDrift.Proofs.Reconciliation.OneMore
import ParameterDrift.Proofs.Reconciliation.Order
import ParameterDrift.Proofs.Raw.Revised
import ParameterDrift.Proofs.Contract.Nullable
import ParameterDrift.Proofs.Signature.FirstDeclared
import ParameterDrift.Proofs.Service.Once
import ParameterDrift.Proofs.Template
import ParameterDrift.Proofs.Reconciliation.Messages
import ParameterDrift.Proofs.Signature.DisplayPath
import ParameterDrift.Proofs.Reconciliation.Attempts
import ParameterDrift.Proofs.Service.Accounting
