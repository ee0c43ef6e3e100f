import LeadingDot.Check
import LeadingDot.Collect
import LeadingDot.Exclusion
import LeadingDot.Main
import LeadingDot.Program
import LeadingDot.Record.SettingsFile
import LeadingDot.Report.Sarif
import LeadingDot.Report.Summary
import LeadingDot.Report.Terminal
import LeadingDot.Run
import LeadingDot.Proofs.Collect
import LeadingDot.Proofs.Command.Lint
import LeadingDot.Proofs.Report.Recovery
import LeadingDot.Proofs.Result.Operations
import LeadingDot.Proofs.Run
import LeadingDot.Proofs.Scan.Comments
import LeadingDot.Proofs.Scan.Order
import LeadingDot.Proofs.Scope.DeclaredType
import LeadingDot.Proofs.Suppression.Forms
import LeadingDot.Proofs.Suppression.Placement
import LeadingDot.Proofs.Tree.Neighbours
import LeadingDot.Proofs.Scope.ReturnType
import LeadingDot.Proofs.Result.NormalForm
import LeadingDot.Proofs.Suppression.Composition
import LeadingDot.Proofs.Check.Comments
import LeadingDot.Proofs.Scope.Conditions
import LeadingDot.Proofs.Files.Below
import LeadingDot.Proofs.Report.RelativePath
import LeadingDot.Proofs.Report.Log
import LeadingDot.Proofs.Report.Summary
import LeadingDot.Proofs.Severity
