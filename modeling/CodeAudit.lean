import CodeAudit.Audit.Session
import CodeAudit.Files.Staged
import CodeAudit.Main
import CodeAudit.Proofs.Audit.Options
import CodeAudit.Proofs.Audit.Records
import CodeAudit.Proofs.Audit.Sharing
import CodeAudit.Proofs.CommandLine.Formats
import CodeAudit.Proofs.CommandLine.Limits
import CodeAudit.Proofs.Flow.Chains
import CodeAudit.Proofs.Flow.Comments
import CodeAudit.Proofs.Flow.Complexity
import CodeAudit.Proofs.Flow.Descent
import CodeAudit.Proofs.Flow.Operands
import CodeAudit.Proofs.Flow.Rearrangement
import CodeAudit.Proofs.Flow.Shapes
import CodeAudit.Proofs.Flow.Size
import CodeAudit.Proofs.Flow.Words
import CodeAudit.Proofs.Functions.Alone
import CodeAudit.Proofs.Functions.Cutting
import CodeAudit.Proofs.Functions.Dedent
import CodeAudit.Proofs.Functions.Naming
import CodeAudit.Proofs.Json.Forms
import CodeAudit.Proofs.Report.Details
import CodeAudit.Proofs.Report.Findings
import CodeAudit.Proofs.Report.Globals
import CodeAudit.Proofs.Report.Record
import CodeAudit.Proofs.Settings.Given
import CodeAudit.Proofs.Syntax.Faults
