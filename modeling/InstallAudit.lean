import InstallAudit.Json
import InstallAudit.Main
import InstallAudit.Proofs.Agreement
import InstallAudit.Proofs.BySegments
import InstallAudit.Proofs.Canonical
import InstallAudit.Proofs.Checking
import InstallAudit.Proofs.ClosedForm
import InstallAudit.Proofs.Comparisons
import InstallAudit.Proofs.Enclosing
import InstallAudit.Proofs.Encodings
import InstallAudit.Proofs.Endings
import InstallAudit.Proofs.Extensions
import InstallAudit.Proofs.Layouts
import InstallAudit.Proofs.Legibility
import InstallAudit.Proofs.Oversight
import InstallAudit.Proofs.Placement
import InstallAudit.Proofs.Platforms
import InstallAudit.Proofs.Precedence
import InstallAudit.Proofs.Presentation
import InstallAudit.Proofs.Records
import InstallAudit.Proofs.Regeneration
import InstallAudit.Proofs.Scopes
import InstallAudit.Proofs.Settling
import InstallAudit.Proofs.Spellings
import InstallAudit.Proofs.Stacking
import InstallAudit.Proofs.Stripping
import InstallAudit.Proofs.Switching
import InstallAudit.Proofs.Verdict
import InstallAudit.Proofs.WrittenForms
import InstallAudit.Session
