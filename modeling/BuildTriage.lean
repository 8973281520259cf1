import BuildTriage.Analyzer
import BuildTriage.Downstream
import BuildTriage.Formats
import BuildTriage.KnowledgeBase.Outside
import BuildTriage.Main
import BuildTriage.Proofs.Formats
import BuildTriage.Proofs.KnowledgeBase.Cache.Interleaving
import BuildTriage.Proofs.KnowledgeBase.Cache.Signals
import BuildTriage.Proofs.KnowledgeBase.Refinement
import BuildTriage.Proofs.KnowledgeBase.Reopening
import BuildTriage.Proofs.KnowledgeBase.StatisticsQuery
import BuildTriage.Proofs.Migration.Once
import BuildTriage.Proofs.Pool.Sizing
import BuildTriage.Proofs.Scan.WholeLines
import BuildTriage.Proofs.Scan.WholeText
import BuildTriage.Proofs.Triage.Serial
import BuildTriage.Text.Lowercase
import BuildTriage.Proofs.KnowledgeBase.Documents
import BuildTriage.Proofs.KnowledgeBase.Failures
import BuildTriage.Proofs.Scan.Slots
import BuildTriage.Proofs.Scan.Crew
import BuildTriage.Proofs.KnowledgeBase.Recording
import BuildTriage.Proofs.Pool.Quiet
import BuildTriage.Proofs.Triage.Calls
import BuildTriage.Proofs.KnowledgeBase.Reached
import BuildTriage.Proofs.Triage.Service
import BuildTriage.Proofs.Triage.Accounts
import BuildTriage.Proofs.Triage.Completions
import BuildTriage.Proofs.Scan.Causes
import BuildTriage.Proofs.Triage.Reported
import BuildTriage.Proofs.Triage.Gate
import BuildTriage.Proofs.Scan.InTime
import BuildTriage.Proofs.Triage.Look
import BuildTriage.Proofs.KnowledgeBase.Conversion.Faithful
import BuildTriage.Proofs.Acceptance
import BuildTriage.Proofs.KnowledgeBase.Insertion
import BuildTriage.Proofs.Migration.Filled
import BuildTriage.Proofs.Migration.Restored
import BuildTriage.Proofs.Reload
import BuildTriage.Proofs.Triage.SizeLimit
import BuildTriage.Proofs.Downstream
import BuildTriage.Proofs.Scan.Cutting
