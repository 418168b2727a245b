import SupportFlow.Documents.Lifecycle
import SupportFlow.Documents.Durability
import SupportFlow.Documents.Fencing
import SupportFlow.Documents.Ownership
import SupportFlow.Documents.Budget
import SupportFlow.Documents.Reconciliation
import SupportFlow.Tickets.Workflow
import SupportFlow.Classification.Dispatch
import SupportFlow.Classification.Publication
import SupportFlow.Documents.Execution
import SupportFlow.Documents.Tasks
import SupportFlow.Documents.RetryBudget
import SupportFlow.Documents.Retention
import SupportFlow.Classification.Ledger
import SupportFlow.Classification.Forbidden
import SupportFlow.Foundations.Base64
import SupportFlow.Foundations.Json
import SupportFlow.Foundations.Datetime
import SupportFlow.Identity.Uuid
import SupportFlow.UI.Session
import SupportFlow.UI.SessionHistory
import SupportFlow.UI.RedisSession
import SupportFlow.UI.RedisHistory
import SupportFlow.Tenancy.Runs
import SupportFlow.Documents.Rearm
import SupportFlow.Identity.Service
import SupportFlow.Documents.Repository
import SupportFlow.Documents.ScanVerdicts
import SupportFlow.UI.CookieChecks
import SupportFlow.Errors
import SupportFlow.Documents.StorageKeys
import SupportFlow.Documents.Validation
import SupportFlow.Documents.Upload
import SupportFlow.Audit.Ledger
import SupportFlow.Classification.OpeningRequest
import SupportFlow.Documents.BackfillRuns
import SupportFlow.Documents.RecoveryDeadline
import SupportFlow.Classification.Evaluation
import SupportFlow.Classification.Fingerprints
import SupportFlow.Classification.ProviderOutput
import SupportFlow.Release.TaskDefinition
import SupportFlow.Tenancy.Access
import SupportFlow.UI.TicketList
import SupportFlow.Documents.ClamdRecords
import SupportFlow.Documents.DisplayFilenames
import SupportFlow.Documents.PdfPages
import SupportFlow.Identity.AccountRuns
import SupportFlow.UI.Accountability
import SupportFlow.Documents.StorageRuns
import SupportFlow.Documents.PipelineRuns
