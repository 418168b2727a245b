import SupportFlow.Identity.Models

/-!
# Documents, versions and ingestion intents

The rows of `documents`, `document_versions` and `document_ingestion_outbox`.

Two columns of the outbox are one field here. The table's `lease_pair` constraint says that
`lease_token` and `lease_expires_at` are null together, so a lease is an optional pair (`Lease`) and
a row with half a lease cannot be built. `safe_error` restricts `last_error` to three texts, so it
is an optional `RelayError`.
-/

namespace SupportFlow

inductive DocumentMediaType
  | pdf
  | text
  | markdown
  deriving DecidableEq, Repr

/-- The stored value of a media type. -/
def DocumentMediaType.value : DocumentMediaType → String
  | .pdf => "application/pdf"
  | .text => "text/plain"
  | .markdown => "text/markdown"

inductive DocumentProcessingStatus
  | queued
  | extracting
  | ready
  | failed
  deriving DecidableEq, Repr

/-- READY and FAILED are the terminal statuses. -/
def DocumentProcessingStatus.Terminal (status : DocumentProcessingStatus) : Prop :=
  status = .ready ∨ status = .failed

instance (status : DocumentProcessingStatus) : Decidable status.Terminal :=
  inferInstanceAs (Decidable (_ ∨ _))

inductive DocumentErrorCode
  | dispatchFailed
  | storageUnavailable
  | scannerUnavailable
  | malwareDetected
  | unsupportedDocument
  | extractionFailed
  | extractionLimitExceeded
  | retryExhausted
  | databaseUnavailable
  deriving DecidableEq, Repr

/-- The stored value of an error code. -/
def DocumentErrorCode.value : DocumentErrorCode → String
  | .dispatchFailed => "dispatch_failed"
  | .storageUnavailable => "storage_unavailable"
  | .scannerUnavailable => "scanner_unavailable"
  | .malwareDetected => "malware_detected"
  | .unsupportedDocument => "unsupported_document"
  | .extractionFailed => "extraction_failed"
  | .extractionLimitExceeded => "extraction_limit_exceeded"
  | .retryExhausted => "retry_exhausted"
  | .databaseUnavailable => "database_unavailable"

/-- A row of `documents`. -/
structure Document where
  id : UUID
  organizationId : UUID
  displayFilename : String
  createdByUserId : UUID
  deriving DecidableEq, Repr

/-- A row of `document_versions`. -/
structure DocumentVersion where
  id : UUID
  organizationId : UUID
  documentId : UUID
  versionNumber : ℕ
  mediaType : DocumentMediaType
  sizeBytes : ℕ
  contentSha256 : String
  storageKey : String
  status : DocumentProcessingStatus
  extractedText : Option String
  attemptCount : ℕ
  processingTaskId : Option String
  processingStartedAt : Option Instant
  errorCode : Option DocumentErrorCode
  createdAt : Instant
  deriving DecidableEq, Repr

/-- The texts `safe_error` allows in `last_error`. -/
inductive RelayError
  | publishUnavailable
  | attemptsExhausted
  | ownershipAmbiguous
  deriving DecidableEq, Repr

/-- The pair `(lease_token, lease_expires_at)` of a leased intent. -/
structure Lease where
  token : UUID
  expiresAt : Instant
  deriving DecidableEq, Repr

/-- A row of `document_ingestion_outbox`. -/
structure DocumentIngestionIntent where
  id : UUID
  organizationId : UUID
  documentVersionId : UUID
  taskId : String
  availableAt : Instant
  publishedAt : Option Instant
  settledAt : Option Instant
  unresolvedAt : Option Instant
  lease : Option Lease
  publishAttempts : ℕ
  recoveryAttempts : ℕ
  recoveryGrants : ℕ
  lastError : Option RelayError
  deriving DecidableEq, Repr

instance : PrimaryKey Document UUID :=
  ⟨Document.id⟩

instance : PrimaryKey DocumentVersion UUID :=
  ⟨DocumentVersion.id⟩

instance : PrimaryKey DocumentIngestionIntent UUID :=
  ⟨DocumentIngestionIntent.id⟩

/-- An intent as a producer inserts it: due at once, with the column defaults for the rest. -/
def DocumentIngestionIntent.create (id organizationId documentVersionId : UUID) (taskId : String)
    (now : Instant) : DocumentIngestionIntent where
  id := id
  organizationId := organizationId
  documentVersionId := documentVersionId
  taskId := taskId
  availableAt := now
  publishedAt := none
  settledAt := none
  unresolvedAt := none
  lease := none
  publishAttempts := 0
  recoveryAttempts := 0
  recoveryGrants := 0
  lastError := none

end SupportFlow
