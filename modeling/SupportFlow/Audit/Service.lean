import SupportFlow.Documents.Models
import SupportFlow.Tickets.Models

/-!
# Audit events

`AuditEventService` builds one audit row per recorded action. Each recorder checks its metadata
against an allowlist first and raises `AuditMetadataError` outside it; the caller's transaction then
rolls back. Allowlists over an enumeration hold by typing here and are not repeated; what remains is
the numeric checks and the one allowlist narrower than its type (`recordClassificationFinished`).

The row's own `id` and `created_at` are defaults that only `list_events` reads, so the log is a list
of events in commit order, and the rows with these two columns are beside it (`AuditRow`).
-/

namespace SupportFlow

inductive AuditAction
  | organizationMemberCreated
  | ticketCreated
  | ticketMessageCreated
  | ticketStatusChanged
  | documentUploaded
  | documentReady
  | documentFailed
  | documentDispatchRearmed
  | classificationFinished
  deriving DecidableEq, Repr

inductive AuditResourceType
  | organizationMember
  | ticket
  | ticketMessage
  | document
  | documentVersion
  | classificationOperation
  deriving DecidableEq, Repr

/-- A metadata value: audit metadata maps names to strings and integers. -/
inductive MetadataValue
  | str (s : String)
  | int (n : ℤ)
  deriving DecidableEq, Repr

/-- A row of `audit_events`. -/
structure AuditEvent where
  organizationId : UUID
  actorUserId : Option UUID
  action : AuditAction
  resourceType : AuditResourceType
  resourceId : Option UUID
  eventMetadata : List (String × MetadataValue)
  deriving DecidableEq, Repr

/-- A row of `audit_events` with its own columns. -/
structure AuditRow where
  id : UUID
  createdAt : Instant
  event : AuditEvent
  deriving DecidableEq, Repr

instance : PrimaryKey AuditRow UUID :=
  ⟨AuditRow.id⟩

structure AuditEventPage where
  items : List AuditRow
  total : ℕ
  deriving DecidableEq, Repr

/-- `list_events`: newest first. -/
def AuditEventRepository.listEvents (organizationId : UUID) (limit offset : ℕ)
    (auditRows : Table AuditRow) : AuditEventPage :=
  let rows := auditRows.rows.filter fun row ↦ row.event.organizationId = organizationId
  let sorted := rows.insertionSort fun a b ↦
    b.createdAt < a.createdAt ∨ a.createdAt = b.createdAt ∧ b.id ≤ a.id
  ⟨(sorted.drop offset).take limit, rows.length⟩

/-- Raised when audit metadata is outside the action-specific allowlist. -/
inductive AuditMetadataError
  | unsupportedDocumentUploadMetadata
  | unsupportedDocumentReadyMetadata
  | unsupportedDocumentFailureMetadata
  | invalidRecoveryGrant
  | invalidClassificationState
  deriving DecidableEq, Repr

/-- The states `record_classification_finished` is asked to record. -/
inductive ClassificationState
  | inProgress
  | succeeded
  | stale
  | failed
  | unknown
  deriving DecidableEq, Repr

/-- The stored value of an operation's state. -/
def ClassificationState.value : ClassificationState → String
  | .inProgress => "in_progress"
  | .succeeded => "succeeded"
  | .stale => "stale"
  | .failed => "failed"
  | .unknown => "unknown"

namespace AuditEventService

def recordOrganizationMemberCreated (organizationId actorUserId memberUserId : UUID)
    (role : MembershipRole) : AuditEvent where
  organizationId := organizationId
  actorUserId := some actorUserId
  action := .organizationMemberCreated
  resourceType := .organizationMember
  resourceId := some memberUserId
  eventMetadata := [("role", .str role.value)]

def recordTicketCreated (organizationId actorUserId ticketId : UUID)
    (sourceType : TicketSourceType) : AuditEvent where
  organizationId := organizationId
  actorUserId := some actorUserId
  action := .ticketCreated
  resourceType := .ticket
  resourceId := some ticketId
  eventMetadata := [("source_type", .str sourceType.value)]

def recordTicketMessageCreated (organizationId : UUID) (actorUserId : Option UUID)
    (ticketMessageId : UUID) : AuditEvent where
  organizationId := organizationId
  actorUserId := actorUserId
  action := .ticketMessageCreated
  resourceType := .ticketMessage
  resourceId := some ticketMessageId
  eventMetadata := []

def recordTicketStatusChanged (organizationId actorUserId ticketId : UUID)
    (previousStatus newStatus : TicketStatus) : AuditEvent where
  organizationId := organizationId
  actorUserId := some actorUserId
  action := .ticketStatusChanged
  resourceType := .ticket
  resourceId := some ticketId
  eventMetadata :=
    [("previous_status", .str previousStatus.value), ("new_status", .str newStatus.value)]

def recordDocumentUploaded (organizationId actorUserId documentId : UUID) (versionNumber : ℕ)
    (mediaType : DocumentMediaType) (sizeBytes : ℕ) : Except AuditMetadataError AuditEvent :=
  if versionNumber < 1 ∨ sizeBytes < 1 then .error .unsupportedDocumentUploadMetadata
  else
    .ok
      { organizationId := organizationId
        actorUserId := some actorUserId
        action := .documentUploaded
        resourceType := .document
        resourceId := some documentId
        eventMetadata :=
          [("version_number", .int versionNumber), ("media_type", .str mediaType.value),
            ("size_bytes", .int sizeBytes)] }

/-- The row `record_document_ready` builds once its metadata passed the checks. -/
def documentReady (organizationId documentVersionId : UUID)
    (versionNumber attemptCount extractedCharacterCount : ℕ) : AuditEvent where
  organizationId := organizationId
  actorUserId := none
  action := .documentReady
  resourceType := .documentVersion
  resourceId := some documentVersionId
  eventMetadata :=
    [("version_number", .int versionNumber), ("attempt_count", .int attemptCount),
      ("extracted_character_count", .int extractedCharacterCount)]

def recordDocumentReady (organizationId documentVersionId : UUID)
    (versionNumber attemptCount extractedCharacterCount : ℕ) :
    Except AuditMetadataError AuditEvent :=
  if versionNumber < 1 ∨ attemptCount < 1 then .error .unsupportedDocumentReadyMetadata
  else
    .ok (documentReady organizationId documentVersionId versionNumber attemptCount
      extractedCharacterCount)

/-- The row `record_document_failed` builds once its metadata passed the checks. -/
def documentFailed (organizationId documentVersionId : UUID) (versionNumber : ℕ)
    (errorCode : DocumentErrorCode) (attemptCount : ℕ) : AuditEvent where
  organizationId := organizationId
  actorUserId := none
  action := .documentFailed
  resourceType := .documentVersion
  resourceId := some documentVersionId
  eventMetadata :=
    [("version_number", .int versionNumber), ("error_code", .str errorCode.value),
      ("attempt_count", .int attemptCount)]

def recordDocumentFailed (organizationId documentVersionId : UUID) (versionNumber : ℕ)
    (errorCode : DocumentErrorCode) (attemptCount : ℕ) : Except AuditMetadataError AuditEvent :=
  if versionNumber < 1 then .error .unsupportedDocumentFailureMetadata
  else .ok (documentFailed organizationId documentVersionId versionNumber errorCode attemptCount)

def recordDocumentDispatchRearmed (organizationId actorUserId versionId : UUID)
    (grantNumber : ℕ) : Except AuditMetadataError AuditEvent :=
  if ¬(1 ≤ grantNumber ∧ grantNumber ≤ 3) then .error .invalidRecoveryGrant
  else
    .ok
      { organizationId := organizationId
        actorUserId := some actorUserId
        action := .documentDispatchRearmed
        resourceType := .documentVersion
        resourceId := some versionId
        eventMetadata :=
          [("reason", .str "dependency_repaired"), ("grant_number", .int grantNumber)] }

/-- The row `record_classification_finished` builds once its state passed the check. -/
def classificationFinished (organizationId actorUserId operationId : UUID)
    (state : ClassificationState) : AuditEvent where
  organizationId := organizationId
  actorUserId := some actorUserId
  action := .classificationFinished
  resourceType := .classificationOperation
  resourceId := some operationId
  eventMetadata := [("mode", .str "fake"), ("state", .str state.value)]

def recordClassificationFinished (organizationId actorUserId operationId : UUID)
    (state : ClassificationState) : Except AuditMetadataError AuditEvent :=
  if state = .inProgress then .error .invalidClassificationState
  else .ok (classificationFinished organizationId actorUserId operationId state)

/-- The row of an upload that passed the checks of `record_document_uploaded`. -/
def documentUploaded (organizationId actorUserId documentId : UUID) (versionNumber : ℕ)
    (mediaType : DocumentMediaType) (sizeBytes : ℕ) : AuditEvent where
  organizationId := organizationId
  actorUserId := some actorUserId
  action := .documentUploaded
  resourceType := .document
  resourceId := some documentId
  eventMetadata :=
    [("version_number", .int versionNumber), ("media_type", .str mediaType.value),
      ("size_bytes", .int sizeBytes)]

theorem recordDocumentUploaded_eq_ok_iff {organizationId actorUserId documentId : UUID}
    {versionNumber : ℕ} {mediaType : DocumentMediaType} {sizeBytes : ℕ} {event : AuditEvent} :
    recordDocumentUploaded organizationId actorUserId documentId versionNumber mediaType sizeBytes =
        .ok event ↔
      (1 ≤ versionNumber ∧ 1 ≤ sizeBytes) ∧
        documentUploaded organizationId actorUserId documentId versionNumber mediaType sizeBytes =
          event := by
  unfold recordDocumentUploaded
  split
  · next h => exact ⟨fun he ↦ (nomatch he), fun he ↦ by omega⟩
  · next h =>
    rw [Except.ok.injEq]
    exact ⟨fun he ↦ ⟨by omega, he⟩, fun he ↦ he.2⟩

/-- The row of a rearm that passed the check of `record_document_dispatch_rearmed`. -/
def documentDispatchRearmed (organizationId actorUserId versionId : UUID) (grantNumber : ℕ) :
    AuditEvent where
  organizationId := organizationId
  actorUserId := some actorUserId
  action := .documentDispatchRearmed
  resourceType := .documentVersion
  resourceId := some versionId
  eventMetadata := [("reason", .str "dependency_repaired"), ("grant_number", .int grantNumber)]

theorem recordDocumentDispatchRearmed_eq_ok_iff {organizationId actorUserId versionId : UUID}
    {grantNumber : ℕ} {event : AuditEvent} :
    recordDocumentDispatchRearmed organizationId actorUserId versionId grantNumber = .ok event ↔
      (1 ≤ grantNumber ∧ grantNumber ≤ 3) ∧
        documentDispatchRearmed organizationId actorUserId versionId grantNumber = event := by
  unfold recordDocumentDispatchRearmed
  split
  · next h => exact ⟨fun he ↦ (nomatch he), fun he ↦ absurd he.1 h⟩
  · next h =>
    rw [Except.ok.injEq]
    exact ⟨fun he ↦ ⟨not_not.1 h, he⟩, fun he ↦ he.2⟩

theorem recordDocumentReady_eq_ok_iff {organizationId documentVersionId : UUID}
    {versionNumber attemptCount count : ℕ} {event : AuditEvent} :
    recordDocumentReady organizationId documentVersionId versionNumber attemptCount count =
        .ok event ↔
      1 ≤ versionNumber ∧ 1 ≤ attemptCount ∧
        documentReady organizationId documentVersionId versionNumber attemptCount count =
          event := by
  unfold recordDocumentReady
  split
  · next h => exact ⟨fun he ↦ (nomatch he), fun he ↦ by omega⟩
  · next h =>
    rw [Except.ok.injEq]
    exact ⟨fun he ↦ ⟨by omega, by omega, he⟩, fun he ↦ he.2.2⟩

theorem recordDocumentFailed_eq_ok_iff {organizationId documentVersionId : UUID}
    {versionNumber attemptCount : ℕ} {errorCode : DocumentErrorCode} {event : AuditEvent} :
    recordDocumentFailed organizationId documentVersionId versionNumber errorCode attemptCount =
        .ok event ↔
      1 ≤ versionNumber ∧
        documentFailed organizationId documentVersionId versionNumber errorCode attemptCount =
          event := by
  unfold recordDocumentFailed
  split
  · next h => exact ⟨fun he ↦ (nomatch he), fun he ↦ by omega⟩
  · next h =>
    rw [Except.ok.injEq]
    exact ⟨fun he ↦ ⟨by omega, he⟩, fun he ↦ he.2⟩

end AuditEventService

end SupportFlow
