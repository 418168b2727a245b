import SupportFlow.Database
import SupportFlow.Foundations.Python

/-!
# The ingestion worker's transactions

`DocumentIngestionService` works on one version row at a time. Storage, scanning and extraction
happen between its transactions, never inside one, so the worker is a handful of short
transactions: `_claim`, `_mark_ready`, `_mark_failed`, the read-only `_owned_record`, and the one of
`prepare_retry`. Each is a function on the database here; `_load_locked` locks the row, so a
transaction is atomic with respect to the other writers of that row.

A transaction that raises `AuditMetadataError` rolls back. A database failure inside any of them
(`RetryableIngestionError`, with `database_unavailable`) rolls back as well; since it can strike at
any point, it is a step of the system and not a case of these functions.

## The row transitions

Every write of the worker is one of four row updates: `begin`, `succeed`, `fail` and `requeue`.
`claim_spec`, `markReady_spec`, `markFailed_spec` and `prepareRetry_spec` say, for each transaction,
which of them it applies and under which guard. `WorkerWrite` is their union: whatever a worker
commits is one of its six cases, and nothing later unfolds a transaction again.
-/

namespace SupportFlow

namespace DocumentVersion

variable (version : DocumentVersion)

/-- `queued → extracting`: a task takes the version and one attempt is charged. -/
def begin (taskId : String) (startedAt : Instant) : DocumentVersion :=
  { version with
    status := .extracting
    processingTaskId := some taskId
    attemptCount := version.attemptCount + 1
    errorCode := none
    processingStartedAt := some startedAt }

/-- `extracting → ready`. -/
def succeed (extractedText : String) : DocumentVersion :=
  { version with
    status := .ready
    extractedText := some extractedText
    errorCode := none
    processingTaskId := none
    processingStartedAt := none }

/-- `queued | extracting → failed`. -/
def fail (errorCode : DocumentErrorCode) : DocumentVersion :=
  { version with
    status := .failed
    extractedText := none
    errorCode := some errorCode
    processingTaskId := none
    processingStartedAt := none }

/-- `extracting → queued`, ahead of a retry. The attempt stays charged. -/
def requeue (errorCode : DocumentErrorCode) : DocumentVersion :=
  { version with
    status := .queued
    processingTaskId := none
    processingStartedAt := none
    errorCode := some errorCode }

@[simp] theorem begin_id (t : String) (s : Instant) : (version.begin t s).id = version.id := rfl
@[simp] theorem succeed_id (x : String) : (version.succeed x).id = version.id := rfl
@[simp] theorem fail_id (c : DocumentErrorCode) : (version.fail c).id = version.id := rfl
@[simp] theorem requeue_id (c : DocumentErrorCode) : (version.requeue c).id = version.id := rfl

end DocumentVersion

inductive IngestionOutcome
  | ready
  | failed
  | alreadyTerminal
  | ownedByAnotherTask
  | notFound
  deriving DecidableEq, Repr

/-- The immutable snapshot a claim hands to the extraction. -/
structure ClaimedDocumentVersion where
  organizationId : UUID
  documentId : UUID
  versionId : UUID
  versionNumber : ℕ
  mediaType : DocumentMediaType
  storageKey : String
  sizeBytes : ℕ
  contentSha256 : String
  attemptCount : ℕ
  deriving DecidableEq, Repr

/-- A claim either hands out a record or ends the call with an outcome. -/
inductive ClaimResult
  | claimed (record : ClaimedDocumentVersion)
  | noop (outcome : IngestionOutcome)
  deriving DecidableEq, Repr

namespace DocumentIngestionService

/-- The version with its document, by the composite key that joins them. -/
def loadLocked (db : Database) (versionId : UUID) : Option (Document × DocumentVersion) :=
  (db.versions.get? versionId).bind fun version ↦
    ((db.documents.get? version.documentId).filter
      fun document ↦ decide (document.organizationId = version.organizationId)).map
        fun document ↦ (document, version)

def record (document : Document) (version : DocumentVersion) : ClaimedDocumentVersion where
  organizationId := document.organizationId
  documentId := document.id
  versionId := version.id
  versionNumber := version.versionNumber
  mediaType := version.mediaType
  storageKey := version.storageKey
  sizeBytes := version.sizeBytes
  contentSha256 := version.contentSha256
  attemptCount := version.attemptCount

def IsOwnedExtraction (version : DocumentVersion) (taskId : String) : Prop :=
  version.status = .extracting ∧ version.processingTaskId = some taskId

instance (version : DocumentVersion) (taskId : String) :
    Decidable (IsOwnedExtraction version taskId) :=
  inferInstanceAs (Decidable (_ ∧ _))

/-- The transaction of `_claim`. `startedAt` is the worker's own clock, which it stores in
`processing_started_at`. -/
def claim (maxAttempts : ℕ) (startedAt : Instant) (versionId : UUID) (taskId : String)
    (db : Database) : Except AuditMetadataError (ClaimResult × Database) :=
  match loadLocked db versionId with
  | none => .ok (.noop .notFound, db)
  | some (document, version) =>
    match version.status with
    | .ready => .ok (.noop .alreadyTerminal, db)
    | .failed => .ok (.noop .alreadyTerminal, db)
    | .extracting =>
      if version.processingTaskId ≠ some taskId then .ok (.noop .ownedByAnotherTask, db)
      -- The resume edge: the same task id re-enters its own extraction, uncharged.
      else .ok (.claimed (record document version), db)
    | .queued =>
      if maxAttempts ≤ version.attemptCount then
        (AuditEventService.recordDocumentFailed version.organizationId version.id
          version.versionNumber .retryExhausted version.attemptCount).map fun event ↦
            (.noop .failed, (db.setVersion (version.fail .retryExhausted)).record event)
      else
        .ok (.claimed (record document (version.begin taskId startedAt)),
          db.setVersion (version.begin taskId startedAt))

/-- The transaction of `_mark_ready`. -/
def markReady (claimed : ClaimedDocumentVersion) (taskId extractedText : String)
    (db : Database) : Except AuditMetadataError Database :=
  match loadLocked db claimed.versionId with
  | none => .ok db
  | some (_, version) =>
    if IsOwnedExtraction version taskId then
      (AuditEventService.recordDocumentReady claimed.organizationId claimed.versionId
        claimed.versionNumber version.attemptCount extractedText.length).map fun event ↦
          (db.setVersion (version.succeed extractedText)).record event
    else .ok db

/-- The transaction of `_mark_failed`. -/
def markFailed (claimed : ClaimedDocumentVersion) (taskId : String)
    (errorCode : DocumentErrorCode) (db : Database) : Except AuditMetadataError Database :=
  match loadLocked db claimed.versionId with
  | none => .ok db
  | some (_, version) =>
    if IsOwnedExtraction version taskId then
      (AuditEventService.recordDocumentFailed claimed.organizationId claimed.versionId
        claimed.versionNumber errorCode version.attemptCount).map fun event ↦
          (db.setVersion (version.fail errorCode)).record event
    else .ok db

/-- The transaction of `prepare_retry`. -/
def prepareRetry (versionId : UUID) (taskId : String) (errorCode : DocumentErrorCode)
    (db : Database) : Database :=
  match loadLocked db versionId with
  | none => db
  | some (_, version) =>
    if IsOwnedExtraction version taskId then db.setVersion (version.requeue errorCode) else db

/-- The read-only transaction with which `mark_retry_exhausted` starts. -/
def ownedRecord (versionId : UUID) (taskId : String) (db : Database) :
    Option ClaimedDocumentVersion :=
  match loadLocked db versionId with
  | none => none
  | some (document, version) =>
    if IsOwnedExtraction version taskId then some (record document version) else none

/-! ### What each transaction does to the row -/

theorem loadLocked_eq_some_iff {db : Database} {versionId : UUID} {document : Document}
    {version : DocumentVersion} :
    loadLocked db versionId = some (document, version) ↔
      db.versions.get? versionId = some version ∧
        db.documents.get? version.documentId = some document ∧
          document.organizationId = version.organizationId := by
  simp only [loadLocked, Option.bind_eq_some_iff, Option.map_eq_some_iff, Option.filter_eq_some_iff,
    decide_eq_true_eq, Prod.mk.injEq]
  constructor
  · rintro ⟨v, hv, d, ⟨hd, horg⟩, rfl, rfl⟩
    exact ⟨hv, hd, horg⟩
  · rintro ⟨hv, hd, horg⟩
    exact ⟨version, hv, document, ⟨hd, horg⟩, rfl, rfl⟩

/-- The identity a claimed record carries: the version's own key, organization and number, which
no transaction of the worker ever changes. -/
def ClaimOf (claimed : ClaimedDocumentVersion) (version : DocumentVersion) : Prop :=
  claimed.versionId = version.id ∧ claimed.organizationId = version.organizationId ∧
    claimed.versionNumber = version.versionNumber

theorem claimOf_record {db : Database} {versionId : UUID} {document : Document}
    {version : DocumentVersion} (h : loadLocked db versionId = some (document, version)) :
    ClaimOf (record document version) version :=
  ⟨rfl, (loadLocked_eq_some_iff.1 h).2.2, rfl⟩

/-- **The claim transaction, by cases**: no write at all; a resumed extraction, without a write; a
queued version begun below the cap; a queued version failed at the cap. -/
theorem claim_spec {maxAttempts : ℕ} {startedAt : Instant} {versionId : UUID} {taskId : String}
    {db db' : Database} {result : ClaimResult}
    (h : claim maxAttempts startedAt versionId taskId db = .ok (result, db')) :
    ((∃ outcome, result = .noop outcome) ∧ db' = db) ∨
      (∃ version claimed, db.versions.get? versionId = some version ∧
        IsOwnedExtraction version taskId ∧ ClaimOf claimed version ∧
          result = .claimed claimed ∧ db' = db) ∨
      (∃ version claimed, db.versions.get? versionId = some version ∧ version.status = .queued ∧
        version.attemptCount < maxAttempts ∧ ClaimOf claimed version ∧
          result = .claimed claimed ∧ db' = db.setVersion (version.begin taskId startedAt)) ∨
      ∃ version, db.versions.get? versionId = some version ∧ version.status = .queued ∧
        maxAttempts ≤ version.attemptCount ∧ result = .noop .failed ∧
          db' = (db.setVersion (version.fail .retryExhausted)).record
            (AuditEventService.documentFailed version.organizationId version.id
              version.versionNumber .retryExhausted version.attemptCount) := by
  unfold claim at h
  rcases hload : loadLocked db versionId with - | ⟨document, version⟩
  · simp only [hload, Except.ok.injEq, Prod.mk.injEq] at h
    exact Or.inl ⟨⟨_, h.1.symm⟩, h.2.symm⟩
  · have hget := (loadLocked_eq_some_iff.1 hload).1
    have hrecord := claimOf_record hload
    simp only [hload] at h
    cases hstatus : version.status with
    | ready =>
      simp only [hstatus, Except.ok.injEq, Prod.mk.injEq] at h
      exact Or.inl ⟨⟨_, h.1.symm⟩, h.2.symm⟩
    | failed =>
      simp only [hstatus, Except.ok.injEq, Prod.mk.injEq] at h
      exact Or.inl ⟨⟨_, h.1.symm⟩, h.2.symm⟩
    | extracting =>
      simp only [hstatus] at h
      split at h
      · simp only [Except.ok.injEq, Prod.mk.injEq] at h
        exact Or.inl ⟨⟨_, h.1.symm⟩, h.2.symm⟩
      · next howner =>
        simp only [Except.ok.injEq, Prod.mk.injEq] at h
        exact Or.inr (Or.inl ⟨version, _, hget, ⟨hstatus, not_not.1 howner⟩, hrecord, h.1.symm,
          h.2.symm⟩)
    | queued =>
      simp only [hstatus] at h
      split at h
      · next hcap =>
        obtain ⟨event, hevent, heq⟩ := Except.map_eq_ok_iff.1 h
        obtain ⟨-, rfl⟩ := AuditEventService.recordDocumentFailed_eq_ok_iff.1 hevent
        simp only [Prod.mk.injEq] at heq
        exact Or.inr (Or.inr (Or.inr ⟨version, hget, hstatus, hcap, heq.1.symm, heq.2.symm⟩))
      · next hcap =>
        simp only [Except.ok.injEq, Prod.mk.injEq] at h
        have hbegun : ClaimOf (record document (version.begin taskId startedAt)) version := hrecord
        exact Or.inr (Or.inr (Or.inl ⟨version, _, hget, hstatus, not_le.1 hcap, hbegun, h.1.symm,
          h.2.symm⟩))

/-- `_mark_ready` writes only over an extraction the task still owns. -/
theorem markReady_spec {claimed : ClaimedDocumentVersion} {taskId extractedText : String}
    {db db' : Database} (h : markReady claimed taskId extractedText db = .ok db') :
    db' = db ∨ ∃ version, db.versions.get? claimed.versionId = some version ∧
      IsOwnedExtraction version taskId ∧
        db' = (db.setVersion (version.succeed extractedText)).record
          (AuditEventService.documentReady claimed.organizationId claimed.versionId
            claimed.versionNumber version.attemptCount extractedText.length) := by
  unfold markReady at h
  rcases hload : loadLocked db claimed.versionId with - | ⟨document, version⟩
  · simp only [hload, Except.ok.injEq] at h
    exact Or.inl h.symm
  · simp only [hload] at h
    split at h
    · next howned =>
      obtain ⟨event, hevent, rfl⟩ := Except.map_eq_ok_iff.1 h
      obtain ⟨-, -, rfl⟩ := AuditEventService.recordDocumentReady_eq_ok_iff.1 hevent
      exact Or.inr ⟨version, (loadLocked_eq_some_iff.1 hload).1, howned, rfl⟩
    · exact Or.inl (Except.ok.inj h).symm

/-- `_mark_failed` writes only over an extraction the task still owns. -/
theorem markFailed_spec {claimed : ClaimedDocumentVersion} {taskId : String}
    {errorCode : DocumentErrorCode} {db db' : Database}
    (h : markFailed claimed taskId errorCode db = .ok db') :
    db' = db ∨ ∃ version, db.versions.get? claimed.versionId = some version ∧
      IsOwnedExtraction version taskId ∧
        db' = (db.setVersion (version.fail errorCode)).record
          (AuditEventService.documentFailed claimed.organizationId claimed.versionId
            claimed.versionNumber errorCode version.attemptCount) := by
  unfold markFailed at h
  rcases hload : loadLocked db claimed.versionId with - | ⟨document, version⟩
  · simp only [hload, Except.ok.injEq] at h
    exact Or.inl h.symm
  · simp only [hload] at h
    split at h
    · next howned =>
      obtain ⟨event, hevent, rfl⟩ := Except.map_eq_ok_iff.1 h
      obtain ⟨-, rfl⟩ := AuditEventService.recordDocumentFailed_eq_ok_iff.1 hevent
      exact Or.inr ⟨version, (loadLocked_eq_some_iff.1 hload).1, howned, rfl⟩
    · exact Or.inl (Except.ok.inj h).symm

/-- `prepare_retry` writes only over an extraction the task still owns. -/
theorem prepareRetry_spec (versionId : UUID) (taskId : String) (errorCode : DocumentErrorCode)
    (db : Database) :
    prepareRetry versionId taskId errorCode db = db ∨
      ∃ version, db.versions.get? versionId = some version ∧ IsOwnedExtraction version taskId ∧
        prepareRetry versionId taskId errorCode db = db.setVersion (version.requeue errorCode) := by
  unfold prepareRetry
  rcases hload : loadLocked db versionId with - | ⟨document, version⟩
  · exact Or.inl rfl
  · by_cases howned : IsOwnedExtraction version taskId
    · refine Or.inr ⟨version, (loadLocked_eq_some_iff.1 hload).1, howned, ?_⟩
      simp only [if_pos howned]
    · exact Or.inl (by simp only [if_neg howned])

theorem claimOf_of_ownedRecord {versionId : UUID} {taskId : String} {db : Database}
    {claimed : ClaimedDocumentVersion} (h : ownedRecord versionId taskId db = some claimed) :
    ∃ version, db.versions.get? versionId = some version ∧ ClaimOf claimed version := by
  unfold ownedRecord at h
  rcases hload : loadLocked db versionId with - | ⟨document, version⟩
  · simp [hload] at h
  · simp only [hload] at h
    split at h
    · obtain rfl := Option.some.inj h
      exact ⟨version, (loadLocked_eq_some_iff.1 hload).1, claimOf_record hload⟩
    · exact absurd h (by simp)

/-! ### What a worker can commit -/

/-- **Every database a worker's transaction can leave**, for one version and task id. `startedAt` is
the start time a claim brings along; the other transactions bring none. -/
inductive WorkerWrite (maxAttempts : ℕ) (versionId : UUID) (taskId : String)
    (startedAt : Option Instant) (db : Database) : Database → Prop
  | nothing : WorkerWrite maxAttempts versionId taskId startedAt db db
  | begin {version : DocumentVersion} {s : Instant} (clock : startedAt = some s)
      (stored : db.versions.get? versionId = some version) (queued : version.status = .queued)
      (below : version.attemptCount < maxAttempts) :
      WorkerWrite maxAttempts versionId taskId startedAt db (db.setVersion (version.begin taskId s))
  | exhaust {version : DocumentVersion} (stored : db.versions.get? versionId = some version)
      (queued : version.status = .queued) (cap : maxAttempts ≤ version.attemptCount) :
      WorkerWrite maxAttempts versionId taskId startedAt db
        ((db.setVersion (version.fail .retryExhausted)).record
          (AuditEventService.documentFailed version.organizationId version.id
            version.versionNumber .retryExhausted version.attemptCount))
  | succeed {version : DocumentVersion} {text : String}
      (stored : db.versions.get? versionId = some version)
      (owned : IsOwnedExtraction version taskId) :
      WorkerWrite maxAttempts versionId taskId startedAt db
        ((db.setVersion (version.succeed text)).record
          (AuditEventService.documentReady version.organizationId version.id version.versionNumber
            version.attemptCount text.length))
  | fail {version : DocumentVersion} {code : DocumentErrorCode}
      (stored : db.versions.get? versionId = some version)
      (owned : IsOwnedExtraction version taskId) :
      WorkerWrite maxAttempts versionId taskId startedAt db
        ((db.setVersion (version.fail code)).record
          (AuditEventService.documentFailed version.organizationId version.id
            version.versionNumber code version.attemptCount))
  | requeue {version : DocumentVersion} {code : DocumentErrorCode}
      (stored : db.versions.get? versionId = some version)
      (owned : IsOwnedExtraction version taskId) :
      WorkerWrite maxAttempts versionId taskId startedAt db (db.setVersion (version.requeue code))

variable {maxAttempts : ℕ} {versionId : UUID} {taskId : String} {db db' : Database}
  {claimed : ClaimedDocumentVersion}

theorem claim_write {startedAt : Instant} {result : ClaimResult}
    (h : claim maxAttempts startedAt versionId taskId db = .ok (result, db')) :
    WorkerWrite maxAttempts versionId taskId (some startedAt) db db' := by
  rcases claim_spec h with ⟨-, rfl⟩ | ⟨version, c, hget, howned, -, -, rfl⟩ |
    ⟨version, c, hget, hqueued, hbelow, -, -, rfl⟩ | ⟨version, hget, hqueued, hcap, -, rfl⟩
  · exact .nothing
  · exact .nothing
  · exact .begin rfl hget hqueued hbelow
  · exact .exhaust hget hqueued hcap

/-- A claimed record carries the identity of the version it was read from. -/
theorem claim_claimOf {startedAt : Instant}
    (h : claim maxAttempts startedAt versionId taskId db = .ok (.claimed claimed, db')) :
    ∃ version, db.versions.get? versionId = some version ∧ ClaimOf claimed version := by
  rcases claim_spec h with ⟨⟨outcome, hnoop⟩, -⟩ | ⟨version, c, hget, -, hclaim, hc, -⟩ |
    ⟨version, c, hget, -, -, hclaim, hc, -⟩ | ⟨version, -, -, -, hnoop, -⟩
  · exact absurd hnoop (by simp)
  · obtain rfl := ClaimResult.claimed.inj hc
    exact ⟨version, hget, hclaim⟩
  · obtain rfl := ClaimResult.claimed.inj hc
    exact ⟨version, hget, hclaim⟩
  · exact absurd hnoop (by simp)

/-- A claim hands out a record for a version that waits below the cap, or that the task already
extracts. -/
theorem claim_claimed {document : Document} {version : DocumentVersion} (startedAt : Instant)
    (hload : loadLocked db versionId = some (document, version))
    (h : version.status = .queued ∧ version.attemptCount < maxAttempts ∨
      IsOwnedExtraction version taskId) :
    ∃ c db', claim maxAttempts startedAt versionId taskId db = .ok (.claimed c, db') := by
  unfold claim
  rcases h with ⟨hqueued, hbelow⟩ | ⟨hextracting, howner⟩
  · simp only [hload, hqueued, if_neg (not_le.2 hbelow)]
    exact ⟨_, _, rfl⟩
  · simp only [hload, hextracting, howner, ne_eq, not_true_eq_false, if_false]
    exact ⟨_, _, rfl⟩

theorem markReady_write (maxAttempts : ℕ) {text : String}
    (hclaim : ∀ v, db.versions.get? claimed.versionId = some v → ClaimOf claimed v)
    (h : markReady claimed taskId text db = .ok db') :
    WorkerWrite maxAttempts claimed.versionId taskId none db db' := by
  rcases markReady_spec h with rfl | ⟨version, hget, howned, rfl⟩
  · exact .nothing
  · obtain ⟨hid, horg, hnumber⟩ := hclaim version hget
    rw [horg, hnumber, hid]
    exact .succeed (hid ▸ hget) howned

theorem markFailed_write (maxAttempts : ℕ) {code : DocumentErrorCode}
    (hclaim : ∀ v, db.versions.get? claimed.versionId = some v → ClaimOf claimed v)
    (h : markFailed claimed taskId code db = .ok db') :
    WorkerWrite maxAttempts claimed.versionId taskId none db db' := by
  rcases markFailed_spec h with rfl | ⟨version, hget, howned, rfl⟩
  · exact .nothing
  · obtain ⟨hid, horg, hnumber⟩ := hclaim version hget
    rw [horg, hnumber, hid]
    exact .fail (hid ▸ hget) howned

theorem prepareRetry_write (maxAttempts : ℕ) (versionId : UUID) (taskId : String)
    (code : DocumentErrorCode) (db : Database) :
    WorkerWrite maxAttempts versionId taskId none db (prepareRetry versionId taskId code db) := by
  rcases prepareRetry_spec versionId taskId code db with hsame | ⟨version, hget, howned, hset⟩
  · rw [hsame]
    exact .nothing
  · rw [hset]
    exact .requeue hget howned

variable {startedAt : Option Instant}

/-- A worker writes versions and audit events, nothing else. -/
theorem WorkerWrite.frame (h : WorkerWrite maxAttempts versionId taskId startedAt db db') :
    db'.intents = db.intents ∧ db'.documents = db.documents := by
  cases h <;> exact ⟨rfl, rfl⟩

end DocumentIngestionService

end SupportFlow
