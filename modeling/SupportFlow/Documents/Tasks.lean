import SupportFlow.Documents.System

/-!
# The ingestion task

One delivery of `ingest_document_version`, from the version's advisory lock to its end. What the
world does to it is data (`Surroundings`): how the lock answers, which transactions fail and whether
their commit had taken effect by then, what storage, scanner and extractor return, and what other
transactions commit in the meantime. The delivery is a function of these.

A `RetryableIngestionError` carries the point that raised it, so that a delivery can be asked where
it failed. The point is not in the source; nothing in the model branches on it.

## Where the retry is decided

`run_delivery` schedules the Celery retry, inside the lock's `with` block. An error raised by the
block's own entry or exit is not seen by it (`SupportFlow.retryable_failure_rescheduled_iff`).
-/

namespace SupportFlow

/-- The places of a delivery that raise a `RetryableIngestionError`. -/
inductive RaisePoint
  | lockOpen
  | lockAcquire
  | lockRelease
  | claim
  | staging
  | scanning
  | terminalWrite
  | ownedRecord
  | markExhausted
  | prepareRetry
  deriving DecidableEq, Repr

structure RetryableIngestionError where
  point : RaisePoint
  errorCode : DocumentErrorCode
  deriving DecidableEq, Repr

/-- What a call of the service raises. An `AuditMetadataError` is not classified, so no handler of
the task knows it. -/
inductive DeliveryError
  | retryable (error : RetryableIngestionError)
  | auditMetadata (error : AuditMetadataError)
  deriving DecidableEq, Repr

/-- How one transaction ends: as it should, with a database error before its commit, or with one
after the commit, when the acknowledgement is lost. -/
inductive TransactionFault
  | works
  | fails
  | unacknowledged
  deriving DecidableEq, Repr

/-- How the advisory lock answers. -/
inductive LockReply
  | openRaises
  | acquireRaises
  | busy
  | acquired
  deriving DecidableEq, Repr

/-- What an opened object reads as: chunks, and then its end or an error. -/
structure StoredObject where
  chunks : List (List UInt8)
  interrupted : Bool
  deriving DecidableEq, Repr

inductive DocumentScanResult
  | clean
  | infected
  | unavailable
  deriving DecidableEq, Repr

/-- How the scanner answers. -/
inductive ScanReply
  | raised
  | result (result : DocumentScanResult)
  deriving DecidableEq, Repr

/-- How an extractor answers. -/
inductive ExtractReply
  | text (extractedText : String)
  | permanent (errorCode : DocumentErrorCode)
  | softTimeLimit
  | raised
  deriving DecidableEq, Repr

/-- What happens around one delivery. -/
structure Surroundings where
  lock : LockReply
  releaseRaises : Bool
  startedAt : Instant
  /-- How the transaction behind each point ends. -/
  fault : RaisePoint → TransactionFault
  /-- What other transactions commit just before it. -/
  meanwhile : RaisePoint → Database → Database
  /-- `open` on a storage key; `none` when it raises. -/
  storage : String → Option StoredObject
  scanner : List UInt8 → ScanReply
  extractor : DocumentMediaType → List UInt8 → ExtractReply

/-- What interrupts the work between a claim and its terminal write. -/
inductive ProcessingError
  | permanent (errorCode : DocumentErrorCode)
  | retryable (error : RetryableIngestionError)
  deriving DecidableEq, Repr

namespace DocumentIngestionService

/-- One transaction of the service: on the database as it is by then, and with a database error
turned into a retryable one. -/
def transact {α : Type} (s : Surroundings) (point : RaisePoint)
    (run : Database → Except AuditMetadataError (α × Database)) (db : Database) :
    Except DeliveryError α × Database :=
  let now := s.meanwhile point db
  let unavailable : DeliveryError := .retryable ⟨point, .databaseUnavailable⟩
  match s.fault point with
  | .fails => (.error unavailable, now)
  | .works =>
    match run now with
    | .error error => (.error (.auditMetadata error), now)
    | .ok (a, db) => (.ok a, db)
  | .unacknowledged =>
    match run now with
    | .error error => (.error (.auditMetadata error), now)
    | .ok (_, db) => (.error unavailable, db)

/-- The loop of `_stage_verified_source`: collect the chunks, and stop at more than `limit` bytes.
-/
def readBounded (limit : ℕ) : List (List UInt8) → List UInt8 → Option (List UInt8)
  | [], content => some content
  | chunk :: chunks, content =>
    if limit < (content ++ chunk).length then none else readBounded limit chunks (content ++ chunk)

/-- `_stage_verified_source`. -/
def stageVerifiedSource (sha256 : List UInt8 → String) (record : ClaimedDocumentVersion)
    (source : Option StoredObject) : Except ProcessingError (List UInt8) :=
  match source with
  | none => .error (.retryable ⟨.staging, .storageUnavailable⟩)
  | some object =>
    match readBounded record.sizeBytes object.chunks [] with
    | none => .error (.permanent .extractionFailed)
    | some content =>
      if object.interrupted then .error (.retryable ⟨.staging, .storageUnavailable⟩)
      else if content.length ≠ record.sizeBytes ∨ sha256 content ≠ record.contentSha256 then
        .error (.permanent .extractionFailed)
      else .ok content

/-- `_scan`. -/
def scan : ScanReply → Except ProcessingError Unit
  | .result .clean => .ok ()
  | .result .infected => .error (.permanent .malwareDetected)
  | .result .unavailable | .raised => .error (.retryable ⟨.scanning, .scannerUnavailable⟩)

/-- `_extract`. -/
def extract : ExtractReply → Except ProcessingError String
  | .text extractedText => .ok extractedText
  | .permanent errorCode => .error (.permanent errorCode)
  | .softTimeLimit => .error (.permanent .extractionLimitExceeded)
  | .raised => .error (.permanent .extractionFailed)

/-- The work between a claim and its terminal write. -/
def verifiedText (sha256 : List UInt8 → String) (s : Surroundings)
    (record : ClaimedDocumentVersion) : Except ProcessingError String := do
  let content ← stageVerifiedSource sha256 record (s.storage record.storageKey)
  scan (s.scanner content)
  extract (s.extractor record.mediaType content)

/-- A transaction that returns nothing, ended with an outcome. -/
def concluded (outcome : IngestionOutcome) (r : Except DeliveryError Unit × Database) :
    Except DeliveryError IngestionOutcome × Database :=
  (r.1.map fun _ ↦ outcome, r.2)

/-- `process`. -/
def process (sha256 : List UInt8 → String) (maxAttempts : ℕ) (s : Surroundings) (versionId : UUID)
    (taskId : String) (db : Database) : Except DeliveryError IngestionOutcome × Database :=
  match transact s .claim (claim maxAttempts s.startedAt versionId taskId) db with
  | (.error error, db) => (.error error, db)
  | (.ok (.noop outcome), db) => (.ok outcome, db)
  | (.ok (.claimed record), db) =>
    match verifiedText sha256 s record with
    | .error (.retryable error) => (.error (.retryable error), db)
    | .error (.permanent code) =>
      concluded .failed <| transact s .terminalWrite
        (fun db ↦ (markFailed record taskId code db).map fun db ↦ ((), db)) db
    | .ok extractedText =>
      concluded .ready <| transact s .terminalWrite
        (fun db ↦ (markReady record taskId extractedText db).map fun db ↦ ((), db)) db

/-- `mark_retry_exhausted`. -/
def markRetryExhausted (s : Surroundings) (versionId : UUID) (taskId : String) (db : Database) :
    Except DeliveryError Unit × Database :=
  match transact s .ownedRecord (fun db ↦ .ok (ownedRecord versionId taskId db, db)) db with
  | (.error error, db) => (.error error, db)
  | (.ok none, db) => (.ok (), db)
  | (.ok (some record), db) =>
    transact s .markExhausted
      (fun db ↦ (markFailed record taskId .retryExhausted db).map fun db ↦ ((), db)) db

/-- `prepare_retry`, as a call. -/
def callPrepareRetry (s : Surroundings) (versionId : UUID) (taskId : String)
    (errorCode : DocumentErrorCode) (db : Database) : Except DeliveryError Unit × Database :=
  transact s .prepareRetry (fun db ↦ .ok ((), prepareRetry versionId taskId errorCode db)) db

end DocumentIngestionService

/-- How a delivery ends: it returns, or raises Celery's `Retry`, or raises an error. -/
inductive DeliveryEnding
  | returned
  | retry
  | raised (error : DeliveryError)
  deriving DecidableEq, Repr

/-- A finished delivery: the database it leaves, the messages `task.retry` scheduled, and every
retryable error raised on the way. -/
structure DeliveryResult where
  db : Database
  retried : List Message
  errors : List RetryableIngestionError
  ending : DeliveryEnding

/-- The message a Celery retry schedules: the same task once more. -/
def Message.again (m : Message) : Message :=
  { m with retries := m.retries + 1 }

namespace DocumentTasks

open DocumentIngestionService

/-- `run_delivery`. -/
def runDelivery (sha256 : List UInt8 → String) (maxRetries maxAttempts : ℕ) (s : Surroundings)
    (m : Message) (db : Database) : DeliveryResult :=
  match process sha256 maxAttempts s m.versionId m.taskId db with
  | (.ok _, db) => ⟨db, [], [], .returned⟩
  | (.error (.auditMetadata error), db) => ⟨db, [], [], .raised (.auditMetadata error)⟩
  | (.error (.retryable error), db) =>
    if maxRetries ≤ m.retries then
      match markRetryExhausted s m.versionId m.taskId db with
      | (.ok _, db) => ⟨db, [], [error], .returned⟩
      | (.error (.auditMetadata error'), db) =>
        ⟨db, [], [error], .raised (.auditMetadata error')⟩
      | (.error (.retryable error'), db) =>
        ⟨db, [], [error, error'], .raised (.retryable error')⟩
    else
      match callPrepareRetry s m.versionId m.taskId error.errorCode db with
      | (.ok _, db) => ⟨db, [m.again], [error], .retry⟩
      -- The handler of `prepare_retry`'s failure: the retry is scheduled all the same.
      | (.error (.retryable error'), db) => ⟨db, [m.again], [error, error'], .retry⟩
      | (.error (.auditMetadata error'), db) =>
        ⟨db, [], [error], .raised (.auditMetadata error')⟩

/-- Leave the `with` block of the lock. An error of the release replaces whatever was raised. -/
def releaseLock (s : Surroundings) (r : DeliveryResult) : DeliveryResult :=
  let error : RetryableIngestionError := ⟨.lockRelease, .databaseUnavailable⟩
  if s.releaseRaises then
    { r with errors := r.errors ++ [error], ending := .raised (.retryable error) }
  else r

/-- `ingest_document_version`, for a payload that names a version. -/
def ingestDocumentVersion (sha256 : List UInt8 → String) (maxRetries maxAttempts : ℕ)
    (s : Surroundings) (m : Message) (db : Database) : DeliveryResult :=
  let raised (point : RaisePoint) : DeliveryResult :=
    let error : RetryableIngestionError := ⟨point, .databaseUnavailable⟩
    ⟨db, [], [error], .raised (.retryable error)⟩
  match s.lock with
  | .openRaises => raised .lockOpen
  | .acquireRaises => raised .lockAcquire
  | .busy => ⟨db, [], [], .returned⟩
  | .acquired => releaseLock s (runDelivery sha256 maxRetries maxAttempts s m db)

/-! ### Where the retry is decided -/

variable {sha256 : List UInt8 → String} {maxRetries maxAttempts : ℕ} {s : Surroundings}
  {m : Message} {db : Database}

/-- `process` raised a retryable error. -/
def ProcessFails (sha256 : List UInt8 → String) (maxAttempts : ℕ) (s : Surroundings) (m : Message)
    (db : Database) : Prop :=
  ∃ error, (process sha256 maxAttempts s m.versionId m.taskId db).1 = .error (.retryable error)

/-- `prepare_retry` records nothing, so a failing one raises a retryable error. -/
theorem callPrepareRetry_error {versionId : UUID} {taskId : String} {code : DocumentErrorCode}
    {error : DeliveryError} (h : (callPrepareRetry s versionId taskId code db).1 = .error error) :
    ∃ error', error = .retryable error' := by
  unfold callPrepareRetry transact at h
  cases hfault : s.fault .prepareRetry with
  | works =>
    simp only [hfault] at h
    cases h
  | fails =>
    simp only [hfault] at h
    cases h
    exact ⟨_, rfl⟩
  | unacknowledged =>
    simp only [hfault] at h
    cases h
    exact ⟨_, rfl⟩

end DocumentTasks

open DocumentTasks

namespace Sample

/-- Nothing fails, and nobody else commits. -/
def calm : Surroundings where
  lock := .acquired
  releaseRaises := false
  startedAt := 0
  fault _ := .works
  meanwhile _ db := db
  storage _ := some ⟨[[104, 101, 108, 108, 111]], false⟩
  scanner _ := .result .clean
  extractor _ _ := .text "hello"

end Sample

end SupportFlow
