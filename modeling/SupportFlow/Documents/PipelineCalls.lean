import SupportFlow.Documents.Processing
import SupportFlow.Documents.Rearm
import SupportFlow.Foundations.SessionLock

/-!
# Deliveries and rearms, call by call

A delivery of the ingestion task and the operator's rearm command, as programs: what each asks of
the database, the storage, the scanner, the extractors, the broker and the advisory locks, one call
at a time, and what it does with every answer. A transaction is one call.

What one program promises of its calls stands here (`PipelineJob.Allowed`), and is read off its text
(`PipelineJob.safe`): a delivery asks for nothing outside its lock; it hands in a text only directly
after it was given the record, the bytes that the record describes, a clean verdict on them and the
text that was extracted from them.
-/

namespace SupportFlow

/-! ### Calls -/

/-- What a transaction raises. -/
inductive TransactionError
  | databaseUnavailable
  | auditMetadata (error : AuditMetadataError)

/-- The calls of the pipeline. -/
inductive PipelineCall
  | lock (call : LockCall ℤ)
  | claim (versionId : UUID) (taskId : String)
  | markReady (claimed : ClaimedDocumentVersion) (taskId extractedText : String)
  | markFailed (claimed : ClaimedDocumentVersion) (taskId : String) (errorCode : DocumentErrorCode)
  | prepareRetry (versionId : UUID) (taskId : String) (errorCode : DocumentErrorCode)
  | ownedRecord (versionId : UUID) (taskId : String)
  /-- `open`, and the reads of what it returns. -/
  | opened (storageKey : String)
  | scan (source : ByteFile)
  | extract (mediaType : DocumentMediaType) (source : ByteFile)
  /-- `task.retry` publishes the message once more. -/
  | retry (message : Message)
  /-- `verify_dependencies`. -/
  | ping
  | rearm (command : RearmCommand)

/-- `opened` is answered with what the reads of the object will return, or with `none` when `open`
raises. -/
abbrev PipelineCall.Answer : PipelineCall → Type
  | lock call => call.Answer
  | claim .. => Except TransactionError ClaimResult
  | markReady .. | markFailed .. | prepareRetry .. => Except TransactionError Unit
  | ownedRecord .. => Except TransactionError (Option ClaimedDocumentVersion)
  | opened _ => Option (List (Except Unit (List UInt8)))
  | scan _ => ScanReply × ℕ
  | extract .. => ExtractReply
  | retry _ => Except Unit Unit
  | ping => Except Unit Bool
  | rearm _ => Except Unit ℕ

abbrev PipelineAnswered := Answered PipelineCall.Answer

/-- What the programs raise. -/
inductive PipelineError
  /-- `PermanentExtractionError`. -/
  | permanent (errorCode : DocumentErrorCode)
  | retryable (error : RetryableIngestionError)
  | auditMetadata (error : AuditMetadataError)
  /-- Celery's `Retry`. -/
  | retry
  /-- `task.retry` could not publish. -/
  | unpublished
  /-- `rearm_intent` refuses, or fails. -/
  | rearm

abbrev PipelineProgram := Program PipelineCall.Answer PipelineError

/-- A call, and its answer. -/
def PipelineCall.ask (request : PipelineCall) : PipelineProgram request.Answer :=
  Program.ask request

open PipelineCall (ask)

/-- A database error of the service, classified as retryable. -/
def TransactionError.raisedAt (point : RaisePoint) : TransactionError → PipelineError
  | databaseUnavailable => .retryable ⟨point, .databaseUnavailable⟩
  | auditMetadata error => .auditMetadata error

/-- What interrupts the work, as an exception. -/
def PipelineError.ofProcessing : ProcessingError → PipelineError
  | .permanent errorCode => .permanent errorCode
  | .retryable error => .retryable error

/-! ### The delivery -/

namespace DeliveryProgram

/-- `_claim`. -/
def claim (versionId : UUID) (taskId : String) : PipelineProgram ClaimResult := do
  let reply ← ask (.claim versionId taskId)
  MonadExcept.ofExcept (reply.mapError (·.raisedAt .claim))

/-- `_mark_ready`. -/
def markReady (claimed : ClaimedDocumentVersion) (taskId extractedText : String) :
    PipelineProgram Unit := do
  let reply ← ask (.markReady claimed taskId extractedText)
  MonadExcept.ofExcept (reply.mapError (·.raisedAt .terminalWrite))

/-- `_mark_failed`. -/
def markFailed (point : RaisePoint) (claimed : ClaimedDocumentVersion) (taskId : String)
    (errorCode : DocumentErrorCode) : PipelineProgram Unit := do
  let reply ← ask (.markFailed claimed taskId errorCode)
  MonadExcept.ofExcept (reply.mapError (·.raisedAt point))

/-- `prepare_retry`. -/
def prepareRetry (versionId : UUID) (taskId : String) (errorCode : DocumentErrorCode) :
    PipelineProgram Unit := do
  let reply ← ask (.prepareRetry versionId taskId errorCode)
  MonadExcept.ofExcept (reply.mapError (·.raisedAt .prepareRetry))

/-- `mark_retry_exhausted`. -/
def markRetryExhausted (versionId : UUID) (taskId : String) : PipelineProgram Unit := do
  let reply ← ask (.ownedRecord versionId taskId)
  match ← MonadExcept.ofExcept (reply.mapError (·.raisedAt .ownedRecord)) with
  | none => return ()
  | some record => markFailed .markExhausted record taskId .retryExhausted

/-- The work between a claim and its terminal write: `_stage_verified_source`, `_scan` and
`_extract`. -/
def work (sha256 : List UInt8 → String) (record : ClaimedDocumentVersion) :
    PipelineProgram String := do
  let opened ← ask (.opened record.storageKey)
  let source ← MonadExcept.ofExcept
    ((DocumentProcessing.stageVerifiedSource sha256 record opened).mapError .ofProcessing)
  let (verdict, position) ← ask (.scan source)
  MonadExcept.ofExcept ((DocumentIngestionService.scan verdict).mapError .ofProcessing)
  let extracted ← ask (.extract record.mediaType ((source.seek position).seek 0))
  MonadExcept.ofExcept ((DocumentIngestionService.extract extracted).mapError .ofProcessing)

/-- `process`. -/
def process (sha256 : List UInt8 → String) (versionId : UUID) (taskId : String) :
    PipelineProgram IngestionOutcome := do
  match ← claim versionId taskId with
  | .noop outcome => return outcome
  | .claimed record =>
    let extractedText ← tryCatch (do return some (← work sha256 record)) fun
      | .permanent errorCode => do
        markFailed .terminalWrite record taskId errorCode
        return none
      | error => throw error
    match extractedText with
    | none => return .failed
    | some text =>
      markReady record taskId text
      return .ready

/-- The end of `run_delivery` with retries left. -/
def retryLater (message : Message) (error : RetryableIngestionError) : PipelineProgram Unit := do
  tryCatch (prepareRetry message.versionId message.taskId error.errorCode) fun
    -- The retry is published all the same.
    | .retryable _ => return ()
    | error => throw error
  match ← ask (.retry message.again) with
  | .error () => throw .unpublished
  | .ok () => throw .retry

/-- `run_delivery`. -/
def runDelivery (sha256 : List UInt8 → String) (maxRetries : ℕ) (message : Message) :
    PipelineProgram Unit :=
  tryCatch
    (do
      let _ ← process sha256 message.versionId message.taskId
      return ())
    fun
    | .retryable error =>
      if maxRetries ≤ message.retries then markRetryExhausted message.versionId message.taskId
      else retryLater message error
    | error => throw error

/-- `with service.delivery_lock(version_id)`, around what is done when the lock was acquired. -/
def deliveryLock (key : ℤ) (body : PipelineProgram Unit) : PipelineProgram Unit := do
  match ← ask (.lock .connect) with
  | .error () => throw (.retryable ⟨.lockOpen, .databaseUnavailable⟩)
  | .ok conn =>
    match ← ask (.lock (.tryLock conn key)) with
    | .error () => throw (.retryable ⟨.lockAcquire, .databaseUnavailable⟩)
    | .ok false => return ()
    | .ok true =>
      body.andFinally do
        match ← ask (.lock (.unlock conn key)) with
        | .error () => throw (.retryable ⟨.lockRelease, .databaseUnavailable⟩)
        | .ok () => return ()

/-- `ingest_document_version`, for a payload that names a version. -/
def ingestDocumentVersion (sha256 : List UInt8 → String) (maxRetries : ℕ) (lockKey : UUID → ℤ)
    (message : Message) : PipelineProgram Unit :=
  deliveryLock (lockKey message.versionId) (runDelivery sha256 maxRetries message)

end DeliveryProgram

/-! ### The rearm command -/

/-- `rearm_intent`: the health check comes before the transaction. -/
def rearmProgram (command : RearmCommand) : PipelineProgram Unit := do
  match ← ask .ping with
  | .error () | .ok false => throw .rearm
  | .ok true =>
    match ← ask (.rearm command) with
    | .error () => throw .rearm
    | .ok _ => return ()

/-- What is started beside each other. -/
inductive PipelineJob
  | deliver (message : Message)
  | rearm (command : RearmCommand)

/-- What the programs depend on besides the answers to their calls. -/
structure PipelineConfig where
  sha256 : List UInt8 → String
  maxRetries : ℕ
  maxAttempts : ℕ
  /-- `hashtextextended(str(version_id), 0)`. -/
  lockKey : UUID → ℤ

/-- The program of a job. -/
def PipelineJob.program (config : PipelineConfig) : PipelineJob → PipelineProgram Unit
  | deliver message =>
    DeliveryProgram.ingestDocumentVersion config.sha256 config.maxRetries config.lockKey message
  | rearm command => rearmProgram command

/-! ### What the programs promise -/

/-- The lock call, when the call is one. -/
def PipelineAnswered.asLock : PipelineAnswered → Option (LockAnswered ℤ)
  | ⟨.lock call, reply⟩ => some ⟨call, reply⟩
  | _ => none

open PipelineAnswered (asLock)

/-- The lock calls among the calls. -/
def lockCalls (past : List PipelineAnswered) : List (LockAnswered ℤ) :=
  past.filterMap asLock

theorem lockCalls_snoc (past : List PipelineAnswered) (call : PipelineAnswered) :
    lockCalls (past ++ [call]) = lockCalls past ++ (asLock call).toList := by
  rw [lockCalls, List.filterMap_append]
  cases h : asLock call <;> simp [lockCalls, h]

/-- The program was given the connection, and holds the lock on it, as far as it knows. -/
def HeldOn (conn : ℕ) (key : ℤ) (past : List PipelineAnswered) : Prop :=
  Connected (lockCalls past) conn ∧ Holds (lockCalls past) conn key

/-- The program holds the lock, as far as it knows. -/
def Inside (key : ℤ) (past : List PipelineAnswered) : Prop :=
  ∃ conn, HeldOn conn key past

theorem HeldOn.inside {conn : ℕ} {key : ℤ} {past : List PipelineAnswered}
    (h : HeldOn conn key past) : Inside key past :=
  ⟨conn, h⟩

/-- A call that is not about locks changes nothing about them. -/
theorem HeldOn.snoc {conn : ℕ} {key : ℤ} {past : List PipelineAnswered} {call : PipelineAnswered}
    (h : HeldOn conn key past) (hcall : asLock call = none) : HeldOn conn key (past ++ [call]) := by
  unfold HeldOn
  rwa [lockCalls_snoc, hcall, Option.toList_none, List.append_nil]

/-- The record was handed out to the delivery: by its claim, or to declare it exhausted. -/
def HandedOut (message : Message) (past : List PipelineAnswered)
    (claimed : ClaimedDocumentVersion) : Prop :=
  ⟨.claim message.versionId message.taskId, .ok (.claimed claimed)⟩ ∈ past ∨
    ⟨.ownedRecord message.versionId message.taskId, .ok (some claimed)⟩ ∈ past

/-- **What precedes a text that is handed in**: the claim, the object under the record's key, a
clean verdict on the bytes that the record describes, and the text that was extracted from them. -/
def Prepared (sha256 : List UInt8 → String) (message : Message) (past : List PipelineAnswered)
    (claimed : ClaimedDocumentVersion) (extractedText : String) : Prop :=
  ∃ earlier reads content position,
    DocumentProcessing.Verified sha256 claimed (some reads) content ∧
      past = earlier ++ [⟨.claim message.versionId message.taskId, .ok (.claimed claimed)⟩,
        ⟨.opened claimed.storageKey, some reads⟩,
        ⟨.scan ⟨content, 0⟩, (.result .clean, position)⟩,
        ⟨.extract claimed.mediaType ⟨content, 0⟩, .text extractedText⟩]

/-- The calls that a delivery may make. -/
def DeliveryAllowed (config : PipelineConfig) (message : Message) (past : List PipelineAnswered) :
    PipelineCall → Prop
  | .lock call => call.Fair (lockCalls past)
  | .claim versionId taskId | .prepareRetry versionId taskId _ | .ownedRecord versionId taskId =>
    Inside (config.lockKey message.versionId) past ∧
      versionId = message.versionId ∧ taskId = message.taskId
  | .markReady claimed taskId extractedText =>
    Inside (config.lockKey message.versionId) past ∧ taskId = message.taskId ∧
      Prepared config.sha256 message past claimed extractedText
  | .markFailed claimed taskId _ =>
    Inside (config.lockKey message.versionId) past ∧ taskId = message.taskId ∧
      HandedOut message past claimed
  | .opened _ | .scan _ | .extract .. => Inside (config.lockKey message.versionId) past
  | .retry again => Inside (config.lockKey message.versionId) past ∧ again = message.again
  | .ping | .rearm _ => False

/-- The calls that a job may make, after the calls `past`. -/
def PipelineJob.Allowed (config : PipelineConfig) :
    PipelineJob → List PipelineAnswered → PipelineCall → Prop
  | deliver message, past, call => DeliveryAllowed config message past call
  | rearm command, past, call =>
    call = .ping ∨ call = .rearm command ∧ ⟨.ping, .ok true⟩ ∈ past

/-! ### And keep -/

open Program (Safe safe_bind safe_ofExcept safe_tryCatch safe_andFinally)

/-- What is staged has the bytes of the record. -/
theorem staged_verified {sha256 : List UInt8 → String} {claimed : ClaimedDocumentVersion}
    {opened : Option (List (Except Unit (List UInt8)))} {source : ByteFile}
    (h : DocumentProcessing.stageVerifiedSource sha256 claimed opened = .ok source) :
    ∃ reads content, opened = some reads ∧ source = ⟨content, 0⟩ ∧
      DocumentProcessing.Verified sha256 claimed (some reads) content := by
  rw [DocumentProcessing.stageVerifiedSource_eq] at h
  rcases DocumentProcessing.stage_cases sha256 claimed opened with
    ⟨content, hverified, hstaged⟩ | ⟨-, hstaged⟩ | ⟨-, hstaged⟩
  · obtain ⟨reads, rfl, hrest⟩ := hverified
    rw [hstaged] at h
    exact ⟨reads, content, rfl, (Except.ok.inj h).symm, reads, rfl, hrest⟩
  · rw [hstaged] at h
    cases h
  · rw [hstaged] at h
    cases h

theorem scan_eq_ok {verdict : ScanReply} {u : Unit}
    (h : DocumentIngestionService.scan verdict = .ok u) : verdict = .result .clean := by
  cases verdict with
  | raised => cases h
  | result verdict => cases verdict <;> first | rfl | cases h

theorem extract_eq_ok {reply : ExtractReply} {text : String}
    (h : DocumentIngestionService.extract reply = .ok text) : reply = .text text := by
  cases reply with
  | text => exact congrArg ExtractReply.text (Except.ok.inj h)
  | permanent | softTimeLimit | raised => cases h

theorem PipelineCall.safe_ask {A : List PipelineAnswered → PipelineCall → Prop}
    {past : List PipelineAnswered} {α : Type} {request : PipelineCall}
    {f : request.Answer → PipelineProgram α}
    {Q : List PipelineAnswered → Except PipelineError α → Prop} :
    Safe A Q past (ask request >>= f) ↔
      A past request ∧ ∀ reply, Safe A Q (past ++ [⟨request, reply⟩]) (f reply) :=
  Iff.rfl

open PipelineCall (safe_ask)

namespace DeliveryProgram

variable {config : PipelineConfig} {message : Message} {past : List PipelineAnswered}
  {claimed : ClaimedDocumentVersion} {conn : ℕ}

/-- Within the lock, with a record that was handed out. -/
def Working (config : PipelineConfig) (message : Message) (conn : ℕ)
    (claimed : ClaimedDocumentVersion) (past : List PipelineAnswered) : Prop :=
  HeldOn conn (config.lockKey message.versionId) past ∧ HandedOut message past claimed

theorem Working.snoc {call : PipelineAnswered} (h : Working config message conn claimed past)
    (hcall : asLock call = none) : Working config message conn claimed (past ++ [call]) :=
  ⟨h.1.snoc hcall, h.2.imp (List.mem_append_left _) (List.mem_append_left _)⟩

theorem safe_work {earlier : List PipelineAnswered}
    (h : Working config message conn claimed (earlier ++
      [⟨.claim message.versionId message.taskId, .ok (.claimed claimed)⟩])) :
    Safe (DeliveryAllowed config message)
      (fun past result ↦ Working config message conn claimed past ∧
        ∀ text, result = .ok text → Prepared config.sha256 message past claimed text)
      (earlier ++ [⟨.claim message.versionId message.taskId, .ok (.claimed claimed)⟩])
      (work config.sha256 claimed) := by
  rw [work, safe_ask]
  refine ⟨h.1.inside, fun opened ↦ ?_⟩
  have hopened : Working config message conn claimed (_ ++
    [⟨.opened claimed.storageKey, opened⟩]) := h.snoc rfl
  show Safe _ _ _ (_ >>= _)
  rw [safe_bind, safe_ofExcept]
  cases hstage : DocumentProcessing.stageVerifiedSource config.sha256 claimed opened with
  | error e => exact ⟨hopened, fun _ htext ↦ by cases htext⟩
  | ok source =>
    obtain ⟨reads, content, rfl, rfl, hverified⟩ := staged_verified hstage
    show Safe _ _ _ (_ >>= _)
    rw [safe_ask]
    refine ⟨hopened.1.inside, ?_⟩
    rintro ⟨verdict, position⟩
    have hscanned : Working config message conn claimed (_ ++
      [⟨.scan ⟨content, 0⟩, (verdict, position)⟩]) := hopened.snoc rfl
    show Safe _ _ _ (_ >>= _)
    rw [safe_bind, safe_ofExcept]
    cases hscan : DocumentIngestionService.scan verdict with
    | error e => exact ⟨hscanned, fun _ htext ↦ by cases htext⟩
    | ok u =>
      obtain rfl := scan_eq_ok hscan
      show Safe _ _ _ (_ >>= _)
      rw [safe_ask]
      refine ⟨hscanned.1.inside, fun extracted ↦ ?_⟩
      have hextracted : Working config message conn claimed (_ ++
        [⟨.extract claimed.mediaType ⟨content, 0⟩, extracted⟩]) := hscanned.snoc rfl
      rw [safe_ofExcept]
      refine ⟨hextracted, fun text htext ↦ ?_⟩
      cases hextract : DocumentIngestionService.extract extracted with
      | error e =>
        rw [hextract] at htext
        cases htext
      | ok text' =>
        rw [hextract] at htext
        obtain rfl : text' = text := Except.ok.inj htext
        obtain rfl := extract_eq_ok hextract
        refine ⟨earlier, reads, content, position, hverified, ?_⟩
        simp only [List.append_assoc, List.cons_append, List.nil_append]
        rfl

/-- A transaction that only raises on. -/
theorem safe_markFailed {point : RaisePoint} {errorCode : DocumentErrorCode}
    (h : Working config message conn claimed past) :
    Safe (DeliveryAllowed config message)
      (fun past _ ↦ HeldOn conn (config.lockKey message.versionId) past) past
      (markFailed point claimed message.taskId errorCode) := by
  rw [markFailed, safe_ask]
  refine ⟨⟨h.1.inside, rfl, h.2⟩, fun reply ↦ ?_⟩
  rw [safe_ofExcept]
  exact h.1.snoc rfl

theorem safe_process (h : HeldOn conn (config.lockKey message.versionId) past) :
    Safe (DeliveryAllowed config message)
      (fun past _ ↦ HeldOn conn (config.lockKey message.versionId) past) past
      (process config.sha256 message.versionId message.taskId) := by
  rw [process, claim, safe_bind, safe_ask]
  refine ⟨⟨h.inside, rfl, rfl⟩, fun reply ↦ ?_⟩
  have hclaim : HeldOn conn (config.lockKey message.versionId) (past ++
    [⟨.claim message.versionId message.taskId, reply⟩]) := h.snoc rfl
  rw [safe_ofExcept]
  rcases reply with error | claimed | outcome
  · exact hclaim
  · have hworking : Working config message conn claimed (past ++
        [⟨.claim message.versionId message.taskId, .ok (.claimed claimed)⟩]) :=
      ⟨hclaim, Or.inl (List.mem_append_right _ (List.mem_singleton_self _))⟩
    show Safe _ _ _ (tryCatch _ _ >>= _)
    rw [safe_bind, safe_tryCatch, safe_bind]
    refine (safe_work hworking).mono fun past result hwork ↦ ?_
    cases result with
    | ok text =>
      show Safe _ _ _ (_ >>= _)
      rw [markReady, safe_bind, safe_ask]
      refine ⟨⟨hwork.1.1.inside, rfl, hwork.2 text rfl⟩, fun reply ↦ ?_⟩
      have hready : HeldOn conn (config.lockKey message.versionId) (past ++
        [⟨.markReady claimed message.taskId text, reply⟩]) := hwork.1.1.snoc rfl
      rw [safe_ofExcept]
      cases reply <;> exact hready
    | error e =>
      cases e with
      | permanent errorCode =>
        show Safe _ _ _ (_ >>= _)
        rw [safe_bind]
        refine (safe_markFailed hwork.1).mono fun past result hinside ↦ ?_
        cases result <;> exact hinside
      | _ => exact hwork.1.1
  · exact hclaim

theorem safe_markRetryExhausted (h : HeldOn conn (config.lockKey message.versionId) past) :
    Safe (DeliveryAllowed config message)
      (fun past _ ↦ HeldOn conn (config.lockKey message.versionId) past) past
      (markRetryExhausted message.versionId message.taskId) := by
  rw [markRetryExhausted, safe_ask]
  refine ⟨⟨h.inside, rfl, rfl⟩, fun reply ↦ ?_⟩
  have howned : HeldOn conn (config.lockKey message.versionId) (past ++
    [⟨.ownedRecord message.versionId message.taskId, reply⟩]) := h.snoc rfl
  show Safe _ _ _ (_ >>= _)
  rw [safe_bind, safe_ofExcept]
  rcases reply with error | - | claimed
  · exact howned
  · exact howned
  · exact safe_markFailed
      ⟨howned, Or.inr (List.mem_append_right _ (List.mem_singleton_self _))⟩

theorem safe_retryLater {error : RetryableIngestionError}
    (h : HeldOn conn (config.lockKey message.versionId) past) :
    Safe (DeliveryAllowed config message)
      (fun past _ ↦ HeldOn conn (config.lockKey message.versionId) past) past
      (retryLater message error) := by
  have hretry : ∀ past, HeldOn conn (config.lockKey message.versionId) past →
      Safe (DeliveryAllowed config message)
        (fun past _ ↦ HeldOn conn (config.lockKey message.versionId) past) past
        (do
          match ← ask (.retry message.again) with
          | .error () => throw .unpublished
          | .ok () => throw .retry : PipelineProgram Unit) := by
    intro past h
    rw [safe_ask]
    refine ⟨⟨h.inside, rfl⟩, fun reply ↦ ?_⟩
    have hlater : HeldOn conn (config.lockKey message.versionId) (past ++
      [⟨.retry message.again, reply⟩]) := h.snoc rfl
    rcases reply with ⟨⟩ | ⟨⟩ <;> exact hlater
  rw [retryLater, safe_bind, safe_tryCatch, prepareRetry, safe_ask]
  refine ⟨⟨h.inside, rfl, rfl⟩, fun reply ↦ ?_⟩
  have hprepared : HeldOn conn (config.lockKey message.versionId) (past ++
    [⟨.prepareRetry message.versionId message.taskId error.errorCode, reply⟩]) := h.snoc rfl
  rw [safe_ofExcept]
  rcases reply with (- | e) | ⟨⟩
  · exact hretry _ hprepared
  · exact hprepared
  · exact hretry _ hprepared

theorem safe_runDelivery (h : HeldOn conn (config.lockKey message.versionId) past) :
    Safe (DeliveryAllowed config message)
      (fun past _ ↦ HeldOn conn (config.lockKey message.versionId) past) past
      (runDelivery config.sha256 config.maxRetries message) := by
  rw [runDelivery, safe_tryCatch, safe_bind]
  refine (safe_process h).mono fun past result hinside ↦ ?_
  cases result with
  | ok outcome => exact hinside
  | error e =>
    cases e with
    | retryable error =>
      show Safe _ _ _ (if _ then _ else _)
      split
      · exact safe_markRetryExhausted hinside
      · exact safe_retryLater hinside
    | _ => exact hinside

/-- The lock is taken on a connection of one's own, and released once. -/
theorem safe_ingestDocumentVersion : Safe (DeliveryAllowed config message) (fun _ _ ↦ True) []
    (ingestDocumentVersion config.sha256 config.maxRetries config.lockKey message) := by
  rw [ingestDocumentVersion, deliveryLock, safe_ask]
  refine ⟨trivial, fun reply ↦ ?_⟩
  rcases reply with - | conn
  · trivial
  · have hconnected : Connected (lockCalls
        [(⟨.lock .connect, .ok conn⟩ : PipelineAnswered)]) conn :=
      List.mem_singleton_self _
    show Safe _ _ _ (_ >>= _)
    rw [safe_ask]
    refine ⟨hconnected, fun reply ↦ ?_⟩
    rcases reply with - | - | -
    · trivial
    · trivial
    · have hinside : HeldOn conn (config.lockKey message.versionId)
          [(⟨.lock .connect, .ok conn⟩ : PipelineAnswered),
            ⟨.lock (.tryLock conn (config.lockKey message.versionId)), .ok true⟩] := by
        refine ⟨List.mem_cons_self, List.mem_cons_of_mem _ (List.mem_singleton_self _), ?_⟩
        rintro ⟨reply, hmem⟩
        rcases List.mem_cons.1 hmem with heq | hmem
        · cases heq
        · cases List.mem_singleton.1 hmem
      show Safe _ _ _ (Program.andFinally _ _)
      rw [safe_andFinally]
      refine (safe_runDelivery hinside).mono fun past result hpast ↦ ?_
      rw [safe_ask]
      refine ⟨⟨hpast.1, hpast.2.2⟩, fun reply ↦ ?_⟩
      rcases reply with - | - <;> trivial

end DeliveryProgram

theorem safe_rearmProgram (config : PipelineConfig) (command : RearmCommand) :
    Safe (PipelineJob.Allowed config (.rearm command)) (fun _ _ ↦ True) []
      (rearmProgram command) := by
  rw [rearmProgram, safe_ask]
  refine ⟨Or.inl rfl, fun reply ↦ ?_⟩
  rcases reply with - | - | -
  · trivial
  · trivial
  · show Safe _ _ _ (_ >>= _)
    rw [safe_ask]
    refine ⟨Or.inr ⟨rfl, List.mem_singleton_self _⟩, fun reply ↦ ?_⟩
    rcases reply with - | - <;> trivial

/-- **Every program keeps its promises.** -/
theorem PipelineJob.safe (config : PipelineConfig) (job : PipelineJob) :
    Safe (job.Allowed config) (fun _ _ ↦ True) [] (job.program config) := by
  cases job with
  | deliver message => exact DeliveryProgram.safe_ingestDocumentVersion
  | rearm command => exact safe_rearmProgram config command

end SupportFlow
