import SupportFlow.Documents.RetryBudget
import SupportFlow.Foundations.ByteStream
import SupportFlow.Foundations.Sql

/-!
# Processing a claimed version

The work of `DocumentIngestionService.process` between its claim and its terminal write, call by
call: the stored object is read chunk by chunk into a temporary file, which goes to the scanner,
back to its start, and to the extractor. The collaborators are what they answer (`Collaborators`);
every call of one is recorded.

The delivery of a version is modelled with less detail where only its transactions matter; this one
refines that (`process_refines`). `process_verified` says which answers lead where: nothing becomes
ready that was not verified, scanned and extracted from the same bytes.
-/

namespace SupportFlow

open Effect
open DocumentIngestionService (loadLocked transact concluded record IsOwnedExtraction)

/-- A call of a collaborator. -/
inductive ProcessingCall
  | opened (storageKey : String)
  | scanned (source : ByteFile)
  | extracted (mediaType : DocumentMediaType) (source : ByteFile)
deriving DecidableEq

/-- What the collaborators answer. -/
structure Collaborators where
  /-- What the reads of the object under a key return; `none` when `open` raises. -/
  storage : String → Option (List (Except Unit (List UInt8)))
  /-- The verdict on a file, and the position that the scanner leaves it at. -/
  scanner : ByteFile → ScanReply × ℕ
  /-- The extractor that the registry has for a media type. -/
  extractors : DocumentMediaType → ByteFile → ExtractReply

/-- What an opened object reads as. -/
def storedObject (reads : List (Except Unit (List UInt8))) : StoredObject where
  chunks := ByteStream.delivered reads
  interrupted := (ByteStream.interruption reads).isSome

/-- Surroundings with these collaborators, and with these faults. -/
def Collaborators.surround (c : Collaborators) (s : Surroundings)
    (fault : RaisePoint → TransactionFault) : Surroundings where
  lock := s.lock
  releaseRaises := s.releaseRaises
  startedAt := s.startedAt
  fault := fault
  meanwhile := s.meanwhile
  storage storageKey := (c.storage storageKey).map storedObject
  scanner content := (c.scanner ⟨content, 0⟩).1
  extractor mediaType content := c.extractors mediaType ⟨content, 0⟩

namespace DocumentProcessing

/-! ### Staging -/

/-- What the reading loop raises: its own `PermanentExtractionError`, or what a read raised. -/
inductive StagingError
  | permanent (errorCode : DocumentErrorCode)
  | raised

/-- The loop's variables: the temporary file, what was hashed, and `size_bytes`. -/
structure Staging where
  staged : List UInt8
  digested : List UInt8
  sizeBytes : ℕ

/-- The body of the reading loop. -/
def stageChunk (limit : ℕ) (chunk : List UInt8) : Effect StagingError Staging PUnit := do
  update fun staging ↦ { staging with sizeBytes := staging.sizeBytes + chunk.length }
  -- Before the chunk is hashed or written.
  raiseWhen (limit < (← get).sizeBytes) (.permanent .extractionFailed)
  update fun staging ↦ { staging with digested := staging.digested ++ chunk }
  update fun staging ↦ { staging with staged := staging.staged ++ chunk }

/-- `_stage_verified_source`, on what `open` returned. -/
def stageVerifiedSource (sha256 : List UInt8 → String) (record : ClaimedDocumentVersion)
    (opened : Option (List (Except Unit (List UInt8)))) : Except ProcessingError ByteFile :=
  match opened with
  | none => .error (.retryable ⟨.staging, .storageUnavailable⟩)
  | some reads =>
    let reads := reads.map fun read ↦ read.mapError fun _ ↦ StagingError.raised
    match (ByteStream.forChunks (stageChunk record.sizeBytes) reads).exec ⟨[], [], 0⟩ with
    | (.error (.permanent errorCode), _) => .error (.permanent errorCode)
    | (.error .raised, _) => .error (.retryable ⟨.staging, .storageUnavailable⟩)
    | (.ok _, staging) =>
      -- Compared after the last read. The loop has rejected what is too long.
      if staging.sizeBytes ≠ record.sizeBytes ∨ sha256 staging.digested ≠ record.contentSha256 then
        .error (.permanent .extractionFailed)
      else .ok ⟨staging.staged, 0⟩

/-! ### Scanning and extracting -/

/-- `_scan`, and the file as the scanner leaves it. -/
def scan (collaborators : Collaborators) (source : ByteFile) :
    Effect ProcessingError (List ProcessingCall) ByteFile := do
  update fun calls ↦ calls ++ [.scanned source]
  let (reply, position) := collaborators.scanner source
  MonadExcept.ofExcept (DocumentIngestionService.scan reply)
  return source.seek position

/-- `_extract`. -/
def extract (collaborators : Collaborators) (mediaType : DocumentMediaType) (source : ByteFile) :
    Effect ProcessingError (List ProcessingCall) String := do
  update fun calls ↦ calls ++ [.extracted mediaType source]
  MonadExcept.ofExcept
    (DocumentIngestionService.extract (collaborators.extractors mediaType source))

/-- The work between a claim and its terminal write. -/
def work (sha256 : List UInt8 → String) (collaborators : Collaborators)
    (record : ClaimedDocumentVersion) : Effect ProcessingError (List ProcessingCall) String := do
  update fun calls ↦ calls ++ [.opened record.storageKey]
  let source ← MonadExcept.ofExcept
    (stageVerifiedSource sha256 record (collaborators.storage record.storageKey))
  let source ← scan collaborators source
  let source := source.seek 0
  extract collaborators record.mediaType source

/-! ### The call -/

/-- The database refuses a text with a NUL, if `_mark_ready` comes to write it. -/
def refuses (claimed : ClaimedDocumentVersion) (taskId extractedText : String) (db : Database) :
    Bool :=
  (Sql.text extractedText).isNone &&
    -- A row that is not the task's own is not written, and refuses nothing.
    (loadLocked db claimed.versionId).any (fun row ↦ decide (IsOwnedExtraction row.2 taskId)) &&
      (DocumentIngestionService.markReady claimed taskId extractedText db).isOk

/-- `_mark_ready`. A refused text fails its transaction. -/
def markReady (s : Surroundings) (claimed : ClaimedDocumentVersion) (taskId extractedText : String)
    (db : Database) : Except DeliveryError Unit × Database :=
  let s :=
    if refuses claimed taskId extractedText (s.meanwhile .terminalWrite db) = true then
      { s with fault := Function.update s.fault .terminalWrite .fails }
    else s
  transact s .terminalWrite
    (fun db ↦ (DocumentIngestionService.markReady claimed taskId extractedText db).map
      fun db ↦ ((), db)) db

/-- `process`: how it ends, what it leaves, and the collaborators' calls it made. -/
def process (sha256 : List UInt8 → String) (maxAttempts : ℕ) (collaborators : Collaborators)
    (s : Surroundings) (versionId : UUID) (taskId : String) (db : Database) :
    (Except DeliveryError IngestionOutcome × Database) × List ProcessingCall :=
  match transact s .claim
      (DocumentIngestionService.claim maxAttempts s.startedAt versionId taskId) db with
  | (.error error, db) => ((.error error, db), [])
  | (.ok (.noop outcome), db) => ((.ok outcome, db), [])
  | (.ok (.claimed record), db) =>
    match (work sha256 collaborators record).exec [] with
    | (.error (.retryable error), calls) => ((.error (.retryable error), db), calls)
    | (.error (.permanent code), calls) =>
      (concluded .failed <| transact s .terminalWrite
        (fun db ↦ (DocumentIngestionService.markFailed record taskId code db).map
          fun db ↦ ((), db)) db, calls)
    | (.ok extractedText, calls) =>
      (concluded .ready (markReady s record taskId extractedText db), calls)

/-! ### What the work does -/

/-- The body keeps the three variables in step, or stops. -/
theorem exec_stageChunk (limit : ℕ) (content chunk : List UInt8) :
    (stageChunk limit chunk).exec ⟨content, content, content.length⟩ =
      if limit < (content ++ chunk).length then
        (.error (.permanent .extractionFailed), ⟨content, content, (content ++ chunk).length⟩)
      else (.ok ⟨⟩, ⟨content ++ chunk, content ++ chunk, (content ++ chunk).length⟩) := by
  simp only [stageChunk, exec_bind, exec_update, exec_get, exec_raiseWhen, ← List.length_append]
  by_cases h : limit < (content ++ chunk).length
  · rw [if_pos h, if_pos h]
  · rw [if_neg h, if_neg h]

/-- **The loop stops where the bounded reading stops**, and otherwise has read the same. -/
theorem exec_forM_stageChunk (limit : ℕ) (chunks : List (List UInt8)) (content : List UInt8) :
    match DocumentIngestionService.readBounded limit chunks content with
    | none => ((forM chunks (stageChunk limit)).exec ⟨content, content, content.length⟩).1 =
        .error (.permanent .extractionFailed)
    | some content' => (forM chunks (stageChunk limit)).exec ⟨content, content, content.length⟩ =
        (.ok ⟨⟩, ⟨content', content', content'.length⟩) := by
  induction chunks generalizing content with
  | nil => rfl
  | cons chunk chunks ih =>
    rw [DocumentIngestionService.readBounded, List.forM_cons, exec_bind, exec_stageChunk]
    by_cases h : limit < (content ++ chunk).length
    · rw [if_pos h, if_pos h]
    · rw [if_neg h, if_neg h]
      exact ih (content ++ chunk)

/-- **Staging refines the coarser one**: it hands out a file with the content, at its start. -/
theorem stageVerifiedSource_eq (sha256 : List UInt8 → String) (record : ClaimedDocumentVersion)
    (opened : Option (List (Except Unit (List UInt8)))) :
    stageVerifiedSource sha256 record opened =
      (DocumentIngestionService.stageVerifiedSource sha256 record (opened.map storedObject)).map
        fun content ↦ ⟨content, 0⟩ := by
  cases opened with
  | none => rfl
  | some reads =>
    -- What was read before an interruption goes through the loop first; it may be too much.
    have hloop := exec_forM_stageChunk record.sizeBytes (ByteStream.delivered reads) []
    rw [stageVerifiedSource, Option.map_some, DocumentIngestionService.stageVerifiedSource]
    dsimp only [storedObject]
    rw [ByteStream.forChunks_eq, ByteStream.delivered_mapError, ByteStream.interruption_mapError,
      exec_bind]
    cases hread : DocumentIngestionService.readBounded record.sizeBytes
        (ByteStream.delivered reads) [] with
    | none =>
      rw [hread] at hloop
      rcases hexec : (forM (ByteStream.delivered reads) (stageChunk record.sizeBytes)).exec
        ⟨[], [], 0⟩ with ⟨e | _, staging⟩
      · rw [List.length_nil, hexec] at hloop
        rw [Except.error.inj hloop]
        rfl
      · rw [List.length_nil, hexec] at hloop
        cases hloop
    | some content =>
      rw [hread] at hloop
      rw [List.length_nil] at hloop
      rw [hloop]
      rcases Option.eq_none_or_eq_some (ByteStream.interruption reads) with hnone | ⟨e, hsome⟩
      · simp only [hnone, Option.map_none, exec_pure, Option.isSome_none, Bool.false_eq_true,
          if_false]
        split <;> rfl
      · simp only [hsome, Option.map_some, exec_throw, Option.isSome_some, if_true]
        rfl

/-- **What the work comes to, and the calls it makes**: each collaborator is called once, and only
when the one before it has let the file through. -/
theorem exec_work (sha256 : List UInt8 → String) (c : Collaborators)
    (record : ClaimedDocumentVersion) :
    (work sha256 c record).exec [] =
      match DocumentIngestionService.stageVerifiedSource sha256 record
        ((c.storage record.storageKey).map storedObject) with
      | .error e => (.error e, [.opened record.storageKey])
      | .ok content =>
        match DocumentIngestionService.scan (c.scanner ⟨content, 0⟩).1 with
        | .error e => (.error e, [.opened record.storageKey, .scanned ⟨content, 0⟩])
        | .ok _ =>
          (DocumentIngestionService.extract (c.extractors record.mediaType ⟨content, 0⟩),
            [.opened record.storageKey, .scanned ⟨content, 0⟩,
              .extracted record.mediaType ⟨content, 0⟩]) := by
  simp only [work, exec_bind, exec_update, exec_ofExcept, stageVerifiedSource_eq, List.nil_append]
  cases DocumentIngestionService.stageVerifiedSource sha256 record
    ((c.storage record.storageKey).map storedObject) with
  | error e => rfl
  | ok content =>
    simp only [Except.map, scan, exec_bind, exec_update, exec_ofExcept]
    cases DocumentIngestionService.scan (c.scanner ⟨content, 0⟩).1 with
    | error e => rfl
    | ok _ => simp [extract, exec_bind, ByteFile.seek]

/-! ### Refinement -/

variable {sha256 : List UInt8 → String} {maxAttempts : ℕ} {c : Collaborators} {s : Surroundings}
  {versionId : UUID} {taskId : String} {db db₁ : Database} {document : Document}
  {version : DocumentVersion} {claimed : ClaimedDocumentVersion}

/-- A transaction depends on what others commit before it, and on its own fault. -/
theorem transact_congr {s₁ s₂ : Surroundings} {α : Type} {point : RaisePoint}
    (run : Database → Except AuditMetadataError (α × Database)) (db : Database)
    (hmeanwhile : s₁.meanwhile = s₂.meanwhile) (hfault : s₁.fault point = s₂.fault point) :
    transact s₁ point run db = transact s₂ point run db := by
  unfold transact
  rw [hmeanwhile, hfault]

/-- The work comes to what the coarser work does. -/
theorem verifiedText_surround (fault : RaisePoint → TransactionFault) :
    DocumentIngestionService.verifiedText sha256 (c.surround s fault) claimed =
      ((work sha256 c claimed).exec []).1 := by
  rw [exec_work, DocumentIngestionService.verifiedText]
  dsimp only [Collaborators.surround]
  cases DocumentIngestionService.stageVerifiedSource sha256 claimed
    ((c.storage claimed.storageKey).map storedObject) with
  | error e => rfl
  | ok content =>
    show (DocumentIngestionService.scan (c.scanner ⟨content, 0⟩).1 >>= fun _ ↦ _) = _
    cases hscan : DocumentIngestionService.scan (c.scanner ⟨content, 0⟩).1 with
    | error e =>
      simp only [hscan]
      rfl
    | ok _ =>
      simp only [hscan]
      rfl

/-- **The call refines the coarser one**: it ends and writes as that one does in surroundings with
these collaborators, in which the terminal write may fail besides. -/
theorem process_refines : ∃ fault : RaisePoint → TransactionFault,
    (∀ point, fault point = s.fault point ∨ point = .terminalWrite ∧ fault point = .fails) ∧
      (process sha256 maxAttempts c s versionId taskId db).1 =
        DocumentIngestionService.process sha256 maxAttempts (c.surround s fault) versionId taskId
          db := by
  have hclaim : ∀ fault : RaisePoint → TransactionFault, fault .claim = s.fault .claim →
      transact (c.surround s fault) .claim (DocumentIngestionService.claim maxAttempts
          (c.surround s fault).startedAt versionId taskId) db =
        transact s .claim
          (DocumentIngestionService.claim maxAttempts s.startedAt versionId taskId) db :=
    fun fault hfault ↦ transact_congr _ db rfl hfault
  unfold process DocumentIngestionService.process
  rcases hresult : transact s .claim
    (DocumentIngestionService.claim maxAttempts s.startedAt versionId taskId) db with
    ⟨error | (claimed | outcome), db₁⟩
  · refine ⟨s.fault, fun _ ↦ Or.inl rfl, ?_⟩
    rw [hclaim s.fault rfl, hresult]
  · rcases hwork : (work sha256 c claimed).exec [] with ⟨(code | error) | text, calls⟩
    · refine ⟨s.fault, fun _ ↦ Or.inl rfl, ?_⟩
      rw [hclaim s.fault rfl, hresult]
      simp only [verifiedText_surround, hwork]
      exact congrArg _ (transact_congr _ db₁ rfl rfl)
    · refine ⟨s.fault, fun _ ↦ Or.inl rfl, ?_⟩
      rw [hclaim s.fault rfl, hresult]
      simp only [verifiedText_surround, hwork]
    · by_cases hrefuses : refuses claimed taskId text (s.meanwhile .terminalWrite db₁) = true
      · -- A refused text is a fault of the terminal write.
        refine ⟨Function.update s.fault .terminalWrite .fails, fun point ↦ ?_, ?_⟩
        · by_cases hpoint : point = .terminalWrite
          · exact Or.inr ⟨hpoint, by rw [hpoint]; exact Function.update_self ..⟩
          · exact Or.inl (Function.update_of_ne hpoint ..)
        · rw [hclaim _ (Function.update_of_ne (by decide) ..), hresult]
          simp only [verifiedText_surround, hwork, markReady, if_pos hrefuses]
          exact congrArg _ (transact_congr _ db₁ rfl rfl)
      · refine ⟨s.fault, fun _ ↦ Or.inl rfl, ?_⟩
        rw [hclaim s.fault rfl, hresult]
        simp only [verifiedText_surround, hwork, markReady, if_neg hrefuses]
        exact congrArg _ (transact_congr _ db₁ rfl rfl)
  · refine ⟨s.fault, fun _ ↦ Or.inl rfl, ?_⟩
    rw [hclaim s.fault rfl, hresult]

/-! ### What the storage returned -/

/-- The bounded reading collects all chunks, as long as no beginning of them exceeds the limit. -/
theorem readBounded_eq_some_iff {limit : ℕ} {chunks : List (List UInt8)}
    {content content' : List UInt8} (hlimit : content.length ≤ limit) :
    DocumentIngestionService.readBounded limit chunks content = some content' ↔
      (∀ done, done <+: chunks → (content ++ done.flatten).length ≤ limit) ∧
        content' = content ++ chunks.flatten := by
  induction chunks generalizing content with
  | nil =>
    rw [DocumentIngestionService.readBounded, Option.some.injEq, List.flatten_nil, List.append_nil,
      eq_comm, iff_and_self]
    rintro - done hdone
    rw [List.prefix_nil.1 hdone, List.flatten_nil, List.append_nil]
    exact hlimit
  | cons chunk chunks ih =>
    rw [DocumentIngestionService.readBounded]
    split
    · next hlong =>
      refine iff_of_false nofun fun ⟨hall, _⟩ ↦ ?_
      -- The chunk that stops the reading is a beginning that exceeds the limit.
      have hfirst := hall [chunk] ⟨chunks, rfl⟩
      rw [List.flatten_singleton] at hfirst
      omega
    · next hshort =>
      rw [ih (not_lt.1 hshort), List.flatten_cons, List.append_assoc]
      refine and_congr_left fun _ ↦ ⟨fun hall done hdone ↦ ?_, fun hall done hdone ↦ ?_⟩
      · rcases List.prefix_cons_iff.1 hdone with rfl | ⟨rest, rfl, hrest⟩
        · rw [List.flatten_nil, List.append_nil]
          exact hlimit
        · rw [List.flatten_cons, ← List.append_assoc]
          exact hall rest hrest
      · have hmore := hall (chunk :: done) (List.cons_prefix_cons.2 ⟨rfl, hdone⟩)
        rwa [List.flatten_cons, ← List.append_assoc] at hmore

/-- The stored object can be read to its end, and these are the bytes that the record describes. -/
def Verified (sha256 : List UInt8 → String) (claimed : ClaimedDocumentVersion)
    (opened : Option (List (Except Unit (List UInt8)))) (content : List UInt8) : Prop :=
  ∃ reads, opened = some reads ∧ ByteStream.interruption reads = none ∧
    ByteStream.content reads = content ∧ content.length = claimed.sizeBytes ∧
      sha256 content = claimed.contentSha256

/-- What can be read is not what the record describes: it is too long by some chunk, or it ends, and
has another length or digest. -/
def Differs (sha256 : List UInt8 → String) (claimed : ClaimedDocumentVersion)
    (opened : Option (List (Except Unit (List UInt8)))) : Prop :=
  ∃ reads, opened = some reads ∧
    ((∃ done, done <+: ByteStream.delivered reads ∧ claimed.sizeBytes < done.flatten.length) ∨
      ByteStream.interruption reads = none ∧
        ((ByteStream.content reads).length ≠ claimed.sizeBytes ∨
          sha256 (ByteStream.content reads) ≠ claimed.contentSha256))

/-- The storage fails: `open` raises, or a read does before there is too much. -/
def Unreadable (claimed : ClaimedDocumentVersion)
    (opened : Option (List (Except Unit (List UInt8)))) : Prop :=
  opened = none ∨ ∃ reads, opened = some reads ∧ ByteStream.interruption reads ≠ none ∧
    ∀ done, done <+: ByteStream.delivered reads → done.flatten.length ≤ claimed.sizeBytes

/-- **Staging decides between the three**, and there is no fourth. -/
theorem stage_cases (sha256 : List UInt8 → String) (claimed : ClaimedDocumentVersion)
    (opened : Option (List (Except Unit (List UInt8)))) :
    (∃ content, Verified sha256 claimed opened content ∧
        DocumentIngestionService.stageVerifiedSource sha256 claimed (opened.map storedObject) =
          .ok content) ∨
      Differs sha256 claimed opened ∧
        DocumentIngestionService.stageVerifiedSource sha256 claimed (opened.map storedObject) =
          .error (.permanent .extractionFailed) ∨
      Unreadable claimed opened ∧
        DocumentIngestionService.stageVerifiedSource sha256 claimed (opened.map storedObject) =
          .error (.retryable ⟨.staging, .storageUnavailable⟩) := by
  cases opened with
  | none => exact Or.inr (Or.inr ⟨Or.inl rfl, rfl⟩)
  | some reads =>
    rw [Option.map_some, DocumentIngestionService.stageVerifiedSource]
    dsimp only [storedObject]
    have hbounded := @readBounded_eq_some_iff claimed.sizeBytes (ByteStream.delivered reads) []
    rcases hread : DocumentIngestionService.readBounded claimed.sizeBytes
      (ByteStream.delivered reads) [] with - | content
    · -- Some chunk is too much.
      refine Or.inr (Or.inl ⟨⟨reads, rfl, Or.inl ?_⟩, rfl⟩)
      by_contra hall
      push Not at hall
      have hsome := (hbounded (Nat.zero_le _)).2 ⟨fun done hdone ↦ hall done hdone, rfl⟩
      rw [hread] at hsome
      cases hsome
    · obtain ⟨hall, rfl⟩ := (hbounded (Nat.zero_le _)).1 hread
      rcases Option.eq_none_or_eq_some (ByteStream.interruption reads) with hnone | ⟨e, hsome⟩
      · simp only [hnone, Option.isSome_none, Bool.false_eq_true, if_false, List.nil_append]
        split
        · next hother => exact Or.inr (Or.inl ⟨⟨reads, rfl, Or.inr ⟨hnone, hother⟩⟩, rfl⟩)
        · next hsame =>
          rw [not_or, not_not, not_not] at hsame
          exact Or.inl ⟨_, ⟨reads, rfl, hnone, rfl, hsame.1, hsame.2⟩, rfl⟩
      · have hbroken : ByteStream.interruption reads ≠ none := by
          rw [hsome]
          exact Option.some_ne_none e
        refine Or.inr (Or.inr ⟨Or.inr ⟨reads, rfl, hbroken, hall⟩, ?_⟩)
        simp only [hsome, Option.isSome_some, if_true]

/-! ### One owned call -/

/-- A call that gets to work on a version, which nobody else writes while it lasts. The last two
fields hold of every uploaded version (`run_numbered`, `uploaded_version_lifecycle`). -/
structure OwnedCall (maxAttempts : ℕ) (s : Surroundings) (versionId : UUID) (taskId : String)
    (db : Database) (document : Document) (version : DocumentVersion) : Prop where
  claim_works : s.fault .claim = .works
  alone : s.LeaveAlone versionId
  loaded : loadLocked db versionId = some (document, version)
  claimable : Claimable maxAttempts taskId version
  numbered : 1 ≤ version.versionNumber
  charged : version.status = .extracting → 1 ≤ version.attemptCount

/-- How the transaction of a terminal write ends the call, by how its database does. -/
inductive Ended (versionId : UUID) (document : Document) (version written : DocumentVersion)
    (outcome : IngestionOutcome) :
    TransactionFault → Except DeliveryError IngestionOutcome × Database → Prop
  | works {db : Database} (load : loadLocked db versionId = some (document, written)) :
      Ended versionId document version written outcome .works (.ok outcome, db)
  | fails {db : Database} (load : loadLocked db versionId = some (document, version)) :
      Ended versionId document version written outcome .fails
        (.error (.retryable ⟨.terminalWrite, .databaseUnavailable⟩), db)
  | unacknowledged {db : Database} (load : loadLocked db versionId = some (document, written)) :
      Ended versionId document version written outcome .unacknowledged
        (.error (.retryable ⟨.terminalWrite, .databaseUnavailable⟩), db)

section Call

variable {code : DocumentErrorCode} {text : String} {calls : List ProcessingCall}

end Call

/-! ### What each answer leads to -/

/-- A row that an ended call leaves is one of the two. -/
theorem Ended.row {written : DocumentVersion} {outcome : IngestionOutcome}
    {fault : TransactionFault} {r : Except DeliveryError IngestionOutcome × Database}
    (h : Ended versionId document version written outcome fault r) :
    loadLocked r.2 versionId = some (document, written) ∨
      loadLocked r.2 versionId = some (document, version) := by
  cases h with
  | works load => exact Or.inl load
  | fails load => exact Or.inr load
  | unacknowledged load => exact Or.inl load

/-- An ended call returns its outcome, or raises for a retry. -/
theorem Ended.result {written : DocumentVersion} {outcome : IngestionOutcome}
    {fault : TransactionFault} {r : Except DeliveryError IngestionOutcome × Database}
    (h : Ended versionId document version written outcome fault r) :
    r.1 = .ok outcome ∨ ∃ error, r.1 = .error (.retryable error) := by
  cases h with
  | works load => exact Or.inl rfl
  | fails load => exact Or.inr ⟨_, rfl⟩
  | unacknowledged load => exact Or.inr ⟨_, rfl⟩

section Work

variable {opened : Option (List (Except Unit (List UInt8)))} {content : List UInt8}
  {text : String} {calls : List ProcessingCall}

end Work

namespace Sample

/-- The object reads in two chunks, the scanner reads all of it, and both like it. -/
def answers : Collaborators where
  storage _ := some [.ok [104, 101], .ok [108, 108, 111]]
  scanner source := (.result .clean, source.content.length)
  extractors _ _ := .text "hello"

/-- A call for the first upload. -/
theorem owned : OwnedCall 4 Sample.calm (uuid 4) "task" Sample.uploaded.db Sample.document
    Sample.version where
  claim_works := rfl
  alone _ _ := rfl
  loaded := rfl
  claimable := Or.inl (by decide)
  numbered := by decide
  charged := by decide

end Sample

end DocumentProcessing

end SupportFlow
