import SupportFlow.Documents.Changes
import SupportFlow.Documents.Tasks

/-!
# One retry budget

Two counters limit a document's attempts. The version's `attempt_count` is durable; Celery's
`retries` travels with the message, and a message that the relay publishes anew brings a value the
relay computed from the row. `relay_and_worker_agree` says that they stay one apart: a claim for a
publication leaves the row at `retries + 1` attempts, whether the row was queued or a stale
extraction. So the task, which looks at `retries`, gives up exactly when the row is at its cap.

The publication subtracts one attempt of an extraction, and takes this from a count that must not be
zero then. `reachable_charged` is the invariant behind it: under an intent, an extraction was
charged.
-/

namespace SupportFlow

open DocumentIngestionService
open IngestionRelay (versionOf publicationOf Recoverable)
open DocumentTasks

variable {settings : Settings} {w w' : World} {e : Event}

/-! ### Versions under an intent -/

/-- A running extraction was charged, below the cap. -/
def DocumentVersion.Charged (maxAttempts : ℕ) (version : DocumentVersion) : Prop :=
  version.status = .extracting → 1 ≤ version.attemptCount ∧ version.attemptCount ≤ maxAttempts

/-- A step charges every extraction that it begins. -/
theorem VersionChange.charged {id : UUID} {row : Option DocumentVersion}
    {version' : DocumentVersion} {added : List AuditEvent}
    (h : VersionChange settings w e w' id row (some version') added)
    (hcharged : ∀ version, row = some version → version.Charged settings.maxAttempts) :
    version'.Charged settings.maxAttempts := by
  cases h with
  | unchanged => exact hcharged version' rfl
  | begun action delivery ofVersion queued below =>
    exact fun _ ↦ ⟨Nat.le_add_left 1 _, below⟩
  | uploaded => exact fun hstatus ↦ nomatch hstatus
  | exhausted => exact fun hstatus ↦ nomatch hstatus
  | succeeded => exact fun hstatus ↦ nomatch hstatus
  | failed => exact fun hstatus ↦ nomatch hstatus
  | requeued => exact fun hstatus ↦ nomatch hstatus

/-- **An extraction under an intent was charged.** Legacy versions get their intents while they are
queued, so the extraction came later. -/
theorem reachable_charged (hw : (ingestion settings).Reachable w) :
    ∀ id intent version, w.db.intents.get? id = some intent →
      w.db.versions.get? intent.documentVersionId = some version →
        version.Charged settings.maxAttempts := by
  refine hw.invariant (I := fun w ↦ ∀ id intent version, w.db.intents.get? id = some intent →
    w.db.versions.get? intent.documentVersionId = some version →
      version.Charged settings.maxAttempts) ?_ ?_
  · intro w₀ h₀ id intent version hintent
    have hmem : intent ∈ w₀.db.intents.rows := Table.mem_of_get? hintent
    exact absurd (World.Initial.no_intents h₀ ▸ hmem) List.not_mem_nil
  · intro a e b ha hI hstep id intent' version' hintent' hversion'
    have hcoherent := reachable_coherent ha
    obtain ⟨added, hchange, -⟩ :=
      Step.version_change hcoherent.claims_backed hstep intent'.documentVersionId
    rw [hversion'] at hchange
    have hrow := Step.intent_change hstep id
    rw [hintent'] at hrow
    rcases hintent : a.db.intents.get? id with - | intent
    · -- A step that creates an intent claims no version, and the new intent's is queued.
      rw [hintent] at hrow
      intro hstatus
      rcases hchange.extracting rfl hstatus with hold | ⟨d, _, startedAt, _, hclaim, -⟩
      · cases hrow with
        | uploaded action intentId fresh drawn =>
          obtain ⟨-, -, -, -, hfresh, -⟩ := Step.uploaded hstep action
          exact absurd (hcoherent.versions_drawn _ _ hold) hfresh
        | backfilled action fresh drawn stored queued free =>
          obtain rfl := Option.some.inj ((Table.get?_key stored).symm.trans hold)
          rw [queued] at hstatus
          cases hstatus
      · cases hrow with
        | uploaded action intentId fresh drawn => exact nomatch action.symm.trans hclaim
        | backfilled action fresh drawn stored queued free => exact nomatch action.symm.trans hclaim
    · rw [hintent] at hrow
      refine hchange.charged fun version hversion ↦ hI id intent version hintent ?_
      rw [← hrow.identity.2.2.1]
      exact hversion

/-- `version_number > 0`, of every stored version. -/
def VersionsNumbered (db : Database) : Prop :=
  ∀ id version, db.versions.get? id = some version → 1 ≤ version.versionNumber

theorem run_numbered {w₀ : World} {ls : List Event} (h₀ : (ingestion settings).init w₀)
    (hnumbered : VersionsNumbered w₀.db) (hrun : (ingestion settings).Run w₀ ls w) :
    VersionsNumbered w.db := by
  refine TransitionSystem.Run.invariant_from (I := fun w ↦ VersionsNumbered w.db)
    (.of_init h₀) hnumbered (fun a e b ha _ hI hstep id version' hget' ↦ ?_) hrun
  obtain ⟨added, hchange, -⟩ :=
    Step.version_change (reachable_coherent ha).claims_backed hstep id
  rw [hget'] at hchange
  rcases hget : a.db.versions.get? id with - | version
  · rw [hget] at hchange
    cases hchange with
    | uploaded => exact le_refl 1
  · rw [hget] at hchange
    obtain ⟨v, hv, -, -, -, hnumber⟩ := hchange.kept
    obtain rfl := Option.some.inj hv
    rw [hnumber]
    exact hI id version hget

/-- A publication is computed from the row of its version, which the intent may recover. -/
theorem Step.published {p : Publication} (h : Step settings w e w')
    (haction : e.action = .relayClaim (.published p)) :
    ∃ intent version, w.db.intents.get? intent.id = some intent ∧
      w'.db.versions.get? intent.documentVersionId = some version ∧
        w.db.versions.get? intent.documentVersionId = some version ∧
          Recoverable settings.policy e.now intent version ∧
            p = publicationOf p.token intent version := by
  cases h with
  | @relayClaim t locked token exit db fresh run =>
    obtain rfl : exit = .published p := Action.relayClaim.inj haction
    rcases IngestionRelay.claim_spec run with ⟨hidle, -⟩ | ⟨intent, version, intent', hget, -,
      hversion, hexamined, rfl⟩
    · cases hidle
    · have hstored := (IngestionRelay.versionOf_eq_some_iff.1 hversion).1
      cases hexamined with
      | published recoverable within =>
        exact ⟨intent, version, hget, hstored, hstored, recoverable, rfl⟩
  | _ => exact nomatch haction

/-! ### The worker's claim -/

section Claim

variable {maxAttempts : ℕ} {startedAt : Instant} {versionId : UUID} {taskId : String}
  {db db' : Database} {document : Document} {version version' : DocumentVersion}

/-- Writing a loaded version back. -/
theorem loadLocked_setVersion (hload : loadLocked db versionId = some (document, version))
    (hsame : version'.SameIdentity version) :
    loadLocked (db.setVersion version') versionId = some (document, version') := by
  obtain ⟨hget, hdocument, horg⟩ := loadLocked_eq_some_iff.1 hload
  have hkey : version.id = versionId := Table.key_of_get? hget
  refine loadLocked_eq_some_iff.2 ⟨?_, ?_, horg.trans hsame.2.1.symm⟩
  · rw [get?_setVersion (hkey ▸ hget) hsame.1, if_pos hkey.symm]
  · rw [hsame.2.2.1]
    exact hdocument

/-- The row a granted claim leaves: begun from the queue, or as the task left it. -/
def DocumentVersion.claimed (version : DocumentVersion) (taskId : String) (startedAt : Instant) :
    DocumentVersion :=
  if version.status = .queued then version.begin taskId startedAt else version

/-- A version that a claim grants: queued below the cap, or the task's own extraction. -/
def Claimable (maxAttempts : ℕ) (taskId : String) (version : DocumentVersion) : Prop :=
  version.status = .queued ∧ version.attemptCount < maxAttempts ∨ IsOwnedExtraction version taskId

theorem Claimable.claimed_owned (h : Claimable maxAttempts taskId version) :
    IsOwnedExtraction (version.claimed taskId startedAt) taskId := by
  rcases h with ⟨hqueued, -⟩ | howned
  · rw [DocumentVersion.claimed, if_pos hqueued]
    exact ⟨rfl, rfl⟩
  · rw [DocumentVersion.claimed, if_neg (by rw [howned.1]; decide)]
    exact howned

theorem DocumentVersion.claimed_sameIdentity (version : DocumentVersion) (taskId : String)
    (startedAt : Instant) : (version.claimed taskId startedAt).SameIdentity version := by
  unfold claimed
  split <;> exact ⟨rfl, rfl, rfl, rfl⟩

/-- A granted claim hands out the record of the row it leaves. -/
theorem claim_granted (startedAt : Instant)
    (hload : loadLocked db versionId = some (document, version))
    (h : Claimable maxAttempts taskId version) :
    ∃ db', claim maxAttempts startedAt versionId taskId db =
        .ok (.claimed (record document (version.claimed taskId startedAt)), db') ∧
      loadLocked db' versionId = some (document, version.claimed taskId startedAt) := by
  unfold claim DocumentVersion.claimed
  rcases h with ⟨hqueued, hbelow⟩ | ⟨hextracting, howner⟩
  · simp only [hload, hqueued, if_neg (not_le.2 hbelow), if_true]
    exact ⟨_, rfl, loadLocked_setVersion hload ⟨rfl, rfl, rfl, rfl⟩⟩
  · simp only [hload, hextracting, howner, ne_eq, not_true_eq_false, if_false, reduceCtorEq]
    exact ⟨_, rfl, hload⟩

theorem recordDocumentFailed_numbered {organizationId : UUID} {versionNumber attemptCount : ℕ}
    {errorCode : DocumentErrorCode} (hnumber : 1 ≤ versionNumber) :
    AuditEventService.recordDocumentFailed organizationId versionId versionNumber errorCode
        attemptCount =
      .ok (AuditEventService.documentFailed organizationId versionId versionNumber errorCode
        attemptCount) :=
  AuditEventService.recordDocumentFailed_eq_ok_iff.2 ⟨hnumber, rfl⟩

/-- A claim of a queued version at the cap ends it. -/
theorem claim_exhausts (startedAt : Instant) (taskId : String)
    (hload : loadLocked db versionId = some (document, version))
    (hqueued : version.status = .queued) (hcap : maxAttempts ≤ version.attemptCount)
    (hnumber : 1 ≤ version.versionNumber) :
    ∃ db', claim maxAttempts startedAt versionId taskId db = .ok (.noop .failed, db') ∧
      loadLocked db' versionId = some (document, version.fail .retryExhausted) := by
  unfold claim
  simp only [hload, hqueued, if_pos hcap, recordDocumentFailed_numbered hnumber, Except.map]
  exact ⟨_, rfl, loadLocked_setVersion hload ⟨rfl, rfl, rfl, rfl⟩⟩

/-- A loaded version has the id it was loaded by. -/
theorem loadLocked_id (hload : loadLocked db versionId = some (document, version)) :
    version.id = versionId :=
  Table.key_of_get? (loadLocked_eq_some_iff.1 hload).1

/-- What `_mark_failed` leaves of the task's own extraction. -/
theorem markFailed_owned (code : DocumentErrorCode)
    (hload : loadLocked db versionId = some (document, version))
    (howned : IsOwnedExtraction version taskId) (hnumber : 1 ≤ version.versionNumber) :
    ∃ db', markFailed (record document version) taskId code db = .ok db' ∧
      loadLocked db' versionId = some (document, version.fail code) := by
  have hid : (record document version).versionId = versionId := loadLocked_id hload
  have hevent : AuditEventService.recordDocumentFailed (record document version).organizationId
      versionId (record document version).versionNumber code version.attemptCount = .ok _ :=
    recordDocumentFailed_numbered hnumber
  unfold markFailed
  simp only [hid, hload, if_pos howned, hevent, Except.map]
  exact ⟨_, rfl, loadLocked_setVersion hload ⟨rfl, rfl, rfl, rfl⟩⟩

/-- A `_mark_ready` of the task's own extraction ends it. -/
theorem markReady_terminal {text : String}
    (hload : loadLocked db versionId = some (document, version))
    (howned : IsOwnedExtraction version taskId)
    (h : markReady (record document version) taskId text db = .ok db') :
    ∃ written, loadLocked db' versionId = some (document, written) ∧ written.status.Terminal := by
  have hid : (record document version).versionId = versionId := loadLocked_id hload
  unfold markReady at h
  simp only [hid, hload, if_pos howned] at h
  obtain ⟨event, -, rfl⟩ := Except.map_eq_ok_iff.1 h
  exact ⟨_, loadLocked_setVersion hload ⟨rfl, rfl, rfl, rfl⟩, Or.inl rfl⟩

theorem markFailed_terminal {code : DocumentErrorCode}
    (hload : loadLocked db versionId = some (document, version))
    (howned : IsOwnedExtraction version taskId)
    (h : markFailed (record document version) taskId code db = .ok db') :
    ∃ written, loadLocked db' versionId = some (document, written) ∧ written.status.Terminal := by
  have hid : (record document version).versionId = versionId := loadLocked_id hload
  unfold markFailed at h
  simp only [hid, hload, if_pos howned] at h
  obtain ⟨event, -, rfl⟩ := Except.map_eq_ok_iff.1 h
  exact ⟨_, loadLocked_setVersion hload ⟨rfl, rfl, rfl, rfl⟩, Or.inr rfl⟩

end Claim

/-! ### The failed delivery -/

section Delivery

variable {sha256 : List UInt8 → String} {maxRetries maxAttempts : ℕ} {s : Surroundings}
  {versionId : UUID} {taskId : String} {m : Message} {db db₁ : Database} {document : Document}
  {version : DocumentVersion} {error : RetryableIngestionError}

/-- No other transaction writes the version or its document while the delivery lasts. -/
def Surroundings.LeaveAlone (s : Surroundings) (versionId : UUID) : Prop :=
  ∀ point db, loadLocked (s.meanwhile point db) versionId = loadLocked db versionId

/-- The row that is left under an id: this one, unless a terminal write took effect whose
acknowledgement was lost. -/
def Surroundings.Leave (s : Surroundings) (versionId : UUID) (document : Document)
    (version : DocumentVersion) (db : Database) : Prop :=
  loadLocked db versionId = some (document, version) ∨
    s.fault .terminalWrite = .unacknowledged ∧
      ∃ written, loadLocked db versionId = some (document, written) ∧ written.status.Terminal

/-- A terminal write that fails leaves the row as it was, or has ended it. -/
theorem transact_leave (error : RetryableIngestionError)
    {run : Database → Except AuditMetadataError (Unit × Database)}
    (halone : s.LeaveAlone versionId)
    (hload : loadLocked db versionId = some (document, version))
    (hrun : ∀ db db' u, loadLocked db versionId = some (document, version) →
      run db = .ok (u, db') → ∃ written, loadLocked db' versionId = some (document, written) ∧
        written.status.Terminal)
    (hfails : (transact s .terminalWrite run db).1 = .error (.retryable error)) :
    s.Leave versionId document version (transact s .terminalWrite run db).2 := by
  have hnow := (halone .terminalWrite db).trans hload
  unfold transact at hfails ⊢
  cases hfault : s.fault .terminalWrite with
  | fails => exact Or.inl hnow
  | works =>
    simp only [hfault] at hfails ⊢
    rcases hresult : run (s.meanwhile .terminalWrite db) with audit | ⟨u, db'⟩
    · simp only [hresult] at hfails
      cases hfails
    · simp only [hresult] at hfails
      cases hfails
  | unacknowledged =>
    simp only [hfault] at hfails ⊢
    rcases hresult : run (s.meanwhile .terminalWrite db) with audit | ⟨u, db'⟩
    · simp only [hresult] at hfails
      cases hfails
    · exact Or.inr ⟨hfault, hrun _ db' u hnow hresult⟩

theorem error_of_concluded {outcome : IngestionOutcome} {e : DeliveryError}
    {r : Except DeliveryError Unit × Database} (h : (concluded outcome r).1 = .error e) :
    r.1 = .error e := by
  rcases r with ⟨e' | u, db⟩
  · exact congrArg Except.error (Except.error.inj h)
  · cases h

/-- **A pass that fails retryably** leaves the row it claimed. -/
theorem process_leave (halone : s.LeaveAlone versionId) (hworks : s.fault .claim = .works)
    (hclaim : claim maxAttempts s.startedAt versionId taskId (s.meanwhile .claim db) =
      .ok (.claimed (record document version), db₁))
    (hload : loadLocked db₁ versionId = some (document, version))
    (howned : IsOwnedExtraction version taskId)
    (hfails : (process sha256 maxAttempts s versionId taskId db).1 = .error (.retryable error)) :
    s.Leave versionId document version (process sha256 maxAttempts s versionId taskId db).2 := by
  have htransact : transact s .claim (claim maxAttempts s.startedAt versionId taskId) db =
      (.ok (.claimed (record document version)), db₁) := by
    unfold transact
    simp only [hworks, hclaim]
  unfold process at hfails ⊢
  simp only [htransact] at hfails ⊢
  rcases hverified : verifiedText sha256 s (record document version) with (code | error') | text
  · refine transact_leave error halone hload (fun db db' u hdb hrun ↦ ?_) ?_
    · obtain ⟨db'', hfailed, heq⟩ := Except.map_eq_ok_iff.1 hrun
      obtain ⟨-, rfl⟩ := Prod.mk.inj heq
      exact markFailed_terminal hdb howned hfailed
    · rw [hverified] at hfails
      exact error_of_concluded hfails
  · exact Or.inl hload
  · refine transact_leave error halone hload (fun db db' u hdb hrun ↦ ?_) ?_
    · obtain ⟨db'', hready, heq⟩ := Except.map_eq_ok_iff.1 hrun
      obtain ⟨-, rfl⟩ := Prod.mk.inj heq
      exact markReady_terminal hdb howned hready
    · rw [hverified] at hfails
      exact error_of_concluded hfails

/-- A terminal row is nobody's extraction. -/
theorem not_owned_of_terminal (h : version.status.Terminal) : ¬IsOwnedExtraction version taskId :=
  fun howned ↦ by
    rw [DocumentProcessingStatus.Terminal, howned.1] at h
    exact absurd h (by decide)

/-- `prepare_retry` puts an extraction that is left back into the queue. -/
theorem prepareRetry_leave (code : DocumentErrorCode) (howned : IsOwnedExtraction version taskId)
    (h : s.Leave versionId document version db) :
    s.Leave versionId document (version.requeue code) (prepareRetry versionId taskId code db) := by
  rcases h with hload | ⟨hlost, written, hload, hterminal⟩
  · refine Or.inl ?_
    simp only [prepareRetry, hload, if_pos howned]
    exact loadLocked_setVersion hload ⟨rfl, rfl, rfl, rfl⟩
  · refine Or.inr ⟨hlost, written, ?_, hterminal⟩
    simp only [prepareRetry, hload, if_neg (not_owned_of_terminal hterminal)]

/-- A row that is left stays left, whatever the others commit. -/
theorem Surroundings.Leave.meanwhile (halone : s.LeaveAlone versionId) (point : RaisePoint)
    (h : s.Leave versionId document version db) :
    s.Leave versionId document version (s.meanwhile point db) := by
  unfold Leave at h ⊢
  rwa [halone]

theorem callPrepareRetry_leave (code : DocumentErrorCode) (halone : s.LeaveAlone versionId)
    (howned : IsOwnedExtraction version taskId) (hworks : s.fault .prepareRetry = .works)
    (h : s.Leave versionId document version db) :
    s.Leave versionId document (version.requeue code)
      (callPrepareRetry s versionId taskId code db).2 := by
  simp only [callPrepareRetry, transact, hworks]
  exact prepareRetry_leave code howned (h.meanwhile halone .prepareRetry)

/-- `mark_retry_exhausted` fails an extraction that is left. -/
theorem markRetryExhausted_leave (halone : s.LeaveAlone versionId)
    (howned : IsOwnedExtraction version taskId) (hnumber : 1 ≤ version.versionNumber)
    (hread : s.fault .ownedRecord = .works) (hworks : s.fault .markExhausted = .works)
    (h : s.Leave versionId document version db) :
    s.Leave versionId document (version.fail .retryExhausted)
      (markRetryExhausted s versionId taskId db).2 := by
  rcases h.meanwhile halone .ownedRecord with hload | ⟨hlost, written, hload, hterminal⟩
  · have hread' : transact s .ownedRecord
        (fun db ↦ .ok (ownedRecord versionId taskId db, db)) db =
          (.ok (some (record document version)), s.meanwhile .ownedRecord db) := by
      simp only [transact, hread, ownedRecord, hload, if_pos howned]
    obtain ⟨db', hfailed, hload'⟩ := markFailed_owned .retryExhausted
      ((halone .markExhausted _).trans hload) howned hnumber
    refine Or.inl ?_
    simp only [markRetryExhausted, hread']
    simp only [transact, hworks, hfailed, Except.map]
    exact hload'
  · have hread' : transact s .ownedRecord
        (fun db ↦ .ok (ownedRecord versionId taskId db, db)) db =
          (.ok none, s.meanwhile .ownedRecord db) := by
      simp only [transact, hread, ownedRecord, hload, if_neg (not_owned_of_terminal hterminal)]
    refine Or.inr ⟨hlost, written, ?_, hterminal⟩
    simp only [markRetryExhausted, hread']
    exact hload

/-- A delivery whose retries are used up gives up: no retry, and `mark_retry_exhausted`. -/
theorem runDelivery_gives_up (hspent : maxRetries ≤ m.retries)
    (hprocess : process sha256 maxAttempts s m.versionId m.taskId db =
      (.error (.retryable error), db₁)) :
    (runDelivery sha256 maxRetries maxAttempts s m db).retried = [] ∧
      (runDelivery sha256 maxRetries maxAttempts s m db).db =
        (markRetryExhausted s m.versionId m.taskId db₁).2 := by
  unfold runDelivery
  simp only [hprocess, if_pos hspent]
  rcases markRetryExhausted s m.versionId m.taskId db₁ with ⟨(error' | audit) | _, db₂⟩ <;>
    exact ⟨rfl, rfl⟩

/-- A delivery with retries left schedules one, after `prepare_retry`. -/
theorem runDelivery_tries_again (hleft : m.retries < maxRetries)
    (hprocess : process sha256 maxAttempts s m.versionId m.taskId db =
      (.error (.retryable error), db₁)) :
    (runDelivery sha256 maxRetries maxAttempts s m db).retried = [m.again] ∧
      (runDelivery sha256 maxRetries maxAttempts s m db).db =
        (callPrepareRetry s m.versionId m.taskId error.errorCode db₁).2 := by
  unfold runDelivery
  simp only [hprocess, if_neg (not_le.2 hleft)]
  rcases hprepare : callPrepareRetry s m.versionId m.taskId error.errorCode db₁ with
    ⟨error' | _, db₂⟩
  · obtain ⟨error'', rfl⟩ := callPrepareRetry_error (congrArg Prod.fst hprepare)
    exact ⟨rfl, rfl⟩
  · exact ⟨rfl, rfl⟩

end Delivery

/-! ### Relay and worker agree -/

/-- **The task gives up exactly at the cap.** A delivery that claimed the row and then fails
retryably ends the version if the row is at the cap, and puts it back into the queue for one retry
if it is not. -/
def GivesUpAtCap (sha256 : List UInt8 → String) (maxRetries maxAttempts : ℕ) (s : Surroundings)
    (m : Message) (document : Document) (version : DocumentVersion) (db : Database) : Prop :=
  ProcessFails sha256 maxAttempts s m db →
    (version.attemptCount = maxAttempts →
      (runDelivery sha256 maxRetries maxAttempts s m db).retried = [] ∧
        (s.fault .ownedRecord = .works → s.fault .markExhausted = .works →
          s.Leave m.versionId document (version.fail .retryExhausted)
            (runDelivery sha256 maxRetries maxAttempts s m db).db)) ∧
      (version.attemptCount ≠ maxAttempts →
        (runDelivery sha256 maxRetries maxAttempts s m db).retried = [m.again] ∧
          (s.fault .prepareRetry = .works → ∃ code,
            s.Leave m.versionId document (version.requeue code)
              (runDelivery sha256 maxRetries maxAttempts s m db).db))

section Agreement

variable {sha256 : List UInt8 → String} {maxRetries maxAttempts : ℕ} {s : Surroundings}
  {m : Message} {db db₁ : Database} {document : Document} {version : DocumentVersion}

theorem givesUpAtCap (hmax : maxAttempts = maxRetries + 1) (halone : s.LeaveAlone m.versionId)
    (hworks : s.fault .claim = .works)
    (hclaim : claim maxAttempts s.startedAt m.versionId m.taskId (s.meanwhile .claim db) =
      .ok (.claimed (record document version), db₁))
    (hload : loadLocked db₁ m.versionId = some (document, version))
    (howned : IsOwnedExtraction version m.taskId) (hnumber : 1 ≤ version.versionNumber)
    (hcapped : version.attemptCount ≤ maxAttempts)
    (hretries : version.attemptCount = m.retries + 1) :
    GivesUpAtCap sha256 maxRetries maxAttempts s m document version db := by
  rintro ⟨error, herror⟩
  have hleave := process_leave halone hworks hclaim hload howned herror
  have hprocess : process sha256 maxAttempts s m.versionId m.taskId db =
      (.error (.retryable error), (process sha256 maxAttempts s m.versionId m.taskId db).2) :=
    Prod.ext herror rfl
  refine ⟨fun hcap ↦ ?_, fun hbelow ↦ ?_⟩
  · have hspent : maxRetries ≤ m.retries := by omega
    obtain ⟨hretried, hdb⟩ := runDelivery_gives_up hspent hprocess
    refine ⟨hretried, fun hread hmark ↦ ?_⟩
    rw [hdb]
    exact markRetryExhausted_leave halone howned hnumber hread hmark hleave
  · have hleft : m.retries < maxRetries := by omega
    obtain ⟨hretried, hdb⟩ := runDelivery_tries_again hleft hprocess
    refine ⟨hretried, fun hprepare ↦ ⟨error.errorCode, ?_⟩⟩
    rw [hdb]
    exact callPrepareRetry_leave error.errorCode halone howned hprepare hleave

/-- **A granted claim leaves the row one attempt above the publication's retries**, and within the
cap. -/
theorem Claimable.attempts {taskId : String} (h : Claimable maxAttempts taskId version)
    (hcharged : version.Charged maxAttempts) (token : UUID) (intent : DocumentIngestionIntent)
    (startedAt : Instant) :
    (version.claimed taskId startedAt).attemptCount =
        (publicationOf token intent version).retries + 1 ∧
      (version.claimed taskId startedAt).attemptCount ≤ maxAttempts := by
  unfold DocumentVersion.claimed publicationOf
  rcases h with ⟨hqueued, hbelow⟩ | ⟨hextracting, -⟩
  · simp only [hqueued, if_true, reduceCtorEq, if_false, DocumentVersion.begin]
    omega
  · obtain ⟨hpositive, hcapped⟩ := hcharged hextracting
    simp only [hextracting, reduceCtorEq, if_false, if_true]
    omega

end Agreement

/-- **Relay and worker agree on the retry budget.** When the worker claims for a publication, and
the version's row is as the relay found it, then either the version waited in the queue at its cap,
and the claim fails it; or the claim is granted and leaves the row at one attempt more than the
publication's retries, so that a retryable failure of this delivery ends the version exactly at the
cap, and is tried again below it. -/
theorem relay_and_worker_agree {maxRetries : ℕ} (hmax : settings.maxAttempts = maxRetries + 1)
    {w₀ w'' : World} {ls ms : List Event} {t : Instant} {p : Publication}
    (h₀ : (ingestion settings).init w₀) (hnumbered : VersionsNumbered w₀.db)
    (hrun : (ingestion settings).Run w₀ ls w)
    (hclaim : (ingestion settings).step w ⟨t, .relayClaim (.published p)⟩ w')
    (hrun' : (ingestion settings).Run w' ms w'')
    (hkept : w''.db.versions.get? p.versionId = w'.db.versions.get? p.versionId) :
    ∃ document version, loadLocked w''.db p.versionId = some (document, version) ∧ ∀ startedAt,
      (version.status = .queued ∧ settings.maxAttempts ≤ version.attemptCount ∧
        ∃ db, claim settings.maxAttempts startedAt p.versionId p.taskId w''.db =
            .ok (.noop .failed, db) ∧
          loadLocked db p.versionId = some (document, version.fail .retryExhausted)) ∨
      ∃ claimed db, claim settings.maxAttempts startedAt p.versionId p.taskId w''.db =
          .ok (.claimed (record document claimed), db) ∧
        loadLocked db p.versionId = some (document, claimed) ∧
        claimed.attemptCount = p.retries + 1 ∧
        ∀ sha256 (s : Surroundings), s.startedAt = startedAt → s.LeaveAlone p.versionId →
          s.fault .claim = .works →
            GivesUpAtCap sha256 maxRetries settings.maxAttempts s p.message document claimed
              w''.db := by
  have hw : (ingestion settings).Reachable w := ⟨w₀, ls, h₀, hrun⟩
  have hw'' : (ingestion settings).Reachable w'' := (hw.step hclaim).run hrun'
  obtain ⟨intent, version, hget, hstored', hstored, hrecoverable, hp⟩ := Step.published hclaim rfl
  have hid : p.versionId = intent.documentVersionId := by
    rw [hp]
    exact Table.key_of_get? hstored
  have htask : p.taskId = intent.taskId := by
    rw [hp]
    rfl
  have hstored'' : w''.db.versions.get? p.versionId = some version := by
    rw [hkept, hid, hstored']
  obtain ⟨document, hload⟩ := (reachable_coherent hw'').consistent.loadLocked hstored''
  have hnumber : 1 ≤ version.versionNumber := run_numbered h₀ hnumbered hrun _ version hstored
  have hcharged := reachable_charged hw intent.id intent version hget hstored
  refine ⟨document, version, hload, fun startedAt ↦ ?_⟩
  have hstate : version.status = .queued ∧ settings.maxAttempts ≤ version.attemptCount ∨
      Claimable settings.maxAttempts p.taskId version := by
    rcases hrecoverable with ⟨hqueued, -⟩ | ⟨hextracting, howner, -⟩
    · rcases le_or_gt settings.maxAttempts version.attemptCount with hcap | hbelow
      · exact Or.inl ⟨hqueued, hcap⟩
      · exact Or.inr (Or.inl ⟨hqueued, hbelow⟩)
    · exact Or.inr (Or.inr ⟨hextracting, htask ▸ howner⟩)
  rcases hstate with ⟨hqueued, hcap⟩ | hclaimable
  · exact Or.inl ⟨hqueued, hcap, claim_exhausts startedAt p.taskId hload hqueued hcap hnumber⟩
  · obtain ⟨db, hgranted, hleft⟩ := claim_granted startedAt hload hclaimable
    obtain ⟨hretries, hcapped⟩ := hclaimable.attempts hcharged p.token intent startedAt
    rw [← hp] at hretries
    refine Or.inr ⟨_, db, hgranted, hleft, hretries, fun sha256 s hstart halone hworks ↦ ?_⟩
    obtain ⟨db₁, hgranted₁, hleft₁⟩ :=
      claim_granted startedAt ((halone .claim w''.db).trans hload) hclaimable
    refine givesUpAtCap hmax halone hworks (hstart ▸ hgranted₁) hleft₁ hclaimable.claimed_owned ?_
      hcapped hretries
    rw [(version.claimed_sameIdentity p.taskId startedAt).2.2.2]
    exact hnumber

/-- The theorem for the first publication of an upload. -/
theorem relay_and_worker_agree_sample :
    ∃ version db, claim 3 0 (uuid 4) Sample.message.taskId Sample.claimed.db =
        .ok (.claimed (record Sample.document version), db) ∧ version.attemptCount = 1 := by
  have hrun : (ingestion Sample.limits).Run Sample.installed [⟨0, .upload Sample.ids⟩]
      Sample.uploaded :=
    (Sample.run_uploaded (A := fun _ _ ↦ True) Sample.limits trivial).of_restrict
  obtain ⟨document, version, hload, hclaim⟩ :=
    relay_and_worker_agree (show Sample.limits.maxAttempts = 2 + 1 from rfl)
      Sample.initial_installed
      (fun id version hget ↦ absurd (Table.mem_of_get? hget) List.not_mem_nil) hrun
      Sample.step_claimed (.nil _) rfl
  have hsample : loadLocked Sample.claimed.db (uuid 4) = some (Sample.document, Sample.version) :=
    rfl
  obtain ⟨rfl, rfl⟩ := Prod.mk.inj (Option.some.inj (hsample.symm.trans hload))
  rcases hclaim 0 with ⟨-, hcap, -⟩ | ⟨claimed, db, hgranted, -, hattempts, -⟩
  · exact absurd hcap (by decide)
  · exact ⟨claimed, db, hgranted, hattempts⟩

end SupportFlow
