import SupportFlow.Documents.PipelineCalls
import SupportFlow.Documents.VersionContents

/-!
# Deliveries and rearms beside each other

Any number of deliveries and rearm commands run on one database, one broker and one table of
advisory locks, a call at a time and in any order. Every call may fail, every connection may be
lost at any time, and everything else that the installation does (uploads, relays, retention, the
locks of other commands) may happen in between. A process that dies is one that is not scheduled
again, and its connection is lost at some time.

The lock is a session's, not the worker's. What it is worth is `delivery_excludes`: from the grant
to a release that PostgreSQL acknowledged, nobody else works on the version, except a worker that
has lost its own session and does not know it. The texts that get into the database do not rest on
it: whatever runs beside a delivery, a version's text was extracted from the bytes that its row
describes, after they were scanned and found clean (`texts_scanned`).
-/

namespace SupportFlow

open Move Service

/-- What the programs share. -/
structure PipelineState where
  db : Database
  locks : LockTable ℤ
  broker : List Message

/-- How a transaction is answered, and the database it leaves. -/
inductive Transacted {α : Type} (run : Database → Except AuditMetadataError (α × Database))
    (db : Database) : Except TransactionError α → Database → Prop
  | committed {a : α} {db' : Database} (ran : run db = .ok (a, db')) :
      Transacted run db (.ok a) db'
  | refused {error : AuditMetadataError} (ran : run db = .error error) :
      Transacted run db (.error (.auditMetadata error)) db
  | failed : Transacted run db (.error .databaseUnavailable) db
  /-- It is committed, and the answer does not arrive. -/
  | unacknowledged {a : α} {db' : Database} (ran : run db = .ok (a, db')) :
      Transacted run db (.error .databaseUnavailable) db'

theorem Transacted.ran {α : Type} {run : Database → Except AuditMetadataError (α × Database)}
    {db db' : Database} {reply : Except TransactionError α} (h : Transacted run db reply db') :
    db' = db ∨ ∃ a, run db = .ok (a, db') := by
  cases h with
  | committed ran | unacknowledged ran => exact Or.inr ⟨_, ran⟩
  | refused | failed => exact Or.inl rfl

open DocumentIngestionService in
/-- How the calls are answered. -/
inductive PipelineServe (config : PipelineConfig) :
    PipelineState → (request : PipelineCall) → request.Answer → PipelineState → Prop
  | lock {s : PipelineState} {request : LockCall ℤ} {reply : request.Answer}
      {locks : LockTable ℤ} (served : s.locks.Serve request reply locks) :
      PipelineServe config s (.lock request) reply { s with locks := locks }
  | claim {s : PipelineState} {versionId : UUID} {taskId : String} {startedAt : Instant}
      {reply : Except TransactionError ClaimResult} {db : Database}
      (ran : Transacted (claim config.maxAttempts startedAt versionId taskId) s.db reply db) :
      PipelineServe config s (.claim versionId taskId) reply { s with db := db }
  | markReady {s : PipelineState} {claimed : ClaimedDocumentVersion}
      {taskId extractedText : String} {reply : Except TransactionError Unit} {db : Database}
      (ran : Transacted (fun db ↦ (markReady claimed taskId extractedText db).map fun db ↦ ((), db))
        s.db reply db) :
      PipelineServe config s (.markReady claimed taskId extractedText) reply { s with db := db }
  | markFailed {s : PipelineState} {claimed : ClaimedDocumentVersion} {taskId : String}
      {errorCode : DocumentErrorCode} {reply : Except TransactionError Unit} {db : Database}
      (ran : Transacted (fun db ↦ (markFailed claimed taskId errorCode db).map fun db ↦ ((), db))
        s.db reply db) :
      PipelineServe config s (.markFailed claimed taskId errorCode) reply { s with db := db }
  | prepareRetry {s : PipelineState} {versionId : UUID} {taskId : String}
      {errorCode : DocumentErrorCode} {reply : Except TransactionError Unit} {db : Database}
      (ran : Transacted (fun db ↦ .ok ((), prepareRetry versionId taskId errorCode db))
        s.db reply db) :
      PipelineServe config s (.prepareRetry versionId taskId errorCode) reply { s with db := db }
  | ownedRecord {s : PipelineState} {versionId : UUID} {taskId : String}
      {reply : Except TransactionError (Option ClaimedDocumentVersion)} {db : Database}
      (ran : Transacted (fun db ↦ .ok (ownedRecord versionId taskId db, db)) s.db reply db) :
      PipelineServe config s (.ownedRecord versionId taskId) reply { s with db := db }
  -- The storage, the scanner, the extractors and the health check answer as they like.
  | opened {s : PipelineState} {storageKey : String}
      (reply : Option (List (Except Unit (List UInt8)))) :
      PipelineServe config s (.opened storageKey) reply s
  | scan {s : PipelineState} {source : ByteFile} (reply : ScanReply × ℕ) :
      PipelineServe config s (.scan source) reply s
  | extract {s : PipelineState} {mediaType : DocumentMediaType} {source : ByteFile}
      (reply : ExtractReply) : PipelineServe config s (.extract mediaType source) reply s
  | ping {s : PipelineState} (reply : Except Unit Bool) : PipelineServe config s .ping reply s
  | retry {s : PipelineState} {message : Message} :
      PipelineServe config s (.retry message) (.ok ()) { s with broker := s.broker ++ [message] }
  /-- The broker may have the message all the same. -/
  | unpublished {s : PipelineState} {message : Message} (reached : Bool) :
      PipelineServe config s (.retry message) (.error ())
        { s with broker := s.broker ++ if reached then [message] else [] }
  /-- `pg_try_advisory_xact_lock` is refused while a session holds the key; others may hold it too.
  -/
  | rearm {s : PipelineState} {command : RearmCommand} {faults : Faults} {now : Instant}
      {workerHolds : UUID → Bool} {outcome : Except RearmFailure ℕ} {db : Database}
      {reply : Except Unit ℕ}
      (held : ∀ versionId, s.locks.holder (config.lockKey versionId) ≠ none →
        workerHolds versionId = true)
      (ran : command.run faults now (.ok true) workerHolds s.db = (outcome, db))
      -- A commit whose acknowledgement is lost raises as well.
      (answered : ∀ grant, reply = .ok grant → outcome = .ok grant) :
      PipelineServe config s (.rearm command) reply { s with db := db }

/-- The calls are answered over the shared state. In between, connections are lost, and the other
transactions of the installation change what they like, but store no texts (`Step.contents`). -/
def pipelineService (config : PipelineConfig) : Service PipelineState PipelineCall.Answer where
  serve := PipelineServe config
  disturb s s' := s.locks.Disturb s'.locks ∧ ContentsKept (fun _ _ ↦ False) s.db s'.db

/-- The deliveries and the rearms, from any state. -/
def pipeline (config : PipelineConfig) :
    TransitionSystem (Threads PipelineState PipelineCall.Answer PipelineError Unit)
      (Move PipelineCall.Answer PipelineJob) :=
  interleaved (pipelineService config) (PipelineJob.program config) fun _ ↦ True

open PipelineAnswered (asLock)

/-! ### The locks -/

theorem asLock_eq_some {call : PipelineAnswered} {request : LockCall ℤ} {reply : request.Answer} :
    asLock call = some ⟨request, reply⟩ ↔ call = ⟨.lock request, reply⟩ := by
  constructor
  · intro h
    obtain ⟨asked, answer⟩ := call
    cases asked with
    | lock =>
      cases h
      rfl
    | _ => cases h
  · rintro rfl
    rfl

theorem keepsLocks (config : PipelineConfig) :
    KeepsLocks (pipelineService config) PipelineState.locks asLock where
  locks call lock hserve hlock := by
    obtain ⟨request, reply⟩ := lock
    obtain rfl := asLock_eq_some.1 hlock
    cases hserve with
    | lock served => exact served
  others call hserve hlock := by
    obtain ⟨request, reply⟩ := call
    cases hserve with
    | lock => cases hlock
    | _ => rfl
  disturb hdisturb := hdisturb.1

/-- The programs follow the rules of the locks. -/
theorem fairLocks (config : PipelineConfig) :
    FairLocks asLock (PipelineJob.Allowed config) := by
  intro job past request reply lock hallowed hlock
  obtain ⟨asked, answer⟩ := lock
  cases asLock_eq_some.1 hlock
  cases job with
  | deliver => exact hallowed
  | rearm =>
    rcases hallowed with h | ⟨h, -⟩
    · cases h
    · cases h

/-- What a delivery asks for besides locks, it asks for under its lock. -/
theorem DeliveryAllowed.inside {config : PipelineConfig} {message : Message}
    {past : List PipelineAnswered} {request : PipelineCall}
    (h : DeliveryAllowed config message past request) :
    (∃ call, request = .lock call) ∨ Inside (config.lockKey message.versionId) past := by
  cases request with
  | lock call => exact Or.inl ⟨call, rfl⟩
  | claim | markReady | markFailed | prepareRetry | ownedRecord | retry => exact Or.inr h.1
  | opened | scan | extract => exact Or.inr h
  | ping | rearm => exact h.elim

/-- A rearm that returns has found its version's lock free. -/
theorem rearm_free {config : PipelineConfig} {s s' : PipelineState} {command : RearmCommand}
    {grant : ℕ} (h : PipelineServe config s (.rearm command) (.ok grant) s') :
    ∃ intent, s.db.intents.get? command.intentId = some intent ∧
      s.locks.holder (config.lockKey intent.documentVersionId) = none := by
  cases h with
  | rearm held ran answered =>
    rcases RearmCommand.run_cases ran with ⟨-, intent, version, -, hrearmed⟩ | ⟨⟨error, herror⟩, -⟩
    · refine ⟨intent, hrearmed.intent_eq, ?_⟩
      by_contra hheld
      have hrefused := held _ hheld
      rw [hrearmed.unlocked] at hrefused
      cases hrefused
    · rw [answered grant rfl] at herror
      cases herror

/-! ### The texts -/

open DocumentIngestionService in
/-- Of the calls, only `_mark_ready` stores a text. -/
theorem PipelineServe.contents {config : PipelineConfig} {s s' : PipelineState}
    {request : PipelineCall} {reply : request.Answer}
    (h : PipelineServe config s request reply s') :
    ContentsKept (fun id text ↦ ∃ claimed taskId, request = .markReady claimed taskId text ∧
      claimed.versionId = id) s.db s'.db := by
  cases h with
  | claim ran =>
    rcases ran.ran with rfl | ⟨result, hclaim⟩
    · exact .refl _
    · exact claim_contents hclaim
  | markReady ran =>
    rcases ran.ran with rfl | ⟨u, hrun⟩
    · exact .refl _
    · obtain ⟨db, hready, heq⟩ := Except.map_eq_ok_iff.1 hrun
      cases heq
      refine (markReady_contents hready).imp ?_
      rintro id text ⟨rfl, rfl⟩
      exact ⟨_, _, rfl, rfl⟩
  | markFailed ran =>
    rcases ran.ran with rfl | ⟨u, hrun⟩
    · exact .refl _
    · obtain ⟨db, hfailed, heq⟩ := Except.map_eq_ok_iff.1 hrun
      cases heq
      exact markFailed_contents hfailed
  | prepareRetry ran =>
    rcases ran.ran with rfl | ⟨u, hrun⟩
    · exact .refl _
    · cases hrun
      exact prepareRetry_contents ..
  | ownedRecord ran =>
    rcases ran.ran with rfl | ⟨u, hrun⟩
    · exact .refl _
    · cases hrun
      exact .refl _
  | rearm held ran =>
    rcases RearmCommand.run_cases ran with ⟨-, intent, version, -, hrearmed⟩ | ⟨-, rfl⟩
    · have hversions := congrArg Database.versions hrearmed.written
      exact .of_versions hversions
    · exact .refl _
  | _ => exact .refl _

/-- A text was stored from the beginning on, or handed in; and a claimed record describes what its
version does. -/
structure Provenance (db₀ : Database) (moves : List (Move PipelineCall.Answer PipelineJob))
    (db : Database) : Prop where
  texts : ∀ id version text, db.versions.get? id = some version →
    version.extractedText = some text →
      (∃ version₀, db₀.versions.get? id = some version₀ ∧ version₀.extractedText = some text) ∨
        ∃ thread claimed taskId reply,
          .serve thread ⟨.markReady claimed taskId text, reply⟩ ∈ moves ∧ claimed.versionId = id
  claims : ∀ thread versionId taskId claimed,
    .serve thread ⟨.claim versionId taskId, .ok (.claimed claimed)⟩ ∈ moves →
      claimed.versionId = versionId ∧ ∃ version, db.versions.get? versionId = some version ∧
        claimed.object = version.object

/-- What a move has to do for it: the texts that it stores are handed in with it, and a record that
it claims describes its version. -/
theorem Provenance.step {db₀ db db' : Database}
    {moves : List (Move PipelineCall.Answer PipelineJob)}
    {move : Move PipelineCall.Answer PipelineJob} {stored : UUID → String → Prop}
    (h : Provenance db₀ moves db) (hkept : ContentsKept stored db db')
    (hstored : ∀ id text, stored id text → ∃ thread claimed taskId reply,
      move = .serve thread ⟨.markReady claimed taskId text, reply⟩ ∧ claimed.versionId = id)
    (hclaim : ∀ thread versionId taskId claimed,
      move = .serve thread ⟨.claim versionId taskId, .ok (.claimed claimed)⟩ →
        claimed.versionId = versionId ∧ ∃ version, db.versions.get? versionId = some version ∧
          claimed.object = version.object) :
    Provenance db₀ (moves ++ [move]) db' where
  texts id version text hget htext := by
    rcases hkept.texts id version text hget htext with hnew | ⟨old, hold, holdText⟩
    · obtain ⟨thread, claimed, taskId, reply, rfl, hid⟩ := hstored id text hnew
      exact Or.inr ⟨thread, claimed, taskId, reply, by simp, hid⟩
    · refine (h.texts id old text hold holdText).imp_right ?_
      rintro ⟨thread, claimed, taskId, reply, hmem, hid⟩
      exact ⟨thread, claimed, taskId, reply, List.mem_append_left _ hmem, hid⟩
  claims thread versionId taskId claimed hmem := by
    have hbefore : claimed.versionId = versionId ∧
        ∃ version, db.versions.get? versionId = some version ∧
          claimed.object = version.object := by
      rcases List.mem_append.1 hmem with hold | hnew
      · exact h.claims thread versionId taskId claimed hold
      · exact hclaim thread versionId taskId claimed (List.mem_singleton.1 hnew).symm
    obtain ⟨hid, version, hget, hobject⟩ := hbefore
    obtain ⟨version', hget', hsame⟩ := hkept.kept versionId version hget
    exact ⟨hid, version', hget', hobject.trans hsame.symm⟩

/-! ### Over every run -/

section Runs

variable {config : PipelineConfig}
  {s₀ s : Threads PipelineState PipelineCall.Answer PipelineError Unit}
  {moves between after : List (Move PipelineCall.Answer PipelineJob)} {thread other conn : ℕ}
  {key : ℤ} {call : PipelineAnswered}

/-- **Nobody else works on the version.** Take a delivery that was granted its lock, and whose
release PostgreSQL acknowledges later. In between, another delivery under the same key asks for
locks only, unless its own connection is lost; and a rearm that returns is for a version with
another key. -/
theorem delivery_excludes (hinit : (pipeline config).init s₀)
    (hgranted : .serve thread ⟨.lock (.tryLock conn key), .ok true⟩ ∈ moves)
    (hother : other ≠ thread)
    (hrun : (pipeline config).Run s₀ (moves ++ .serve other call ::
      (between ++ .serve thread ⟨.lock (.unlock conn key), .ok ()⟩ :: after)) s) :
    ∃ t, (pipeline config).Run s₀ moves t ∧
      t.shared.locks.holder key = some conn ∧
      (∀ message, .start other (.deliver message) ∈ moves →
        config.lockKey message.versionId = key →
          (∃ request, call.1 = .lock request) ∨
            ∃ conn', .serve other ⟨.lock .connect, .ok conn'⟩ ∈ moves ∧
              conn' ∈ t.shared.locks.lost) ∧
      ∀ command grant, call = ⟨.rearm command, .ok grant⟩ →
        ∃ intent, t.shared.db.intents.get? command.intentId = some intent ∧
          config.lockKey intent.documentVersionId ≠ key := by
  have hsafe := PipelineJob.safe config
  obtain ⟨t, hbefore, hrest⟩ := hrun.exists_of_append
  have hrest' : (pipeline config).Run t ((.serve other call :: between) ++
      .serve thread ⟨.lock (.unlock conn key), .ok ()⟩ :: after) s := hrest
  have hgranted' : Granted (locksOf asLock thread moves) conn key :=
    List.mem_filterMap.2 ⟨_, mem_callsOf.2 hgranted, rfl⟩
  obtain ⟨hheld, hlive, hholds⟩ := holder_of_released (keepsLocks config) (fairLocks config)
    hinit hsafe rfl hbefore hrest' hgranted'
  refine ⟨t, hbefore, hheld, fun message hstart hkey ↦ ?_, ?_⟩
  · obtain ⟨job, hjob, hallowed⟩ := served_allowed hinit hsafe hrun
    obtain rfl : job = .deliver message := by
      have hmem := mem_jobsOf.2 hstart
      rw [hjob] at hmem
      exact (List.mem_singleton.1 hmem).symm
    refine hallowed.inside.imp id ?_
    rintro ⟨conn', hconnected, hholds'⟩
    rw [hkey] at hholds'
    refine ⟨conn', ?_, ?_⟩
    · obtain ⟨connected, hmem, hlock⟩ := List.mem_filterMap.1 hconnected
      obtain rfl := asLock_eq_some.1 hlock
      exact mem_callsOf.1 hmem
    · -- Two threads hold the lock, as far as they know; the first one is right.
      have hlocks := locksHold_of_run (keepsLocks config) (fairLocks config) hinit hsafe hbefore
      rcases hlocks.exclusive hholds hholds' with heq | hlost | hlost
      · exact absurd heq.symm hother
      · exact absurd hlost hlive
      · exact hlost
  · rintro command grant rfl
    obtain ⟨t', hserved, -⟩ := exists_served hrest
    obtain ⟨intent, hintent, hfree⟩ := rearm_free hserved
    refine ⟨intent, hintent, ?_⟩
    rintro rfl
    rw [hfree] at hheld
    cases hheld

/-- **A text that is handed in was extracted from the bytes that its record describes**, after a
clean verdict on them, all in one delivery and under its lock. -/
theorem ready_prepared {claimed : ClaimedDocumentVersion} {taskId extractedText : String}
    {reply : Except TransactionError Unit} (hinit : (pipeline config).init s₀)
    (hrun : (pipeline config).Run s₀
      (moves ++ .serve thread ⟨.markReady claimed taskId extractedText, reply⟩ :: after) s) :
    ∃ message, .start thread (.deliver message) ∈ moves ∧ taskId = message.taskId ∧
      Inside (config.lockKey message.versionId) (callsOf thread moves) ∧
      Prepared config.sha256 message (callsOf thread moves) claimed extractedText := by
  obtain ⟨job, hjob, hallowed⟩ := served_allowed hinit (PipelineJob.safe config) hrun
  cases job with
  | deliver message =>
    obtain ⟨hinside, htask, hprepared⟩ := hallowed
    refine ⟨message, mem_jobsOf.1 ?_, htask, hinside, hprepared⟩
    rw [hjob]
    exact List.mem_singleton_self _
  | rearm =>
    rcases hallowed with h | ⟨h, -⟩
    · cases h
    · cases h

theorem provenance_of_run (hrun : (pipeline config).Run s₀ moves s) :
    Provenance s₀.shared.db moves s.shared.db := by
  refine shared_tracked
    (I := fun moves shared ↦ Provenance s₀.shared.db moves shared.db) ?_ ?_ ?_ ?_ hrun
  · exact ⟨fun id version text hget htext ↦ Or.inl ⟨version, hget, htext⟩,
      fun thread versionId taskId claimed hmem ↦ absurd hmem List.not_mem_nil⟩
  · exact fun moves shared thread job h ↦ h.step (@ContentsKept.refl (fun _ _ ↦ False) _)
      (fun _ _ hfalse ↦ hfalse.elim) (fun _ _ _ _ hmove ↦ by cases hmove)
  · intro moves shared shared' thread call h hserved
    obtain ⟨request, reply⟩ := call
    refine h.step (PipelineServe.contents hserved) ?_ ?_
    · rintro id text ⟨claimed, taskId, rfl, hid⟩
      exact ⟨thread, claimed, taskId, reply, rfl, hid⟩
    · intro other versionId taskId claimed hmove
      cases hmove
      cases hserved with
      | claim ran =>
        cases ran with
        | committed ran => exact DocumentIngestionService.claim_object ran
  · exact fun moves shared shared' h hdisturb ↦ h.step hdisturb.2
      (fun _ _ hfalse ↦ hfalse.elim) (fun _ _ _ _ hmove ↦ by cases hmove)

/-- The text was extracted by this thread, a delivery of the version: it opened the version's
object, read what the row describes, had it scanned and found clean, and had the text extracted
from it. -/
def ExtractedBy (config : PipelineConfig) (moves : List (Move PipelineCall.Answer PipelineJob))
    (version : DocumentVersion) (text : String) (thread : ℕ) : Prop :=
  ∃ message reads position, .start thread (.deliver message) ∈ moves ∧
    message.versionId = version.id ∧
    .serve thread ⟨.opened version.storageKey, some reads⟩ ∈ moves ∧
    (ByteStream.content reads).length = version.sizeBytes ∧
    config.sha256 (ByteStream.content reads) = version.contentSha256 ∧
    .serve thread ⟨.scan ⟨ByteStream.content reads, 0⟩, (.result .clean, position)⟩ ∈ moves ∧
    .serve thread ⟨.extract version.mediaType ⟨ByteStream.content reads, 0⟩, .text text⟩ ∈ moves

/-- **Every text was extracted from the bytes that its version describes**, after they were scanned
and found clean, or it was there from the beginning on. -/
theorem texts_scanned {id : UUID} {version : DocumentVersion} {text : String}
    (hinit : (pipeline config).init s₀) (hrun : (pipeline config).Run s₀ moves s)
    (hget : s.shared.db.versions.get? id = some version)
    (htext : version.extractedText = some text) :
    (∃ version₀, s₀.shared.db.versions.get? id = some version₀ ∧
      version₀.extractedText = some text) ∨
      ∃ thread, ExtractedBy config moves version text thread := by
  have hprovenance := provenance_of_run hrun
  refine (hprovenance.texts id version text hget htext).imp_right ?_
  rintro ⟨thread, claimed, taskId, reply, hmem, hid⟩
  obtain ⟨before, after, rfl⟩ := List.append_of_mem hmem
  obtain ⟨message, hstart, -, -, earlier, reads, content, position, hverified, hcalls⟩ :=
    ready_prepared hinit hrun
  have hserved : ∀ call ∈ callsOf thread before, .serve thread call ∈
      before ++ .serve thread ⟨.markReady claimed taskId text, reply⟩ :: after :=
    fun call hcall ↦ List.mem_append_left _ (mem_callsOf.1 hcall)
  rw [hcalls] at hserved
  obtain ⟨hclaimed, version', hget', hobject⟩ := hprovenance.claims thread message.versionId
    message.taskId claimed (hserved _ (by simp))
  rw [← hclaimed, hid, hget, Option.some.injEq] at hget'
  subst hget'
  obtain ⟨hkey, hmedia, hsize, hdigest⟩ := ObjectDescription.mk.inj hobject
  obtain ⟨reads', hreads, -, rfl, hlength, hsha⟩ := hverified
  obtain rfl := Option.some.inj hreads
  refine ⟨thread, message, reads, position, List.mem_append_left _ hstart, ?_, ?_,
    hlength.trans hsize, hsha.trans hdigest, hserved _ (by simp), ?_⟩
  · exact hclaimed.symm.trans (hid.trans (Table.key_of_get? hget).symm)
  · rw [← hkey]
    exact hserved _ (by simp)
  · rw [← hmedia]
    exact hserved _ (by simp)

end Runs

/-! ### Two deliveries of one message -/

namespace PipelineSample

def config : PipelineConfig where
  sha256 _ := "digest"
  maxRetries := 3
  maxAttempts := 4
  lockKey versionId := versionId.val

/-- The first upload waits, and nothing runs. -/
def start : Threads PipelineState PipelineCall.Answer PipelineError Unit where
  shared := ⟨Sample.uploaded.db, .unlocked, []⟩
  running _ := none

def message : Message :=
  Sample.message

def key : ℤ :=
  config.lockKey message.versionId

def claimed : ClaimedDocumentVersion :=
  DocumentIngestionService.record Sample.document (Sample.version.begin message.taskId 0)

/-- A delivery is started, and granted its lock. -/
def granted : List (Move PipelineCall.Answer PipelineJob) :=
  [.start 0 (.deliver message), .serve 0 ⟨.lock .connect, .ok 0⟩,
    .serve 0 ⟨.lock (.tryLock 0 key), .ok true⟩]

/-- It works on the version. -/
def worked : List (Move PipelineCall.Answer PipelineJob) :=
  [.serve 0 ⟨.claim message.versionId message.taskId, .ok (.claimed claimed)⟩,
    .serve 0 ⟨.opened claimed.storageKey, some [.ok [104, 101], .ok [108, 108, 111]]⟩,
    .serve 0 ⟨.scan ⟨[104, 101, 108, 108, 111], 0⟩, (.result .clean, 5)⟩,
    .serve 0 ⟨.extract claimed.mediaType ⟨[104, 101, 108, 108, 111], 0⟩, .text "hello"⟩]

def handedIn : Move PipelineCall.Answer PipelineJob :=
  .serve 0 ⟨.markReady claimed message.taskId "hello", .ok ()⟩

/-- The message is delivered once more. -/
def again : List (Move PipelineCall.Answer PipelineJob) :=
  [.start 1 (.deliver message), .serve 1 ⟨.lock .connect, .ok 1⟩]

def refused : PipelineAnswered :=
  ⟨.lock (.tryLock 1 key), .ok false⟩

def released : Move PipelineCall.Answer PipelineJob :=
  .serve 0 ⟨.lock (.unlock 0 key), .ok ()⟩

/-- What the first delivery makes of the version. -/
def readyVersion : DocumentVersion :=
  (Sample.version.begin message.taskId 0).succeed "hello"

theorem run_refused : ∃ s, (pipeline config).Run start
    (granted ++ again ++ .serve 1 refused :: (worked ++ [handedIn] ++ released :: [])) s ∧
      s.shared.db.versions.get? message.versionId = some readyVersion :=
  ⟨_, .cons (Service.Step.start rfl) <| .cons (Service.Step.serve rfl (.lock .connected)) <|
    .cons (Service.Step.serve rfl (.lock (.granted List.not_mem_nil rfl))) <|
    .cons (Service.Step.start rfl) <| .cons (Service.Step.serve rfl (.lock .connected)) <|
    .cons (Service.Step.serve rfl (.lock .refused)) <|
    .cons (Service.Step.serve rfl (@PipelineServe.claim config _ _ _ 0 _ _ (.committed rfl))) <|
    .cons (Service.Step.serve rfl (.opened _)) <| .cons (Service.Step.serve rfl (.scan _)) <|
    .cons (Service.Step.serve rfl (.extract _)) <|
    .cons (Service.Step.serve rfl (.markReady (.committed rfl))) <|
    .cons (Service.Step.serve rfl (.lock (.released List.not_mem_nil))) <| .nil _, rfl⟩

end PipelineSample

open PipelineSample in
/-- The theorem for a delivery that is refused while another one works. -/
theorem delivery_excludes_sample : ∃ t, (pipeline config).Run start (granted ++ again) t ∧
    t.shared.locks.holder key = some 0 ∧
    ((∃ request, refused.1 = .lock request) ∨
      ∃ conn, .serve 1 ⟨.lock .connect, .ok conn⟩ ∈ granted ++ again ∧
        conn ∈ t.shared.locks.lost) := by
  obtain ⟨s, hrun, -⟩ := run_refused
  obtain ⟨t, hbefore, hheld, hlocked, -⟩ := delivery_excludes ⟨trivial, fun _ ↦ rfl⟩
    (by simp [granted]) (by decide) hrun
  exact ⟨t, hbefore, hheld, hlocked message (by simp [again]) rfl⟩

open PipelineSample in
/-- The theorem for the text of the first upload. -/
theorem texts_scanned_sample : ∃ thread, ExtractedBy config
    (granted ++ again ++ .serve 1 refused :: (worked ++ [handedIn] ++ released :: []))
    readyVersion "hello" thread := by
  obtain ⟨s, hrun, hready⟩ := run_refused
  rcases texts_scanned ⟨trivial, fun _ ↦ rfl⟩ hrun hready rfl with ⟨version₀, hget, htext⟩ | h
  · cases hget
    cases htext
  · exact h

end SupportFlow
