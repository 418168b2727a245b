import Mathlib.Logic.Function.Basic
import SupportFlow.Documents.Ingestion
import SupportFlow.Documents.Schema
import SupportFlow.Foundations.TransitionSystem

/-!
# The ingestion system

Uploads, relays, operators, the broker and the workers, as one labelled transition system over one
database. A step is one committed transaction or one move of a message; what a process does between
two of its transactions is the gap between two steps, so any number of processes run at once, stall
and die anywhere. A transaction that fails rolls back and is no step.

Nothing is assumed of the environment here. The broker may drop, duplicate and reorder messages, a
delivery may carry any task id and run any of its calls in any order, a relay may finish a
publication at any later time and with any result, the clock may jump. What a result needs of the
environment it says by restricting the steps (`ClockMonotone`, `StartsInPast`, `FromBroker`).

## What the state records besides the database

* `issued` and `pending`: the publications that claims returned, and those not yet handed to the
  broker. A relay can only finish what was issued.
* `broker` and `deliveries`: the messages in flight, and how far each delivery has come.
* `generated`: every UUID drawn so far. `uuid4` is modelled by freshness: a draw is never in it, and
  nobody can name an id before it is drawn.
* `uploads`: the identifiers of the committed uploads.
-/

namespace SupportFlow

/-- What the deployment configures. -/
structure Settings where
  policy : RelayPolicy
  /-- The worker's durable attempt cap. -/
  maxAttempts : ℕ
  deriving DecidableEq, Repr

/-- A message of the ingestion task. Celery keeps the task id across retries. -/
structure Message where
  versionId : UUID
  taskId : String
  retries : ℕ
  deriving DecidableEq, Repr

/-- How far a delivery has come: between two calls, or between the transactions of one. -/
inductive DeliveryStage
  | idle
  /-- `process` has claimed the version and extracts its text. -/
  | extracting (claimed : ClaimedDocumentVersion)
  /-- `mark_retry_exhausted` has read the owned record. -/
  | exhausting (claimed : ClaimedDocumentVersion)
  deriving DecidableEq, Repr

/-- One execution of a message by a worker. -/
structure Delivery where
  message : Message
  stage : DeliveryStage
  deriving DecidableEq, Repr

structure World where
  now : Instant
  db : Database
  issued : List Publication
  pending : List Publication
  broker : List Message
  deliveries : ℕ → Option Delivery
  generated : List UUID
  uploads : List DocumentService.UploadIds

/-- What a step does. The inputs that only the step itself uses (row locks, drawn ids) are left to
the step relation. -/
inductive Action
  | changeIdentity
  | upload (ids : DocumentService.UploadIds)
  | backfill
  | relayClaim (exit : ClaimExit)
  | publish (publication : Publication) (accepted : Bool)
  | finish (publication : Publication) (success result : Bool)
  | settleTerminal
  | cleanup
  | rearm (intentId : UUID) (extractingSeconds : ℤ) (maxWorkerAttempts : ℕ)
  | lose (message : Message)
  | deliver (delivery : ℕ) (message : Message)
  | workerClaim (delivery : ℕ) (startedAt : Instant)
  | markReady (delivery : ℕ) (extractedText : String)
  | markFailed (delivery : ℕ) (errorCode : DocumentErrorCode)
  | prepareRetry (delivery : ℕ) (errorCode : DocumentErrorCode)
  | readOwned (delivery : ℕ)
  | markExhausted (delivery : ℕ)
  | abandon (delivery : ℕ)
  | retry (delivery : ℕ)
  | die (delivery : ℕ)
  deriving DecidableEq, Repr

/-- A step's label: the database clock at the transaction, and the action. -/
structure Event where
  now : Instant
  action : Action
  deriving DecidableEq, Repr

/-- The UUIDs an upload draws. -/
def DocumentService.UploadIds.draws (ids : UploadIds) : List UUID :=
  [ids.documentId, ids.versionId, ids.intentId, ids.taskUuid]

/-- The UUIDs a backfill draws for the versions it selects. -/
def Backfill.draws (draw : UUID → UUID × UUID) (versions : List DocumentVersion) : List UUID :=
  versions.flatMap fun v ↦ [(draw v.id).1, (draw v.id).2]

/-- The message that `publish` sends for a publication. -/
def Publication.message (publication : Publication) : Message :=
  ⟨publication.versionId, publication.taskId, publication.retries⟩

/-- The stage a claim leaves its delivery in. -/
def ClaimResult.stage : ClaimResult → DeliveryStage
  | claimed record => .extracting record
  | noop _ => .idle

/-- The stage in which `mark_retry_exhausted` continues. -/
def DeliveryStage.ofOwned : Option ClaimedDocumentVersion → DeliveryStage
  | some record => .exhausting record
  | none => .idle

namespace World

variable (w : World)

/-- Drawn ids are new. -/
def Fresh (ids : List UUID) : Prop :=
  ∀ id ∈ ids, id ∉ w.generated

variable {w} in
theorem fresh_singleton {id : UUID} (h : id ∉ w.generated) : w.Fresh [id] := by
  intro x hx
  rwa [List.mem_singleton.1 hx]

/-- Put a delivery in a stage. -/
def setDelivery (d : ℕ) (delivery : Option Delivery) : World :=
  { w with deliveries := Function.update w.deliveries d delivery }

/-- Commit a transaction at a database time. -/
def commit (now : Instant) (db : Database) : World :=
  { w with now := now, db := db }

end World

/-- **The steps of the ingestion system.** -/
inductive Step (settings : Settings) : World → Event → World → Prop
  /-- Organizations, users and memberships change at any time. -/
  | changeIdentity {w : World} {t : Instant} (tables : IdentityTables) :
      Step settings w ⟨t, .changeIdentity⟩ (w.commit t { w.db with identity := tables })
  | upload {w : World} {t : Instant} {organizationId actorUserId : UUID}
      {staged : DocumentService.StagedUpload} {ids : DocumentService.UploadIds} {db : Database}
      (fresh : w.Fresh ids.draws)
      (run : DocumentService.persistUpload organizationId actorUserId staged ids t w.db = .ok db) :
      Step settings w ⟨t, .upload ids⟩
        { w.commit t db with
          generated := w.generated ++ ids.draws
          uploads := w.uploads ++ [ids] }
  | backfill {w : World} {t cutoff : Instant} {limit n : ℕ} {locked : UUID → Bool}
      {draw : UUID → UUID × UUID} {db : Database}
      (fresh : w.Fresh (Backfill.draws draw (Backfill.candidates cutoff limit locked w.db)))
      (run : SupportFlow.backfill cutoff limit t locked draw w.db = .ok (n, db)) :
      Step settings w ⟨t, .backfill⟩
        { w.commit t db with
          generated := w.generated ++
            Backfill.draws draw (Backfill.candidates cutoff limit locked w.db) }
  /-- A relay's claim. The token is drawn whether or not the claim gets as far as using it. -/
  | relayClaim {w : World} {t : Instant} {locked : UUID → Bool} {token : UUID} {exit : ClaimExit}
      {db : Database} (fresh : w.Fresh [token])
      (run : IngestionRelay.claim settings.policy t locked token w.db = some (exit, db)) :
      Step settings w ⟨t, .relayClaim exit⟩
        { w.commit t db with
          issued := w.issued ++ exit.publication?.toList
          pending := w.pending ++ exit.publication?.toList
          generated := w.generated ++ [token] }
  /-- The relay hands a publication to the broker, which may or may not accept it. -/
  | publish {w : World} {t : Instant} {p : Publication} {accepted : Bool}
      (pending : p ∈ w.pending) :
      Step settings w ⟨t, .publish p accepted⟩
        { w with
          now := t
          pending := w.pending.erase p
          broker := w.broker ++ if accepted then [p.message] else [] }
  | finish {w : World} {t : Instant} {p : Publication} {success result : Bool} {db : Database}
      (issued : p ∈ w.issued)
      (run : IngestionRelay.finish settings.policy t p success w.db = (result, db)) :
      Step settings w ⟨t, .finish p success result⟩ (w.commit t db)
  | settleTerminal {w : World} {t : Instant} (locked : UUID → Bool) :
      Step settings w ⟨t, .settleTerminal⟩
        (w.commit t (IngestionRelay.settleTerminal t locked w.db).2)
  | cleanup {w : World} {t : Instant} {limit n : ℕ} {locked : UUID → Bool} {db : Database}
      (run : IngestionRelay.cleanup limit t locked w.db = some (n, db)) :
      Step settings w ⟨t, .cleanup⟩ (w.commit t db)
  | rearm {w : World} {t : Instant} {organizationId intentId actorUserId : UUID}
      {dependenciesVerified : Bool} {workerHolds : UUID → Bool} {extractingSeconds : ℤ}
      {maxWorkerAttempts grant : ℕ} {db : Database}
      (run : rearmIntent t organizationId intentId actorUserId dependenciesVerified workerHolds
        extractingSeconds maxWorkerAttempts w.db = .ok (grant, db)) :
      Step settings w ⟨t, .rearm intentId extractingSeconds maxWorkerAttempts⟩ (w.commit t db)
  | lose {w : World} {t : Instant} (m : Message) :
      Step settings w ⟨t, .lose m⟩ { w with now := t, broker := w.broker.erase m }
  /-- A worker starts on a message. The message stays in the broker, so it may be delivered again.
  -/
  | deliver {w : World} {t : Instant} {d : ℕ} {m : Message} (free : w.deliveries d = none)
      (known : m.versionId ∈ w.generated) :
      Step settings w ⟨t, .deliver d m⟩ ({ w with now := t }.setDelivery d (some ⟨m, .idle⟩))
  | workerClaim {w : World} {t startedAt : Instant} {d : ℕ} {m : Message} {result : ClaimResult}
      {db : Database} (stage : w.deliveries d = some ⟨m, .idle⟩)
      (run : DocumentIngestionService.claim settings.maxAttempts startedAt m.versionId m.taskId
        w.db = .ok (result, db)) :
      Step settings w ⟨t, .workerClaim d startedAt⟩
        ((w.commit t db).setDelivery d (some ⟨m, result.stage⟩))
  | markReady {w : World} {t : Instant} {d : ℕ} {m : Message} {claimed : ClaimedDocumentVersion}
      {text : String} {db : Database} (stage : w.deliveries d = some ⟨m, .extracting claimed⟩)
      (run : DocumentIngestionService.markReady claimed m.taskId text w.db = .ok db) :
      Step settings w ⟨t, .markReady d text⟩
        ((w.commit t db).setDelivery d (some ⟨m, .idle⟩))
  | markFailed {w : World} {t : Instant} {d : ℕ} {m : Message} {claimed : ClaimedDocumentVersion}
      {code : DocumentErrorCode} {db : Database}
      (stage : w.deliveries d = some ⟨m, .extracting claimed⟩)
      (run : DocumentIngestionService.markFailed claimed m.taskId code w.db = .ok db) :
      Step settings w ⟨t, .markFailed d code⟩
        ((w.commit t db).setDelivery d (some ⟨m, .idle⟩))
  | prepareRetry {w : World} {t : Instant} {d : ℕ} {m : Message} {code : DocumentErrorCode}
      (stage : w.deliveries d = some ⟨m, .idle⟩) :
      Step settings w ⟨t, .prepareRetry d code⟩
        (w.commit t (DocumentIngestionService.prepareRetry m.versionId m.taskId code w.db))
  | readOwned {w : World} {t : Instant} {d : ℕ} {m : Message}
      (stage : w.deliveries d = some ⟨m, .idle⟩) :
      Step settings w ⟨t, .readOwned d⟩
        ({ w with now := t }.setDelivery d (some ⟨m, .ofOwned
          (DocumentIngestionService.ownedRecord m.versionId m.taskId w.db)⟩))
  | markExhausted {w : World} {t : Instant} {d : ℕ} {m : Message}
      {claimed : ClaimedDocumentVersion} {db : Database}
      (stage : w.deliveries d = some ⟨m, .exhausting claimed⟩)
      (run : DocumentIngestionService.markFailed claimed m.taskId .retryExhausted w.db = .ok db) :
      Step settings w ⟨t, .markExhausted d⟩
        ((w.commit t db).setDelivery d (some ⟨m, .idle⟩))
  /-- A call raises between two transactions, or one of its transactions rolls back. -/
  | abandon {w : World} {t : Instant} {d : ℕ} {m : Message} {stage : DeliveryStage}
      (stage : w.deliveries d = some ⟨m, stage⟩) :
      Step settings w ⟨t, .abandon d⟩ ({ w with now := t }.setDelivery d (some ⟨m, .idle⟩))
  /-- Celery schedules the message again, under the same task id. -/
  | retry {w : World} {t : Instant} {d : ℕ} {m : Message}
      (stage : w.deliveries d = some ⟨m, .idle⟩) :
      Step settings w ⟨t, .retry d⟩
        ({ w with
          now := t
          broker := w.broker ++ [{ m with retries := m.retries + 1 }] }.setDelivery d none)
  /-- A delivery ends, or its worker dies. -/
  | die {w : World} {t : Instant} (d : ℕ) :
      Step settings w ⟨t, .die d⟩ ({ w with now := t }.setDelivery d none)

/-- Where a run starts: any documents and versions from before the outbox existed, and no intents.
-/
structure World.Initial (w : World) : Prop where
  consistent : w.db.Consistent
  no_intents : w.db.intents.rows = []
  no_uploads : w.uploads = []
  nothing_issued : w.issued = [] ∧ w.pending = []
  nothing_delivered : ∀ d, w.deliveries d = none
  versions_drawn : ∀ v ∈ w.db.versions, v.id ∈ w.generated
  audit_drawn : ∀ e ∈ w.db.audit, ∀ r ∈ e.resourceId, r ∈ w.generated
  broker_drawn : ∀ m ∈ w.broker, m.versionId ∈ w.generated
  started_in_past : ∀ v ∈ w.db.versions, ∀ s ∈ v.processingStartedAt, s ≤ w.now

/-- The ingestion system. -/
def ingestion (settings : Settings) : TransitionSystem World Event :=
  ⟨World.Initial, Step settings⟩

/-! ### What the environment may be assumed to do -/

/-- The database clock does not go back. -/
def ClockMonotone (w : World) (e : Event) : Prop :=
  w.now ≤ e.now

/-- A worker's start time is not in the future of the database clock. -/
def StartsInPast (e : Event) : Prop :=
  ∀ d s, e.action = .workerClaim d s → s ≤ e.now

/-- Deliveries for a version come from messages in the broker. -/
def FromBroker (versionId : UUID) (w : World) (e : Event) : Prop :=
  ∀ d m, e.action = .deliver d m → m.versionId = versionId → m ∈ w.broker

/-! ### A first upload -/

namespace Sample

/-- An installation with one organization and its administrator. -/
def installed : World where
  now := 0
  db :=
    { identity :=
        { organizations := .singleton ⟨uuid 1, .active⟩
          users := .singleton ⟨uuid 2, "admin@example.test", .active⟩
          members := .singleton ⟨uuid 1, uuid 2, .admin, .active⟩ }
      customers := .empty
      tickets := .empty
      ticketMessages := .empty
      documents := .empty
      versions := .empty
      intents := .empty
      operations := .empty
      audit := [] }
  issued := []
  pending := []
  broker := []
  deliveries _ := none
  generated := []
  uploads := []

def staged : DocumentService.StagedUpload :=
  ⟨"guide.txt", .text, 5, "digest"⟩

def ids : DocumentService.UploadIds :=
  ⟨uuid 3, uuid 4, uuid 5, uuid 6⟩

def document : Document :=
  DocumentService.newDocument (uuid 1) (uuid 2) staged ids

def version : DocumentVersion :=
  DocumentService.newVersion (uuid 1) staged ids 0

def intent : DocumentIngestionIntent :=
  .create (uuid 5) (uuid 1) (uuid 4) ids.taskUuid.str 0

def documentUploaded : AuditEvent :=
  ⟨uuid 1, some (uuid 2), .documentUploaded, .document, some (uuid 3),
    [("version_number", .int 1), ("media_type", .str "text/plain"), ("size_bytes", .int 5)]⟩

/-- The database with the document, its version and an intent. -/
def database (intent : DocumentIngestionIntent) (audit : List AuditEvent) : Database :=
  { installed.db with
    documents := .singleton document
    versions := .singleton version
    intents := .singleton intent
    audit := audit }

/-- The installation after its first upload. -/
def uploaded : World :=
  { installed with
    db := database intent [documentUploaded]
    generated := ids.draws
    uploads := [ids] }

theorem initial_installed : installed.Initial where
  consistent := ⟨fun _ h ↦ absurd h List.not_mem_nil, fun _ h ↦ absurd h List.not_mem_nil,
    fun _ h ↦ absurd h List.not_mem_nil⟩
  no_intents := rfl
  no_uploads := rfl
  nothing_issued := ⟨rfl, rfl⟩
  nothing_delivered _ := rfl
  versions_drawn _ h := absurd h List.not_mem_nil
  audit_drawn _ h := absurd h List.not_mem_nil
  broker_drawn _ h := absurd h List.not_mem_nil
  started_in_past _ h := absurd h List.not_mem_nil

theorem persistUpload_installed :
    DocumentService.persistUpload (uuid 1) (uuid 2) staged ids 0 installed.db =
      .ok uploaded.db := by
  have htask : ¬(ids.taskUuid.str = "" ∨ ids.taskUuid.str ≠ Python.strip ids.taskUuid.str ∨
      255 < ids.taskUuid.str.length) := by
    have hne : ids.taskUuid.str ≠ "" := fun h ↦ by simpa using congrArg String.length h
    simp [hne]
  have hdocument : installed.db.insertDocument?
      (DocumentService.newDocument (uuid 1) (uuid 2) staged ids) =
        some { installed.db with documents := .singleton document } :=
    rfl
  have hversion : Database.insertVersion?
      { installed.db with documents := .singleton document }
      (DocumentService.newVersion (uuid 1) staged ids 0) =
        some
          { installed.db with
            documents := .singleton document
            versions := .singleton version } :=
    rfl
  unfold DocumentService.persistUpload stageUploadWithIntent
  rw [if_neg (by decide)]
  simp only [hdocument, hversion]
  change IngestionIntentRepository.add (uuid 1) (uuid 4) _ (uuid 5) 0 _ = _
  unfold IngestionIntentRepository.add
  rw [if_neg htask]
  rfl

theorem step_uploaded (settings : Settings) :
    Step settings installed ⟨0, .upload ids⟩ uploaded :=
  @Step.upload settings installed 0 (uuid 1) (uuid 2) staged ids uploaded.db
    (fun _ _ ↦ List.not_mem_nil) persistUpload_installed

theorem run_uploaded {A : World → Event → Prop} (settings : Settings)
    (admitted : A installed ⟨0, .upload ids⟩) :
    ((ingestion settings).restrict A).Run installed [⟨0, .upload ids⟩] uploaded :=
  .single ⟨admitted, step_uploaded settings⟩

theorem reachable_uploaded {A : World → Event → Prop} (settings : Settings)
    (admitted : A installed ⟨0, .upload ids⟩) :
    ((ingestion settings).restrict A).Reachable uploaded :=
  ⟨installed, _, initial_installed, run_uploaded settings admitted⟩

/-- One publication, one recovery, one second for everything, three worker attempts. -/
def limits : Settings :=
  ⟨⟨1, 1, 1, 1, 1⟩, 3⟩

def publication (token : UUID) : Publication :=
  ⟨uuid 5, uuid 4, ids.taskUuid.str, token, 0⟩

/-- What the relay sends for it. -/
def message : Message :=
  (publication (uuid 7)).message

/-- A relay has claimed the upload's intent. -/
def claimed : World :=
  { uploaded with
    db := database (intent.charge limits.policy 0 (uuid 7)) [documentUploaded]
    issued := [publication (uuid 7)]
    pending := [publication (uuid 7)]
    generated := ids.draws ++ [uuid 7] }

theorem step_claimed :
    Step limits uploaded ⟨0, .relayClaim (.published (publication (uuid 7)))⟩ claimed :=
  @Step.relayClaim limits uploaded 0 (fun _ ↦ false) (uuid 7)
    (.published (publication (uuid 7))) claimed.db
    (World.fresh_singleton (show uuid 7 ∉ ids.draws by decide)) rfl

/-- The upload and the claim. -/
def claiming : List Event :=
  [⟨0, .upload ids⟩, ⟨0, .relayClaim (.published (publication (uuid 7)))⟩]

theorem run_claimed {A : World → Event → Prop} (admitted : A installed ⟨0, .upload ids⟩)
    (admitted' : A uploaded ⟨0, .relayClaim (.published (publication (uuid 7)))⟩) :
    ((ingestion limits).restrict A).Run installed claiming claimed :=
  (run_uploaded limits admitted).snoc ⟨admitted', step_claimed⟩

end Sample

end SupportFlow
