import SupportFlow.Documents.Outbox

/-!
# The ingestion relay's transactions

`IngestionRelay` publishes intents to the broker with at-least-once semantics. It never talks to the
broker inside a transaction: `claim` leases one due intent and returns a `Publication`, the relay
publishes it, and `finish` records the result if the lease is still its own. `settle_terminal`
closes intents whose version is terminal, `cleanup` deletes settled ones after seven days, and
`backfill` creates intents for legacy versions.

`now` is the database's `now()`, read once at the start of each transaction. The selections use
`FOR UPDATE SKIP LOCKED`; `locked` says which rows another transaction holds, and those are skipped
before the ordering and the limit, as PostgreSQL does.

## Where a claim ends

`claim` returns `None` from five places and a publication from one. `ClaimExit` names the six, so
that what a claim did can be observed from outside; `ClaimExit.publication?` is what the source
returns. `examine` is the body of `claim` once the intent and its version are locked, and its
inversion `examine_spec` is what every later fact about claims is derived from.
-/

namespace SupportFlow

structure RelayPolicy where
  leaseSeconds : ℤ := 30
  recoverySeconds : ℤ := 1200
  extractingSeconds : ℤ := 375
  maxPublications : ℕ := 20
  maxRecoveries : ℕ := 3
  deriving DecidableEq, Repr

structure Publication where
  intentId : UUID
  versionId : UUID
  taskId : String
  token : UUID
  retries : ℕ
  deriving DecidableEq, Repr

/-- How a claim ended, with the intent it selected. -/
inductive ClaimExit
  | idle
  | settled (intentId : UUID)
  | ambiguous (intentId : UUID)
  | postponed (intentId : UUID)
  | exhausted (intentId : UUID)
  | published (publication : Publication)
  deriving DecidableEq, Repr

namespace ClaimExit

/-- What `claim` returns. -/
def publication? : ClaimExit → Option Publication
  | published p => some p
  | _ => none

/-- The intent the claim selected. -/
def intentId? : ClaimExit → Option UUID
  | idle => none
  | settled id => some id
  | ambiguous id => some id
  | postponed id => some id
  | exhausted id => some id
  | published p => some p.intentId

end ClaimExit

namespace DocumentIngestionIntent

variable (intent : DocumentIngestionIntent)

/-- `lease_expires_at IS NULL OR lease_expires_at <= now`. -/
def LeaseFree (now : Instant) : Prop :=
  ∀ l ∈ intent.lease, l.expiresAt ≤ now

/-- The intents a claim selects from: unsettled, resolved, due and not leased. -/
def Due (now : Instant) : Prop :=
  intent.settledAt = none ∧ intent.unresolvedAt = none ∧ intent.availableAt ≤ now ∧
    intent.LeaseFree now

instance (now : Instant) : Decidable (intent.LeaseFree now) :=
  inferInstanceAs (Decidable (∀ l ∈ intent.lease, l.expiresAt ≤ now))

instance (now : Instant) : Decidable (intent.Due now) :=
  inferInstanceAs (Decidable (_ ∧ _))

/-- `ORDER BY available_at, id`. -/
def DueBefore (i j : DocumentIngestionIntent) : Prop :=
  i.availableAt < j.availableAt ∨ i.availableAt = j.availableAt ∧ i.id ≤ j.id

instance : DecidableRel DueBefore :=
  fun _ _ ↦ inferInstanceAs (Decidable (_ ∨ _))

/-- `unresolved_at, last_error = now, error`. -/
def unresolve (now : Instant) (error : RelayError) : DocumentIngestionIntent :=
  { intent with unresolvedAt := some now, lastError := some error }

/-- Both limits of the relay's publication budget, raised by the operator's grants. -/
def Exhausted (policy : RelayPolicy) : Prop :=
  policy.maxPublications + intent.recoveryGrants ≤ intent.publishAttempts ∨
    policy.maxRecoveries + intent.recoveryGrants ≤ intent.recoveryAttempts

instance (policy : RelayPolicy) : Decidable (intent.Exhausted policy) :=
  inferInstanceAs (Decidable (_ ∨ _))

/-- Charge one publication and lease the intent for it. A publication after an earlier successful
one is also charged as a recovery. -/
def charge (policy : RelayPolicy) (now : Instant) (token : UUID) : DocumentIngestionIntent :=
  { intent with
    recoveryAttempts :=
      -- The first publication is not a recovery.
      if intent.publishedAt ≠ none then intent.recoveryAttempts + 1 else intent.recoveryAttempts
    publishAttempts := intent.publishAttempts + 1
    lease := some ⟨token, now + seconds policy.leaseSeconds⟩
    availableAt := now + seconds policy.leaseSeconds }

/-- What `finish` writes once the lease is confirmed. -/
def finish (policy : RelayPolicy) (now : Instant) (success : Bool) : DocumentIngestionIntent :=
  { intent with
    lease := none
    lastError := if success then none else some .publishUnavailable
    publishedAt := if success then some now else intent.publishedAt
    availableAt :=
      now + seconds
        (if success then policy.recoverySeconds
          -- A failed publication is tried again after a capped power of two.
          else ((min 60 (2 ^ min intent.publishAttempts 6) : ℕ) : ℤ)) }

/-- What `settle_terminal` writes. -/
def settle (now : Instant) : DocumentIngestionIntent :=
  { intent with settledAt := some now, unresolvedAt := none, lastError := none, lease := none }

theorem key_settle (now : Instant) : PrimaryKey.key (intent.settle now) = PrimaryKey.key intent :=
  rfl

@[simp]
theorem finish_id (policy : RelayPolicy) (now : Instant) (success : Bool) :
    (intent.finish policy now success).id = intent.id :=
  rfl

end DocumentIngestionIntent

namespace IngestionRelay

/-- The publication of an intent: a recovered queued retry must not reset the Celery retry budget,
so the version's attempts travel as the message's retries. -/
def publicationOf (token : UUID) (intent : DocumentIngestionIntent) (version : DocumentVersion) :
    Publication where
  intentId := intent.id
  versionId := version.id
  taskId := intent.taskId
  token := token
  retries := version.attemptCount - if version.status = .extracting then 1 else 0

/-- The tail of `claim`: the budget check, then the charge. -/
def publishWithinBudget (policy : RelayPolicy) (now : Instant) (token : UUID)
    (intent : DocumentIngestionIntent) (version : DocumentVersion) :
    ClaimExit × DocumentIngestionIntent :=
  if intent.Exhausted policy then
    (.exhausted intent.id, intent.unresolve now .attemptsExhausted)
  else (.published (publicationOf token intent version), intent.charge policy now token)

/-- The body of `claim` once the intent and its version are locked. The lease is cleared before any
of the exits. -/
def examine (policy : RelayPolicy) (now : Instant) (token : UUID)
    (selected : DocumentIngestionIntent) (version : DocumentVersion) :
    ClaimExit × DocumentIngestionIntent :=
  let intent := { selected with lease := none }
  match version.status with
  | .ready => (.settled intent.id, { intent with settledAt := some now })
  | .failed => (.settled intent.id, { intent with settledAt := some now })
  | .extracting =>
    if version.processingTaskId ≠ some intent.taskId then
      (.ambiguous intent.id, intent.unresolve now .ownershipAmbiguous)
    else
      match version.processingStartedAt with
      | none => (.ambiguous intent.id, intent.unresolve now .ownershipAmbiguous)
      | some startedAt =>
        let safeAfter := startedAt + seconds policy.extractingSeconds
        -- The worker may still be at it: look again when it cannot be.
        if now < safeAfter then (.postponed intent.id, { intent with availableAt := safeAfter })
        else publishWithinBudget policy now token intent version
  | .queued =>
    if version.processingTaskId ≠ none ∧ version.processingTaskId ≠ some intent.taskId then
      (.ambiguous intent.id, intent.unresolve now .ownershipAmbiguous)
    else publishWithinBudget policy now token intent version

/-- The version an intent maps to, by the composite key. -/
def versionOf (db : Database) (intent : DocumentIngestionIntent) : Option DocumentVersion :=
  (db.versions.get? intent.documentVersionId).filter
    fun version ↦ decide (version.organizationId = intent.organizationId)

/-- The intent `claim` selects: the least due one that no other transaction holds. -/
def select (now : Instant) (locked : UUID → Bool) (db : Database) :
    Option DocumentIngestionIntent :=
  (orderByLimit DocumentIngestionIntent.DueBefore 1
    (db.intents.rows.filter fun i ↦ decide (i.Due now) && !locked i.id)).head?

/-- The transaction of `claim`. `none` is the failed assertion that the version exists. -/
def claim (policy : RelayPolicy) (now : Instant) (locked : UUID → Bool) (token : UUID)
    (db : Database) : Option (ClaimExit × Database) :=
  match select now locked db with
  | none => some (.idle, db)
  | some intent =>
    (versionOf db intent).map fun version ↦
      ((examine policy now token intent version).1,
        db.setIntent (examine policy now token intent version).2)

/-- The transaction of `finish`. -/
def finish (policy : RelayPolicy) (now : Instant) (publication : Publication) (success : Bool)
    (db : Database) : Bool × Database :=
  match (db.intents.get? publication.intentId).filter fun i ↦
      i.lease.any fun l ↦ decide (l.token = publication.token) && decide (now < l.expiresAt) with
  | none => (false, db)
  | some intent => (true, db.setIntent (intent.finish policy now success))

/-- The intents `settle_terminal` selects, at most a hundred of them. -/
def settleable (now : Instant) (locked : UUID → Bool) (db : Database) :
    List DocumentIngestionIntent :=
  orderByLimit (fun i j : DocumentIngestionIntent ↦ i.id ≤ j.id) 100
    (db.intents.rows.filter fun i ↦
      decide (i.settledAt = none) &&
        (versionOf db i).any (fun version ↦ decide version.status.Terminal) &&
          decide (i.LeaseFree now) && !locked i.id)

/-- The transaction of `settle_terminal`. -/
def settleTerminal (now : Instant) (locked : UUID → Bool) (db : Database) : ℕ × Database :=
  ((settleable now locked db).length,
    { db with
      intents := db.intents.modify (fun id ↦ decide (id ∈ (settleable now locked db).map (·.id)))
        (·.settle now) (DocumentIngestionIntent.key_settle · now) })

/-- The intents `cleanup` selects: settled for seven days, resolved and not leased. -/
def expired (limit : ℕ) (now : Instant) (locked : UUID → Bool) (db : Database) :
    List DocumentIngestionIntent :=
  orderByLimit
    (fun i j : DocumentIngestionIntent ↦ i.settledAt.getD 0 < j.settledAt.getD 0 ∨
      i.settledAt.getD 0 = j.settledAt.getD 0 ∧ i.id ≤ j.id) limit
    (db.intents.rows.filter fun i ↦
      i.settledAt.any (fun settledAt ↦ decide (settledAt ≤ now - days 7)) &&
        decide (i.unresolvedAt = none) && decide (i.lease = none) && !locked i.id)

/-- The transaction of `cleanup`; `none` is the error on an unbounded batch. -/
def cleanup (limit : ℕ) (now : Instant) (locked : UUID → Bool) (db : Database) :
    Option (ℕ × Database) :=
  if 1 ≤ limit ∧ limit ≤ 1000 then
    some ((expired limit now locked db).length,
      { db with
        intents := db.intents.delete
          fun id ↦ decide (id ∈ (expired limit now locked db).map (·.id)) })
  else none

end IngestionRelay

/-! ### Backfill -/

inductive BackfillError
  | boundedBatchRequired
  | cutoffInTheFuture
  | integrityError
  deriving DecidableEq, Repr

namespace Backfill

/-- The versions a batch selects: queued, created by the cutoff, without an intent. -/
def candidates (cutoff : Instant) (limit : ℕ) (locked : UUID → Bool) (db : Database) :
    List DocumentVersion :=
  orderByLimit
    (fun v w : DocumentVersion ↦
      v.createdAt < w.createdAt ∨ v.createdAt = w.createdAt ∧ v.id ≤ w.id)
    limit
    (db.versions.rows.filter fun v ↦
      decide (v.createdAt ≤ cutoff) && decide (v.status = .queued) &&
        !(db.intents.rows.any fun i ↦
          decide (i.documentVersionId = v.id) && decide (i.organizationId = v.organizationId)) &&
        !locked v.id)

/-- The intent inserted for a version: a known task id is kept verbatim, otherwise one is drawn.
An empty task id counts as absent. -/
def intentFor (now : Instant) (draw : UUID → UUID × UUID) (version : DocumentVersion) :
    DocumentIngestionIntent :=
  .create (draw version.id).1 version.organizationId version.id
    (match version.processingTaskId with
      | none => (draw version.id).2.str
      | some taskId => if taskId = "" then (draw version.id).2.str else taskId) now

/-- One `INSERT … ON CONFLICT (organization_id, document_version_id) DO NOTHING`. -/
def insertOne (now : Instant) (draw : UUID → UUID × UUID) (db : Database)
    (version : DocumentVersion) : Option Database :=
  -- `DO NOTHING`. Any other constraint raises.
  if ∃ i ∈ db.intents.rows, i.SameVersion (intentFor now draw version) then some db
  else db.insertIntent? (intentFor now draw version)

end Backfill

open Backfill in
/-- The transaction of `backfill`. `draw` gives, for each version, the two identifiers `uuid4`
returns for its intent: the row's key and the UUID of a new task id. -/
def backfill (cutoff : Instant) (limit : ℕ) (now : Instant) (locked : UUID → Bool)
    (draw : UUID → UUID × UUID) (db : Database) : Except BackfillError (ℕ × Database) :=
  if ¬(1 ≤ limit ∧ limit ≤ 1000) then .error .boundedBatchRequired
  else if now < cutoff then .error .cutoffInTheFuture
  else
    match (candidates cutoff limit locked db).foldlM (insertOne now draw) db with
    | none => .error .integrityError
    | some db' => .ok ((candidates cutoff limit locked db).length, db')

/-! ### What a claim does to the intent it selects -/

namespace IngestionRelay

/-- The ownership of a version is ambiguous for an intent: somebody else holds it, or it is being
extracted without a start time. -/
def Ambiguous (intent : DocumentIngestionIntent) (version : DocumentVersion) : Prop :=
  version.status = .extracting ∧
      (version.processingTaskId ≠ some intent.taskId ∨ version.processingStartedAt = none) ∨
    version.status = .queued ∧ version.processingTaskId ≠ none ∧
      version.processingTaskId ≠ some intent.taskId

/-- The version may be recovered by republishing the intent: it is queued for nobody else, or it is
the intent's own extraction and its deadline has passed. -/
def Recoverable (policy : RelayPolicy) (now : Instant) (intent : DocumentIngestionIntent)
    (version : DocumentVersion) : Prop :=
  version.status = .queued ∧
      (version.processingTaskId = none ∨ version.processingTaskId = some intent.taskId) ∨
    version.status = .extracting ∧ version.processingTaskId = some intent.taskId ∧
      ∃ startedAt, version.processingStartedAt = some startedAt ∧
        startedAt + seconds policy.extractingSeconds ≤ now

/-- **The five exits of an examined intent**, with the guard of each and the row it leaves. -/
inductive Examined (policy : RelayPolicy) (now : Instant) (token : UUID)
    (intent : DocumentIngestionIntent) (version : DocumentVersion) :
    ClaimExit → DocumentIngestionIntent → Prop
  | settled (terminal : version.status.Terminal) :
      Examined policy now token intent version (.settled intent.id)
        { intent with lease := none, settledAt := some now }
  | ambiguous (ambiguous : Ambiguous intent version) :
      Examined policy now token intent version (.ambiguous intent.id)
        { intent with
          lease := none, unresolvedAt := some now, lastError := some .ownershipAmbiguous }
  | postponed {startedAt : Instant} (status : version.status = .extracting)
      (owner : version.processingTaskId = some intent.taskId)
      (started : version.processingStartedAt = some startedAt)
      (fresh : now < startedAt + seconds policy.extractingSeconds) :
      Examined policy now token intent version (.postponed intent.id)
        { intent with
          lease := none, availableAt := startedAt + seconds policy.extractingSeconds }
  | exhausted (recoverable : Recoverable policy now intent version)
      (exhausted : intent.Exhausted policy) :
      Examined policy now token intent version (.exhausted intent.id)
        { intent with
          lease := none, unresolvedAt := some now, lastError := some .attemptsExhausted }
  | published (recoverable : Recoverable policy now intent version)
      (within : ¬intent.Exhausted policy) :
      Examined policy now token intent version (.published (publicationOf token intent version))
        (intent.charge policy now token)

theorem publishWithinBudget_spec {policy : RelayPolicy} {now : Instant} {token : UUID}
    {intent : DocumentIngestionIntent} {version : DocumentVersion}
    (h : Recoverable policy now intent version) :
    Examined policy now token intent version
      (publishWithinBudget policy now token { intent with lease := none } version).1
      (publishWithinBudget policy now token { intent with lease := none } version).2 := by
  unfold publishWithinBudget
  by_cases hexhausted : intent.Exhausted policy
  · rw [if_pos (show ({ intent with lease := none } : DocumentIngestionIntent).Exhausted policy
      from hexhausted)]
    exact Examined.exhausted h hexhausted
  · rw [if_neg (show ¬({ intent with lease := none } : DocumentIngestionIntent).Exhausted policy
      from hexhausted)]
    exact Examined.published h hexhausted

/-- `examine` takes one of the five exits. -/
theorem examine_spec (policy : RelayPolicy) (now : Instant) (token : UUID)
    (intent : DocumentIngestionIntent) (version : DocumentVersion) :
    Examined policy now token intent version (examine policy now token intent version).1
      (examine policy now token intent version).2 := by
  unfold examine
  cases hstatus : version.status with
  | ready => exact Examined.settled (Or.inl hstatus)
  | failed => exact Examined.settled (Or.inr hstatus)
  | extracting =>
    by_cases howner : version.processingTaskId = some intent.taskId
    · cases hstarted : version.processingStartedAt with
      | none =>
        simp only [howner, ne_eq, not_true_eq_false, if_false]
        exact Examined.ambiguous (Or.inl ⟨hstatus, Or.inr hstarted⟩)
      | some startedAt =>
        simp only [howner, ne_eq, not_true_eq_false, if_false]
        by_cases hfresh : now < startedAt + seconds policy.extractingSeconds
        · rw [if_pos hfresh]
          exact Examined.postponed hstatus howner hstarted hfresh
        · rw [if_neg hfresh]
          exact publishWithinBudget_spec
            (Or.inr ⟨hstatus, howner, startedAt, hstarted, not_lt.1 hfresh⟩)
    · simp only [howner, ne_eq, not_false_eq_true, if_true]
      exact Examined.ambiguous (Or.inl ⟨hstatus, Or.inl howner⟩)
  | queued =>
    by_cases hforeign : version.processingTaskId ≠ none ∧
        version.processingTaskId ≠ some intent.taskId
    · simp only [if_pos hforeign]
      exact Examined.ambiguous (Or.inr ⟨hstatus, hforeign⟩)
    · simp only [if_neg hforeign]
      refine publishWithinBudget_spec (Or.inl ⟨hstatus, ?_⟩)
      by_contra hno
      exact hforeign (not_or.1 hno)

variable {policy : RelayPolicy} {now : Instant} {token : UUID}
  {intent intent' : DocumentIngestionIntent} {version : DocumentVersion} {exit : ClaimExit}

/-- An examined intent keeps its identity. -/
theorem Examined.identity (h : Examined policy now token intent version exit intent') :
    intent'.id = intent.id ∧ intent'.organizationId = intent.organizationId ∧
      intent'.documentVersionId = intent.documentVersionId ∧ intent'.taskId = intent.taskId := by
  cases h <;> exact ⟨rfl, rfl, rfl, rfl⟩

theorem Examined.intentId? (h : Examined policy now token intent version exit intent') :
    exit.intentId? = some intent.id := by
  cases h <;> rfl

/-! ### What the other transactions do to a row -/

variable {locked : UUID → Bool} {db db' : Database}

theorem select_spec (h : select now locked db = some intent) :
    intent ∈ db.intents ∧ intent.Due now ∧ locked intent.id = false := by
  have hmem := mem_of_mem_orderByLimit (List.mem_of_mem_head? h)
  obtain ⟨hrow, hcond⟩ := List.mem_filter.1 hmem
  simp only [Bool.and_eq_true, decide_eq_true_eq, Bool.not_eq_true'] at hcond
  exact ⟨hrow, hcond.1, hcond.2⟩

theorem versionOf_eq_some_iff : versionOf db intent = some version ↔
    db.versions.get? intent.documentVersionId = some version ∧
      version.organizationId = intent.organizationId := by
  simp only [versionOf, Option.filter_eq_some_iff, decide_eq_true_eq]

/-- **The claim transaction**: nothing is due, or one due intent is examined and written back. -/
theorem claim_spec (h : claim policy now locked token db = some (exit, db')) :
    (exit = .idle ∧ db' = db) ∨ ∃ intent version intent',
      db.intents.get? intent.id = some intent ∧ intent.Due now ∧
        versionOf db intent = some version ∧
          Examined policy now token intent version exit intent' ∧ db' = db.setIntent intent' := by
  unfold claim at h
  rcases hselect : select now locked db with - | intent
  · simp only [hselect, Option.some.injEq, Prod.mk.injEq] at h
    exact Or.inl ⟨h.1.symm, h.2.symm⟩
  · simp only [hselect] at h
    obtain ⟨hmem, hdue, -⟩ := select_spec hselect
    obtain ⟨version, hversion, heq⟩ := Option.map_eq_some_iff.1 h
    obtain ⟨rfl, rfl⟩ := Prod.mk.inj heq
    exact Or.inr ⟨intent, version, _, Table.get?_key hmem, hdue, hversion,
      examine_spec policy now token intent version, rfl⟩

/-- **The finish transaction**: `false` leaves the database as it was; `true` needs the lease of
this very publication, unexpired. -/
theorem finish_spec {publication : Publication} {success result : Bool}
    (h : finish policy now publication success db = (result, db')) :
    (result = false ∧ db' = db) ∨ (result = true ∧ ∃ intent lease,
      db.intents.get? publication.intentId = some intent ∧ intent.lease = some lease ∧
        lease.token = publication.token ∧ now < lease.expiresAt ∧
          db' = db.setIntent (intent.finish policy now success)) := by
  unfold finish at h
  split at h
  · obtain ⟨rfl, rfl⟩ := Prod.mk.inj h
    exact Or.inl ⟨rfl, rfl⟩
  · next intent hintent =>
    obtain ⟨rfl, rfl⟩ := Prod.mk.inj h
    obtain ⟨hget, hany⟩ := Option.filter_eq_some_iff.1 hintent
    obtain ⟨lease, hlease, hcond⟩ := (Option.any_eq_true _ _).1 hany
    simp only [Bool.and_eq_true, decide_eq_true_eq] at hcond
    exact Or.inr ⟨rfl, intent, lease, hget, hlease, hcond.1, hcond.2, rfl⟩

/-- An intent whose id is in a batch meets the batch's condition. -/
theorem of_mem_batch {r : DocumentIngestionIntent → DocumentIngestionIntent → Prop}
    [DecidableRel r] {n : ℕ} {p : DocumentIngestionIntent → Bool} {id : UUID}
    (h : db.intents.get? id = some intent)
    (hid : id ∈ (orderByLimit r n (db.intents.rows.filter p)).map (·.id)) : p intent = true := by
  obtain ⟨chosen, hchosen, hkey⟩ := List.mem_map.1 hid
  obtain ⟨hmem, hcond⟩ := List.mem_filter.1 (mem_of_mem_orderByLimit hchosen)
  obtain rfl : chosen = intent :=
    Option.some.inj ((Table.get?_eq_some_iff.2 ⟨hmem, hkey⟩).symm.trans h)
  exact hcond

/-- `settle_terminal` settles intents of terminal versions whose lease is absent or expired, and
writes nothing else. -/
theorem settleTerminal_row (now : Instant) (locked : UUID → Bool) {id : UUID}
    (h : db.intents.get? id = some intent) :
    (settleTerminal now locked db).2.intents.get? id = some intent ∨
      (settleTerminal now locked db).2.intents.get? id = some (intent.settle now) ∧
        intent.settledAt = none ∧ intent.LeaseFree now ∧
          ∃ version, versionOf db intent = some version ∧ version.status.Terminal := by
  have hrow : (settleTerminal now locked db).2.intents.get? id = some
      (if decide (id ∈ (settleable now locked db).map (·.id)) then intent.settle now
        else intent) := by
    show (Table.modify _ _ _ _).get? id = _
    rw [Table.get?_modify, h, Option.map_some]
  by_cases hsel : id ∈ (settleable now locked db).map (·.id)
  · refine Or.inr ⟨by rw [hrow, decide_eq_true hsel, if_pos rfl], ?_⟩
    have hcond := of_mem_batch h hsel
    simp only [Bool.and_eq_true, decide_eq_true_eq, Option.any_eq_true] at hcond
    exact ⟨hcond.1.1.1, hcond.1.2, hcond.1.1.2⟩
  · exact Or.inl (by rw [hrow, decide_eq_false hsel, if_neg Bool.false_ne_true])

theorem settleTerminal_row_none (now : Instant) (locked : UUID → Bool) {id : UUID}
    (h : db.intents.get? id = none) :
    (settleTerminal now locked db).2.intents.get? id = none := by
  show (Table.modify _ _ _ _).get? id = none
  rw [Table.get?_modify, h, Option.map_none]

/-- `cleanup` deletes only intents settled for seven days that are resolved and not leased. -/
theorem cleanup_row {limit n : ℕ} {id : UUID} (hrun : cleanup limit now locked db = some (n, db'))
    (h : db.intents.get? id = some intent) :
    db'.intents.get? id = some intent ∨ db'.intents.get? id = none ∧ intent.unresolvedAt = none ∧
      intent.lease = none ∧
        ∃ settledAt, intent.settledAt = some settledAt ∧ settledAt ≤ now - days 7 := by
  unfold cleanup at hrun
  split at hrun
  · obtain ⟨-, rfl⟩ := Prod.mk.inj (Option.some.inj hrun)
    rw [Table.get?_delete]
    by_cases hsel : id ∈ (expired limit now locked db).map (·.id)
    · refine Or.inr ⟨by rw [decide_eq_true hsel, if_pos rfl], ?_⟩
      have hcond := of_mem_batch h hsel
      simp only [Bool.and_eq_true, decide_eq_true_eq, Option.any_eq_true] at hcond
      exact ⟨hcond.1.1.2, hcond.1.2, hcond.1.1.1⟩
    · exact Or.inl (by rw [decide_eq_false hsel, if_neg Bool.false_ne_true, h])
  · exact absurd hrun (by simp)

theorem cleanup_row_none {limit n : ℕ} {id : UUID}
    (hrun : cleanup limit now locked db = some (n, db')) (h : db.intents.get? id = none) :
    db'.intents.get? id = none := by
  unfold cleanup at hrun
  split at hrun
  · obtain ⟨-, rfl⟩ := Prod.mk.inj (Option.some.inj hrun)
    rw [Table.get?_delete, h, ite_self]
  · exact absurd hrun (by simp)

theorem cleanup_frame {limit n : ℕ} (hrun : cleanup limit now locked db = some (n, db')) :
    db'.documents = db.documents ∧ db'.versions = db.versions ∧ db'.audit = db.audit := by
  unfold cleanup at hrun
  split at hrun
  · obtain ⟨-, rfl⟩ := Prod.mk.inj (Option.some.inj hrun)
    exact ⟨rfl, rfl, rfl⟩
  · exact absurd hrun (by simp)

end IngestionRelay

namespace Backfill

variable {cutoff now : Instant} {limit : ℕ} {locked : UUID → Bool} {draw : UUID → UUID × UUID}
  {db db' : Database}

theorem candidates_spec {version : DocumentVersion}
    (h : version ∈ candidates cutoff limit locked db) :
    version ∈ db.versions ∧ version.status = .queued ∧
      ∀ i ∈ db.intents, i.documentVersionId = version.id →
        i.organizationId ≠ version.organizationId := by
  obtain ⟨hmem, hcond⟩ := List.mem_filter.1 (mem_of_mem_orderByLimit h)
  simp only [Bool.and_eq_true, decide_eq_true_eq, Bool.not_eq_true', List.any_eq_false] at hcond
  exact ⟨hmem, hcond.1.1.2, fun i hi hversion horg ↦ hcond.1.2 i hi ⟨hversion, horg⟩⟩

theorem insertOne_spec {version : DocumentVersion} (h : insertOne now draw db version = some db') :
    db' = db ∨ db.insertIntent? (intentFor now draw version) = some db' := by
  unfold insertOne at h
  split at h
  · exact Or.inl (Option.some.inj h).symm
  · exact Or.inr h

end Backfill

open Backfill in
/-- **The backfill transaction** is a sequence of intent inserts, for selected versions. -/
theorem backfill_invariant {cutoff now : Instant} {limit n : ℕ} {locked : UUID → Bool}
    {draw : UUID → UUID × UUID} {db db' : Database} {I : Database → Prop}
    (h : backfill cutoff limit now locked draw db = .ok (n, db')) (hI : I db)
    (hinsert : ∀ version ∈ candidates cutoff limit locked db, ∀ a b, I a →
      a.insertIntent? (intentFor now draw version) = some b → I b) : I db' := by
  unfold backfill at h
  split at h
  · exact nomatch h
  · split at h
    · exact nomatch h
    · split at h
      · exact nomatch h
      · next db'' hfold =>
        obtain ⟨-, rfl⟩ := Prod.mk.inj (Except.ok.inj h)
        refine List.foldlM_option_invariant (fun a version b hmem ha hb ↦ ?_) hI hfold
        rcases insertOne_spec hb with rfl | hb
        · exact ha
        · exact hinsert version hmem a b ha hb

end SupportFlow
