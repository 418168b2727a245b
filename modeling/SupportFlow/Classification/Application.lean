import SupportFlow.Classification.Providers
import SupportFlow.Tickets.Service

/-!
# The classification application

`ClassificationApplication.read` and `classify`. A classification is two transactions with the
provider's turn between them: `claim` commits an operation row (or finds the one that is there),
`complete` settles it. Each is a function from the database to a result and the next database; one
that raises leaves the database as it was.

The clock is read several times inside a transaction, so each reading is a parameter of its own.
-/

namespace SupportFlow

open Python

/-- What the application raises: its own error, or what a constraint of the database, a failed
assertion, the audit allowlist or a model validation raises underneath it. -/
inductive ClassificationError
  | application (code : ClassificationErrorCode) (status : ℕ)
  | invalidInput (error : PrepareInputError)
  | integrity
  | assertion
  | audit (error : AuditMetadataError)
  | validation
  deriving DecidableEq, Repr

inductive ClassificationViewState
  | notRequested
  | current
  | stale
  | inProgress
  | failed
  | unknown
  deriving DecidableEq, Repr

structure ClassificationView where
  state : ClassificationViewState
  resultId : Option UUID
  completedAt : Option Instant
  configurationVersion : String
  result : Option ClassificationResult
  errorCode : Option ClassificationErrorCode
  deriving DecidableEq

/-- `_authorized`. -/
def authorized (organizationId actorId : UUID) (db : Database) : Bool :=
  (db.identity.activeMember organizationId actorId [.admin, .agent]).isSome

/-- `_input`: prepare a ticket's current subject and messages. -/
def ticketInput (sha256 : String → String) (ticket : Ticket) (db : Database) :
    Except PrepareInputError PreparedInput :=
  prepareInput sha256 ticket.subject
    ((TicketRepository.listTicketMessages ticket.organizationId ticket.id db).map fun m ↦
      ⟨m.id, .ofInstant m.createdAt, m.authorType, m.body⟩)
    inputPolicyVersion taxonomyVersion

/-- The row of an identity. -/
def Database.findOperation (identity : ClassificationIdentity) (db : Database) :
    Option ClassificationOperation :=
  db.operations.rows.find? fun operation ↦ operation.identity = identity

/-- The newest row of a ticket, by `(created_at, id)`. -/
def Database.latestOperation (organizationId ticketId : UUID) (db : Database) :
    Option ClassificationOperation :=
  ((db.operations.rows.filter fun operation ↦
    operation.organizationId = organizationId ∧ operation.ticketId = ticketId).insertionSort
      fun a b ↦ b.createdAt < a.createdAt ∨ a.createdAt = b.createdAt ∧ b.id ≤ a.id).head?

/-- Insert an operation; fails on a taken id and on a taken identity. -/
def Database.insertOperation? (operation : ClassificationOperation) (db : Database) :
    Option Database :=
  if (db.findOperation operation.identity).isSome then none
  else (db.operations.insert? operation).map fun operations ↦ { db with operations := operations }

/-- What a claim hands to the rest of its call: no session, connection or row. -/
structure ClassificationClaim where
  operationId : UUID
  organizationId : UUID
  actorId : UUID
  ticketId : UUID
  runtime : FakeClassificationRuntime
  prepared : PreparedInput
  digest : String
  deriving DecidableEq

/-- The identity a claim works on. -/
def ClassificationClaim.identity (claim : ClassificationClaim) : ClassificationIdentity :=
  ⟨claim.organizationId, claim.ticketId, claim.prepared.fingerprint, claim.digest⟩

/-- How the first transaction of `classify` ends. -/
inductive ClassifyClaim
  | existing (view : ClassificationView)
  | claimed (claim : ClassificationClaim)
  deriving DecidableEq

/-- The row a claim inserts. -/
def ClassificationClaim.operation (claim : ClassificationClaim) (now : Instant) :
    ClassificationOperation where
  id := claim.operationId
  organizationId := claim.organizationId
  ticketId := claim.ticketId
  requestingActorUserId := claim.actorId
  openingMessageId := claim.prepared.messageId
  inputFingerprint := claim.prepared.fingerprint
  configDigest := claim.digest
  configurationVersion := claim.runtime.configurationVersion
  state := .inProgress
  outcome := none
  category := none
  errorCode := none
  attemptCount := if claim.prepared.insufficientContext then 0 else 1
  elapsedMs := none
  createdAt := now
  expiresAt := now + seconds 30
  completedAt := none

/-- What a completion found when it looked again. -/
structure CompletionChecks where
  authorized : Bool
  /-- The ticket, its input or the configuration is not the claimed one any more. -/
  changed : Bool
  deriving DecidableEq, Repr

/-- A row leaving `in_progress`. -/
def ClassificationOperation.finish (operation : ClassificationOperation)
    (state : ClassificationState) (errorCode : Option ClassificationErrorCode) (elapsedMs : ℕ)
    (completedAt : Instant) : ClassificationOperation :=
  { operation with
    state := state
    errorCode := errorCode
    elapsedMs := some elapsedMs
    completedAt := some completedAt }

/-- The settled row, by the priority of the completion checks: authorization, expiry, a changed
input, the provider's failure, the provider's result. -/
def ClassificationOperation.settle (operation : ClassificationOperation)
    (checks : CompletionChecks) (outcome : ProviderOutcome) (elapsedMs : ℕ)
    (completedAt checkedAt : Instant) : ClassificationOperation :=
  if ¬checks.authorized then
    operation.finish .failed (some .authorizationChanged) elapsedMs completedAt
  else if operation.expiresAt ≤ checkedAt then
    operation.finish .unknown (some .classificationUnknown) elapsedMs completedAt
  else if checks.changed then
    operation.finish .stale (some .inputChanged) elapsedMs completedAt
  else
    match outcome with
    | .failure code uncertain =>
      operation.finish (if uncertain then .unknown else .failed) (some code) elapsedMs completedAt
    | .result result =>
      { operation.finish .succeeded operation.errorCode elapsedMs completedAt with
        outcome := some result.outcome
        category := result.category }

namespace ClassificationApplication

variable (sha256 : String → String) (runtime : Option FakeClassificationRuntime)

/-- `_ticket`: the ticket, for an authorized actor. -/
def ticket (organizationId actorId ticketId : UUID) (db : Database) :
    Except ClassificationError Ticket :=
  if ¬authorized organizationId actorId db then
    .error (.application .classificationForbidden 403)
  else
    match TicketRepository.getTicket organizationId ticketId db with
    | none => .error (.application .ticketNotFound 404)
    | some ticket => .ok ticket

/-- The view state of a stored state. -/
def viewState : ClassificationState → ClassificationViewState
  | .inProgress => .inProgress
  | .succeeded => .current
  | .stale => .stale
  | .failed => .failed
  | .unknown => .unknown

/-- A claim past its deadline. -/
def expiredClaim (operation : ClassificationOperation) (now : Instant) : Bool :=
  operation.state = .inProgress && operation.expiresAt ≤ now

/-- The state a row is shown in: `stale` when it does not match the current input and configuration,
`unknown` when it is a claim past its deadline. -/
def shownState (operation : ClassificationOperation) (isMatch : Bool) (now : Instant) :
    ClassificationViewState :=
  if isMatch = false then .stale
  else if expiredClaim operation now then .unknown
  else viewState operation.state

/-- A row, as a view shows it. -/
def shown (operation : ClassificationOperation) (isMatch : Bool) (now : Instant)
    (result : Option ClassificationResult) : ClassificationView where
  state := shownState operation isMatch now
  resultId := some operation.id
  completedAt := operation.completedAt
  configurationVersion := operation.configurationVersion
  result := result
  errorCode :=
    if expiredClaim operation now then some .classificationUnknown else operation.errorCode

/-- The result a row holds. -/
def storedResult (operation : ClassificationOperation) : Option ClassificationResult :=
  operation.outcome.bind (ClassificationResult.validate? · operation.category)

/-- `_view`. -/
def view (operation : Option ClassificationOperation) (isMatch : Bool) (now : Instant) :
    Except ClassificationError ClassificationView :=
  match operation with
  | none =>
    .ok
      { state := .notRequested
        resultId := none
        completedAt := none
        configurationVersion :=
          runtime.elim "disabled" FakeClassificationRuntime.configurationVersion
        result := none
        errorCode := none }
  | some operation =>
    if shownState operation isMatch now = .current then
      match storedResult operation with
      | none => .error .validation
      | some result => .ok (shown operation isMatch now (some result))
    else .ok (shown operation isMatch now none)

/-- The input of a `read`: an input that is too large matches nothing. -/
def readInput (ticket : Ticket) (db : Database) :
    Except ClassificationError (Option PreparedInput) :=
  match ticketInput sha256 ticket db with
  | .ok prepared => .ok (some prepared)
  | .error .inputTooLarge => .ok none
  | .error error => .error (.invalidInput error)

/-- The row that matches the current input and configuration. -/
def readMatch (organizationId ticketId : UUID) (prepared : Option PreparedInput) (db : Database) :
    Option ClassificationOperation :=
  match prepared, runtime with
  | some prepared, some runtime =>
    db.findOperation ⟨organizationId, ticketId, prepared.fingerprint, runtime.digest sha256⟩
  | _, _ => none

/-- `read`. -/
def read (organizationId actorId ticketId : UUID) (viewedAt : Instant) (db : Database) :
    Except ClassificationError ClassificationView := do
  let ticket ← ticket organizationId actorId ticketId db
  let prepared ← readInput sha256 ticket db
  match readMatch sha256 runtime organizationId ticketId prepared db with
  | some operation => view runtime (some operation) true viewedAt
  | none => view runtime (db.latestOperation organizationId ticketId) false viewedAt

/-- `_audit`. -/
def recordFinished (operation : ClassificationOperation) (db : Database) :
    Except ClassificationError Database :=
  match AuditEventService.recordClassificationFinished operation.organizationId
    operation.requestingActorUserId operation.id operation.state with
  | .ok event => .ok (db.record event)
  | .error error => .error (.audit error)

/-- An expired claim, as a POST writes it back. -/
def materialize (operation : ClassificationOperation) (completedAt : Instant) :
    ClassificationOperation :=
  { operation with
    state := .unknown
    errorCode := some .classificationUnknown
    completedAt := some completedAt }

/-- The first transaction of `classify`, when the identity has a row already. -/
def resume (operation : ClassificationOperation) (viewedAt writtenAt : Instant) (db : Database) :
    Except ClassificationError (ClassifyClaim × Database) := do
  let view ← view runtime (some operation) true viewedAt
  -- An expired claim is shown as unknown, and only a POST writes that down.
  if view.state = .unknown ∧ operation.state = .inProgress then
    let db ← recordFinished (materialize operation writtenAt)
      (db.setOperation (materialize operation writtenAt))
    .ok (.existing view, db)
  else .ok (.existing view, db)

/-- The first transaction of `classify`, once the input is prepared: resume the row of the identity,
or insert one. -/
def claimPrepared (claim : ClassificationClaim) (viewedAt writtenAt : Instant) (db : Database) :
    Except ClassificationError (ClassifyClaim × Database) :=
  match db.findOperation claim.identity with
  | some operation => resume runtime operation viewedAt writtenAt db
  | none =>
    match db.insertOperation? (claim.operation writtenAt) with
    | none => .error .integrity
    | some db => .ok (.claimed claim, db)

/-- The first transaction of `classify`. -/
def claim (organizationId actorId ticketId operationId : UUID) (viewedAt writtenAt : Instant)
    (db : Database) : Except ClassificationError (ClassifyClaim × Database) := do
  let ticket ← ticket organizationId actorId ticketId db
  match runtime with
  | none => .error (.application .classificationDisabled 503)
  | some configured =>
    match ticketInput sha256 ticket db with
    -- A POST refuses what a GET shows as matching nothing.
    | .error .inputTooLarge => .error (.application .inputTooLarge 422)
    | .error error => .error (.invalidInput error)
    | .ok prepared =>
      claimPrepared runtime
        { operationId := operationId
          organizationId := organizationId
          actorId := actorId
          ticketId := ticketId
          runtime := configured
          prepared := prepared
          digest := configured.digest sha256 }
        viewedAt writtenAt db

/-- What the second transaction of `classify` finds. -/
def completionChecks (claim : ClassificationClaim) (db : Database) :
    Except ClassificationError CompletionChecks :=
  let moved := decide (claim.runtime.digest sha256 ≠ claim.digest)
  let checked changed : CompletionChecks :=
    ⟨authorized claim.organizationId claim.actorId db, changed⟩
  match TicketRepository.getTicket claim.organizationId claim.ticketId db with
  -- A ticket that is gone, or has outgrown the limit, counts as a changed input.
  | none => .ok (checked true)
  | some ticket =>
    match ticketInput sha256 ticket db with
    | .ok prepared =>
      .ok (checked (moved || decide (prepared.fingerprint ≠ claim.prepared.fingerprint)))
    | .error .inputTooLarge => .ok (checked true)
    | .error error => .error (.invalidInput error)

/-- The second transaction of `classify`, up to its commit: the view of the operation as it is left,
and whether the actor may see it. -/
def complete (claim : ClassificationClaim) (outcome : ProviderOutcome) (elapsedMs : ℕ)
    (completedAt checkedAt : Instant) (db : Database) :
    Except ClassificationError ((Bool × ClassificationView) × Database) := do
  let found := (db.operations.get? claim.operationId).filter fun operation ↦
    operation.organizationId = claim.organizationId
  match found with
  | none => .error .assertion
  | some operation =>
    -- Settled by somebody else meanwhile: it is shown, and not written again.
    if operation.state ≠ .inProgress then
      let view ← view (some claim.runtime) (some operation) true checkedAt
      .ok ((authorized claim.organizationId claim.actorId db, view), db)
    else
      let checks ← completionChecks sha256 claim db
      let settled := operation.settle checks outcome elapsedMs completedAt checkedAt
      let db ← recordFinished settled (db.setOperation settled)
      let view ← view (some claim.runtime) (some settled) true checkedAt
      .ok ((checks.authorized, view), db)

/-- `_return_or_error`. -/
def returnOrError (view : ClassificationView) : Except ClassificationError ClassificationView :=
  if view.state = .current then .ok view
  else
    -- A claim in progress has no code of its own yet.
    let code := view.errorCode.getD <|
      if view.state = .inProgress then .classificationInProgress else .classificationUnknown
    .error (.application code code.errorStatus)

/-- How `classify` ends after its second transaction. -/
def respond (authorized : Bool) (view : ClassificationView) :
    Except ClassificationError ClassificationView :=
  if ¬authorized then .error (.application .classificationForbidden 403) else returnOrError view

/-! ### What a view says -/

/-- Only a matching, succeeded row is shown as current. -/
theorem shownState_eq_current {operation : ClassificationOperation} {isMatch : Bool}
    {now : Instant} :
    shownState operation isMatch now = .current ↔
      isMatch = true ∧ operation.state = .succeeded := by
  unfold shownState expiredClaim
  cases isMatch <;> cases operation.state <;> simp [viewState]
  split <;> simp

variable {runtime}

/-- What a view of a row is made of. -/
theorem view_eq_ok {operation : ClassificationOperation} {isMatch : Bool} {now : Instant}
    {v : ClassificationView} (h : view runtime (some operation) isMatch now = .ok v) :
    ∃ result, v = shown operation isMatch now result ∧
      (result.isSome ↔ shownState operation isMatch now = .current) := by
  unfold view at h
  simp only at h
  split at h
  · next hcurrent =>
    split at h
    · cases h
    · next result _ =>
      cases h
      exact ⟨some result, rfl, iff_of_true rfl hcurrent⟩
  · next hcurrent =>
    cases h
    exact ⟨none, rfl, iff_of_false (by simp) hcurrent⟩

/-- A result is in a view exactly when its state is `current`. -/
theorem view_result {operation : Option ClassificationOperation} {isMatch : Bool} {now : Instant}
    {v : ClassificationView} (h : view runtime operation isMatch now = .ok v) :
    v.result.isSome ↔ v.state = .current := by
  cases operation with
  | none =>
    cases h
    simp
  | some operation =>
    obtain ⟨result, rfl, hresult⟩ := view_eq_ok h
    exact hresult

/-- **Only a matching, succeeded operation is viewed as current.** -/
theorem view_current {operation : Option ClassificationOperation} {isMatch : Bool} {now : Instant}
    {v : ClassificationView} (h : view runtime operation isMatch now = .ok v)
    (hcurrent : v.state = .current) :
    ∃ row, operation = some row ∧ isMatch = true ∧ row.state = .succeeded ∧
      v.resultId = some row.id := by
  cases operation with
  | none =>
    cases h
    cases hcurrent
  | some row =>
    obtain ⟨result, rfl, -⟩ := view_eq_ok h
    obtain ⟨hmatch, hstate⟩ := shownState_eq_current.1 hcurrent
    exact ⟨row, rfl, hmatch, hstate, rfl⟩

/-- A row that has not succeeded can be viewed, and not as current. -/
theorem view_of_not_succeeded (runtime : Option FakeClassificationRuntime)
    {operation : ClassificationOperation} (h : operation.state ≠ .succeeded) (isMatch : Bool)
    (now : Instant) : ∃ v, view runtime (some operation) isMatch now = .ok v ∧
      v = shown operation isMatch now none ∧ v.state ≠ .current := by
  have hstate : shownState operation isMatch now ≠ .current :=
    fun hcurrent ↦ h (shownState_eq_current.1 hcurrent).2
  exact ⟨_, if_neg hstate, rfl, hstate⟩

/-- A row that succeeded with a result is viewed as current, with that result. -/
theorem view_of_succeeded (runtime : Option FakeClassificationRuntime)
    {operation : ClassificationOperation} {result : ClassificationResult}
    (hstate : operation.state = .succeeded) (hresult : storedResult operation = some result)
    (now : Instant) :
    view runtime (some operation) true now = .ok (shown operation true now (some result)) := by
  have hcurrent : shownState operation true now = .current :=
    shownState_eq_current.2 ⟨rfl, hstate⟩
  unfold view
  simp only
  rw [if_pos hcurrent, hresult]

/-- What `_return_or_error` returns is current. -/
theorem returnOrError_eq_ok {v v' : ClassificationView} (h : returnOrError v = .ok v') :
    v' = v ∧ v.state = .current := by
  unfold returnOrError at h
  split at h
  · next hcurrent =>
    cases h
    exact ⟨rfl, hcurrent⟩
  · cases h

/-- What `classify` returns after its second transaction is current, and its actor authorized. -/
theorem respond_eq_ok {authorized : Bool} {v v' : ClassificationView}
    (h : respond authorized v = .ok v') : authorized = true ∧ v' = v ∧ v.state = .current := by
  unfold respond at h
  split at h
  · cases h
  · next hauth => exact ⟨by simpa using hauth, returnOrError_eq_ok h⟩

/-! ### The rows of a transaction -/

theorem findOperation_eq_some {db : Database} {identity : ClassificationIdentity}
    {operation : ClassificationOperation} (h : db.findOperation identity = some operation) :
    operation ∈ db.operations ∧ operation.identity = identity :=
  ⟨List.mem_of_find?_eq_some h, by simpa using List.find?_some h⟩

theorem insertOperation?_eq_some {db db' : Database} {operation : ClassificationOperation}
    (h : db.insertOperation? operation = some db') :
    (∀ o ∈ db.operations, o.identity ≠ operation.identity) ∧
      db.operations.get? operation.id = none ∧
        ∃ operations, db.operations.insert? operation = some operations ∧
          db' = { db with operations := operations } := by
  unfold Database.insertOperation? at h
  split at h
  · cases h
  · next hfind =>
    obtain ⟨operations, hinsert, rfl⟩ := Option.map_eq_some_iff.1 h
    have hnone : db.findOperation operation.identity = none := by simpa using hfind
    refine ⟨fun o ho ↦ ?_, (Table.insert?_eq_some_iff.1 hinsert).1, operations, hinsert, rfl⟩
    simpa using List.find?_eq_none.1 hnone o ho

/-- Two rows of the same work: they differ in what a settlement writes and nothing else. -/
structure SameWork (a b : ClassificationOperation) : Prop where
  id : b.id = a.id
  organizationId : b.organizationId = a.organizationId
  ticketId : b.ticketId = a.ticketId
  requestingActorUserId : b.requestingActorUserId = a.requestingActorUserId
  inputFingerprint : b.inputFingerprint = a.inputFingerprint
  configDigest : b.configDigest = a.configDigest
  attemptCount : b.attemptCount = a.attemptCount
  expiresAt : b.expiresAt = a.expiresAt

theorem SameWork.refl (a : ClassificationOperation) : SameWork a a :=
  ⟨rfl, rfl, rfl, rfl, rfl, rfl, rfl, rfl⟩

theorem SameWork.trans {a b c : ClassificationOperation} (h : SameWork a b) (h' : SameWork b c) :
    SameWork a c :=
  ⟨h'.id.trans h.id, h'.organizationId.trans h.organizationId, h'.ticketId.trans h.ticketId,
    h'.requestingActorUserId.trans h.requestingActorUserId,
    h'.inputFingerprint.trans h.inputFingerprint, h'.configDigest.trans h.configDigest,
    h'.attemptCount.trans h.attemptCount, h'.expiresAt.trans h.expiresAt⟩

theorem SameWork.identity {a b : ClassificationOperation} (h : SameWork a b) :
    b.identity = a.identity := by
  simp only [ClassificationOperation.identity, h.organizationId, h.ticketId, h.inputFingerprint,
    h.configDigest]

theorem materialize_sameWork (operation : ClassificationOperation) (completedAt : Instant) :
    SameWork operation (materialize operation completedAt) :=
  ⟨rfl, rfl, rfl, rfl, rfl, rfl, rfl, rfl⟩

section Settle

variable (operation : ClassificationOperation) (checks : CompletionChecks)
  (outcome : ProviderOutcome) (elapsedMs : ℕ) (completedAt checkedAt : Instant)

theorem settle_sameWork :
    SameWork operation
      (operation.settle checks outcome elapsedMs completedAt checkedAt) := by
  unfold ClassificationOperation.settle
  split
  · exact ⟨rfl, rfl, rfl, rfl, rfl, rfl, rfl, rfl⟩
  · split
    · exact ⟨rfl, rfl, rfl, rfl, rfl, rfl, rfl, rfl⟩
    · split
      · exact ⟨rfl, rfl, rfl, rfl, rfl, rfl, rfl, rfl⟩
      · cases outcome <;> exact ⟨rfl, rfl, rfl, rfl, rfl, rfl, rfl, rfl⟩

/-- A settled row is not in progress. -/
theorem settle_state_ne :
    (operation.settle checks outcome elapsedMs completedAt checkedAt).state ≠ .inProgress := by
  unfold ClassificationOperation.settle
  split
  · exact fun h ↦ (nomatch h)
  · split
    · exact fun h ↦ (nomatch h)
    · split
      · exact fun h ↦ (nomatch h)
      · cases outcome with
        | result result => exact fun h ↦ (nomatch h)
        | failure code uncertain => cases uncertain <;> exact fun h ↦ (nomatch h)

variable {operation checks outcome elapsedMs completedAt checkedAt}

/-- **A completion succeeds only past every check**: authorization, the deadline, the input, and the
provider. -/
theorem settle_succeeded
    (h : (operation.settle checks outcome elapsedMs completedAt checkedAt).state = .succeeded) :
    checks.authorized = true ∧ checkedAt < operation.expiresAt ∧ checks.changed = false ∧
      ∃ result, storedResult
        (operation.settle checks outcome elapsedMs completedAt checkedAt) = some result := by
  unfold ClassificationOperation.settle at h ⊢
  split at h
  · cases h
  · next hauth =>
    split at h
    · cases h
    · next hexpired =>
      split at h
      · cases h
      · next hchanged =>
        cases outcome with
        | failure code uncertain => cases uncertain <;> cases h
        | result result =>
          rw [if_neg hauth, if_neg hexpired, if_neg hchanged]
          exact ⟨by simpa using hauth, by simpa using hexpired, by simpa using hchanged, result,
            result.validate?_self⟩

end Settle

/-! ### What the transactions do -/

theorem ticket_eq_ok {organizationId actorId ticketId : UUID} {db : Database} {t : Ticket}
    (h : ticket organizationId actorId ticketId db = .ok t) :
    authorized organizationId actorId db = true ∧
      TicketRepository.getTicket organizationId ticketId db = some t := by
  unfold ticket at h
  split at h
  · cases h
  · next hauth =>
    split at h
    · cases h
    · next hget =>
      cases h
      exact ⟨by simpa using hauth, hget⟩

/-- **An input fails to prepare only by its size**: the versions are constants, and the messages of
a table have different ids. -/
theorem ticketInput_error {sha256 : String → String} {t : Ticket} {db : Database}
    {error : PrepareInputError} (h : ticketInput sha256 t db = .error error) :
    error = .inputTooLarge := by
  have hids : (((TicketRepository.listTicketMessages t.organizationId t.id db).map fun m ↦
      (⟨m.id, .ofInstant m.createdAt, m.authorType, m.body⟩ : OpeningMessage)).map
        OpeningMessage.id).Nodup := by
    rw [List.map_map]
    -- Ordering the messages keeps their ids distinct.
    refine List.Nodup.perm ?_ ((List.perm_insertionSort _ _).map _).symm
    exact db.ticketMessages.nodup.sublist (List.filter_sublist.map TicketMessage.id)
  unfold ticketInput prepareInput at h
  rw [if_neg (by decide)] at h
  by_cases hsubject : 300 < t.subject.length
  · rw [if_pos hsubject] at h
    cases h
    rfl
  · rw [if_neg hsubject, if_neg (not_not.2 hids)] at h
    dsimp only at h
    split at h
    · cases h
      rfl
    · cases h

/-- A settled row is recorded. -/
theorem recordFinished_of_ne {operation : ClassificationOperation} (db : Database)
    (h : operation.state ≠ .inProgress) :
    recordFinished operation db = .ok (db.record
      (AuditEventService.classificationFinished operation.organizationId
        operation.requestingActorUserId operation.id operation.state)) := by
  unfold recordFinished AuditEventService.recordClassificationFinished
  rw [if_neg h]

/-- The write of a settlement, with its audit row. -/
def settled (operation : ClassificationOperation) (db : Database) : Database :=
  (db.setOperation operation).record (AuditEventService.classificationFinished
    operation.organizationId operation.requestingActorUserId operation.id operation.state)

theorem recordFinished_setOperation {operation : ClassificationOperation} (db : Database)
    (h : operation.state ≠ .inProgress) :
    recordFinished operation (db.setOperation operation) = .ok (settled operation db) :=
  recordFinished_of_ne _ h

/-- What the first transaction does with a row it found. -/
theorem resume_spec {runtime : Option FakeClassificationRuntime}
    {operation : ClassificationOperation} {viewedAt writtenAt : Instant} {db db' : Database}
    {result : ClassifyClaim}
    (h : resume runtime operation viewedAt writtenAt db = .ok (result, db')) :
    ∃ v, result = .existing v ∧ view runtime (some operation) true viewedAt = .ok v ∧
      (db' = db ∨ operation.state = .inProgress ∧
        db' = settled (materialize operation writtenAt) db) := by
  unfold resume at h
  obtain ⟨v, hview, h⟩ := Except.bind_eq_ok_iff.1 h
  split at h
  · next hcond =>
    rw [recordFinished_setOperation db (by exact fun h ↦ (nomatch h))] at h
    cases h
    exact ⟨v, rfl, hview, .inr ⟨hcond.2, rfl⟩⟩
  · cases h
    exact ⟨v, rfl, hview, .inl rfl⟩

/-- What a claim computed from the database it was made in. -/
structure Computed (sha256 : String → String) (claim : ClassificationClaim) (db : Database) :
    Prop where
  authorized : authorized claim.organizationId claim.actorId db = true
  input : ∃ t, TicketRepository.getTicket claim.organizationId claim.ticketId db = some t ∧
    ticketInput sha256 t db = .ok claim.prepared
  digest : claim.digest = claim.runtime.digest sha256

/-- What the first transaction of `classify` does: resume the row of its identity, or insert one. -/
theorem claim_spec {sha256 : String → String} {runtime : Option FakeClassificationRuntime}
    {organizationId actorId ticketId operationId : UUID} {viewedAt writtenAt : Instant}
    {db db' : Database} {result : ClassifyClaim}
    (h : claim sha256 runtime organizationId actorId ticketId operationId viewedAt writtenAt db =
      .ok (result, db')) :
    ∃ made : ClassificationClaim, made.operationId = operationId ∧
      made.organizationId = organizationId ∧ made.actorId = actorId ∧ made.ticketId = ticketId ∧
      runtime = some made.runtime ∧ Computed sha256 made db ∧
      ((∃ operation, db.findOperation made.identity = some operation ∧
          resume runtime operation viewedAt writtenAt db = .ok (result, db')) ∨
        result = .claimed made ∧ db.insertOperation? (made.operation writtenAt) = some db') := by
  unfold claim at h
  obtain ⟨t, hticket, h⟩ := Except.bind_eq_ok_iff.1 h
  obtain ⟨hauth, hget⟩ := ticket_eq_ok hticket
  cases runtime with
  | none => cases h
  | some configured =>
    simp only at h
    split at h
    · cases h
    · cases h
    · next prepared hinput =>
      refine ⟨⟨operationId, organizationId, actorId, ticketId, configured, prepared,
        configured.digest sha256⟩, rfl, rfl, rfl, rfl, rfl, ⟨hauth, ⟨t, hget, hinput⟩, rfl⟩, ?_⟩
      unfold claimPrepared at h
      split at h
      · next operation hfind => exact .inl ⟨operation, hfind, h⟩
      · split at h
        · cases h
        · next hinsert =>
          cases h
          exact .inr ⟨rfl, hinsert⟩

/-- What the second transaction finds. -/
theorem completionChecks_spec (sha256 : String → String) (claim : ClassificationClaim)
    (db : Database) :
    ∃ checks, completionChecks sha256 claim db = .ok checks ∧
      checks.authorized = authorized claim.organizationId claim.actorId db ∧
      (checks.changed = false →
        claim.runtime.digest sha256 = claim.digest ∧
        ∃ t prepared, TicketRepository.getTicket claim.organizationId claim.ticketId db = some t ∧
          ticketInput sha256 t db = .ok prepared ∧
            prepared.fingerprint = claim.prepared.fingerprint) := by
  unfold completionChecks
  simp only
  split
  · exact ⟨_, rfl, rfl, fun h ↦ (nomatch h)⟩
  · next t hget =>
    split
    · next prepared hinput =>
      refine ⟨_, rfl, rfl, fun h ↦ ?_⟩
      simp only [Bool.or_eq_false_iff, decide_eq_false_iff_not, not_not] at h
      exact ⟨h.1, t, prepared, hget, hinput, h.2⟩
    · exact ⟨_, rfl, rfl, fun h ↦ (nomatch h)⟩
    · next error hne herror => exact absurd (ticketInput_error herror) hne

/-- How the second transaction leaves its operation. -/
inductive Completion (sha256 : String → String) (claim : ClassificationClaim)
    (outcome : ProviderOutcome) (elapsedMs : ℕ) (completedAt checkedAt : Instant)
    (operation : ClassificationOperation) (db : Database) :
    ClassificationOperation → Database → Prop
  /-- Somebody settled it before. -/
  | late (state : operation.state ≠ .inProgress) :
      Completion sha256 claim outcome elapsedMs completedAt checkedAt operation db operation db
  | settle {checks : CompletionChecks} (state : operation.state = .inProgress)
      (run : completionChecks sha256 claim db = .ok checks) :
      Completion sha256 claim outcome elapsedMs completedAt checkedAt operation db
        (operation.settle checks outcome elapsedMs completedAt checkedAt)
        (settled (operation.settle checks outcome elapsedMs completedAt checkedAt) db)

/-- **The second transaction commits**, whatever it finds, as long as its row is there and nobody
else published it. -/
theorem complete_spec (sha256 : String → String) (claim : ClassificationClaim)
    (outcome : ProviderOutcome) (elapsedMs : ℕ) (completedAt checkedAt : Instant) {db : Database}
    {operation : ClassificationOperation}
    (hget : db.operations.get? claim.operationId = some operation)
    (horg : operation.organizationId = claim.organizationId)
    (hstate : operation.state ≠ .succeeded) :
    ∃ left v db', complete sha256 claim outcome elapsedMs completedAt checkedAt db =
        .ok ((authorized claim.organizationId claim.actorId db, v), db') ∧
      view (some claim.runtime) (some left) true checkedAt = .ok v ∧
      Completion sha256 claim outcome elapsedMs completedAt checkedAt operation db left db' := by
  have hfound : ((db.operations.get? claim.operationId).filter fun o ↦
      decide (o.organizationId = claim.organizationId)) = some operation := by
    rw [hget, Option.filter_some, if_pos (by simpa using horg)]
  unfold complete
  simp only [hfound]
  by_cases hprogress : operation.state = .inProgress
  · obtain ⟨checks, hchecks, hauth, -⟩ := completionChecks_spec sha256 claim db
    rw [if_neg (by simpa using hprogress), hchecks]
    -- A settled row can be audited and viewed, so nothing is left that could raise.
    have hne := settle_state_ne operation checks outcome elapsedMs completedAt checkedAt
    have hview : ∃ v, view (some claim.runtime)
        (some (operation.settle checks outcome elapsedMs completedAt checkedAt)) true checkedAt =
          .ok v := by
      by_cases hsucceeded :
          (operation.settle checks outcome elapsedMs completedAt checkedAt).state = .succeeded
      · obtain ⟨-, -, -, result, hresult⟩ := settle_succeeded hsucceeded
        exact ⟨_, view_of_succeeded _ hsucceeded hresult checkedAt⟩
      · obtain ⟨v, hv, -⟩ := view_of_not_succeeded (some claim.runtime) hsucceeded true checkedAt
        exact ⟨v, hv⟩
    obtain ⟨v, hv⟩ := hview
    refine ⟨_, v, _, ?_, hv, .settle hprogress hchecks⟩
    simp only [Except.bind_eq_ok_iff]
    exact ⟨checks, rfl, _, recordFinished_setOperation db hne, v, hv, by rw [hauth]⟩
  · obtain ⟨v, hv, -⟩ := view_of_not_succeeded (some claim.runtime) hstate true checkedAt
    refine ⟨operation, v, db, ?_, hv, .late hprogress⟩
    rw [if_pos hprogress, hv]
    rfl

theorem readInput_eq_ok {sha256 : String → String} {t : Ticket} {db : Database}
    {prepared : PreparedInput} (h : readInput sha256 t db = .ok (some prepared)) :
    ticketInput sha256 t db = .ok prepared := by
  unfold readInput at h
  split at h
  · next hinput =>
    cases h
    exact hinput
  · cases h
  · cases h

theorem readMatch_eq_some {sha256 : String → String} {runtime : Option FakeClassificationRuntime}
    {organizationId ticketId : UUID} {prepared : Option PreparedInput} {db : Database}
    {operation : ClassificationOperation}
    (h : readMatch sha256 runtime organizationId ticketId prepared db = some operation) :
    ∃ input configured, prepared = some input ∧ runtime = some configured ∧
      db.findOperation ⟨organizationId, ticketId, input.fingerprint, configured.digest sha256⟩ =
        some operation := by
  unfold readMatch at h
  split at h
  · exact ⟨_, _, rfl, rfl, h⟩
  · cases h

/-- What `read` shows as current. -/
theorem read_eq_ok {sha256 : String → String} {runtime : Option FakeClassificationRuntime}
    {organizationId actorId ticketId : UUID} {viewedAt : Instant} {db : Database}
    {v : ClassificationView}
    (h : read sha256 runtime organizationId actorId ticketId viewedAt db = .ok v) :
    (v.result.isSome ↔ v.state = .current) ∧
      (v.state = .current → ∃ t prepared configured operation,
        TicketRepository.getTicket organizationId ticketId db = some t ∧
        ticketInput sha256 t db = .ok prepared ∧ runtime = some configured ∧
        db.findOperation ⟨organizationId, ticketId, prepared.fingerprint,
          configured.digest sha256⟩ = some operation ∧
        operation.state = .succeeded ∧ v.resultId = some operation.id) := by
  unfold read at h
  obtain ⟨t, hticket, h⟩ := Except.bind_eq_ok_iff.1 h
  obtain ⟨prepared, hprepared, h⟩ := Except.bind_eq_ok_iff.1 h
  split at h
  · next operation hfound =>
    refine ⟨view_result h, fun hcurrent ↦ ?_⟩
    obtain ⟨row, hrow, -, hstate, hid⟩ := view_current h hcurrent
    obtain rfl := Option.some.inj hrow
    obtain ⟨input, configured, rfl, rfl, hfind⟩ := readMatch_eq_some hfound
    exact ⟨t, input, configured, operation, (ticket_eq_ok hticket).2, readInput_eq_ok hprepared,
      rfl, hfind, hstate, hid⟩
  · refine ⟨view_result h, fun hcurrent ↦ ?_⟩
    -- The newest row is viewed as no match, hence not as current.
    obtain ⟨row, -, hmatch, -⟩ := view_current h hcurrent
    cases hmatch

end ClassificationApplication

end SupportFlow
