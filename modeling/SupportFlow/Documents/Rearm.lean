import SupportFlow.Documents.Recovery

/-!
# The rearm command, step by step

`rearm_intent` again, with the steps that may fail for reasons of their own: the dependency check,
each query, the audit builder, the flush and the commit. `Recovery` has the transaction without
them, which is what the document lifecycle is built on; a command that returns has run that
transaction (`RearmCommand.body_eq_ok`).
-/

namespace SupportFlow

/-- Why `rearm_intent` raises: it refuses, or one of its steps fails. -/
inductive RearmFailure
  | refused (error : RearmError)
  | raised (error : Raised)
  deriving DecidableEq, Repr

/-- The arguments of `rearm_intent`. -/
structure RearmCommand where
  organizationId : UUID
  intentId : UUID
  actorUserId : UUID
  extractingSeconds : ℤ
  maxWorkerAttempts : ℕ
  deriving DecidableEq, Repr

namespace RearmCommand

/-- `if condition: raise ValueError(…)`. -/
def refuseWhen (condition : Prop) [Decidable condition] (error : RearmError) :
    Except RearmFailure Unit :=
  if condition then .error (.refused error) else .ok ()

theorem refuseWhen_eq_ok {condition : Prop} [Decidable condition] {error : RearmError} {u : Unit} :
    refuseWhen condition error = .ok u ↔ ¬condition := by
  unfold refuseWhen
  split
  · next h => exact iff_of_false (fun he ↦ nomatch he) (not_not.2 h)
  · next h => exact iff_of_true rfl h

/-- A step that may fail. -/
def step (faults : Faults) (callStep : CallStep) : Except RearmFailure Unit :=
  (faults.pass callStep).mapError .raised

/-- The version has another owner than the intent's task. -/
def Foreign (intent : DocumentIngestionIntent) (version : DocumentVersion) : Prop :=
  version.processingTaskId ≠ none ∧ version.processingTaskId ≠ some intent.taskId

instance (intent : DocumentIngestionIntent) (version : DocumentVersion) :
    Decidable (Foreign intent version) :=
  inferInstanceAs (Decidable (_ ∧ _))

/-- The version is being extracted under another task, or within its deadline. A missing start time
makes the last disjunct true, as in the source. -/
def ActivelyExtracting (now : Instant) (extractingSeconds : ℤ) (intent : DocumentIngestionIntent)
    (version : DocumentVersion) : Prop :=
  version.status = .extracting ∧ (version.processingTaskId ≠ some intent.taskId ∨
    ∀ startedAt ∈ version.processingStartedAt, now < startedAt + seconds extractingSeconds)

instance (now : Instant) (extractingSeconds : ℤ) (intent : DocumentIngestionIntent)
    (version : DocumentVersion) :
    Decidable (ActivelyExtracting now extractingSeconds intent version) :=
  inferInstanceAs (Decidable (_ ∧ (_ ∨ ∀ _ ∈ _, _)))

/-- The body of `rearm_intent`. `verified` is what `verify_dependencies` returned or raised, and
`workerHolds` says which versions' advisory locks a worker session holds. -/
def body (faults : Faults) (now : Instant) (verified : Except Raised Bool)
    (workerHolds : UUID → Bool) (command : RearmCommand) (db : Database) :
    Except RearmFailure (ℕ × Database) := do
  let verified ← verified.mapError .raised
  refuseWhen (verified = false) .dependencyVerificationFailed
  -- `SET LOCAL statement_timeout`, and then the rows in the order they are locked.
  step faults (.lookup 0)
  step faults (.lookup 1)
  refuseWhen (db.identity.activeMember command.organizationId command.actorUserId [.admin] = none)
    .activeTenantAdminRequired
  step faults (.lookup 2)
  match (db.intents.get? command.intentId).filter
      fun i ↦ decide (i.organizationId = command.organizationId) with
  | none => .error (.refused .onlyExhaustedUnresolved)
  | some intent =>
    refuseWhen (intent.unresolvedAt = none ∨ intent.lastError ≠ some .attemptsExhausted ∨
      intent.settledAt ≠ none) .onlyExhaustedUnresolved
    step faults (.lookup 3)
    refuseWhen (¬intent.LeaseFree now) .activeRelayLease
    refuseWhen (3 ≤ intent.recoveryGrants) .grantLimitReached
    step faults (.lookup 4)
    refuseWhen (workerHolds intent.documentVersionId = true) .activeWorkerDelivery
    step faults (.lookup 5)
    match IngestionRelay.versionOf db intent with
    | none => .error (.refused .assertionError)
    | some version =>
      refuseWhen version.status.Terminal .terminalVersion
      refuseWhen (Foreign intent version) .ambiguousWorkerOwnership
      refuseWhen (ActivelyExtracting now command.extractingSeconds intent version)
        .extractionActiveOrAmbiguous
      refuseWhen (version.status = .queued ∧ command.maxWorkerAttempts ≤ version.attemptCount)
        .workerBudgetExhausted
      step faults (.audit 0)
      let event ← (AuditEventService.recordDocumentDispatchRearmed command.organizationId
        command.actorUserId version.id (intent.recoveryGrants + 1)).mapError
          fun error ↦ .refused (.auditMetadata error)
      step faults (.flush 0)
      let db ← ((db.setIntent (intent.rearm now)).insertEvent event).mapError .raised
      step faults .commit
      .ok (intent.recoveryGrants + 1, db)

/-- `rearm_intent`. -/
def run (faults : Faults) (now : Instant) (verified : Except Raised Bool)
    (workerHolds : UUID → Bool) (command : RearmCommand) (db : Database) :
    Except RearmFailure ℕ × Database :=
  db.transaction (body faults now verified workerHolds command)

end RearmCommand

/-- What a rearm that returned found, and what it wrote. -/
structure Rearmed (now : Instant) (verified : Except Raised Bool) (workerHolds : UUID → Bool)
    (command : RearmCommand) (intent : DocumentIngestionIntent) (version : DocumentVersion)
    (db db' : Database) : Prop where
  verified : verified = .ok true
  actor : db.identity.IsActiveMember command.organizationId command.actorUserId [.admin]
  intent_eq : db.intents.get? command.intentId = some intent
  organization : intent.organizationId = command.organizationId
  exhausted : intent.unresolvedAt ≠ none ∧ intent.lastError = some .attemptsExhausted ∧
    intent.settledAt = none
  leaseFree : intent.LeaseFree now
  unlocked : workerHolds intent.documentVersionId = false
  version_eq : IngestionRelay.versionOf db intent = some version
  running : ¬version.status.Terminal
  owned : version.processingTaskId = none ∨ version.processingTaskId = some intent.taskId
  rearmable : Rearmable now command.extractingSeconds command.maxWorkerAttempts intent version
  granted : intent.recoveryGrants < 3
  /-- One intent row, and one audit row. -/
  written : db' = (db.setIntent (intent.rearm now)).record
    (AuditEventService.documentDispatchRearmed command.organizationId command.actorUserId
      version.id (intent.recoveryGrants + 1))

namespace RearmCommand

variable {faults : Faults} {now : Instant} {verified : Except Raised Bool}
  {workerHolds : UUID → Bool} {command : RearmCommand} {db db' : Database} {grant : ℕ}

theorem mapError_eq_ok {ε ε' α : Type} {f : ε → ε'} {x : Except ε α} {a : α} :
    x.mapError f = .ok a ↔ x = .ok a := by
  cases x with
  | error e => exact ⟨fun h ↦ (nomatch h), fun h ↦ (nomatch h)⟩
  | ok b => rw [Except.mapError, Except.ok.injEq, Except.ok.injEq]

/-- A version that is not refused is in the queue with attempts left, or an extraction of the
intent's own that is past its deadline. -/
theorem rearmable_of_not_refused {intent : DocumentIngestionIntent} {version : DocumentVersion}
    (hterminal : ¬version.status.Terminal) (hforeign : ¬Foreign intent version)
    (hextracting : ¬ActivelyExtracting now command.extractingSeconds intent version)
    (hqueued : ¬(version.status = .queued ∧ command.maxWorkerAttempts ≤ version.attemptCount)) :
    Rearmable now command.extractingSeconds command.maxWorkerAttempts intent version := by
  rcases hstatus : version.status with - | - | - | -
  · refine .inl ⟨hstatus, not_le.1 fun h ↦ hqueued ⟨hstatus, h⟩, ?_⟩
    exact or_iff_not_and_not.2 hforeign
  · have hown := not_and.1 hextracting hstatus
    push Not at hown
    obtain ⟨howned, startedAt, hstarted, hpassed⟩ := hown
    exact .inr ⟨hstatus, howned, startedAt, hstarted, hpassed⟩
  · exact absurd (.inl hstatus) hterminal
  · exact absurd (.inr hstatus) hterminal

/-- **A rearm that returns** passed every check. -/
theorem body_eq_ok (h : body faults now verified workerHolds command db = .ok (grant, db')) :
    ∃ intent version, Rearmed now verified workerHolds command intent version db db' ∧
      grant = intent.recoveryGrants + 1 := by
  obtain ⟨isVerified, hverified, h⟩ := Except.bind_eq_ok_iff.1 h
  obtain ⟨_, hdependencies, h⟩ := Except.bind_eq_ok_iff.1 h
  obtain ⟨-, -, h⟩ := Except.bind_eq_ok_iff.1 h
  obtain ⟨-, -, h⟩ := Except.bind_eq_ok_iff.1 h
  obtain ⟨_, hactor, h⟩ := Except.bind_eq_ok_iff.1 h
  obtain ⟨-, -, h⟩ := Except.bind_eq_ok_iff.1 h
  split at h
  · cases h
  next intent hintent =>
  obtain ⟨hget, horg⟩ := Option.filter_eq_some_iff.1 hintent
  obtain ⟨_, hexhausted, h⟩ := Except.bind_eq_ok_iff.1 h
  obtain ⟨-, -, h⟩ := Except.bind_eq_ok_iff.1 h
  obtain ⟨_, hlease, h⟩ := Except.bind_eq_ok_iff.1 h
  obtain ⟨_, hgrants, h⟩ := Except.bind_eq_ok_iff.1 h
  obtain ⟨-, -, h⟩ := Except.bind_eq_ok_iff.1 h
  obtain ⟨_, hlock, h⟩ := Except.bind_eq_ok_iff.1 h
  obtain ⟨-, -, h⟩ := Except.bind_eq_ok_iff.1 h
  split at h
  · cases h
  next version hversion =>
  obtain ⟨_, hterminal, h⟩ := Except.bind_eq_ok_iff.1 h
  obtain ⟨_, hforeign, h⟩ := Except.bind_eq_ok_iff.1 h
  obtain ⟨_, hextracting, h⟩ := Except.bind_eq_ok_iff.1 h
  obtain ⟨_, hqueued, h⟩ := Except.bind_eq_ok_iff.1 h
  obtain ⟨-, -, h⟩ := Except.bind_eq_ok_iff.1 h
  obtain ⟨event, hevent, h⟩ := Except.bind_eq_ok_iff.1 h
  obtain ⟨-, -, h⟩ := Except.bind_eq_ok_iff.1 h
  obtain ⟨written, hwritten, h⟩ := Except.bind_eq_ok_iff.1 h
  obtain ⟨-, -, h⟩ := Except.bind_eq_ok_iff.1 h
  cases h
  rw [mapError_eq_ok] at hverified hevent hwritten
  rw [refuseWhen_eq_ok] at hdependencies hactor hexhausted hlease hgrants hlock
  rw [refuseWhen_eq_ok] at hterminal hforeign hextracting hqueued
  obtain ⟨-, rfl⟩ := AuditEventService.recordDocumentDispatchRearmed_eq_ok_iff.1 hevent
  push Not at hexhausted
  refine ⟨intent, version, ?_, rfl⟩
  exact
    { verified := hverified.trans (congrArg Except.ok (by simpa using hdependencies))
      actor := IdentityTables.activeMember_isSome_iff.1 (Option.isSome_iff_ne_none.2 hactor)
      intent_eq := hget
      organization := of_decide_eq_true horg
      exhausted := hexhausted
      leaseFree := not_not.1 hlease
      unlocked := by simpa using hlock
      version_eq := hversion
      running := hterminal
      owned := or_iff_not_and_not.2 hforeign
      rearmable := rearmable_of_not_refused hterminal hforeign hextracting hqueued
      granted := not_le.1 hgrants
      written := Database.insertEvent_spec hwritten }

/-- The command as a transaction: one that returns has run its body, and one that raises has left the
database alone. -/
theorem run_cases {outcome : Except RearmFailure ℕ}
    (h : run faults now verified workerHolds command db = (outcome, db')) :
    (∃ grant intent version, outcome = .ok grant ∧
      Rearmed now verified workerHolds command intent version db db') ∨
        (∃ error, outcome = .error error) ∧ db' = db := by
  unfold run Database.transaction at h
  split at h
  · next hbody =>
    cases h
    obtain ⟨intent, version, hrearmed, -⟩ := body_eq_ok hbody
    exact Or.inl ⟨_, intent, version, rfl, hrearmed⟩
  · cases h
    exact Or.inr ⟨⟨_, rfl⟩, rfl⟩

/-- **Rearming is all or nothing, and touches only what it grants.** A command that raises, wherever
it does, leaves the database as it was. One that returns passed every check (`Rearmed`); it granted
the next of at most three publications; of the intent's row it wrote the grant, the resolution, the
lease and the due time, and it wrote no other row but the audit row of the grant. -/
theorem rearm_all_or_nothing (faults : Faults) (now : Instant) (verified : Except Raised Bool)
    (workerHolds : UUID → Bool) (command : RearmCommand) (db : Database) :
    match run faults now verified workerHolds command db with
    | (.error _, db') => db' = db
    | (.ok grant, db') => ∃ intent version,
        Rearmed now verified workerHolds command intent version db db' ∧
        grant = intent.recoveryGrants + 1 ∧ grant ≤ 3 ∧
        db'.intents.get? command.intentId = some { intent with
          recoveryGrants := grant
          unresolvedAt := none
          lastError := none
          lease := none
          availableAt := now } ∧
        (∀ id, id ≠ command.intentId → db'.intents.get? id = db.intents.get? id) ∧
        db'.versions = db.versions ∧
        (db'.identity = db.identity ∧ db'.customers = db.customers ∧ db'.tickets = db.tickets ∧
          db'.ticketMessages = db.ticketMessages ∧ db'.documents = db.documents ∧
          db'.operations = db.operations) ∧
        db'.audit = db.audit ++ [AuditEventService.documentDispatchRearmed command.organizationId
          command.actorUserId version.id grant] := by
  unfold run Database.transaction
  split
  · next _ db' herror =>
    split at herror
    · cases herror
    · cases herror
      rfl
  · next grant db' hok =>
    split at hok
    · next hbody =>
      cases hok
      obtain ⟨intent, version, hrearmed, rfl⟩ := body_eq_ok hbody
      have hid : PrimaryKey.key (intent.rearm now) = command.intentId :=
        show PrimaryKey.key intent = _ from Table.key_of_get? hrearmed.intent_eq
      refine ⟨intent, version, hrearmed, rfl, hrearmed.granted, ?_⟩
      rw [hrearmed.written]
      refine ⟨?_, fun id hne ↦ Table.get?_set_of_ne (hid.symm ▸ hne), rfl,
        ⟨rfl, rfl, rfl, rfl, rfl, rfl⟩,
        rfl⟩
      have hrow : db.intents.get? (PrimaryKey.key (intent.rearm now)) = some intent :=
        hid.symm ▸ hrearmed.intent_eq
      exact hid ▸ Table.get?_set_self hrow
    · cases hok

end RearmCommand

end SupportFlow
