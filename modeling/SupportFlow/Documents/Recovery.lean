import SupportFlow.Documents.Relay

/-!
# The operator's rearm transaction

`rearm_intent` grants one more publication to one exhausted intent. It is a trusted command, and it
refuses unless every check passes: the dependencies were verified, the actor is an active admin of
the active tenant, the intent is unresolved because its attempts ran out, no relay lease is live,
fewer than three grants were made, no worker holds the version's advisory lock, and the version is
neither terminal, nor foreign, nor freshly extracting, nor out of worker attempts. A refusal raises
inside the transaction, so it leaves the database as it was.
-/

namespace SupportFlow

inductive RearmError
  | dependencyVerificationFailed
  | activeTenantAdminRequired
  | onlyExhaustedUnresolved
  | activeRelayLease
  | grantLimitReached
  | activeWorkerDelivery
  | terminalVersion
  | ambiguousWorkerOwnership
  | extractionActiveOrAmbiguous
  | workerBudgetExhausted
  | auditMetadata (error : AuditMetadataError)
  | assertionError
  deriving DecidableEq, Repr

/-- What `rearm_intent` writes: one grant, and the intent is due again. No counter is reset. -/
def DocumentIngestionIntent.rearm (intent : DocumentIngestionIntent) (now : Instant) :
    DocumentIngestionIntent :=
  { intent with
    recoveryGrants := intent.recoveryGrants + 1
    unresolvedAt := none
    lastError := none
    lease := none
    availableAt := now }

@[simp]
theorem DocumentIngestionIntent.rearm_id (intent : DocumentIngestionIntent) (now : Instant) :
    (intent.rearm now).id = intent.id :=
  rfl

/-- The transaction of `rearm_intent`. `workerHolds` says which versions' advisory locks a worker
session holds; the two limits are arguments of the command. -/
def rearmIntent (now : Instant) (organizationId intentId actorUserId : UUID)
    (dependenciesVerified : Bool) (workerHolds : UUID → Bool) (extractingSeconds : ℤ)
    (maxWorkerAttempts : ℕ) (db : Database) : Except RearmError (ℕ × Database) :=
  if dependenciesVerified = false then .error .dependencyVerificationFailed
  else
    match db.identity.activeMember organizationId actorUserId [.admin] with
    | none => .error .activeTenantAdminRequired
    | some _ =>
      match (db.intents.get? intentId).filter
          fun i ↦ decide (i.organizationId = organizationId) with
      | none => .error .onlyExhaustedUnresolved
      | some intent =>
        if intent.unresolvedAt = none ∨ intent.lastError ≠ some .attemptsExhausted ∨
            intent.settledAt ≠ none then .error .onlyExhaustedUnresolved
        else if ¬intent.LeaseFree now then .error .activeRelayLease
        else if 3 ≤ intent.recoveryGrants then .error .grantLimitReached
        else if workerHolds intent.documentVersionId then .error .activeWorkerDelivery
        else
          match IngestionRelay.versionOf db intent with
          | none => .error .assertionError
          | some version =>
            if version.status.Terminal then .error .terminalVersion
            else if version.processingTaskId ≠ none ∧
                version.processingTaskId ≠ some intent.taskId then
              .error .ambiguousWorkerOwnership
            -- A missing start time makes the last disjunct vacuously true, as in the source.
            else if version.status = .extracting ∧
                (version.processingTaskId ≠ some intent.taskId ∨
                  ∀ startedAt ∈ version.processingStartedAt,
                    now < startedAt + seconds extractingSeconds) then
              .error .extractionActiveOrAmbiguous
            else if version.status = .queued ∧ maxWorkerAttempts ≤ version.attemptCount then
              .error .workerBudgetExhausted
            else
              match AuditEventService.recordDocumentDispatchRearmed organizationId actorUserId
                  version.id (intent.recoveryGrants + 1) with
              | .error error => .error (.auditMetadata error)
              | .ok event =>
                .ok (intent.recoveryGrants + 1, (db.setIntent (intent.rearm now)).record event)

/-- What a granted rearm established about the intent's version: it waits in the queue with worker
attempts left, or it is the intent's own extraction past its deadline. -/
def Rearmable (now : Instant) (extractingSeconds : ℤ) (maxWorkerAttempts : ℕ)
    (intent : DocumentIngestionIntent) (version : DocumentVersion) : Prop :=
  version.status = .queued ∧ version.attemptCount < maxWorkerAttempts ∧
      (version.processingTaskId = none ∨ version.processingTaskId = some intent.taskId) ∨
    version.status = .extracting ∧ version.processingTaskId = some intent.taskId ∧
      ∃ startedAt, version.processingStartedAt = some startedAt ∧
        startedAt + seconds extractingSeconds ≤ now

/-- **A granted rearm**: every check passed, and exactly one row and one audit event are written. -/
theorem rearmIntent_spec {now : Instant} {organizationId intentId actorUserId : UUID}
    {dependenciesVerified : Bool} {workerHolds : UUID → Bool} {extractingSeconds : ℤ}
    {maxWorkerAttempts grant : ℕ} {db db' : Database}
    (h : rearmIntent now organizationId intentId actorUserId dependenciesVerified workerHolds
      extractingSeconds maxWorkerAttempts db = .ok (grant, db')) :
    ∃ intent version event, db.intents.get? intentId = some intent ∧
      intent.organizationId = organizationId ∧ intent.unresolvedAt ≠ none ∧
        intent.lastError = some .attemptsExhausted ∧ intent.settledAt = none ∧
          intent.LeaseFree now ∧ intent.recoveryGrants < 3 ∧
            IngestionRelay.versionOf db intent = some version ∧
              Rearmable now extractingSeconds maxWorkerAttempts intent version ∧
                grant = intent.recoveryGrants + 1 ∧ event.action = .documentDispatchRearmed ∧
                  db' = (db.setIntent (intent.rearm now)).record event := by
  unfold rearmIntent at h
  split at h
  · cases h
  split at h
  · cases h
  split at h
  · cases h
  next intent hintent =>
  obtain ⟨hget, horg⟩ := Option.filter_eq_some_iff.1 hintent
  split at h
  · cases h
  next hexhausted =>
  split at h
  · cases h
  next hlease =>
  split at h
  · cases h
  next hgrants =>
  split at h
  · cases h
  split at h
  · cases h
  next version hversion =>
  split at h
  · cases h
  next hterminal =>
  split at h
  · cases h
  next howner =>
  split at h
  · cases h
  next hextracting =>
  split at h
  · cases h
  next hqueued =>
  split at h
  · cases h
  next event hevent =>
  obtain ⟨rfl, rfl⟩ := Prod.mk.inj (Except.ok.inj h)
  push Not at hexhausted
  have hrearmable : Rearmable now extractingSeconds maxWorkerAttempts intent version := by
    cases hstatus : version.status with
    | ready => exact absurd (Or.inl hstatus) hterminal
    | failed => exact absurd (Or.inr hstatus) hterminal
    | queued =>
      refine Or.inl ⟨hstatus, not_le.1 fun hle ↦ hqueued ⟨hstatus, hle⟩, ?_⟩
      by_contra hno
      exact howner (not_or.1 hno)
    | extracting =>
      have hown := not_and.1 hextracting hstatus
      push Not at hown
      obtain ⟨howned, startedAt, hstarted, hpassed⟩ := hown
      exact Or.inr ⟨hstatus, howned, startedAt, hstarted, hpassed⟩
  have haction : event.action = .documentDispatchRearmed := by
    unfold AuditEventService.recordDocumentDispatchRearmed at hevent
    split at hevent
    · cases hevent
    · rw [← Except.ok.inj hevent]
  exact ⟨intent, version, event, hget, by simpa using horg, hexhausted.1, hexhausted.2.1,
    hexhausted.2.2, not_not.1 hlease, not_le.1 hgrants, hversion, hrearmable, rfl, haction, rfl⟩

/-- **A refusal over ownership**: the version is held by another task, or it is being extracted
under another task or within its deadline. -/
theorem rearmIntent_ownership {now : Instant} {organizationId intentId actorUserId : UUID}
    {dependenciesVerified : Bool} {workerHolds : UUID → Bool} {extractingSeconds : ℤ}
    {maxWorkerAttempts : ℕ} {db : Database} {error : RearmError}
    (h : rearmIntent now organizationId intentId actorUserId dependenciesVerified workerHolds
      extractingSeconds maxWorkerAttempts db = .error error)
    (hkind : error = .ambiguousWorkerOwnership ∨ error = .extractionActiveOrAmbiguous) :
    ∃ intent version, db.intents.get? intentId = some intent ∧
      IngestionRelay.versionOf db intent = some version ∧
        (version.processingTaskId ≠ none ∧ version.processingTaskId ≠ some intent.taskId ∧
            error = .ambiguousWorkerOwnership ∨
          version.status = .extracting ∧ error = .extractionActiveOrAmbiguous ∧
            (version.processingTaskId ≠ some intent.taskId ∨
              ∀ startedAt ∈ version.processingStartedAt,
                now < startedAt + seconds extractingSeconds)) := by
  -- The other refusals have other texts.
  have hother : ∀ {other : RearmError}, (Except.error other : Except RearmError (ℕ × Database)) =
      .error error → other ≠ .ambiguousWorkerOwnership → other ≠ .extractionActiveOrAmbiguous →
        False := by
    intro other hsame h₁ h₂
    obtain rfl := Except.error.inj hsame
    exact hkind.elim h₁ h₂
  unfold rearmIntent at h
  split at h
  · exact (hother h (by simp) (by simp)).elim
  split at h
  · exact (hother h (by simp) (by simp)).elim
  split at h
  · exact (hother h (by simp) (by simp)).elim
  next intent hintent =>
  obtain ⟨hget, -⟩ := Option.filter_eq_some_iff.1 hintent
  split at h
  · exact (hother h (by simp) (by simp)).elim
  split at h
  · exact (hother h (by simp) (by simp)).elim
  split at h
  · exact (hother h (by simp) (by simp)).elim
  split at h
  · exact (hother h (by simp) (by simp)).elim
  split at h
  · exact (hother h (by simp) (by simp)).elim
  next version hversion =>
  split at h
  · exact (hother h (by simp) (by simp)).elim
  split at h
  · next howner =>
    exact ⟨intent, version, hget, hversion,
      Or.inl ⟨howner.1, howner.2, (Except.error.inj h).symm⟩⟩
  split at h
  · next hextracting =>
    exact ⟨intent, version, hget, hversion,
      Or.inr ⟨hextracting.1, (Except.error.inj h).symm, hextracting.2⟩⟩
  split at h
  · exact (hother h (by simp) (by simp)).elim
  split at h
  · exact (hother h (by simp) (by simp)).elim
  · cases h

end SupportFlow
