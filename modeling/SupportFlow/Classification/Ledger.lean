import SupportFlow.Classification.Changes
import SupportFlow.Foundations.Sql

/-!
# The ledger of classifications

An operation's row and its audit event are written together or not at all, so each can be read off
the other: a row in progress has no event, a settled row has exactly one, with its state
(`OperationLedger`). Two transactions can settle a row, the completion of its own call and a later
POST that finds its claim expired. Both look at the state under the row's lock, and neither writes a
row that is settled already.

`ClassificationOperation.Settled` says which columns each state has. The table's CHECK constraints
follow from it.
-/

namespace SupportFlow

open Python ClassificationApplication

/-! ### The CHECK constraints -/

namespace ClassificationOperation

variable (operation : ClassificationOperation)

/-- `state`. -/
def stateCheck : Sql.Truth :=
  Sql.isIn (some operation.state.value) ["in_progress", "succeeded", "stale", "failed", "unknown"]

/-- `attempt_count`. -/
def attemptCountCheck : Sql.Truth :=
  Sql.isIn (some operation.attemptCount) [0, 1]

/-- `elapsed_ms`. -/
def elapsedMsCheck : Sql.Truth :=
  Sql.or (Sql.isNull operation.elapsedMs) (Sql.ge (operation.elapsedMs.map Int.ofNat) 0)

/-- `result_pair`. -/
def resultPair : Sql.Truth :=
  let state := some operation.state.value
  let outcome := operation.outcome.map ClassificationOutcome.value
  let category := operation.category.map ClassificationCategory.value
  Sql.or
    (Sql.and (Sql.eq state "succeeded") <| Sql.and (Sql.isNull operation.errorCode) <|
      Sql.and (Sql.isNotNull operation.completedAt) <|
        Sql.or
          (Sql.and (Sql.eq outcome "classified") <| Sql.and (Sql.isNotNull category) <|
            Sql.isIn category ["account_access", "billing", "technical_issue", "how_to",
              "feature_request", "other"])
          (Sql.and (Sql.eq outcome "insufficient_context") (Sql.isNull category)))
    (Sql.and (Sql.ne state "succeeded") (Sql.and (Sql.isNull outcome) (Sql.isNull category)))

/-- `success_outcome`. -/
def successOutcome : Sql.Truth :=
  Sql.or (Sql.ne (some operation.state.value) "succeeded") (Sql.isNotNull operation.outcome)

/-- The row passes every CHECK constraint. -/
def Admitted : Prop :=
  ∀ check ∈ [operation.stateCheck, operation.attemptCountCheck, operation.elapsedMsCheck,
    operation.resultPair, operation.successOutcome], Sql.Passes check

end ClassificationOperation

/-! ### The columns of each state -/

/-- **The columns that each state calls for.** -/
structure ClassificationOperation.Shaped (operation : ClassificationOperation) : Prop where
  attempts : operation.attemptCount ≤ 1
  inProgress : operation.state = .inProgress → operation.errorCode = none
  withoutResult : operation.state ≠ .succeeded → operation.outcome = none ∧
    operation.category = none
  succeeded : operation.state = .succeeded → operation.errorCode = none ∧
    operation.completedAt.isSome ∧ ∃ result : ClassificationResult,
      operation.outcome = some result.outcome ∧ operation.category = result.category

theorem ClassificationClaim.shaped (claim : ClassificationClaim) (now : Instant) :
    (claim.operation now).Shaped where
  attempts := by
    unfold operation
    dsimp only
    split <;> omega
  inProgress _ := rfl
  withoutResult _ := ⟨rfl, rfl⟩
  succeeded h := nomatch h

variable {operation : ClassificationOperation}

/-- An expired claim that is written back keeps its shape. -/
theorem ClassificationOperation.Shaped.materialize (h : operation.Shaped)
    (hstate : operation.state = .inProgress) (now : Instant) :
    (ClassificationApplication.materialize operation now).Shaped where
  attempts := h.attempts
  inProgress hstate := nomatch hstate
  withoutResult _ := h.withoutResult (by rw [hstate]; exact nofun)
  succeeded hstate := nomatch hstate

/-- A row that leaves `in_progress` without a result. -/
theorem ClassificationOperation.Shaped.finish (h : operation.Shaped)
    (hstate : operation.state = .inProgress) {state : ClassificationState}
    (hleft : state ≠ .inProgress) (hnot : state ≠ .succeeded)
    (code : Option ClassificationErrorCode) (elapsedMs : ℕ) (now : Instant) :
    (operation.finish state code elapsedMs now).Shaped where
  attempts := h.attempts
  inProgress hstate := absurd hstate hleft
  withoutResult _ := h.withoutResult (by rw [hstate]; exact nofun)
  succeeded hstate := absurd hstate hnot

/-- **A completion gives the row the columns of its new state**, in each of its six ways. -/
theorem ClassificationOperation.Shaped.settle (h : operation.Shaped)
    (hstate : operation.state = .inProgress) (checks : CompletionChecks)
    (outcome : ProviderOutcome) (elapsedMs : ℕ) (completedAt checkedAt : Instant) :
    (operation.settle checks outcome elapsedMs completedAt checkedAt).Shaped := by
  unfold ClassificationOperation.settle
  split
  · exact h.finish hstate (by decide) (by decide) _ _ _
  · split
    · exact h.finish hstate (by decide) (by decide) _ _ _
    · split
      · exact h.finish hstate (by decide) (by decide) _ _ _
      · cases outcome with
        | failure code uncertain =>
          cases uncertain with
          | true => exact h.finish hstate (by decide) (by decide) _ _ _
          | false => exact h.finish hstate (by decide) (by decide) _ _ _
        | result result =>
          exact ⟨h.attempts, fun hstate ↦ (nomatch hstate), fun hnot ↦ absurd rfl hnot,
            fun _ ↦ ⟨h.inProgress hstate, rfl, result, rfl, rfl⟩⟩

/-- A stored category is one of the six labels. -/
theorem ClassificationCategory.value_mem (category : ClassificationCategory) :
    category.value ∈ ["account_access", "billing", "technical_issue", "how_to",
      "feature_request", "other"] := by
  cases category <;> decide

theorem ClassificationState.value_succeeded {state : ClassificationState} :
    state.value = "succeeded" ↔ state = .succeeded := by
  cases state <;> decide

/-- **A row with the columns of its state passes every CHECK constraint.** -/
theorem ClassificationOperation.Shaped.admitted (h : operation.Shaped) : operation.Admitted := by
  have hstate : operation.stateCheck = some true := by
    refine Sql.isIn_eq_true.2 ⟨_, rfl, ?_⟩
    cases operation.state <;> decide
  have hattempts : operation.attemptCountCheck = some true := by
    have hle := h.attempts
    exact Sql.isIn_eq_true.2 ⟨_, rfl, by simp; omega⟩
  have helapsed : operation.elapsedMsCheck = some true := by
    refine Sql.or_eq_true.2 ?_
    rcases operation.elapsedMs with - | n
    · exact Or.inl rfl
    · exact Or.inr (Sql.ge_eq_true.2 ⟨_, rfl, Int.natCast_nonneg n⟩)
  have hpair : operation.resultPair = some true ∧ operation.successOutcome = some true := by
    unfold ClassificationOperation.resultPair ClassificationOperation.successOutcome
    by_cases hsucceeded : operation.state = .succeeded
    · obtain ⟨hcode, hcompleted, result, houtcome, hcategory⟩ := h.succeeded hsucceeded
      have hmatch := result.category_matches_outcome
      have heq : Sql.eq (some operation.state.value) "succeeded" = some true :=
        Sql.eq_eq_true.2 (by rw [hsucceeded]; rfl)
      simp only [Sql.or_eq_true, Sql.and_eq_true, heq, Sql.isNull_eq_true, hcode,
        Sql.isNotNull_eq_true, hcompleted, houtcome, hcategory, true_and, Option.map_some,
        Option.isSome_some, or_true, and_true, Sql.eq_eq_true]
      refine Or.inl ?_
      cases hcase : result.outcome with
      | classified =>
        obtain ⟨category, hsome⟩ := Option.isSome_iff_exists.1 (hmatch.1 hcase)
        rw [hsome]
        exact Or.inl ⟨rfl, rfl, Sql.isIn_eq_true.2 ⟨_, rfl, category.value_mem⟩⟩
      | insufficientContext =>
        have hnone : result.category = none := by
          rw [← Option.not_isSome_iff_eq_none, ← hmatch, hcase]
          decide
        rw [hnone]
        exact Or.inr ⟨rfl, rfl⟩
    · obtain ⟨houtcome, hcategory⟩ := h.withoutResult hsucceeded
      have hne : Sql.ne (some operation.state.value) "succeeded" = some true :=
        Sql.ne_eq_true.2 ⟨_, rfl, fun hvalue ↦
          hsucceeded (ClassificationState.value_succeeded.1 hvalue)⟩
      simp only [houtcome, hcategory, Option.map_none, Sql.or_eq_true, Sql.and_eq_true, hne]
      exact ⟨Or.inr ⟨trivial, rfl, rfl⟩, Or.inl trivial⟩
  intro check hcheck
  simp only [List.mem_cons, List.not_mem_nil, or_false] at hcheck
  rcases hcheck with rfl | rfl | rfl | rfl | rfl
  · exact Sql.passes_of_true hstate
  · exact Sql.passes_of_true hattempts
  · exact Sql.passes_of_true helapsed
  · exact Sql.passes_of_true hpair.1
  · exact Sql.passes_of_true hpair.2

/-! ### Rows and events -/

/-- The events that record the end of one operation, oldest first. -/
def finishedEvents (id : UUID) (log : List AuditEvent) : List AuditEvent :=
  log.filter fun event ↦
    decide (event.action = .classificationFinished ∧ event.resourceId = some id)

/-- Events of other actions are no end of an operation. -/
theorem finishedEvents_append_others (id : UUID) (log : List AuditEvent) {events : List AuditEvent}
    (h : ∀ e ∈ events, e.action ≠ .classificationFinished) :
    finishedEvents id (log ++ events) = finishedEvents id log := by
  have hnone : finishedEvents id events = [] := by
    refine List.filter_eq_nil_iff.2 fun e he ↦ ?_
    simp [h e he]
  rw [finishedEvents, List.filter_append]
  exact (congrArg _ hnone).trans (List.append_nil _)

/-- The event of an operation. -/
def ClassificationOperation.finished (operation : ClassificationOperation) : AuditEvent :=
  AuditEventService.classificationFinished operation.organizationId
    operation.requestingActorUserId operation.id operation.state

/-- **The ledger**: every row has the columns of its state, and its event exactly when it is
settled. -/
structure OperationLedger (db : Database) : Prop where
  shaped : ∀ operation ∈ db.operations, operation.Shaped
  recorded : ∀ operation ∈ db.operations, finishedEvents operation.id db.audit =
    if operation.state = .inProgress then [] else [operation.finished]
  /-- An id without a row has no event. -/
  unused : ∀ id, db.operations.get? id = none → finishedEvents id db.audit = []

variable {sha256 : String → String} {loads : String → Option Json} {w w' : ClassificationWorld}
  {e : ClassificationEvent}

/-- **What a step does to the ledger**: nothing, or it opens a row, or it settles one that is in
progress, with its event. -/
inductive LedgerChange (db db' : Database) : Prop
  | frame (operations : db'.operations = db.operations)
      (events : ∀ id, finishedEvents id db'.audit = finishedEvents id db.audit)
  | opened {claim : ClassificationClaim} {now : Instant}
      (insert : db.insertOperation? (claim.operation now) = some db')
  | settled {operation written : ClassificationOperation} (row : operation ∈ db.operations)
      (state : operation.state = .inProgress) (left : written.state ≠ .inProgress)
      (same : SameWork operation written) (shape : operation.Shaped → written.Shaped)
      (written_eq : db' = ClassificationApplication.settled written db)

theorem ClassificationStep.ledger (h : ClassificationStep sha256 loads w e w')
    (hw : Classified sha256 w) : LedgerChange w.db w'.db := by
  cases h with
  | environment identity tickets ticketMessages others =>
    exact .frame rfl fun id ↦ finishedEvents_append_others id _ others
  | @claim c request operationId viewedAt writtenAt result db stage run =>
    obtain ⟨made, -, -, -, -, -, -, hresult⟩ := claim_spec run
    rcases hresult with ⟨operation, hfind, hresume⟩ | ⟨rfl, hinsert⟩
    · obtain ⟨view, rfl, -, rfl | ⟨hstate, rfl⟩⟩ := resume_spec hresume
      · exact .frame rfl fun _ ↦ rfl
      · exact .settled (findOperation_eq_some hfind).1 hstate (by simp [materialize])
          (materialize_sameWork _ _) (fun hshape ↦ hshape.materialize hstate _) rfl
    · exact .opened hinsert
  | @complete c elapsedMs request claim outcome completedAt checkedAt authorized view db stage
      run =>
    obtain ⟨operation, hbacked⟩ := hw.backed c claim ⟨_, stage, rfl⟩
    obtain ⟨left, v, db', hrun, -, hcompletion⟩ := complete_spec sha256 claim outcome elapsedMs
      completedAt checkedAt hbacked.row hbacked.organizationId hbacked.not_succeeded
    rw [run] at hrun
    cases hrun
    cases hcompletion with
    | late state => exact .frame rfl fun _ ↦ rfl
    | settle state checks =>
      exact .settled (Table.mem_of_get? hbacked.row) state (settle_state_ne _ _ _ _ _ _)
        (settle_sameWork _ _ _ _ _ _) (fun hshape ↦ hshape.settle state _ _ _ _ _) rfl
  | arrive | openClaim | claimRaised | invoke | answer | shortcut | openCompletion
  | completeRaised | read | die => exact .frame rfl fun _ ↦ rfl

/-- The event a settlement adds is the settled row's. -/
theorem finishedEvents_settled (id : UUID) (written : ClassificationOperation) (db : Database) :
    finishedEvents id (ClassificationApplication.settled written db).audit =
      finishedEvents id db.audit ++ if id = written.id then [written.finished] else [] := by
  have hlog : (ClassificationApplication.settled written db).audit =
      db.audit ++ [written.finished] := rfl
  rw [hlog, finishedEvents, finishedEvents, List.filter_append, List.filter_singleton]
  by_cases hid : id = written.id
  · have hown : written.finished.action = .classificationFinished ∧
        written.finished.resourceId = some id := ⟨rfl, congrArg some hid.symm⟩
    rw [if_pos hid, decide_eq_true hown, cond_true]
  · rw [if_neg hid, decide_eq_false fun h ↦ hid (Option.some.inj h.2).symm, cond_false]

theorem OperationLedger.change {db db' : Database} (h : OperationLedger db)
    (hchange : LedgerChange db db') : OperationLedger db' := by
  cases hchange with
  | frame operations events =>
    refine ⟨fun o ho ↦ h.shaped o (operations ▸ ho), fun o ho ↦ ?_, fun id hid ↦ ?_⟩
    · rw [events]
      exact h.recorded o (operations ▸ ho)
    · rw [events]
      exact h.unused id (operations ▸ hid)
  | @opened claim now insert =>
    obtain ⟨-, hfree, operations, hinsert, rfl⟩ := insertOperation?_eq_some insert
    refine ⟨fun o ho ↦ ?_, fun o ho ↦ ?_, fun id hid ↦ ?_⟩
    · rcases (Table.mem_insert? hinsert).1 ho with hold | rfl
      · exact h.shaped o hold
      · exact claim.shaped now
    · rcases (Table.mem_insert? hinsert).1 ho with hold | rfl
      · exact h.recorded o hold
      · exact h.unused _ hfree
    · refine h.unused id ?_
      rw [Table.get?_of_insert? hinsert] at hid
      split at hid
      · cases hid
      · exact hid
  | @settled operation written row state left same shape written_eq =>
    subst written_eq
    refine ⟨fun o ho ↦ ?_, fun o ho ↦ ?_, fun id hid ↦ ?_⟩
    · rcases (mem_settled row same).1 ho with rfl | ⟨hold, -⟩
      · exact shape (h.shaped operation row)
      · exact h.shaped o hold
    · rw [finishedEvents_settled]
      rcases (mem_settled row same).1 ho with rfl | ⟨hold, hne⟩
      · -- The row was in progress, so its event is the first.
        rw [if_pos rfl, if_neg left, same.id, h.recorded operation row, if_pos state,
          List.nil_append]
      · rw [if_neg fun heq ↦ hne (heq.trans same.id), List.append_nil]
        exact h.recorded o hold
    · rw [finishedEvents_settled, if_neg ?_, List.append_nil]
      · refine h.unused id ?_
        rw [settled_operations, Table.get?_set] at hid
        split at hid
        · exact Option.map_eq_none_iff.1 hid
        · exact hid
      · rintro rfl
        have hwritten : written ∈ (ClassificationApplication.settled written db).operations :=
          (mem_settled row same).2 (Or.inl rfl)
        exact absurd (hid.symm.trans (Table.get?_key hwritten)) (by simp)

/-- **The ledger balances in every state** that a run from a balanced ledger reaches. -/
theorem run_ledger {w₀ : ClassificationWorld} {ls : List ClassificationEvent}
    (h₀ : (classification sha256 loads).init w₀) (hledger : OperationLedger w₀.db)
    (hrun : (classification sha256 loads).Run w₀ ls w) : OperationLedger w.db := by
  refine TransitionSystem.Run.invariant_from (I := fun w ↦ OperationLedger w.db) (.of_init h₀)
    hledger (fun a l b ha _ hI hstep ↦ ?_) hrun
  exact hI.change (ClassificationStep.ledger hstep (reachable_classified ha))

/-- An empty table, and no events of it, is a balanced ledger. -/
theorem OperationLedger.of_empty {db : Database} (hrows : db.operations.rows = [])
    (hevents : ∀ event ∈ db.audit, event.action ≠ .classificationFinished) :
    OperationLedger db := by
  have hnone : ∀ operation, operation ∉ db.operations := fun operation hmem ↦
    absurd (hrows ▸ (show operation ∈ db.operations.rows from hmem)) List.not_mem_nil
  exact ⟨fun o ho ↦ absurd ho (hnone o), fun o ho ↦ absurd ho (hnone o),
    fun id _ ↦ finishedEvents_append_others id [] hevents⟩

/-! ### Settled rows stay -/

/-- No transaction writes a settled row. -/
theorem LedgerChange.settled_kept {db db' : Database} (h : LedgerChange db db')
    (hrow : operation ∈ db.operations) (hstate : operation.state ≠ .inProgress) :
    operation ∈ db'.operations := by
  cases h with
  | frame operations events => exact operations ▸ hrow
  | opened insert =>
    obtain ⟨-, -, operations, hinsert, rfl⟩ := insertOperation?_eq_some insert
    exact (Table.mem_insert? hinsert).2 (Or.inl hrow)
  | @settled other written row state left same shape written_eq =>
    subst written_eq
    refine (mem_settled row same).2 (Or.inr ⟨hrow, fun hid ↦ hstate ?_⟩)
    rw [Table.eq_of_key_eq hrow row hid, state]

/-- What later states hold in the place of a row: the same work, and the same row if it was settled
by then. -/
def RowAfter (operation : ClassificationOperation) (db : Database) : Prop :=
  ∃ operation' ∈ db.operations, SameWork operation operation' ∧
    (operation.state ≠ .inProgress → operation' = operation)

theorem run_row {w₀ : ClassificationWorld} {ls : List ClassificationEvent}
    (hw : (classification sha256 loads).Reachable w₀) (hrow : operation ∈ w₀.db.operations)
    (hrun : (classification sha256 loads).Run w₀ ls w) : RowAfter operation w.db := by
  refine TransitionSystem.Run.invariant_from (I := fun w ↦ RowAfter operation w.db) hw
    ⟨operation, hrow, .refl _, fun _ ↦ rfl⟩ (fun a l b ha _ hI hstep ↦ ?_) hrun
  have hclassified := reachable_classified ha
  obtain ⟨current, hcurrent, hsame, hkept⟩ := hI
  by_cases hstate : operation.state = .inProgress
  · obtain ⟨next, hnext, hsame', -⟩ := ClassificationStep.row_after hstep hclassified hcurrent
    exact ⟨next, hnext, hsame.trans hsame', fun hsettled ↦ absurd hstate hsettled⟩
  · obtain rfl := hkept hstate
    exact ⟨current, (ClassificationStep.ledger hstep hclassified).settled_kept hcurrent hstate,
      .refl _, fun _ ↦ rfl⟩

/-- **The life of a classification operation**, over every interleaving of calls. In every reached
state a row passes the table's constraints, and has its one event, with its state, exactly when it
is settled. It is never deleted, and from its settlement on it never changes. A read writes
nothing. -/
theorem classification_lifecycle {w₀ : ClassificationWorld} {ls : List ClassificationEvent}
    (h₀ : (classification sha256 loads).init w₀) (hledger : OperationLedger w₀.db)
    (hrun : (classification sha256 loads).Run w₀ ls w) :
    (∀ operation ∈ w.db.operations, operation.Admitted ∧
      finishedEvents operation.id w.db.audit =
        (if operation.state = .inProgress then [] else [operation.finished]) ∧
      ∀ ms w', (classification sha256 loads).Run w ms w' → ∃ operation' ∈ w'.db.operations,
        operation'.id = operation.id ∧
          (operation.state ≠ .inProgress → operation' = operation)) ∧
    ∀ request response w', (classification sha256 loads).step w (.read request response) w' →
      w' = w := by
  have hbalanced := run_ledger h₀ hledger hrun
  refine ⟨fun operation hrow ↦ ⟨(hbalanced.shaped operation hrow).admitted,
    hbalanced.recorded operation hrow, fun ms w' hlater ↦ ?_⟩, fun request response w' hstep ↦ ?_⟩
  · obtain ⟨operation', hrow', hsame, hkept⟩ := run_row ⟨w₀, ls, h₀, hrun⟩ hrow hlater
    exact ⟨operation', hrow', hsame.id, hkept⟩
  · cases hstep with
    | read run => rfl

theorem classification_lifecycle_sample :
    ∃ w, (classification ClassificationSample.sha256 ClassificationSample.loads).Run
        ClassificationSample.start ClassificationSample.invoking w ∧
      (ClassificationSample.claim.operation 0).Admitted ∧
        finishedEvents (uuid 20) w.db.audit = [] := by
  obtain ⟨w, hrun, hdb, -⟩ := ClassificationSample.run_invoked
  have hrow : ClassificationSample.claim.operation 0 ∈ w.db.operations := by
    rw [hdb]
    exact List.mem_singleton_self _
  obtain ⟨hadmitted, hevents, -⟩ :=
    (classification_lifecycle ClassificationSample.start_init
      (.of_empty rfl fun _ h ↦ absurd h List.not_mem_nil) hrun).1 _ hrow
  exact ⟨w, hrun, hadmitted, hevents⟩

end SupportFlow
