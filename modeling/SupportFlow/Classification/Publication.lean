import SupportFlow.Classification.Changes

/-!
# What is published

A result is computed outside any transaction and published later, so everything it rests on may have
changed by then. The completion looks again, in one transaction: at the actor, the clock, the
ticket's input and the runtime. A view looks again too: a row is shown as current only when its
fingerprint and digest are those computed in the same transaction.
-/

namespace SupportFlow

open Python ClassificationApplication

variable {sha256 : String → String} {loads : String → Option Json}
  {u v : ClassificationWorld} {e : ClassificationEvent}

/-- An actor may classify: an active admin or agent of an active organization. -/
def MayClassify (db : Database) (organizationId actorId : UUID) : Prop :=
  db.identity.IsActiveMember organizationId actorId [.admin, .agent]

theorem authorized_iff {organizationId actorId : UUID} {db : Database} :
    authorized organizationId actorId db = true ↔ MayClassify db organizationId actorId :=
  IdentityTables.activeMember_isSome_iff

/-- An operation's input is the ticket's current one. -/
def InputIsCurrent (sha256 : String → String) (db : Database)
    (operation : ClassificationOperation) : Prop :=
  ∃ ticket prepared,
    TicketRepository.getTicket operation.organizationId operation.ticketId db = some ticket ∧
      ticketInput sha256 ticket db = .ok prepared ∧
        prepared.fingerprint = operation.inputFingerprint

/-- A response to a request shows the current classification: a succeeded operation of the ticket
whose fingerprint and digest are computed from the ticket and the request's runtime in `db`. -/
def ShowsCurrent (sha256 : String → String) (db : Database) (request : ClassifyRequest)
    (view : ClassificationView) : Prop :=
  ∃ operation ∈ db.operations, view.resultId = some operation.id ∧
    operation.state = .succeeded ∧ operation.organizationId = request.organizationId ∧
      operation.ticketId = request.ticketId ∧ InputIsCurrent sha256 db operation ∧
        ∃ configured, request.runtime = some configured ∧
          operation.configDigest = configured.digest sha256

/-! ### The completion -/

/-- **A completion succeeds only for an authorized actor, before the deadline, on the current
input.** -/
theorem Backed.succeeds {db : Database} {claim : ClassificationClaim}
    {operation : ClassificationOperation} {checks : CompletionChecks} {outcome : ProviderOutcome}
    {elapsedMs : ℕ} {completedAt checkedAt : Instant} (h : Backed sha256 db claim operation)
    (run : completionChecks sha256 claim db = .ok checks)
    (hstate :
      (operation.settle checks outcome elapsedMs completedAt checkedAt).state = .succeeded) :
    MayClassify db operation.organizationId operation.requestingActorUserId ∧
      checkedAt < operation.expiresAt ∧ InputIsCurrent sha256 db operation := by
  obtain ⟨hauth, hdeadline, hchanged, -⟩ := settle_succeeded hstate
  obtain ⟨checks', hrun, hchecks, hinput⟩ := completionChecks_spec sha256 claim db
  obtain rfl : checks' = checks := Except.ok.inj (hrun.symm.trans run)
  obtain ⟨-, t, prepared, hget, hprepared, hfingerprint⟩ := hinput hchanged
  refine ⟨?_, hdeadline, t, prepared, ?_, hprepared, hfingerprint.trans h.inputFingerprint.symm⟩
  · rw [h.organizationId, h.actor, ← authorized_iff, ← hchecks]
    exact hauth
  · rw [h.organizationId, h.ticketId]
    exact hget

/-- Being current is about the work of a row. -/
theorem InputIsCurrent.sameWork {db : Database} {a b : ClassificationOperation}
    (h : InputIsCurrent sha256 db a) (hsame : SameWork a b) : InputIsCurrent sha256 db b := by
  unfold InputIsCurrent
  rw [hsame.organizationId, hsame.ticketId, hsame.inputFingerprint]
  exact h

/-- A row becomes succeeded only in its own completion, past every check. -/
theorem ClassificationStep.published (h : ClassificationStep sha256 loads u e v)
    (hu : Classified sha256 u) {operation : ClassificationOperation}
    (hrow : operation ∈ v.db.operations) (hstate : operation.state = .succeeded)
    (hbefore : ∀ old ∈ u.db.operations, old.id = operation.id → old.state ≠ .succeeded) :
    ∃ c claim checkedAt response, e = .complete c claim checkedAt response ∧
      claim.operationId = operation.id ∧ claim.actorId = operation.requestingActorUserId ∧
      MayClassify u.db operation.organizationId operation.requestingActorUserId ∧
      checkedAt < operation.expiresAt ∧ InputIsCurrent sha256 u.db operation := by
  have hkept : operation ∉ u.db.operations := fun hold ↦ hbefore operation hold rfl hstate
  cases h.change hu with
  | frame operations => exact absurd (operations ▸ hrow) hkept
  | inserted event computed insert =>
    obtain ⟨-, -, operations, hinsert, hdb⟩ := insertOperation?_eq_some insert
    rw [hdb] at hrow
    rcases (Table.mem_insert? hinsert).1 hrow with hold | rfl
    · exact absurd hold hkept
    · cases hstate
  | materialized event row state hdb =>
    rcases (mem_settled row (materialize_sameWork _ _)).1 (hdb ▸ hrow) with rfl | ⟨hold, -⟩
    · cases hstate
    · exact absurd hold hkept
  | @completed c elapsedMs claim completedAt checkedAt response found checks outcome event held row
      state run hdb =>
    have hsame := settle_sameWork found checks outcome elapsedMs completedAt checkedAt
    rcases (mem_settled (Table.mem_of_get? row) hsame).1 (hdb ▸ hrow) with rfl | ⟨hold, -⟩
    · obtain ⟨operation', hbacked⟩ := hu.backed c claim held
      obtain rfl : operation' = found := Option.some.inj (hbacked.row.symm.trans row)
      obtain ⟨hmay, hdeadline, hcurrent⟩ := hbacked.succeeds run hstate
      refine ⟨c, claim, checkedAt, response, event, ?_, ?_, ?_, ?_, hcurrent.sameWork hsame⟩
      · exact (hsame.id.trans (Table.key_of_get? row)).symm
      · exact (hsame.requestingActorUserId.trans hbacked.actor).symm
      · rw [hsame.organizationId, hsame.requestingActorUserId]
        exact hmay
      · rw [hsame.expiresAt]
        exact hdeadline
    · exact absurd hold hkept

/-! ### The responses -/

/-- A settlement leaves the tickets and their messages alone. -/
theorem inputIsCurrent_settled {db : Database} {written operation : ClassificationOperation} :
    InputIsCurrent sha256 (settled written db) operation ↔ InputIsCurrent sha256 db operation :=
  Iff.rfl

/-- The row a transaction finds under the identity it computed is current. -/
theorem showsCurrent_of_find {db : Database} {request : ClassifyRequest} {ticket : Ticket}
    {prepared : PreparedInput} {configured : FakeClassificationRuntime}
    {operation : ClassificationOperation} {view : ClassificationView}
    (hget : TicketRepository.getTicket request.organizationId request.ticketId db = some ticket)
    (hinput : ticketInput sha256 ticket db = .ok prepared)
    (hruntime : request.runtime = some configured)
    (hfind : db.findOperation ⟨request.organizationId, request.ticketId, prepared.fingerprint,
      configured.digest sha256⟩ = some operation)
    (hstate : operation.state = .succeeded) (hid : view.resultId = some operation.id) :
    ShowsCurrent sha256 db request view := by
  obtain ⟨hrow, hidentity⟩ := findOperation_eq_some hfind
  have horg : operation.organizationId = request.organizationId :=
    congrArg ClassificationIdentity.organizationId hidentity
  have hticket : operation.ticketId = request.ticketId :=
    congrArg ClassificationIdentity.ticketId hidentity
  have hprint : operation.inputFingerprint = prepared.fingerprint :=
    congrArg ClassificationIdentity.inputFingerprint hidentity
  have hdigest : operation.configDigest = configured.digest sha256 :=
    congrArg ClassificationIdentity.configDigest hidentity
  refine ⟨operation, hrow, hid, hstate, horg, hticket, ⟨ticket, prepared, ?_, hinput, hprint.symm⟩,
    configured, hruntime, hdigest⟩
  rw [horg, hticket]
  exact hget

/-- The view a completion leaves shows the current classification, when it is current. -/
theorem showsCurrent_of_completion {claim : ClassificationClaim} {outcome : ProviderOutcome}
    {elapsedMs : ℕ} {completedAt checkedAt : Instant} {operation left : ClassificationOperation}
    {db db' : Database} {view : ClassificationView}
    (h : Completion sha256 claim outcome elapsedMs completedAt checkedAt operation db left db')
    (hbacked : Backed sha256 db claim operation)
    (hview : ClassificationApplication.view (some claim.runtime) (some left) true checkedAt =
      .ok view) (hcurrent : view.state = .current) :
    ShowsCurrent sha256 db' claim.request view := by
  obtain ⟨row, hrow, -, hstate, hid⟩ := view_current hview hcurrent
  obtain rfl := Option.some.inj hrow
  cases h with
  | late state => exact absurd hstate hbacked.not_succeeded
  | @settle checks state run =>
    have hsame := settle_sameWork operation checks outcome elapsedMs completedAt checkedAt
    obtain ⟨-, -, hinput⟩ := hbacked.succeeds run hstate
    refine ⟨_, (mem_settled (Table.mem_of_get? hbacked.row) hsame).2 (.inl rfl), hid, hstate,
      hsame.organizationId.trans hbacked.organizationId, hsame.ticketId.trans hbacked.ticketId,
      inputIsCurrent_settled.2 (hinput.sameWork hsame), claim.runtime, rfl,
      hsame.configDigest.trans hbacked.configDigest⟩

/-- What a step's response may show. -/
theorem ClassificationStep.responded (h : ClassificationStep sha256 loads u e v)
    (hu : Classified sha256 u) {request : ClassifyRequest} {view : ClassificationView}
    (hresponse : e.response? = some (request, .ok view)) :
    (view.result.isSome ↔ view.state = .current) ∧
      (view.state = .current → ShowsCurrent sha256 v.db request view) := by
  cases h with
  | @claim c request' operationId viewedAt writtenAt result db stage run =>
    obtain ⟨made, -, horg, -, hticket, hruntime, hcomputed, hresult⟩ := claim_spec run
    rcases hresult with ⟨operation, hfind, hresume⟩ | ⟨rfl, -⟩
    · obtain ⟨shown, rfl, hview, hdb⟩ := resume_spec hresume
      obtain ⟨hrequest, hreturned⟩ := Prod.mk.inj (Option.some.inj hresponse)
      subst hrequest
      obtain ⟨rfl, hcurrent⟩ := returnOrError_eq_ok hreturned
      refine ⟨view_result hview, fun _ ↦ ?_⟩
      obtain ⟨row, hrow, -, hstate, hid⟩ := view_current hview hcurrent
      obtain rfl := Option.some.inj hrow
      obtain ⟨t, hget, hinput⟩ := hcomputed.input
      rcases hdb with rfl | ⟨hprogress, -⟩
      · rw [ClassificationClaim.identity, horg, hticket, hcomputed.digest] at hfind
        rw [horg, hticket] at hget
        exact showsCurrent_of_find hget hinput hruntime hfind hstate hid
      · rw [hstate] at hprogress
        cases hprogress
    · cases hresponse
  | @complete c elapsedMs request' claim outcome completedAt checkedAt authorized shown db stage
      run =>
    obtain ⟨operation, hbacked⟩ := hu.backed c claim ⟨_, stage, rfl⟩
    obtain ⟨left, v', db', hrun, hview, hcompletion⟩ := complete_spec sha256 claim outcome
      elapsedMs completedAt checkedAt hbacked.row hbacked.organizationId hbacked.not_succeeded
    rw [run] at hrun
    cases hrun
    obtain ⟨hrequest, hreturned⟩ := Prod.mk.inj (Option.some.inj hresponse)
    subst hrequest
    obtain ⟨-, rfl, hcurrent⟩ := respond_eq_ok hreturned
    exact ⟨view_result hview, showsCurrent_of_completion hcompletion hbacked hview⟩
  | read run =>
    cases hresponse
    obtain ⟨hresult, hcurrent⟩ := read_eq_ok run
    refine ⟨hresult, fun hstate ↦ ?_⟩
    obtain ⟨t, prepared, configured, operation, hget, hinput, hruntime, hfind, hsucceeded, hid⟩ :=
      hcurrent hstate
    exact showsCurrent_of_find hget hinput hruntime hfind hsucceeded hid
  | environment | arrive | openClaim | claimRaised | invoke | answer | shortcut | openCompletion
  | completeRaised | die => cases hresponse

/-- An actor who is not authorized at the completion gets a 403, whatever the outcome. -/
theorem ClassificationStep.withheld {c : ℕ} {claim : ClassificationClaim} {checkedAt : Instant}
    {response : ClassificationResponse}
    (h : ClassificationStep sha256 loads u (.complete c claim checkedAt response) v)
    (hu : Classified sha256 u) (hlost : ¬MayClassify u.db claim.organizationId claim.actorId) :
    response = .error (.application .classificationForbidden 403) := by
  have hauth : authorized claim.organizationId claim.actorId u.db = false := by
    rw [← Bool.not_eq_true, authorized_iff]
    exact hlost
  have committed : ∀ (outcome : ProviderOutcome) (elapsedMs : ℕ) (completedAt : Instant),
      u.Holds c claim → ∃ view db, ClassificationApplication.complete sha256 claim outcome elapsedMs
        completedAt checkedAt u.db = .ok ((false, view), db) := by
    intro outcome elapsedMs completedAt hheld
    obtain ⟨operation, hbacked⟩ := hu.backed c claim hheld
    obtain ⟨-, view, db, hrun, -⟩ := complete_spec sha256 claim outcome elapsedMs completedAt
      checkedAt hbacked.row hbacked.organizationId hbacked.not_succeeded
    exact ⟨view, db, hauth ▸ hrun⟩
  cases h with
  | complete stage run =>
    obtain ⟨view, db, hrun⟩ := committed _ _ _ ⟨_, stage, rfl⟩
    rw [run] at hrun
    cases hrun
    rfl
  | completeRaised stage run =>
    obtain ⟨view, db, hrun⟩ := committed _ _ _ ⟨_, stage, rfl⟩
    rw [run] at hrun
    cases hrun

/-- **No stale or unauthorized classification is published.** In any reachable state: an operation
becomes succeeded only in the completion of its own call, by an actor who may classify, before the
deadline and on the ticket's current input; a view is current, and has a result, only for the
current classification; and an actor who lost authorization by the completion gets a 403. -/
theorem published_current_and_authorized (hu : (classification sha256 loads).Reachable u)
    (h : (classification sha256 loads).step u e v) :
    (∀ operation ∈ v.db.operations, operation.state = .succeeded →
      (∀ old ∈ u.db.operations, old.id = operation.id → old.state ≠ .succeeded) →
        ∃ c claim checkedAt response, e = .complete c claim checkedAt response ∧
          claim.operationId = operation.id ∧ claim.actorId = operation.requestingActorUserId ∧
          MayClassify u.db operation.organizationId operation.requestingActorUserId ∧
          checkedAt < operation.expiresAt ∧ InputIsCurrent sha256 u.db operation) ∧
      (∀ request view, e.response? = some (request, .ok view) →
        (view.result.isSome ↔ view.state = .current) ∧
          (view.state = .current → ShowsCurrent sha256 v.db request view)) ∧
        ∀ c claim checkedAt response, e = .complete c claim checkedAt response →
          ¬MayClassify u.db claim.organizationId claim.actorId →
            response = .error (.application .classificationForbidden 403) := by
  have hclassified := reachable_classified hu
  have hstep : ClassificationStep sha256 loads u e v := h
  refine ⟨fun operation hrow hstate hbefore ↦ hstep.published hclassified hrow hstate hbefore,
    fun request view hresponse ↦ hstep.responded hclassified hresponse, ?_⟩
  rintro c claim checkedAt response rfl hlost
  exact hstep.withheld hclassified hlost

theorem published_current_and_authorized_sample :
    ∃ u e v operation,
      (classification ClassificationSample.sha256 ClassificationSample.loads).Reachable u ∧
        (classification ClassificationSample.sha256 ClassificationSample.loads).step u e v ∧
          operation ∈ v.db.operations ∧ operation.state = .succeeded ∧
            InputIsCurrent ClassificationSample.sha256 u.db operation := by
  obtain ⟨u, ls, hrun₀, hdb, hcall⟩ := ClassificationSample.run_completing
  have hu : (classification ClassificationSample.sha256 ClassificationSample.loads).Reachable u :=
    ⟨_, ls, ClassificationSample.start_init, hrun₀⟩
  have hget : u.db.operations.get? (uuid 20) = some (ClassificationSample.claim.operation 0) :=
    hdb ▸ rfl
  obtain ⟨left, view, db, hrun, -, hcompletion⟩ := complete_spec ClassificationSample.sha256
    ClassificationSample.claim (.result ClassificationSample.result) 12 5 5 hget rfl nofun
  have hstep : ClassificationStep ClassificationSample.sha256 ClassificationSample.loads u
      (.complete 0 ClassificationSample.claim 5 _) _ := .complete hcall hrun
  have hchecks : completionChecks ClassificationSample.sha256 ClassificationSample.claim u.db =
      .ok ⟨true, false⟩ := by
    rw [hdb]
    decide +kernel
  cases hcompletion with
  | late state => exact absurd rfl state
  | @settle checks state run =>
    obtain rfl : ⟨true, false⟩ = checks := Except.ok.inj (hchecks.symm.trans run)
    have hrow := (mem_settled (Table.mem_of_get? hget) (settle_sameWork _ ⟨true, false⟩
      (.result ClassificationSample.result) 12 5 5)).2 (.inl rfl)
    obtain ⟨-, -, -, -, -, -, -, -, -, hcurrent⟩ :=
      (published_current_and_authorized hu hstep).1 _ hrow rfl fun old hold hid ↦ by
        obtain rfl := Table.eq_of_key_eq hold (Table.mem_of_get? hget) hid
        exact nofun
    exact ⟨u, _, _, _, hu, hstep, hrow, rfl, hcurrent⟩

end SupportFlow
