import SupportFlow.Classification.Ledger

/-!
# Who is answered with 403

A call checks its actor's authorization in each of its transactions, and answers 403 when the check
fails. But an operation that failed because its own actor lost the authorization keeps the code
`authorization_changed`, and `_return_or_error` maps a stored code to its status without asking
whose it was. So an authorized actor, too, is answered with 403 as long as the ticket's input and
the configuration are those of such an operation (`forbidden_only_unauthorized_iff`).

A completion never answers so: the row of a claim carries no such code before its call settles it,
and no provider outcome does (`reachable_untainted`).
-/

namespace SupportFlow

open Python ClassificationApplication

section Calls

variable {sha256 : String → String} {loads : String → Option Json} {w w' : ClassificationWorld}
  {e : ClassificationEvent}

/-- A response with status 403. -/
def ClassificationResponse.Forbidden (response : ClassificationResponse) : Prop :=
  ∃ code, response = .error (.application code 403)

/-- The operation of a ticket's current input and the request's configuration. -/
def ClassifyRequest.operation (sha256 : String → String) (request : ClassifyRequest)
    (db : Database) : Option ClassificationOperation :=
  (TicketRepository.getTicket request.organizationId request.ticketId db).bind fun ticket ↦
    readMatch sha256 request.runtime request.organizationId request.ticketId
      (ticketInput sha256 ticket db).toOption db

/-- The actor of a request is authorized. -/
def ClassifyRequest.Authorized (request : ClassifyRequest) (db : Database) : Prop :=
  authorized request.organizationId request.actorId db = true

/-! ### Which status a code has -/

theorem ClassificationErrorCode.errorStatus_eq_forbidden {code : ClassificationErrorCode} :
    code.errorStatus = 403 ↔ code = .authorizationChanged := by
  cases code <;> decide

/-- `_return_or_error` answers 403 exactly for a view with the stored code. -/
theorem returnOrError_forbidden {view : ClassificationView} :
    ClassificationResponse.Forbidden (returnOrError view) ↔
      view.state ≠ .current ∧ view.errorCode = some .authorizationChanged := by
  unfold returnOrError ClassificationResponse.Forbidden
  by_cases hcurrent : view.state = .current
  · rw [if_pos hcurrent]
    exact iff_of_false (fun ⟨_, h⟩ ↦ nomatch h) fun h ↦ h.1 hcurrent
  · rw [if_neg hcurrent]
    simp only [Except.error.injEq, ClassificationError.application.injEq, exists_eq_left',
      ClassificationErrorCode.errorStatus_eq_forbidden, ne_eq, hcurrent, not_false_eq_true,
      true_and]
    rcases view.errorCode with - | code
    · rw [Option.getD_none]
      split <;> simp
    · simp

/-! ### What a view of a row carries -/

/-- A view carries a row's code, unless its claim has expired. -/
theorem view_authorizationChanged {runtime : Option FakeClassificationRuntime}
    {operation : ClassificationOperation} {isMatch : Bool} {now : Instant} {v : ClassificationView}
    (h : view runtime (some operation) isMatch now = .ok v)
    (hcode : v.errorCode = some .authorizationChanged) :
    operation.errorCode = some .authorizationChanged := by
  obtain ⟨result, rfl, -⟩ := view_eq_ok h
  simp only [shown] at hcode
  split at hcode
  · cases hcode
  · exact hcode

/-! ### The first transaction -/

/-- `_ticket` answers 403 only to an unauthorized actor. -/
theorem ticket_forbidden {organizationId actorId ticketId : UUID} {db : Database}
    {code : ClassificationErrorCode}
    (h : ticket organizationId actorId ticketId db = .error (.application code 403)) :
    authorized organizationId actorId db = false := by
  unfold ticket at h
  split at h
  · next hauth => simpa using hauth
  · split at h
    · simp at h
    · cases h

/-- A view fails only to validate. -/
theorem view_error {runtime : Option FakeClassificationRuntime}
    {operation : Option ClassificationOperation} {isMatch : Bool} {now : Instant}
    {error : ClassificationError} (h : view runtime operation isMatch now = .error error) :
    error = .validation := by
  unfold view at h
  cases operation with
  | none => cases h
  | some operation =>
    simp only at h
    split at h
    · split at h
      · exact (Except.error.inj h).symm
      · cases h
    · cases h

theorem resume_error {runtime : Option FakeClassificationRuntime}
    {operation : ClassificationOperation} {viewedAt writtenAt : Instant} {db : Database}
    {error : ClassificationError}
    (h : resume runtime operation viewedAt writtenAt db = .error error) : error = .validation := by
  unfold resume at h
  rcases Except.bind_eq_error_iff.1 h with hview | ⟨v, -, h⟩
  · exact view_error hview
  · split at h
    · rw [recordFinished_setOperation db (by simp [materialize])] at h
      cases h
    · cases h

/-- The first transaction raises 403 only for an unauthorized actor. -/
theorem claim_forbidden {runtime : Option FakeClassificationRuntime}
    {organizationId actorId ticketId operationId : UUID} {viewedAt writtenAt : Instant}
    {db : Database} {code : ClassificationErrorCode}
    (h : claim sha256 runtime organizationId actorId ticketId operationId viewedAt writtenAt db =
      .error (.application code 403)) : authorized organizationId actorId db = false := by
  unfold claim at h
  rcases Except.bind_eq_error_iff.1 h with hticket | ⟨t, -, h⟩
  · exact ticket_forbidden hticket
  · cases runtime with
    | none => simp at h
    | some configured =>
      simp only at h
      split at h
      · simp at h
      · cases h
      · unfold claimPrepared at h
        split at h
        · cases resume_error h
        · split at h <;> cases h

/-- `read` answers 403 only to an unauthorized actor. -/
theorem read_forbidden {runtime : Option FakeClassificationRuntime}
    {organizationId actorId ticketId : UUID} {viewedAt : Instant} {db : Database}
    {code : ClassificationErrorCode}
    (h : ClassificationApplication.read sha256 runtime organizationId actorId ticketId viewedAt db =
      .error (.application code 403)) : authorized organizationId actorId db = false := by
  unfold ClassificationApplication.read at h
  rcases Except.bind_eq_error_iff.1 h with hticket | ⟨t, -, h⟩
  · exact ticket_forbidden hticket
  · rcases Except.bind_eq_error_iff.1 h with hinput | ⟨prepared, -, h⟩
    · unfold readInput at hinput
      split at hinput <;> cases hinput
    · split at h <;> cases view_error h

/-- A call that finds an operation for its input resumes it. -/
theorem claim_of_operation {request : ClassifyRequest} {operationId : UUID}
    {viewedAt writtenAt : Instant} {db : Database} {operation : ClassificationOperation}
    (hauth : request.Authorized db) (hfound : request.operation sha256 db = some operation) :
    claim sha256 request.runtime request.organizationId request.actorId request.ticketId
        operationId viewedAt writtenAt db =
      resume request.runtime operation viewedAt writtenAt db := by
  obtain ⟨t, hticket, hmatch⟩ := Option.bind_eq_some_iff.1 hfound
  obtain ⟨input, configured, hinput, hruntime, hfind⟩ := readMatch_eq_some hmatch
  have hprepared : ticketInput sha256 t db = .ok input := by
    rcases hresult : ticketInput sha256 t db with error | prepared
    · rw [hresult] at hinput
      cases hinput
    · rw [hresult] at hinput
      exact congrArg _ (Option.some.inj hinput)
  have hget : ticket request.organizationId request.actorId request.ticketId db = .ok t := by
    unfold ticket
    rw [if_neg (by simpa [ClassifyRequest.Authorized] using hauth), hticket]
  unfold claim
  rw [hget]
  simp only [Except.bind, bind, hruntime, hprepared]
  unfold claimPrepared
  simp only [ClassificationClaim.identity, hfind]

/-- What the first transaction resumed is the operation of its input. -/
theorem operation_of_claim {request : ClassifyRequest} {operationId : UUID}
    {viewedAt writtenAt : Instant} {db db' : Database} {view : ClassificationView}
    (h : claim sha256 request.runtime request.organizationId request.actorId request.ticketId
      operationId viewedAt writtenAt db = .ok (.existing view, db')) :
    request.Authorized db ∧ ∃ operation, request.operation sha256 db = some operation ∧
      ClassificationApplication.view request.runtime (some operation) true viewedAt = .ok view := by
  obtain ⟨made, -, horg, hactor, hticket, hruntime, hcomputed, hresult⟩ := claim_spec h
  rcases hresult with ⟨operation, hfind, hresume⟩ | ⟨hmade, -⟩
  · obtain ⟨v, hv, hview, -⟩ := resume_spec hresume
    cases hv
    obtain ⟨t, hget, hinput⟩ := hcomputed.input
    refine ⟨?_, operation, Option.bind_eq_some_iff.2 ⟨t, ?_, ?_⟩, hview⟩
    · unfold ClassifyRequest.Authorized
      rw [← horg, ← hactor]
      exact hcomputed.authorized
    · rw [← horg, ← hticket]
      exact hget
    · rw [hinput, hruntime]
      unfold readMatch
      rw [ClassificationClaim.identity, horg, hticket, hcomputed.digest] at hfind
      exact hfind
  · cases hmade

/-! ### What a call carries into its completion -/

/-- The provider's outcome, once a call has it. -/
def ClassifyStage.outcome? : ClassifyStage → Option ProviderOutcome
  | requested | claiming | claimed _ | invoked _ => none
  | answered _ outcome | completing _ outcome => some outcome

/-- The code of a provider's failure. -/
def ProviderOutcome.code? : ProviderOutcome → Option ClassificationErrorCode
  | result _ => none
  | failure code _ => some code

/-- No reply of a provider is a failed authorization. -/
theorem ProviderOutcome.ofReply_code? (loads : String → Option Json)
    (reply : Except ProviderError String) :
    (ofReply loads reply).code? ≠ some .authorizationChanged := by
  cases reply with
  | error type => cases type <;> exact fun h ↦ nomatch h
  | ok raw =>
    unfold ofReply
    dsimp only
    split <;> exact fun h ↦ nomatch h

/-- **Nothing a call holds carries the code**: neither the row of its claim nor its provider's
outcome. -/
structure Untainted (w : ClassificationWorld) : Prop where
  rows : ∀ c claim, w.Holds c claim → ∀ operation ∈ w.db.operations,
    operation.id = claim.operationId → operation.errorCode ≠ some .authorizationChanged
  outcomes : ∀ c call outcome, w.calls c = some call → call.stage.outcome? = some outcome →
    outcome.code? ≠ some .authorizationChanged

theorem ClassificationStep.untainted_rows (h : ClassificationStep sha256 loads w e w')
    (hw : Classified sha256 w) (hu : Untainted w) {c : ℕ} {claim : ClassificationClaim}
    (hheld : w'.Holds c claim) {operation : ClassificationOperation}
    (hrow : operation ∈ w'.db.operations) (hid : operation.id = claim.operationId) :
    operation.errorCode ≠ some .authorizationChanged := by
  rcases h.held hheld with hold | ⟨request, rfl⟩
  · cases h.change hw with
    | frame operations => exact hu.rows c claim hold operation (operations ▸ hrow) hid
    | @inserted d request made now event computed insert =>
      obtain ⟨-, -, operations, hinsert, hdb⟩ := insertOperation?_eq_some insert
      rw [hdb] at hrow
      rcases (Table.mem_insert? hinsert).1 hrow with hbefore | rfl
      · exact hu.rows c claim hold operation hbefore hid
      · exact fun hcode ↦ nomatch hcode
    | @materialized d request view found now event row state written =>
      rw [written] at hrow
      rcases (mem_settled row (materialize_sameWork found now)).1 hrow with rfl | ⟨hbefore, -⟩
      · exact fun hcode ↦ nomatch hcode
      · exact hu.rows c claim hold operation hbefore hid
    | @completed d elapsedMs other completedAt checkedAt response found checks outcome event held
        row state run written =>
      rw [written] at hrow
      have hsame := settle_sameWork found checks outcome elapsedMs completedAt checkedAt
      rcases (mem_settled (Table.mem_of_get? row) hsame).1 hrow with rfl | ⟨hbefore, -⟩
      · -- The completion of this row is the end of this call.
        subst event
        have hkey : found.id = other.operationId := Table.key_of_get? row
        obtain rfl := hw.distinct c d claim other hold held
          (hid.symm.trans (hsame.id.trans hkey))
        exact absurd hheld (h.completion_ends claim).2
      · exact hu.rows c claim hold operation hbefore hid
  · obtain ⟨-, -, now, hcomputed, hinsert⟩ := h.claimed
    have hinserted := (Backed.of_insert hcomputed.digest hinsert).row
    obtain rfl := Table.eq_of_key_eq hrow (Table.mem_of_get? hinserted) hid
    exact fun hcode ↦ nomatch hcode

theorem ClassificationStep.untainted_outcomes (h : ClassificationStep sha256 loads w e w')
    (hu : Untainted w) {c : ℕ} {call : ClassifyCall} {outcome : ProviderOutcome}
    (hcall : w'.calls c = some call) (houtcome : call.stage.outcome? = some outcome) :
    outcome.code? ≠ some .authorizationChanged := by
  -- A step moves one call, to a stage whose outcome is known to carry no such code.
  have moved : ∀ {db : Database} {d : ℕ} {next : Option ClassifyCall},
      (∀ x, next = some x → ∀ outcome, x.stage.outcome? = some outcome →
        outcome.code? ≠ some .authorizationChanged) →
      ({ w with db := db }.setCall d next : ClassificationWorld).calls c = some call →
        outcome.code? ≠ some .authorizationChanged := by
    intro db d next hnext hset
    by_cases hd : c = d
    · subst hd
      rw [setCall_calls_self] at hset
      exact hnext call hset outcome houtcome
    · rw [setCall_calls_of_ne _ _ hd] at hset
      exact hu.outcomes c call outcome hset houtcome
  cases h with
  | environment | read => exact hu.outcomes c call outcome hcall houtcome
  | arrive | openClaim | invoke =>
    exact moved (fun x hx outcome houtcome ↦ by cases hx; cases houtcome) hcall
  | @claim d request operationId viewedAt writtenAt result db stage run =>
    refine moved (fun x hx outcome houtcome ↦ ?_) hcall
    cases result with
    | existing view => cases hx
    | claimed made => cases hx; cases houtcome
  | answer stage =>
    refine moved (fun x hx outcome houtcome ↦ ?_) hcall
    cases hx
    cases houtcome
    exact ProviderOutcome.ofReply_code? loads _
  | shortcut stage insufficient =>
    refine moved (fun x hx outcome houtcome ↦ ?_) hcall
    cases hx
    cases houtcome
    exact fun h ↦ nomatch h
  | openCompletion stage =>
    refine moved (fun x hx outcome houtcome ↦ ?_) hcall
    cases hx
    exact hu.outcomes _ _ outcome stage houtcome
  | claimRaised | complete | completeRaised | die =>
    exact moved (fun x hx ↦ by cases hx) hcall

/-- **No reachable call carries the code into its completion.** -/
theorem reachable_untainted (h : (classification sha256 loads).Reachable w) : Untainted w := by
  refine TransitionSystem.Reachable.invariant (I := fun w ↦ Classified sha256 w ∧ Untainted w)
    (fun w₀ h₀ ↦ ⟨reachable_classified (.of_init h₀), ?_, ?_⟩) (fun a l b _ hI hs ↦ ?_) h |>.2
  · rintro c claim ⟨call, hcall, -⟩
    rw [h₀.1 c] at hcall
    cases hcall
  · intro c call outcome hcall
    rw [h₀.1 c] at hcall
    cases hcall
  · have hstep : ClassificationStep sha256 loads a l b := hs
    exact ⟨hstep.classified hI.1, fun c claim hheld operation hrow hid ↦
      hstep.untainted_rows hI.1 hI.2 hheld hrow hid, fun c call outcome hcall houtcome ↦
      hstep.untainted_outcomes hI.2 hcall houtcome⟩

/-- A completion by an authorized actor writes the code only from its row or its outcome. -/
theorem ClassificationOperation.settle_untainted {operation : ClassificationOperation}
    {checks : CompletionChecks} {outcome : ProviderOutcome} (hauth : checks.authorized = true)
    (hrow : operation.errorCode ≠ some .authorizationChanged)
    (houtcome : outcome.code? ≠ some .authorizationChanged) (elapsedMs : ℕ)
    (completedAt checkedAt : Instant) :
    (operation.settle checks outcome elapsedMs completedAt checkedAt).errorCode ≠
      some .authorizationChanged := by
  unfold ClassificationOperation.settle
  rw [if_neg (not_not.2 hauth)]
  split
  · exact fun h ↦ nomatch h
  · split
    · exact fun h ↦ nomatch h
    · cases outcome with
      | failure code uncertain => exact houtcome
      | result result => exact hrow

/-- **A completion answers 403 only to an unauthorized actor.** -/
theorem ClassificationStep.completion_forbidden {c : ℕ} {claim : ClassificationClaim}
    {checkedAt : Instant} {response : ClassificationResponse}
    (h : ClassificationStep sha256 loads w (.complete c claim checkedAt response) w')
    (hw : Classified sha256 w) (hu : Untainted w) (hforbidden : response.Forbidden) :
    ¬claim.request.Authorized w.db := by
  intro hauthorized
  cases h with
  | @complete _ elapsedMs request _ outcome completedAt _ authorized view db stage run =>
    obtain ⟨operation, hbacked⟩ := hw.backed c claim ⟨_, stage, rfl⟩
    obtain ⟨left, v, db', hrun, hview, hcompletion⟩ := complete_spec sha256 claim outcome
      elapsedMs completedAt checkedAt hbacked.row hbacked.organizationId hbacked.not_succeeded
    rw [run] at hrun
    cases hrun
    have hauth : SupportFlow.authorized claim.organizationId claim.actorId w.db = true :=
      hauthorized
    unfold respond at hforbidden
    rw [if_neg (not_not.2 hauth)] at hforbidden
    obtain ⟨-, hcode⟩ := returnOrError_forbidden.1 hforbidden
    have hleft := view_authorizationChanged hview hcode
    have hrow : operation.errorCode ≠ some .authorizationChanged :=
      hu.rows c claim ⟨_, stage, rfl⟩ operation (Table.mem_of_get? hbacked.row)
        (Table.key_of_get? hbacked.row)
    cases hcompletion with
    | late state => exact hrow hleft
    | @settle checks state hchecks =>
      obtain ⟨checks', hchecks', hauth', -⟩ := completionChecks_spec sha256 claim w.db
      obtain rfl := Except.ok.inj (hchecks.symm.trans hchecks')
      exact ClassificationOperation.settle_untainted (hauth'.trans hauth) hrow
        (hu.outcomes c _ outcome stage rfl) elapsedMs completedAt checkedAt hleft
  | @completeRaised _ elapsedMs request _ outcome completedAt _ error stage run =>
    obtain ⟨operation, hbacked⟩ := hw.backed c claim ⟨_, stage, rfl⟩
    obtain ⟨left, v, db', hrun, -⟩ := complete_spec sha256 claim outcome elapsedMs completedAt
      checkedAt hbacked.row hbacked.organizationId hbacked.not_succeeded
    rw [run] at hrun
    cases hrun

/-! ### What a later call is answered -/

/-- The operation of a ticket's current input and the request's configuration failed because its
own actor lost the authorization. -/
def ClassifyRequest.Tainted (sha256 : String → String) (request : ClassifyRequest)
    (db : Database) : Prop :=
  ∃ operation, request.operation sha256 db = some operation ∧
    operation.errorCode = some .authorizationChanged

theorem ClassifyRequest.operation_mem {request : ClassifyRequest} {db : Database}
    {operation : ClassificationOperation} (h : request.operation sha256 db = some operation) :
    operation ∈ db.operations := by
  obtain ⟨t, -, hmatch⟩ := Option.bind_eq_some_iff.1 h
  obtain ⟨input, configured, -, -, hfind⟩ := readMatch_eq_some hmatch
  exact (findOperation_eq_some hfind).1

/-- **A stored `authorization_changed` is answered with 403**, whoever asks. -/
theorem resume_tainted (runtime : Option FakeClassificationRuntime)
    {operation : ClassificationOperation} (hshaped : operation.Shaped)
    (hcode : operation.errorCode = some .authorizationChanged) (viewedAt writtenAt : Instant)
    (db : Database) :
    ∃ v, resume runtime operation viewedAt writtenAt db = .ok (.existing v, db) ∧
      ClassificationResponse.Forbidden (returnOrError v) := by
  have hsettled : operation.state ≠ .inProgress := fun hstate ↦ by
    rw [hshaped.inProgress hstate] at hcode
    cases hcode
  have hfailed : operation.state ≠ .succeeded := fun hstate ↦ by
    rw [(hshaped.succeeded hstate).1] at hcode
    cases hcode
  obtain ⟨v, hview, hv, hstate⟩ := view_of_not_succeeded runtime hfailed true viewedAt
  have hlive : expiredClaim operation viewedAt = false := by
    simp [expiredClaim, hsettled]
  refine ⟨v, ?_, returnOrError_forbidden.2 ⟨hstate, ?_⟩⟩
  · unfold resume
    rw [hview]
    exact if_neg fun h ↦ hsettled h.2
  · rw [hv, shown, if_neg (by simp [hlive])]
    exact hcode

/-- The first transaction of a call of an authorized actor answers 403 exactly on a tainted
input. -/
theorem ClassificationStep.claim_answer {c : ℕ} {request request' : ClassifyRequest}
    {result : Except ClassificationError ClassifyClaim} {response : ClassificationResponse}
    (h : ClassificationStep sha256 loads w (.claim c request result) w')
    (hledger : OperationLedger w.db)
    (hresponse : (ClassificationEvent.claim c request result).response? =
      some (request', response)) (hauthorized : request.Authorized w.db) :
    response.Forbidden ↔ request.Tainted sha256 w.db := by
  constructor
  · intro hforbidden
    cases h with
    | @claim _ _ operationId viewedAt writtenAt result db stage run =>
      cases result with
      | claimed made => cases hresponse
      | existing view =>
        cases hresponse
        obtain ⟨-, hcode⟩ := returnOrError_forbidden.1 hforbidden
        obtain ⟨-, operation, hfound, hview⟩ := operation_of_claim run
        exact ⟨operation, hfound, view_authorizationChanged hview hcode⟩
    | claimRaised stage run =>
      cases hresponse
      obtain ⟨code, hcode⟩ := hforbidden
      obtain rfl := Except.error.inj hcode
      exact absurd hauthorized (by simp [ClassifyRequest.Authorized, claim_forbidden run])
  · rintro ⟨operation, hfound, hcode⟩
    have hshaped := hledger.shaped operation (ClassifyRequest.operation_mem hfound)
    cases h with
    | @claim _ _ operationId viewedAt writtenAt result db stage run =>
      obtain ⟨v, hresume, hforbidden⟩ :=
        resume_tainted request.runtime hshaped hcode viewedAt writtenAt w.db
      rw [claim_of_operation hauthorized hfound, hresume] at run
      cases run
      cases hresponse
      exact hforbidden
    | @claimRaised _ _ operationId viewedAt writtenAt error stage run =>
      obtain ⟨v, hresume, -⟩ :=
        resume_tainted request.runtime hshaped hcode viewedAt writtenAt w.db
      rw [claim_of_operation hauthorized hfound, hresume] at run
      cases run

/-- **Who is answered with 403**, over every history of calls. An answer is 403 only for an actor
that its transaction found unauthorized, except the answer of a first transaction that finds the
`authorization_changed` of an earlier actor: an authorized caller gets that one, too. -/
theorem forbidden_only_unauthorized_iff {w₀ : ClassificationWorld} {ls : List ClassificationEvent}
    {request : ClassifyRequest} {response : ClassificationResponse}
    (h₀ : (classification sha256 loads).init w₀) (hledger : OperationLedger w₀.db)
    (hrun : (classification sha256 loads).Run w₀ ls w)
    (hstep : (classification sha256 loads).step w e w')
    (hresponse : e.response? = some (request, response)) :
    (response.Forbidden → ¬request.Authorized w.db) ↔
      ¬((∃ c result, e = .claim c request result) ∧ request.Authorized w.db ∧
        request.Tainted sha256 w.db) := by
  have hreachable : (classification sha256 loads).Reachable w := ⟨w₀, ls, h₀, hrun⟩
  have hs : ClassificationStep sha256 loads w e w' := hstep
  by_cases hclaim : ∃ c result, e = .claim c request result
  · obtain ⟨c, result, rfl⟩ := hclaim
    have hanswer := hs.claim_answer (run_ledger h₀ hledger hrun) hresponse
    constructor
    · rintro honly ⟨-, hauthorized, htainted⟩
      exact honly ((hanswer hauthorized).2 htainted) hauthorized
    · intro hnot hforbidden hauthorized
      exact hnot ⟨⟨c, result, rfl⟩, hauthorized, (hanswer hauthorized).1 hforbidden⟩
  · refine iff_of_true (fun hforbidden ↦ ?_) fun h ↦ hclaim h.1
    cases e with
    | claim c request' result =>
      have hrequest : request' = request := by
        rcases result with error | view | made
        all_goals cases hresponse
        all_goals rfl
      exact absurd ⟨c, result, hrequest ▸ rfl⟩ hclaim
    | complete c claim checkedAt response' =>
      cases hresponse
      exact hs.completion_forbidden (reachable_classified hreachable)
        (reachable_untainted hreachable) hforbidden
    | read request' response' =>
      cases hresponse
      cases hs with
      | read run =>
        obtain ⟨code, hcode⟩ := hforbidden
        have hunauthorized := read_forbidden (run.trans hcode)
        simp [ClassifyRequest.Authorized, hunauthorized]
    | environment | arrive | openClaim | invoke | answer | shortcut | openCompletion | die =>
      cases hresponse

end Calls

/-! ### A revoked actor and its colleague -/

namespace ClassificationSample

/-- A second agent of the organization asks for the same ticket. -/
def colleague : ClassifyRequest :=
  ⟨uuid 1, uuid 3, uuid 10, some runtime⟩

/-- The first agent is deactivated, the second one is active. -/
def revoked : IdentityTables where
  organizations := .singleton ⟨uuid 1, .active⟩
  users := ⟨[⟨uuid 2, "agent@example.test", .active⟩, ⟨uuid 3, "colleague@example.test", .active⟩],
    by decide⟩
  members := ⟨[⟨uuid 1, uuid 2, .agent, .inactive⟩, ⟨uuid 1, uuid 3, .agent, .active⟩], by decide⟩

/-- The first agent's operation, as the completion of its call left it. -/
def failed : ClassificationOperation :=
  (claim.operation 0).finish .failed (some .authorizationChanged) 0 0

/-- The database as the first agent's completion finds it. -/
def deactivated : Database :=
  { claimed with identity := revoked }

theorem ticketInput_settled (operation : ClassificationOperation) :
    ticketInput sha256 ticket (settled operation deactivated) = .ok prepared :=
  ticketInput_prepared

/-- The row that the completion of an unauthorized actor leaves. -/
theorem settle_unauthorized {checks : CompletionChecks} (h : checks.authorized = false)
    (outcome : ProviderOutcome) (elapsedMs : ℕ) (completedAt checkedAt : Instant) :
    (claim.operation 0).settle checks outcome elapsedMs completedAt checkedAt =
      (claim.operation 0).finish .failed (some .authorizationChanged) elapsedMs completedAt := by
  unfold ClassificationOperation.settle
  rw [if_pos (by simp [h])]

theorem complete_deactivated :
    ∃ v, complete sha256 claim (.result result) 0 0 0 deactivated =
      .ok ((false, v), settled failed deactivated) := by
  obtain ⟨left, v, db', hrun, -, hcompletion⟩ := complete_spec sha256 claim (.result result) 0 0 0
    (show deactivated.operations.get? claim.operationId = some (claim.operation 0) from rfl) rfl
    (by decide)
  have hunauthorized : authorized claim.organizationId claim.actorId deactivated = false := by
    decide
  rw [hunauthorized] at hrun
  refine ⟨v, hrun.trans ?_⟩
  cases hcompletion with
  | late state => exact absurd rfl state
  | settle state run =>
    obtain ⟨checks, hchecks, hauth, -⟩ := completionChecks_spec sha256 claim deactivated
    obtain rfl := Except.ok.inj (run.symm.trans hchecks)
    rw [settle_unauthorized (hauth.trans hunauthorized)]
    rfl

theorem colleague_operation :
    colleague.operation sha256 (settled failed deactivated) = some failed := by
  refine Option.bind_eq_some_iff.2 ⟨ticket, by decide, ?_⟩
  rw [ticketInput_settled]
  have hdigest : colleague.runtime = some runtime := rfl
  simp only [hdigest, readMatch, Except.toOption, digest_runtime]
  decide

/-- The first agent loses its membership while the provider is at work. -/
theorem run_deactivated :
    ∃ w ls, (classification sha256 loads).Run start ls w ∧ w.db = deactivated ∧
      w.calls 0 = some ⟨request, .completing claim (.result result)⟩ := by
  obtain ⟨w, ls, hrun, hdb, hcall⟩ := run_completing
  have hothers : ∀ event ∈ ([] : List AuditEvent), event.action ≠ .classificationFinished := nofun
  have henvironment : ClassificationStep sha256 loads w .environment _ :=
    .environment revoked w.db.tickets w.db.ticketMessages hothers
  refine ⟨_, _, hrun.snoc henvironment, ?_, hcall⟩
  rw [hdb]
  rfl

/-- Its completion records that. -/
theorem step_failed {w : ClassificationWorld} (hdb : w.db = deactivated)
    (hcall : w.calls 0 = some ⟨request, .completing claim (.result result)⟩) :
    ∃ v, ClassificationStep sha256 loads w (.complete 0 claim 0 (respond false v))
      (ClassificationWorld.setCall { w with db := settled failed deactivated } 0 none) := by
  obtain ⟨v, hcomplete⟩ := complete_deactivated
  rw [← hdb] at hcomplete
  exact ⟨v, .complete hcall (hcomplete.trans (by rw [hdb]))⟩

end ClassificationSample

open ClassificationSample in
/-- The theorem for the first agent, which is answered with 403. -/
theorem forbidden_only_unauthorized_iff_sample :
    ∃ w w' v, (classification sha256 loads).step w (.complete 0 claim 0 (respond false v)) w' ∧
      ClassificationResponse.Forbidden (respond false v) ∧ ¬request.Authorized w.db := by
  obtain ⟨w, ls, hrun, hdb, hcall⟩ := run_deactivated
  obtain ⟨v, hstep⟩ := step_failed hdb hcall
  have hforbidden : ClassificationResponse.Forbidden (respond false v) := ⟨_, rfl⟩
  refine ⟨w, _, v, hstep, hforbidden, ?_⟩
  refine (forbidden_only_unauthorized_iff start_init (.of_empty rfl nofun) hrun hstep rfl).2
    ?_ hforbidden
  rintro ⟨⟨c, result, hclaim⟩, -⟩
  cases hclaim

open ClassificationSample in
/-- **A colleague who is authorized throughout its call is answered with 403**: the first agent's
operation still stands for the ticket. -/
theorem colleague_forbidden :
    ∃ w w' ls view, (classification sha256 loads).Run start ls w ∧ w.calls 0 = none ∧
      ((classification sha256 loads).restrict fun u _ ↦ colleague.Authorized u.db).Run w
        [.arrive 0, .openClaim 0, .claim 0 colleague (.ok (.existing view))] w' ∧
      (ClassificationEvent.claim 0 colleague (.ok (.existing view))).response? =
        some (colleague, .error (.application .authorizationChanged 403)) := by
  obtain ⟨w, ls, hrun, hdb, hcall⟩ := run_deactivated
  obtain ⟨v, hstep⟩ := step_failed hdb hcall
  have hauthorized : colleague.Authorized (settled failed deactivated) := by
    show authorized (uuid 1) (uuid 3) (settled failed deactivated) = true
    decide
  have hclaim : ClassificationApplication.claim sha256 colleague.runtime colleague.organizationId
      colleague.actorId colleague.ticketId (uuid 21) 0 0 (settled failed deactivated) =
        .ok (.existing (shown failed true 0 none), settled failed deactivated) :=
    (claim_of_operation hauthorized colleague_operation).trans rfl
  have hcalls : ∃ w', ((classification sha256 loads).restrict fun u _ ↦
      colleague.Authorized u.db).Run
        (ClassificationWorld.setCall { w with db := settled failed deactivated } 0 none)
        [.arrive 0, .openClaim 0, .claim 0 colleague (.ok (.existing (shown failed true 0 none)))]
        w' :=
    ⟨_, .cons ⟨hauthorized, .arrive colleague rfl⟩ <| .cons ⟨hauthorized, .openClaim rfl⟩ <|
      .single ⟨hauthorized, .claim rfl hclaim⟩⟩
  obtain ⟨w', hcolleague⟩ := hcalls
  exact ⟨_, w', _, _, hrun.snoc hstep, rfl, hcolleague, rfl⟩

end SupportFlow
