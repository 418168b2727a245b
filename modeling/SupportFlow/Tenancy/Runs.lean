import SupportFlow.Classification.Changes
import SupportFlow.Tenancy.Isolation

/-!
# Tenants side by side

Any number of tenants, with their operations in any order. What one tenant is answered is a function
of what it asked and of its own rows at the start: in two runs that agree on these, whatever the
other tenants do in each, its answers are the same (`tenant_answers_eq`).

Every operation keeps the unique constraints that the queries rely on, so they hold in every state
reached; that is what the first part is about.
-/

namespace SupportFlow

open ClassificationApplication TicketService

/-! ### The constraints, over an operation -/

/-- The tables with the constraints that a ticket operation does not write. -/
structure TicketFrame (db db' : Database) : Prop where
  versions : db'.versions = db.versions
  intents : db'.intents = db.intents
  operations : db'.operations = db.operations

section TicketFrame

variable {faults : Faults} {db db' : Database}

theorem createTicket_frame {request : CreateRequest} {draw : TicketDraw} {created : CreatedTicket}
    (h : createTicket faults request draw db = .ok (created, db')) : TicketFrame db db' := by
  obtain ⟨-, -, hcommit⟩ := Except.bind_eq_ok_iff.1 h
  obtain ⟨-, -, tickets, ticketMessages, -, -, rfl⟩ := commitCreate_spec hcommit
  exact ⟨rfl, rfl, rfl⟩

theorem appendAgentMessage_frame {request : AppendRequest} {draw : MessageDraw}
    {message : TicketMessage}
    (h : appendAgentMessage faults request draw db = .ok (message, db')) : TicketFrame db db' := by
  obtain ⟨-, -, hcommit⟩ := Except.bind_eq_ok_iff.1 h
  obtain ⟨-, ticketMessages, -, rfl⟩ := commitAppend_spec hcommit
  exact ⟨rfl, rfl, rfl⟩

theorem transitionTicket_frame {request : TransitionRequest} {ticket : Ticket}
    (h : transitionTicket faults request db = .ok (ticket, db')) : TicketFrame db db' := by
  obtain ⟨-, -, h⟩ := Except.bind_eq_ok_iff.1 h
  obtain ⟨previousStatus, -, h⟩ := Except.bind_eq_ok_iff.1 h
  rw [orPersistenceError_eq_ok] at h
  obtain ⟨-, -, h⟩ := Except.bind_eq_ok_iff.1 h
  obtain ⟨-, -, h⟩ := Except.bind_eq_ok_iff.1 h
  obtain ⟨-, -, h⟩ := Except.bind_eq_ok_iff.1 h
  split at h
  · cases h
  · next change committed hcommit =>
    obtain ⟨-, -, h⟩ := Except.bind_eq_ok_iff.1 h
    split at h
    · cases h
    · cases h
      obtain ⟨found, -, heq⟩ := Option.map_eq_some_iff.1 hcommit
      cases heq
      exact ⟨rfl, rfl, rfl⟩

end TicketFrame

/-- What a classification transaction leaves alone, and the constraint it keeps. -/
structure ClassificationFrame (db db' : Database) : Prop where
  versions : db'.versions = db.versions
  intents : db'.intents = db.intents
  identities : db.UniqueIdentities → db'.UniqueIdentities

section ClassificationFrame

variable {sha256 : String → String} {db db' : Database}

theorem ClassificationFrame.refl (db : Database) : ClassificationFrame db db :=
  ⟨rfl, rfl, id⟩

/-- A row written over itself. -/
theorem classificationFrame_settled {found written : ClassificationOperation}
    (hfound : found ∈ db.operations) (hsame : SameWork found written) :
    ClassificationFrame db (settled written db) :=
  ⟨rfl, rfl, fun h ↦ uniqueIdentities_settled h hfound hsame⟩

theorem claim_frame {runtime : Option FakeClassificationRuntime}
    {organizationId actorId ticketId operationId : UUID} {viewedAt writtenAt : Instant}
    {result : ClassifyClaim}
    (h : claim sha256 runtime organizationId actorId ticketId operationId viewedAt writtenAt db =
      .ok (result, db')) : ClassificationFrame db db' := by
  obtain ⟨made, -, -, -, -, -, -, ⟨found, hfind, hresume⟩ | ⟨-, hinsert⟩⟩ := claim_spec h
  · obtain ⟨v, -, -, rfl | ⟨-, rfl⟩⟩ := resume_spec hresume
    · exact .refl db'
    · exact classificationFrame_settled (findOperation_eq_some hfind).1
        (materialize_sameWork found writtenAt)
  · obtain ⟨-, -, operations, -, rfl⟩ := insertOperation?_eq_some hinsert
    exact ⟨rfl, rfl, fun h ↦ uniqueIdentities_insert h hinsert⟩

theorem complete_frame {claim : ClassificationClaim} {outcome : ProviderOutcome} {elapsedMs : ℕ}
    {completedAt checkedAt : Instant} {result : Bool × ClassificationView}
    (h : complete sha256 claim outcome elapsedMs completedAt checkedAt db = .ok (result, db')) :
    ClassificationFrame db db' := by
  unfold complete at h
  dsimp only at h
  split at h
  · cases h
  · next found hfound =>
    have hmem : found ∈ db.operations :=
      Table.mem_of_get? (Option.filter_eq_some_iff.1 hfound).1
    split at h
    · obtain ⟨v, -, h⟩ := Except.bind_eq_ok_iff.1 h
      cases h
      exact .refl db
    · obtain ⟨checks, -, h⟩ := Except.bind_eq_ok_iff.1 h
      obtain ⟨db₁, hrecord, h⟩ := Except.bind_eq_ok_iff.1 h
      obtain ⟨v, -, h⟩ := Except.bind_eq_ok_iff.1 h
      rw [recordFinished_setOperation db (settle_state_ne _ _ _ _ _ _)] at hrecord
      cases hrecord
      cases h
      exact classificationFrame_settled hmem (settle_sameWork _ _ _ _ _ _)

end ClassificationFrame

namespace StoredDatabase

variable {s s' : StoredDatabase}

theorem commit?_eq_some {stamps : AuditStamps} {db : Database}
    (h : s.commit? stamps db = some s') :
    s'.versions = db.versions ∧ s'.intents = db.intents ∧ s'.operations = db.operations := by
  obtain ⟨auditRows, -, rfl⟩ := Option.map_eq_some_iff.1 h
  exact ⟨rfl, rfl, rfl⟩

/-- A transaction keeps the constraints when its body does. -/
theorem Constrained.transaction (h : s.Constrained) {α ε : Type} (taken : ε) (stamps : AuditStamps)
    {run : Database → Except ε (α × Database)}
    (hrun : ∀ value db, run s.session = .ok (value, db) → ClassificationFrame s.session db) :
    (s.transaction taken stamps run).2.Constrained := by
  rcases htransaction : s.transaction taken stamps run with ⟨e | value, s'⟩
  · have hsame : s' = s := by
      unfold StoredDatabase.transaction at htransaction
      split at htransaction
      · cases htransaction
        rfl
      · split at htransaction
        · cases htransaction
          rfl
        · cases htransaction
    exact hsame ▸ h
  · obtain ⟨db, hok, hcommit⟩ := transaction_eq_ok htransaction
    obtain ⟨hversions, hintents, hoperations⟩ := commit?_eq_some hcommit
    have hframe := hrun value db hok
    refine ⟨?_, ?_, ?_⟩
    · show ∀ v ∈ s'.versions, ∀ w ∈ s'.versions, _
      rw [hversions, hframe.versions]
      exact h.versionNumbers
    · rw [hintents, hframe.intents]
      exact h.intents
    · show ∀ a ∈ s'.operations, ∀ b ∈ s'.operations, _
      rw [hoperations]
      exact hframe.identities h.identities

end StoredDatabase

theorem TicketFrame.classificationFrame {db db' : Database} (h : TicketFrame db db') :
    ClassificationFrame db db' :=
  ⟨h.versions, h.intents, fun hunique ↦
    show ∀ a ∈ db'.operations, ∀ b ∈ db'.operations, _ from h.operations ▸ hunique⟩

theorem completeStored_constrained {s : StoredDatabase} (h : s.Constrained)
    (sha256 : String → String) (claim : ClassificationClaim) (outcome : ProviderOutcome)
    (draw : CompletionDraw) : (completeStored sha256 claim outcome draw s).2.Constrained := by
  have hafter : (s.transaction .integrity draw.stamps (complete sha256 claim outcome
      draw.elapsedMs draw.completedAt draw.checkedAt)).2.Constrained :=
    h.transaction .integrity draw.stamps fun _ _ hrun ↦ complete_frame hrun
  unfold completeStored
  split
  · next hrun => exact congrArg Prod.snd hrun ▸ hafter
  · next hrun => exact congrArg Prod.snd hrun ▸ hafter

theorem claimStored_constrained {s : StoredDatabase} (h : s.Constrained)
    (sha256 : String → String) (runtime : Option FakeClassificationRuntime)
    (organizationId actorId ticketId : UUID) (draw : ClaimDraw) :
    (claimStored sha256 runtime organizationId actorId ticketId draw s).2.Constrained := by
  rw [claimStored]
  exact h.transaction .integrity draw.stamps fun _ _ hrun ↦ claim_frame hrun

theorem classify_constrained {s : StoredDatabase} (h : s.Constrained) (sha256 : String → String)
    (loads : String → Option Python.Json) (runtime : Option FakeClassificationRuntime)
    (organizationId actorId ticketId : UUID) (claimDraw : ClaimDraw)
    (completionDraw : CompletionDraw) :
    (classify sha256 loads runtime organizationId actorId ticketId claimDraw completionDraw
      s).2.Constrained := by
  have hafter := claimStored_constrained h sha256 runtime organizationId actorId ticketId claimDraw
  unfold classify
  split
  · next hrun => exact congrArg Prod.snd hrun ▸ hafter
  · next hrun => exact congrArg Prod.snd hrun ▸ hafter
  · next hrun =>
    rw [hrun] at hafter
    exact completeStored_constrained hafter _ _ _ _

/-- **Every operation keeps the constraints.** -/
theorem TenantOperation.perform_constrained {s : StoredDatabase} (h : s.Constrained)
    (sha256 : String → String) (loads : String → Option Python.Json) (organizationId : UUID)
    {α : Type} (op : TenantOperation α) :
    (op.perform sha256 loads organizationId s).2.Constrained := by
  cases op with
  | createTicket =>
    exact h.transaction _ _ fun _ _ hrun ↦ (createTicket_frame hrun).classificationFrame
  | appendAgentMessage =>
    exact h.transaction _ _ fun _ _ hrun ↦ (appendAgentMessage_frame hrun).classificationFrame
  | transitionTicket =>
    exact h.transaction _ _ fun _ _ hrun ↦ (transitionTicket_frame hrun).classificationFrame
  | claimClassification => exact claimStored_constrained h _ _ _ _ _ _
  | completeClassification => exact completeStored_constrained h _ _ _ _
  | classify => exact classify_constrained h _ _ _ _ _ _ _ _
  | getCustomer | getTicket | listTicketMessages | listTickets | getTicketDetail | listEvents
  | getWithLatestVersion | getForVersion | readClassification => exact h

/-! ### Runs -/

/-- An operation that was performed, with its answer. -/
structure TenantEvent where
  organizationId : UUID
  answerType : Type
  operation : TenantOperation answerType
  answer : answerType

/-- What was asked. -/
def TenantEvent.request (e : TenantEvent) : Σ α, TenantOperation α :=
  ⟨e.answerType, e.operation⟩

/-- The tenants of one database. -/
def tenancy (sha256 : String → String) (loads : String → Option Python.Json) :
    TransitionSystem StoredDatabase TenantEvent where
  init := StoredDatabase.Constrained
  step s e t := e.operation.Fresh s ∧
    e.operation.perform sha256 loads e.organizationId s = (e.answer, t)

section Runs

variable {sha256 : String → String} {loads : String → Option Python.Json}

theorem reachable_constrained {s : StoredDatabase} (h : (tenancy sha256 loads).Reachable s) :
    s.Constrained := by
  refine h.invariant (fun _ hinit ↦ hinit) fun s e t _ hs hstep ↦ ?_
  have hafter := e.operation.perform_constrained hs sha256 loads e.organizationId
  rwa [hstep.2] at hafter

/-- What leaves others alone is invisible to each of them. -/
theorem Database.KeepsOthers.agreeFor {organizationId other : UUID} {s t : Database}
    (h : s.KeepsOthers organizationId t) (hne : organizationId ≠ other)
    (haudit : s.audit = t.audit) :
    s.AgreeFor other t where
  organization := by rw [h.identity]
  members _ := by rw [h.identity]
  users _ _ := by rw [h.identity]
  customers := h.customers.mono fun _ hr ↦ hr ▸ hne.symm
  tickets := h.tickets.mono fun _ hr ↦ hr ▸ hne.symm
  ticketMessages := h.ticketMessages.mono fun _ hr ↦ hr ▸ hne.symm
  documents := h.documents.mono fun _ hr ↦ hr ▸ hne.symm
  versions := h.versions.mono fun _ hr ↦ hr ▸ hne.symm
  intents := h.intents.mono fun _ hr ↦ hr ▸ hne.symm
  operations := h.operations.mono fun _ hr ↦ hr ▸ hne.symm
  audit := haudit

theorem Database.AgreeFor.symm {organizationId : UUID} {s t : Database}
    (h : s.AgreeFor organizationId t) : t.AgreeFor organizationId s where
  organization := h.organization.symm
  members userId := (h.members userId).symm
  users userId hmember := (h.users userId (h.members userId ▸ hmember)).symm
  customers := h.customers.symm
  tickets := h.tickets.symm
  ticketMessages := h.ticketMessages.symm
  documents := h.documents.symm
  versions := h.versions.symm
  intents := h.intents.symm
  operations := h.operations.symm
  audit := h.audit.symm

theorem Database.AgreeFor.trans {organizationId : UUID} {s t u : Database}
    (h : s.AgreeFor organizationId t) (h' : t.AgreeFor organizationId u) :
    s.AgreeFor organizationId u where
  organization := h.organization.trans h'.organization
  members userId := (h.members userId).trans (h'.members userId)
  users userId hmember :=
    (h.users userId hmember).trans (h'.users userId (h.members userId ▸ hmember))
  customers := h.customers.trans h'.customers
  tickets := h.tickets.trans h'.tickets
  ticketMessages := h.ticketMessages.trans h'.ticketMessages
  documents := h.documents.trans h'.documents
  versions := h.versions.trans h'.versions
  intents := h.intents.trans h'.intents
  operations := h.operations.trans h'.operations
  audit := h.audit.trans h'.audit

/-- **The tenants are separated.** -/
theorem tenancy_separated (sha256 : String → String) (loads : String → Option Python.Json) :
    (tenancy sha256 loads).Separated TenantEvent.organizationId TenantEvent.request
      StoredDatabase.AgreeFor where
  symm h := ⟨h.session.symm, h.auditRows.symm⟩
  trans h h' := ⟨h.session.trans h'.session, h.auditRows.trans h'.auditRows⟩
  own := by
    rintro s t s' t' ⟨organizationId, α, op, answer⟩ ⟨_, _, _, answer'⟩ hs _ hagree hstep hstep'
      rfl hrequest
    cases hrequest
    obtain ⟨hfresh, hperform⟩ := hstep
    obtain ⟨hfresh', hperform'⟩ := hstep'
    have hisolated := op.perform_isolated sha256 loads (reachable_constrained hs) hagree hfresh
      hfresh'
    rw [hperform, hperform'] at hisolated
    obtain ⟨rfl, htwin⟩ : answer = answer' ∧ _ := hisolated
    exact ⟨rfl, htwin.own⟩
  hidden {s t e other} hs hstep hne := by
    have hself : s.AgreeFor e.organizationId s := .refl s
    have hisolated := e.operation.perform_isolated sha256 loads (reachable_constrained hs) hself
      hstep.1 hstep.1
    rw [hstep.2] at hisolated
    exact ⟨hisolated.2.left.session.agreeFor hne rfl,
      hisolated.2.left.auditRows.mono fun _ hr ↦ hr ▸ hne.symm⟩

/-- **A tenant's answers depend on nothing of the others**: in two runs, from databases that agree
for it, in which it asks for the same operations in the same order, it is answered the same, and the
last databases agree for it. -/
theorem tenant_answers_eq {organizationId : UUID} {s₀ s t₀ t : StoredDatabase}
    {ls ms : List TenantEvent} (hs : s₀.Constrained) (ht : t₀.Constrained)
    (hrun : (tenancy sha256 loads).Run s₀ ls s) (hrun' : (tenancy sha256 loads).Run t₀ ms t)
    (hagree : s₀.AgreeFor organizationId t₀)
    (hrequests : (ms.filter (·.organizationId = organizationId)).map TenantEvent.request =
      (ls.filter (·.organizationId = organizationId)).map TenantEvent.request) :
    ms.filter (·.organizationId = organizationId) =
        ls.filter (·.organizationId = organizationId) ∧
      s.AgreeFor organizationId t :=
  (tenancy_separated sha256 loads).labels_eq hrun hrun' (.of_init hs) (.of_init ht) hagree hrequests

end Runs

end SupportFlow
