import SupportFlow.Tenancy.Views

/-!
# Tenant isolation

An operation for one organization, in two databases that agree for it. The proof is relational: each
write is the same write, so the two computations are `Except.Related` throughout, and the states
they end in are `Twins` of those they began in. A transaction then stores the same audit rows in
both, and `tenant_noninterference` collects the operations.
-/

namespace SupportFlow

open PrimaryKey (key)
open ClassificationApplication

variable {organizationId : UUID}

/-! ### Writes -/

namespace Database

variable {s t : Database}

namespace AgreeFor

variable (h : AgreeFor organizationId s t)
include h

theorem record {event : AuditEvent} (horg : event.organizationId = organizationId) :
    Twins organizationId s t (s.record event) (t.record event) := by
  have hkept : ∀ u : Database, KeepsOthers organizationId u (u.record event) := fun u ↦
    { KeepsOthers.refl u with
      audit := ⟨[event], rfl, fun e he ↦ List.mem_singleton.1 he ▸ horg⟩ }
  refine ⟨{ h with audit := ?_ }, hkept s, hkept t⟩
  rw [record_audit, record_audit, h.audit]

theorem insertEvent {event : AuditEvent} (horg : event.organizationId = organizationId) :
    Except.Related (Twins organizationId s t) (s.insertEvent event) (t.insertEvent event) := by
  subst horg
  unfold Database.insertEvent
  simp only [h.organization, h.members]
  split
  · exact rfl
  · exact h.record rfl

theorem insertTicket (ticket : Ticket) (horg : ticket.organizationId = organizationId)
    (hs : Table.OnlyFor (·.organizationId = organizationId) s.tickets ticket.id)
    (ht : Table.OnlyFor (·.organizationId = organizationId) t.tickets ticket.id) :
    Except.Related (TwinResults organizationId s t) (s.insertTicket ticket)
      (t.insertTicket ticket) := by
  subst horg
  unfold Database.insertTicket
  split
  · next subject externalId _ _ =>
    have hany := h.tickets.any (q := fun row ↦ row.organizationId = ticket.organizationId ∧
      row.sourceType = ticket.sourceType ∧ row.externalId = externalId) fun _ hq ↦
        (of_decide_eq_true hq).1
    dsimp only
    simp only [h.organization, h.getCustomer, hany]
    split
    · exact rfl
    · rcases h.tickets.insert?_cases
          (r := { ticket with subject := subject, externalId := externalId }) hs ht rfl with
        ⟨hnone, hnone'⟩ | ⟨tickets, tickets', hinsert, hinsert', hown, hkept, hkept'⟩
      · rw [hnone, hnone']
        exact rfl
      · rw [hinsert, hinsert']
        exact ⟨rfl, { h with tickets := hown }, { KeepsOthers.refl s with tickets := hkept },
          { KeepsOthers.refl t with tickets := hkept' }⟩
  · exact rfl

theorem insertAgentMessage (message : TicketMessage)
    (horg : message.organizationId = organizationId)
    (hs : Table.OnlyFor (·.organizationId = organizationId) s.ticketMessages message.id)
    (ht : Table.OnlyFor (·.organizationId = organizationId) t.ticketMessages message.id) :
    Except.Related (Twins organizationId s t) (s.insertAgentMessage message)
      (t.insertAgentMessage message) := by
  subst horg
  unfold Database.insertAgentMessage
  split
  · exact rfl
  · next body _ =>
    simp only [h.getTicket, h.members]
    split
    · exact rfl
    · rcases h.ticketMessages.insert?_cases hs ht rfl with
        ⟨hnone, hnone'⟩ | ⟨messages, messages', hinsert, hinsert', hown, hkept, hkept'⟩
      · rw [hnone, hnone']
        exact rfl
      · rw [hinsert, hinsert']
        exact ⟨{ h with ticketMessages := hown },
          { KeepsOthers.refl s with ticketMessages := hkept },
          { KeepsOthers.refl t with ticketMessages := hkept' }⟩

end AgreeFor

/-- What a step before left of a key that was free for the organization. -/
theorem Twins.onlyFor_ticketMessages {s' t' : Database} {messageId : UUID}
    (h : Twins organizationId s t s' t')
    (hs : Table.OnlyFor (·.organizationId = organizationId) s.ticketMessages messageId)
    (ht : Table.OnlyFor (·.organizationId = organizationId) t.ticketMessages messageId) :
    Table.OnlyFor (·.organizationId = organizationId) s'.ticketMessages messageId ∧
      Table.OnlyFor (·.organizationId = organizationId) t'.ticketMessages messageId :=
  ⟨hs.kept h.left.ticketMessages, ht.kept h.right.ticketMessages⟩

end Database

/-! #### Tickets -/

section Tickets

open TicketService Database

variable {s t : Database}

theorem related_orPersistenceError {α β : Type} {R : α → β → Prop} {x : Except Raised α}
    {y : Except Raised β} (h : Except.Related R x y) :
    Except.Related R (orPersistenceError x) (orPersistenceError y) := by
  rcases x with e | a <;> rcases y with e' | b
  · obtain rfl : e = e' := h
    cases e <;> exact rfl
  · exact h.elim
  · exact h.elim
  · exact h

theorem getTicket_of_checkTransition {request : TransitionRequest} {status : TicketStatus}
    (h : (checkTransition request s).mapError TicketServiceError.ticket = .ok status) :
    ∃ ticket, TicketRepository.getTicket request.organizationId request.ticketId s =
      some ticket := by
  unfold checkTransition at h
  split at h
  · cases h
  · next ticket hget => exact ⟨ticket, hget⟩

variable (h : AgreeFor organizationId s t)
include h

theorem createTicket_isolated (faults : Faults) {request : CreateRequest}
    (horg : request.organizationId = organizationId) {draw : TicketDraw}
    (hs : Table.OnlyFor (·.organizationId = organizationId) s.tickets draw.ticketId)
    (ht : Table.OnlyFor (·.organizationId = organizationId) t.tickets draw.ticketId)
    (hsm : Table.OnlyFor (·.organizationId = organizationId) s.ticketMessages draw.messageId)
    (htm : Table.OnlyFor (·.organizationId = organizationId) t.ticketMessages draw.messageId) :
    Except.Related (TwinResults organizationId s t) (createTicket faults request draw s)
      (createTicket faults request draw t) := by
  subst horg
  have hcheck : checkCreate faults request s = checkCreate faults request t := by
    unfold checkCreate
    simp only [h.getCustomer]
  unfold createTicket
  rw [hcheck]
  refine .bind_same fun _ _ ↦ related_orPersistenceError ?_
  refine .bind_same fun _ _ ↦ .bind_same fun _ _ ↦ .bind_same fun _ _ ↦ ?_
  refine .bind (h.insertTicket (newTicket request draw) rfl hs ht) ?_
  rintro ⟨ticket, s₁⟩ ⟨_, t₁⟩ ⟨rfl, h₁⟩
  obtain ⟨hsm₁, htm₁⟩ := h₁.onlyFor_ticketMessages hsm htm
  refine .bind (h₁.own.insertAgentMessage _ rfl hsm₁ htm₁) fun s₂ t₂ h₂ ↦ ?_
  refine .bind (h₂.own.insertEvent rfl) fun s₃ t₃ h₃ ↦ ?_
  refine .bind (h₃.own.insertEvent rfl) fun s₄ t₄ h₄ ↦ .bind_same fun _ _ ↦ ?_
  exact ⟨rfl, ((h₁.trans h₂).trans h₃).trans h₄⟩

theorem appendAgentMessage_isolated (faults : Faults) {request : AppendRequest}
    (horg : request.organizationId = organizationId) {draw : MessageDraw}
    (hs : Table.OnlyFor (·.organizationId = organizationId) s.ticketMessages draw.messageId)
    (ht : Table.OnlyFor (·.organizationId = organizationId) t.ticketMessages draw.messageId) :
    Except.Related (TwinResults organizationId s t) (appendAgentMessage faults request draw s)
      (appendAgentMessage faults request draw t) := by
  subst horg
  have hcheck : checkAppend faults request s = checkAppend faults request t := by
    unfold checkAppend
    rw [h.getTicket]
  unfold appendAgentMessage
  rw [hcheck]
  refine .bind_same fun _ _ ↦ related_orPersistenceError ?_
  refine .bind_same fun _ _ ↦ .bind_same fun _ _ ↦ ?_
  refine .bind (h.insertAgentMessage _ rfl hs ht) fun s₁ t₁ h₁ ↦ ?_
  refine .bind (h₁.own.insertEvent rfl) fun s₂ t₂ h₂ ↦ .bind_same fun _ _ ↦ ?_
  exact ⟨rfl, h₁.trans h₂⟩

/-- The `UPDATE` selects by the key alone, but the row under it is the one that was read. -/
theorem commitTransition_isolated {request : TransitionRequest}
    (horg : request.organizationId = organizationId) (previousStatus : TicketStatus)
    {ticket : Ticket}
    (hget : TicketRepository.getTicket organizationId request.ticketId s = some ticket) :
    ∃ change s' t', commitTransition request previousStatus s = some (change, s') ∧
      commitTransition request previousStatus t = some (change, t') ∧
        Twins organizationId s t s' t' := by
  have hget' : TicketRepository.getTicket organizationId request.ticketId t = some ticket :=
    h.getTicket request.ticketId ▸ hget
  obtain ⟨hs, howner⟩ := Option.filter_eq_some_iff.1 hget
  obtain ⟨ht, -⟩ := Option.filter_eq_some_iff.1 hget'
  have hown : ticket.organizationId = organizationId := of_decide_eq_true howner
  have hid : ticket.id = request.ticketId := Table.key_of_get? hs
  have hs' : s.tickets.get? (key { ticket with status := request.nextStatus }) = some ticket :=
    hid ▸ hs
  have ht' : t.tickets.get? (key { ticket with status := request.nextStatus }) = some ticket :=
    hid ▸ ht
  unfold commitTransition
  rw [hs, ht]
  have hset : Twins organizationId s t
      { s with tickets := s.tickets.set { ticket with status := request.nextStatus } }
      { t with tickets := t.tickets.set { ticket with status := request.nextStatus } } :=
    ⟨{ h with tickets := h.tickets.set hs' ht' },
      { KeepsOthers.refl s with
        tickets := Table.agreeOn_set hs' (not_not.2 hown) (not_not.2 hown) },
      { KeepsOthers.refl t with
        tickets := Table.agreeOn_set ht' (not_not.2 hown) (not_not.2 hown) }⟩
  exact ⟨_, _, _, rfl, rfl, hset.trans (hset.own.record horg)⟩

theorem transitionTicket_isolated (faults : Faults) {request : TransitionRequest}
    (horg : request.organizationId = organizationId) :
    Except.Related (TwinResults organizationId s t) (transitionTicket faults request s)
      (transitionTicket faults request t) := by
  subst horg
  have hcheck : checkTransition request s = checkTransition request t := by
    unfold checkTransition
    rw [h.getTicket]
  unfold transitionTicket
  rw [hcheck]
  refine .bind_same fun _ _ ↦ .bind_same fun previousStatus hchecked ↦
    related_orPersistenceError ?_
  refine .bind_same fun _ _ ↦ .bind_same fun _ _ ↦ ?_
  refine .bind (h.insertEvent rfl) fun _ _ _ ↦ ?_
  -- A check that passed has read a ticket of the organization.
  obtain ⟨ticket, hget⟩ := getTicket_of_checkTransition (hcheck ▸ hchecked)
  obtain ⟨change, s', t', hs, ht, h'⟩ := commitTransition_isolated h rfl previousStatus hget
  rw [hs, ht]
  dsimp only
  refine .bind_same fun _ _ ↦ ?_
  rw [h'.own.getTicket]
  split
  · exact rfl
  · exact ⟨rfl, h'⟩

end Tickets

/-! #### Classifications -/

section Classifications

open Database

variable {s t : Database} (h : AgreeFor organizationId s t)
include h

theorem setOperation_isolated {found written : ClassificationOperation}
    (horg : found.organizationId = organizationId) (hsame : SameWork found written)
    (hs : s.operations.get? found.id = some found) (ht : t.operations.get? found.id = some found) :
    Twins organizationId s t (s.setOperation written) (t.setOperation written) := by
  have hs' : s.operations.get? (key written) = some found :=
    (congrArg s.operations.get? hsame.id).trans hs
  have ht' : t.operations.get? (key written) = some found :=
    (congrArg t.operations.get? hsame.id).trans ht
  have hwritten : written.organizationId = organizationId := hsame.organizationId.trans horg
  exact ⟨{ h with operations := h.operations.set hs' ht' },
    { KeepsOthers.refl s with
      operations := Table.agreeOn_set hs' (not_not.2 hwritten) (not_not.2 horg) },
    { KeepsOthers.refl t with
      operations := Table.agreeOn_set ht' (not_not.2 hwritten) (not_not.2 horg) }⟩

theorem recordFinished_isolated {operation : ClassificationOperation}
    (horg : operation.organizationId = organizationId) :
    Except.Related (Twins organizationId s t) (recordFinished operation s)
      (recordFinished operation t) := by
  unfold recordFinished AuditEventService.recordClassificationFinished
  split
  · next event hevent =>
    split at hevent
    · cases hevent
    · cases hevent
      exact h.record horg
  · exact rfl

/-- A row of the organization, written back with its audit row. -/
theorem settle_isolated {found written : ClassificationOperation}
    (horg : found.organizationId = organizationId) (hsame : SameWork found written)
    (hs : s.operations.get? found.id = some found) (ht : t.operations.get? found.id = some found) :
    Except.Related (Twins organizationId s t) (recordFinished written (s.setOperation written))
      (recordFinished written (t.setOperation written)) := by
  have hset := setOperation_isolated h horg hsame hs ht
  exact (recordFinished_isolated hset.own (hsame.organizationId.trans horg)).mono
    fun _ _ ↦ hset.trans

theorem resume_isolated (runtime : Option FakeClassificationRuntime) (viewedAt writtenAt : Instant)
    {found : ClassificationOperation} (horg : found.organizationId = organizationId)
    (hs : found ∈ s.operations) (ht : found ∈ t.operations) :
    Except.Related (TwinResults organizationId s t) (resume runtime found viewedAt writtenAt s)
      (resume runtime found viewedAt writtenAt t) := by
  unfold resume
  refine .bind_same fun v _ ↦ ?_
  split
  · refine .bind (settle_isolated h horg (materialize_sameWork found writtenAt)
      (Table.get?_key hs) (Table.get?_key ht)) fun s' t' h' ↦ ?_
    exact ⟨rfl, h'⟩
  · exact ⟨rfl, .refl h⟩

theorem insertOperation?_isolated (operation : ClassificationOperation)
    (horg : operation.organizationId = organizationId)
    (hfind : s.findOperation operation.identity = t.findOperation operation.identity)
    (hs : Table.OnlyFor (·.organizationId = organizationId) s.operations operation.id)
    (ht : Table.OnlyFor (·.organizationId = organizationId) t.operations operation.id) :
    (s.insertOperation? operation = none ∧ t.insertOperation? operation = none) ∨
      ∃ s' t', s.insertOperation? operation = some s' ∧ t.insertOperation? operation = some t' ∧
        Twins organizationId s t s' t' := by
  unfold insertOperation?
  rw [hfind]
  split
  · exact .inl ⟨rfl, rfl⟩
  · rcases h.operations.insert?_cases hs ht horg with
      ⟨hnone, hnone'⟩ | ⟨operations, operations', hinsert, hinsert', hown, hkept, hkept'⟩
    · rw [hnone, hnone']
      exact .inl ⟨rfl, rfl⟩
    · rw [hinsert, hinsert']
      exact .inr ⟨_, _, rfl, rfl, { h with operations := hown },
        { KeepsOthers.refl s with operations := hkept },
        { KeepsOthers.refl t with operations := hkept' }⟩

theorem claimPrepared_isolated (hunique : s.UniqueIdentities)
    (runtime : Option FakeClassificationRuntime) {made : ClassificationClaim}
    (horg : made.organizationId = organizationId) (viewedAt writtenAt : Instant)
    (hs : Table.OnlyFor (·.organizationId = organizationId) s.operations made.operationId)
    (ht : Table.OnlyFor (·.organizationId = organizationId) t.operations made.operationId) :
    Except.Related (TwinResults organizationId s t)
      (claimPrepared runtime made viewedAt writtenAt s)
      (claimPrepared runtime made viewedAt writtenAt t) := by
  subst horg
  have hfind : s.findOperation made.identity = t.findOperation made.identity :=
    h.findOperation hunique _ _ _
  unfold claimPrepared
  rw [hfind]
  split
  · next found hfound =>
    obtain ⟨hmem, hidentity⟩ := findOperation_eq_some (hfind.trans hfound)
    exact resume_isolated h runtime viewedAt writtenAt
      (congrArg ClassificationIdentity.organizationId hidentity) hmem
      (findOperation_eq_some hfound).1
  · rcases insertOperation?_isolated h (made.operation writtenAt) rfl hfind hs ht with
      ⟨hnone, hnone'⟩ | ⟨s', t', hinsert, hinsert', h'⟩
    · rw [hnone, hnone']
      exact rfl
    · rw [hinsert, hinsert']
      exact ⟨rfl, h'⟩

theorem claim_isolated (sha256 : String → String) (hunique : s.UniqueIdentities)
    (runtime : Option FakeClassificationRuntime) (actorId ticketId : UUID) {operationId : UUID}
    (viewedAt writtenAt : Instant)
    (hs : Table.OnlyFor (·.organizationId = organizationId) s.operations operationId)
    (ht : Table.OnlyFor (·.organizationId = organizationId) t.operations operationId) :
    Except.Related (TwinResults organizationId s t)
      (claim sha256 runtime organizationId actorId ticketId operationId viewedAt writtenAt s)
      (claim sha256 runtime organizationId actorId ticketId operationId viewedAt writtenAt t) := by
  unfold claim
  rw [h.ticket]
  refine .bind_same fun found hfound ↦ ?_
  rw [h.ticketInput (organizationId_of_ticket hfound)]
  split
  · exact rfl
  · split
    · exact rfl
    · exact rfl
    · exact claimPrepared_isolated h hunique _ rfl viewedAt writtenAt hs ht

theorem complete_isolated (sha256 : String → String) {claim : ClassificationClaim}
    (horg : claim.organizationId = organizationId) (outcome : ProviderOutcome) (elapsedMs : ℕ)
    (completedAt checkedAt : Instant) :
    Except.Related (TwinResults organizationId s t)
      (complete sha256 claim outcome elapsedMs completedAt checkedAt s)
      (complete sha256 claim outcome elapsedMs completedAt checkedAt t) := by
  subst horg
  have hfound := h.operations.get?_filter
    (q := fun operation ↦ operation.organizationId = claim.organizationId)
    (fun _ hq ↦ of_decide_eq_true hq) claim.operationId
  unfold complete
  dsimp only
  rw [hfound, h.authorized, h.completionChecks rfl]
  split
  · exact rfl
  · next operation hget =>
    obtain ⟨ht, howner⟩ := Option.filter_eq_some_iff.1 hget
    obtain ⟨hs, -⟩ := Option.filter_eq_some_iff.1 (hfound.trans hget)
    have hid : operation.id = claim.operationId := Table.key_of_get? ht
    split
    · exact .bind_same fun _ _ ↦ ⟨rfl, .refl h⟩
    · refine .bind_same fun checks _ ↦ ?_
      refine .bind (settle_isolated h (of_decide_eq_true howner)
        (settle_sameWork operation checks outcome elapsedMs completedAt checkedAt)
        (hid ▸ hs) (hid ▸ ht)) fun s' t' h' ↦ ?_
      exact .bind_same fun _ _ ↦ ⟨rfl, h'⟩

end Classifications

/-! ### Operations -/

namespace StoredDatabase

variable {s t : StoredDatabase} {α β ε : Type}

theorem AgreeFor.refl (s : StoredDatabase) : AgreeFor organizationId s s :=
  ⟨.refl _, .refl _ _⟩

theorem KeepsOthers.refl (s : StoredDatabase) : KeepsOthers organizationId s s :=
  ⟨.refl _, .refl _ _⟩

theorem KeepsOthers.trans {u : StoredDatabase} (h : KeepsOthers organizationId s t)
    (h' : KeepsOthers organizationId t u) : KeepsOthers organizationId s u :=
  ⟨h.session.trans h'.session, h.auditRows.trans h'.auditRows⟩

/-- Two runs of an operation have the same answer, and leave two databases that still agree for the
organization and differ from those before only in its rows. -/
def Isolated (organizationId : UUID) (s t : StoredDatabase) (x y : α × StoredDatabase) : Prop :=
  x.1 = y.1 ∧ Twin (AgreeFor organizationId) (KeepsOthers organizationId) s t x.2 y.2

/-- A query that answers the same. -/
theorem AgreeFor.isolated (h : AgreeFor organizationId s t) {a b : α} (hab : a = b) :
    Isolated organizationId s t (a, s) (b, t) :=
  ⟨hab, h, .refl s, .refl t⟩

theorem AgreeFor.listEvents (h : AgreeFor organizationId s t) (limit offset : ℕ) :
    AuditEventRepository.listEvents organizationId limit offset s.auditRows =
      AuditEventRepository.listEvents organizationId limit offset t.auditRows := by
  have hselects : ∀ row : AuditRow, decide (row.event.organizationId = organizationId) = true →
      row.event.organizationId = organizationId := fun _ hq ↦ of_decide_eq_true hq
  have hsorted := (Table.orders_newest AuditRow.createdAt AuditRow.id fun _ _ ↦ id).insertionSort
    h.auditRows hselects
  unfold AuditEventRepository.listEvents
  dsimp only
  rw [hsorted, h.auditRows.length_filter hselects]

/-- The ids drawn for audit rows are not those of another organization's rows. -/
def StampsFor (organizationId : UUID) (stamps : AuditStamps) (s : StoredDatabase) : Prop :=
  ∀ n, Table.OnlyFor (·.event.organizationId = organizationId) s.auditRows (stamps n).1

theorem FreshStamps.stampsFor {stamps : AuditStamps} (h : s.FreshStamps stamps) :
    s.StampsFor organizationId stamps :=
  fun n ↦ Table.onlyFor_of_get?_eq_none (h n)

theorem StampsFor.kept {stamps : AuditStamps} (h : s.StampsFor organizationId stamps)
    (hkept : s.KeepsOthers organizationId t) : t.StampsFor organizationId stamps :=
  fun n ↦ (h n).kept hkept.auditRows

/-- **A transaction is isolated when its body is**: its audit rows are stored in both databases or
in neither. -/
theorem AgreeFor.transaction (h : AgreeFor organizationId s t) (taken : ε) {stamps : AuditStamps}
    (hs : s.StampsFor organizationId stamps) (ht : t.StampsFor organizationId stamps)
    {run : Database → Except ε (α × Database)}
    (hrun : Except.Related (Database.TwinResults organizationId s.session t.session)
      (run s.session) (run t.session)) :
    Isolated organizationId s t (s.transaction taken stamps run)
      (t.transaction taken stamps run) := by
  unfold StoredDatabase.transaction
  rcases hrun_s : run s.session with e | ⟨a, s'⟩ <;>
    rcases hrun_t : run t.session with e' | ⟨b, t'⟩ <;> rw [hrun_s, hrun_t] at hrun
  · exact h.isolated (congrArg Except.error hrun)
  · exact hrun.elim
  · exact hrun.elim
  obtain ⟨hab, htwins⟩ : a = b ∧ Database.Twins organizationId s.session t.session s' t' := hrun
  have hevents : ∀ event ∈ s'.audit, event.organizationId = organizationId := by
    obtain ⟨events, haudit, hevents⟩ := htwins.left.audit
    exact fun event he ↦ hevents event
      (show event ∈ s.session.audit ++ events from haudit ▸ he)
  have hrows : ∀ row ∈ s'.audit.mapIdx stamps.row, ∃ n, row.id = (stamps n).1 ∧
      row.event.organizationId = organizationId := by
    intro row hrow
    obtain ⟨n, hn, rfl⟩ := List.mem_mapIdx.1 hrow
    exact ⟨n, rfl, hevents _ (List.getElem_mem hn)⟩
  have honly : ∀ u : StoredDatabase, u.StampsFor organizationId stamps →
      ∀ row ∈ s'.audit.mapIdx stamps.row,
        Table.OnlyFor (·.event.organizationId = organizationId) u.auditRows (key row) := by
    intro u hu row hrow x hx hkey
    obtain ⟨n, hid, -⟩ := hrows row hrow
    exact hu n x hx (hkey.trans hid)
  have hown : ∀ row ∈ s'.audit.mapIdx stamps.row, row.event.organizationId = organizationId :=
    fun row hrow ↦ (hrows row hrow).choose_spec.2
  dsimp only
  unfold commit?
  rw [← htwins.own.audit]
  rcases h.auditRows.append?_cases (honly s hs) (honly t ht) hown with
    ⟨hnone, hnone'⟩ | ⟨rows, rows', happend, happend', hagree, hkept, hkept'⟩
  · rw [hnone, hnone']
    exact h.isolated rfl
  · rw [happend, happend']
    exact ⟨congrArg Except.ok hab, ⟨{ htwins.own with audit := rfl }, hagree⟩,
      ⟨{ htwins.left with audit := (KeepsOthers.refl s).session.audit }, hkept⟩,
      ⟨{ htwins.right with audit := (KeepsOthers.refl t).session.audit }, hkept'⟩⟩

/-- Steps on from where two runs are. -/
theorem Isolated.after {s' t' : StoredDatabase} {x y : α × StoredDatabase}
    (h : Isolated organizationId s' t' x y)
    (hbefore : Twin (AgreeFor organizationId) (KeepsOthers organizationId) s t s' t') :
    Isolated organizationId s t x y :=
  ⟨h.1, hbefore.trans (fun _ _ _ ↦ KeepsOthers.trans) h.2⟩

section Classifications

theorem claimStored_claimed {sha256 : String → String} {runtime : Option FakeClassificationRuntime}
    {actorId ticketId : UUID}
    {draw : ClaimDraw} {made : ClassificationClaim}
    (h : claimStored sha256 runtime organizationId actorId ticketId draw s =
      (.ok (.claimed made), t)) : made.organizationId = organizationId := by
  obtain ⟨db, hrun, -⟩ := transaction_eq_ok h
  obtain ⟨made', -, horg, -, -, -, -, ⟨found, -, hresume⟩ | ⟨hmade, -⟩⟩ := claim_spec hrun
  · obtain ⟨v, hexisting, -⟩ := resume_spec hresume
    cases hexisting
  · cases hmade
    exact horg

variable (h : AgreeFor organizationId s t) (sha256 : String → String)
include h

theorem AgreeFor.claimStored_isolated (hunique : s.session.UniqueIdentities)
    (runtime : Option FakeClassificationRuntime) (actorId ticketId : UUID) {draw : ClaimDraw}
    (hs : Table.OnlyFor (·.organizationId = organizationId) s.operations draw.operationId)
    (ht : Table.OnlyFor (·.organizationId = organizationId) t.operations draw.operationId)
    (hstamps : s.StampsFor organizationId draw.stamps)
    (hstamps' : t.StampsFor organizationId draw.stamps) :
    Isolated organizationId s t
      (claimStored sha256 runtime organizationId actorId ticketId draw s)
      (claimStored sha256 runtime organizationId actorId ticketId draw t) :=
  h.transaction _ hstamps hstamps' (claim_isolated h.session sha256 hunique _ _ _ _ _ hs ht)

theorem AgreeFor.completeStored_isolated {claim : ClassificationClaim}
    (horg : claim.organizationId = organizationId) (outcome : ProviderOutcome)
    {draw : CompletionDraw} (hstamps : s.StampsFor organizationId draw.stamps)
    (hstamps' : t.StampsFor organizationId draw.stamps) :
    Isolated organizationId s t (completeStored sha256 claim outcome draw s)
      (completeStored sha256 claim outcome draw t) := by
  have hrun := h.transaction .integrity hstamps hstamps'
    (complete_isolated h.session sha256 horg outcome draw.elapsedMs draw.completedAt
      draw.checkedAt)
  unfold completeStored
  rcases hx : s.transaction .integrity draw.stamps (complete sha256 claim outcome draw.elapsedMs
    draw.completedAt draw.checkedAt) with ⟨answer, s'⟩
  rcases hy : t.transaction .integrity draw.stamps (complete sha256 claim outcome draw.elapsedMs
    draw.completedAt draw.checkedAt) with ⟨answer', t'⟩
  rw [hx, hy] at hrun ⊢
  obtain ⟨rfl, htwin⟩ : answer = answer' ∧ _ := hrun
  rcases answer with e | ⟨allowed, v⟩
  · exact ⟨rfl, htwin⟩
  · exact ⟨rfl, htwin⟩

/-- Both transactions of a `classify`. -/
theorem AgreeFor.classify_isolated (hunique : s.session.UniqueIdentities)
    (loads : String → Option Python.Json)
    (runtime : Option FakeClassificationRuntime) (actorId ticketId : UUID) {claimDraw : ClaimDraw}
    {completionDraw : CompletionDraw}
    (hs : Table.OnlyFor (·.organizationId = organizationId) s.operations claimDraw.operationId)
    (ht : Table.OnlyFor (·.organizationId = organizationId) t.operations claimDraw.operationId)
    (hclaim : s.StampsFor organizationId claimDraw.stamps)
    (hclaim' : t.StampsFor organizationId claimDraw.stamps)
    (hcompletion : s.StampsFor organizationId completionDraw.stamps)
    (hcompletion' : t.StampsFor organizationId completionDraw.stamps) :
    Isolated organizationId s t
      (classify sha256 loads runtime organizationId actorId ticketId claimDraw completionDraw s)
      (classify sha256 loads runtime organizationId actorId ticketId claimDraw completionDraw
        t) := by
  have hrun := h.claimStored_isolated sha256 hunique runtime actorId ticketId hs ht
    hclaim hclaim'
  unfold classify
  rcases hx : claimStored sha256 runtime organizationId actorId ticketId claimDraw s with
    ⟨answer, s'⟩
  rcases hy : claimStored sha256 runtime organizationId actorId ticketId claimDraw t with
    ⟨answer', t'⟩
  rw [hx, hy] at hrun
  obtain ⟨rfl, htwin⟩ : answer = answer' ∧ _ := hrun
  rcases answer with e | v | made
  · exact ⟨rfl, htwin⟩
  · exact ⟨rfl, htwin⟩
  · exact (htwin.own.completeStored_isolated sha256 (claimStored_claimed hx) _
      (hcompletion.kept htwin.left)
      (hcompletion'.kept htwin.right)).after htwin

end Classifications

/-- The unique constraints that the queries rely on. -/
structure Constrained (s : StoredDatabase) : Prop where
  versionNumbers : s.session.UniqueVersionNumbers
  intents : ∀ i ∈ s.intents, ∀ j ∈ s.intents, i.SameVersion j → i = j
  identities : s.session.UniqueIdentities

end StoredDatabase

/-- Every operation is isolated. -/
theorem TenantOperation.perform_isolated (sha256 : String → String)
    (loads : String → Option Python.Json) {α : Type} (op : TenantOperation α) {s t : StoredDatabase}
    (constrained : s.Constrained) (agree : s.AgreeFor organizationId t) (fresh : op.Fresh s)
    (fresh' : op.Fresh t) :
    StoredDatabase.Isolated organizationId s t (op.perform sha256 loads organizationId s)
      (op.perform sha256 loads organizationId t) := by
  cases op with
  | getCustomer customerId => exact agree.isolated (agree.session.getCustomer customerId)
  | getTicket ticketId => exact agree.isolated (agree.session.getTicket ticketId)
  | listTicketMessages ticketId =>
    exact agree.isolated (agree.session.listTicketMessages ticketId)
  | listTickets limit offset filters =>
    exact agree.isolated (agree.session.listTickets limit offset filters)
  | getTicketDetail ticketId => exact agree.isolated (agree.session.getTicketDetail ticketId)
  | createTicket faults request draw stamps =>
    obtain ⟨hticket, hmessage, hstamps⟩ := fresh
    obtain ⟨hticket', hmessage', hstamps'⟩ := fresh'
    exact agree.transaction _ hstamps.stampsFor hstamps'.stampsFor
      (createTicket_isolated agree.session faults rfl (Table.onlyFor_of_get?_eq_none hticket)
        (Table.onlyFor_of_get?_eq_none hticket') (Table.onlyFor_of_get?_eq_none hmessage)
        (Table.onlyFor_of_get?_eq_none hmessage'))
  | appendAgentMessage faults request draw stamps =>
    exact agree.transaction _ fresh.2.stampsFor fresh'.2.stampsFor
      (appendAgentMessage_isolated agree.session faults rfl
        (Table.onlyFor_of_get?_eq_none fresh.1) (Table.onlyFor_of_get?_eq_none fresh'.1))
  | transitionTicket faults request stamps =>
    exact agree.transaction _ (StoredDatabase.FreshStamps.stampsFor fresh)
      (StoredDatabase.FreshStamps.stampsFor fresh')
      (transitionTicket_isolated agree.session faults rfl)
  | listEvents limit offset => exact agree.isolated (agree.listEvents limit offset)
  | getWithLatestVersion documentId =>
    exact agree.isolated (agree.session.getWithLatestVersion constrained.versionNumbers documentId)
  | getForVersion versionId =>
    exact agree.isolated (agree.session.getForVersion constrained.intents versionId)
  | readClassification runtime actorId ticketId viewedAt =>
    exact agree.isolated (agree.session.read constrained.identities actorId ticketId viewedAt)
  | claimClassification runtime actorId ticketId draw =>
    exact agree.claimStored_isolated sha256 constrained.identities runtime actorId ticketId
      (Table.onlyFor_of_get?_eq_none fresh.1) (Table.onlyFor_of_get?_eq_none fresh'.1)
      fresh.2.stampsFor fresh'.2.stampsFor
  | completeClassification claim outcome draw =>
    exact agree.completeStored_isolated sha256 rfl outcome
      (StoredDatabase.FreshStamps.stampsFor fresh) (StoredDatabase.FreshStamps.stampsFor fresh')
  | classify runtime actorId ticketId claimDraw completionDraw =>
    exact agree.classify_isolated sha256 constrained.identities loads runtime actorId ticketId
      (Table.onlyFor_of_get?_eq_none fresh.1) (Table.onlyFor_of_get?_eq_none fresh'.1)
      fresh.2.1.stampsFor fresh'.2.1.stampsFor fresh.2.2.stampsFor fresh'.2.2.stampsFor

/-- **Tenant isolation.** In two databases that agree for an organization, and hold anything for the
others, an operation for it with the same arguments and the same fresh ids has the same answer or
raises the same error; it leaves databases that still agree; and every row of another organization
is there as before, and none was written. -/
theorem tenant_noninterference (sha256 : String → String) (loads : String → Option Python.Json)
    (organizationId : UUID) {α : Type} (op : TenantOperation α) (s t : StoredDatabase)
    (constrained : s.Constrained) (agree : s.AgreeFor organizationId t) (fresh : op.Fresh s)
    (fresh' : op.Fresh t) :
    (op.perform sha256 loads organizationId s).1 = (op.perform sha256 loads organizationId t).1 ∧
      (op.perform sha256 loads organizationId s).2.AgreeFor organizationId
        (op.perform sha256 loads organizationId t).2 ∧
      s.KeepsOthers organizationId (op.perform sha256 loads organizationId s).2 := by
  obtain ⟨hanswer, htwin⟩ := op.perform_isolated sha256 loads constrained agree fresh fresh'
  exact ⟨hanswer, htwin.own, htwin.left⟩

namespace TenantSample

/-- A tenant with one agent and one ticket. -/
def agent : OrganizationMember :=
  ⟨uuid 1, uuid 3, .agent, .active⟩

def user : User :=
  ⟨uuid 3, "agent@example.test", .active⟩

def ticket : Ticket :=
  ⟨uuid 10, uuid 1, none, .manual, none, "Cannot sign in", .opened, 0⟩

/-- Beside it, a second tenant with a ticket of its own. -/
def shared : StoredDatabase where
  identity :=
    { organizations := ⟨[⟨uuid 1, .active⟩, ⟨uuid 2, .active⟩], by decide⟩
      users := ⟨[user, ⟨uuid 4, "admin@example.test", .active⟩], by decide⟩
      members := ⟨[⟨uuid 2, uuid 4, .admin, .active⟩, agent], by decide⟩ }
  customers := .empty
  tickets := ⟨[⟨uuid 20, uuid 2, none, .api, some "A-1", "Refund", .opened, 0⟩, ticket], by decide⟩
  ticketMessages := .empty
  documents := .empty
  versions := .empty
  intents := .empty
  operations := .empty
  auditRows := .empty

/-- The tenant alone. -/
def alone : StoredDatabase where
  identity :=
    { organizations := .singleton ⟨uuid 1, .active⟩
      users := .singleton user
      members := .singleton agent }
  customers := .empty
  tickets := .singleton ticket
  ticketMessages := .empty
  documents := .empty
  versions := .empty
  intents := .empty
  operations := .empty
  auditRows := .empty

/-- A second ticket, under the external id of the other tenant's. -/
def operation : TenantOperation (Except TicketServiceError TicketService.CreatedTicket) :=
  .createTicket .none
    ⟨uuid 1, "Refund", .api, some "A-1", none, "Please refund", .agent, uuid 3⟩
    ⟨uuid 11, uuid 12, 5⟩ fun n ↦ (if n = 0 then uuid 100 else uuid 101, 5)

theorem get?_members (userId : UUID) :
    shared.identity.members.get? (uuid 1, userId) =
      alone.identity.members.get? (uuid 1, userId) := by
  have horg : uuid 2 ≠ uuid 1 := by decide
  have hkey : ¬((uuid 2, uuid 4) = (uuid 1, userId)) := fun h ↦ horg (congrArg Prod.fst h)
  exact List.find?_cons_of_neg (by simpa [key] using hkey)

theorem shared_agreeFor : shared.AgreeFor (uuid 1) alone where
  session :=
    { organization := by decide
      members := get?_members
      users := fun userId h ↦ by
        by_cases huser : userId = uuid 3
        · rw [huser]
          decide
        · refine absurd ((get?_members userId).trans ?_) h
          refine Table.get?_eq_none_iff.2 fun m hm hkey ↦ huser ?_
          obtain rfl := List.mem_singleton.1 hm
          exact (congrArg Prod.snd hkey).symm
      customers := .refl _ _
      tickets := by decide
      ticketMessages := .refl _ _
      documents := .refl _ _
      versions := .refl _ _
      intents := .refl _ _
      operations := .refl _ _
      audit := rfl }
  auditRows := .refl _ _

end TenantSample

/-- Both tenants may use the same external id, and neither learns of the other. -/
theorem tenant_noninterference_sample :
    (TenantSample.operation.perform id (fun _ ↦ none) (uuid 1) TenantSample.shared).1 =
        (TenantSample.operation.perform id (fun _ ↦ none) (uuid 1) TenantSample.alone).1 ∧
      (TenantSample.operation.perform id (fun _ ↦ none) (uuid 1) TenantSample.shared).2.AgreeFor
        (uuid 1) (TenantSample.operation.perform id (fun _ ↦ none) (uuid 1) TenantSample.alone).2 ∧
      TenantSample.shared.KeepsOthers (uuid 1)
        (TenantSample.operation.perform id (fun _ ↦ none) (uuid 1) TenantSample.shared).2 :=
  tenant_noninterference _ _ _ _ _ _
    ⟨fun _ h ↦ absurd h List.not_mem_nil, fun _ h ↦ absurd h List.not_mem_nil,
      fun _ h ↦ absurd h List.not_mem_nil⟩
    TenantSample.shared_agreeFor ⟨by decide, rfl, fun _ ↦ rfl⟩ ⟨by decide, rfl, fun _ ↦ rfl⟩

end SupportFlow
