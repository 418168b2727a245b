import SupportFlow.Database
import SupportFlow.Foundations.Sql

/-!
# The ticket service

`TicketRepository` and `TicketService`. A call that writes is cut at the two places where the
database is asked: the lookups with the checks on them, and the commit that writes its rows and
their audit rows. Between the two the session of `transition_ticket` holds the status it read and no
lock on the row: `TicketRepository.get_ticket` adds `FOR UPDATE` only when asked to, and
`transition_ticket` does not ask.

Rows are staged in the session and flushed by the commit, so a call that raises before its commit
has written nothing.
-/

namespace SupportFlow

namespace TicketRepository

/-- `get_ticket`: the ticket of an organization. -/
def getTicket (organizationId ticketId : UUID) (db : Database) : Option Ticket :=
  (db.tickets.get? ticketId).filter fun ticket ↦ decide (ticket.organizationId = organizationId)

/-- `get_customer`. -/
def getCustomer (organizationId customerId : UUID) (db : Database) : Option Customer :=
  (db.customers.get? customerId).filter fun customer ↦
    decide (customer.organizationId = organizationId)

/-- `list_ticket_messages`: the messages of a ticket, oldest first. -/
def listTicketMessages (organizationId ticketId : UUID) (db : Database) : List TicketMessage :=
  (db.ticketMessages.rows.filter fun message ↦
    message.organizationId = organizationId ∧ message.ticketId = ticketId).insertionSort
      fun a b ↦ a.createdAt < b.createdAt ∨ a.createdAt = b.createdAt ∧ a.id ≤ b.id

/-- The optional filters of `list_tickets`. -/
structure TicketFilters where
  ticketStatus : Option TicketStatus
  sourceType : Option TicketSourceType
  customerId : Option UUID
  deriving DecidableEq, Repr

/-- The condition of `list_tickets`. -/
def TicketFilters.admits (filters : TicketFilters) (organizationId : UUID) (ticket : Ticket) :
    Bool :=
  ticket.organizationId = organizationId && filters.ticketStatus.all (ticket.status = ·) &&
    filters.sourceType.all (ticket.sourceType = ·) &&
    filters.customerId.all (ticket.customerId = some ·)

structure TicketPage where
  items : List Ticket
  total : ℕ
  deriving DecidableEq, Repr

/-- `list_tickets`: newest first. -/
def listTickets (organizationId : UUID) (limit offset : ℕ) (filters : TicketFilters)
    (db : Database) : TicketPage :=
  let rows := db.tickets.rows.filter (filters.admits organizationId)
  let sorted := rows.insertionSort fun a b ↦
    b.createdAt < a.createdAt ∨ a.createdAt = b.createdAt ∧ b.id ≤ a.id
  ⟨(sorted.drop offset).take limit, rows.length⟩

end TicketRepository

/-- What `transition_ticket` raises before it writes. -/
inductive TicketError
  | ticketNotFound
  | invalidTicketTransition (currentStatus requestedStatus : TicketStatus)
  deriving DecidableEq, Repr

/-- The text of `InvalidTicketTransitionError`. -/
def TicketError.message : TicketError → String
  | ticketNotFound => ""
  | invalidTicketTransition currentStatus requestedStatus =>
    "Cannot transition ticket from " ++ currentStatus.value ++ " to " ++ requestedStatus.value

namespace TicketService

/-- `ALLOWED_TRANSITIONS`. -/
def allowedTransitions : TicketStatus → Option TicketStatus
  | .opened => some .processing
  | .processing => some .waitingForAgent
  | .waitingForAgent => some .resolved
  | .resolved => some .closed
  | .closed => none

/-- **Only one status leads to a given one**, so a transition's target names its source. -/
theorem allowedTransitions_inj {s t next : TicketStatus} (hs : allowedTransitions s = some next)
    (ht : allowedTransitions t = some next) : s = t := by
  have h : allowedTransitions s = allowedTransitions t := hs.trans ht.symm
  cases s <;> cases t <;> first | rfl | simp [allowedTransitions] at h

/-- A transition goes exactly one place forward. -/
theorem rank_of_allowed {s next : TicketStatus} (h : allowedTransitions s = some next) :
    next.rank = s.rank + 1 := by
  cases s <;> cases next <;> simp_all [allowedTransitions, TicketStatus.rank]

/-- The arguments of a `transition_ticket` call, with the organization of its service. -/
structure TransitionRequest where
  organizationId : UUID
  ticketId : UUID
  nextStatus : TicketStatus
  currentUserId : UUID
  deriving DecidableEq, Repr

/-- The read and the check of `transition_ticket`: the status the ticket was seen in, when the
request may follow it. -/
def checkTransition (request : TransitionRequest) (db : Database) :
    Except TicketError TicketStatus :=
  match TicketRepository.getTicket request.organizationId request.ticketId db with
  | none => .error .ticketNotFound
  | some ticket =>
    if allowedTransitions ticket.status = some request.nextStatus then .ok ticket.status
    else .error (.invalidTicketTransition ticket.status request.nextStatus)

/-- A committed status change: the status the row had in the database, the one the call had read,
and the one it wrote. -/
structure StatusChange where
  ticketId : UUID
  found : TicketStatus
  previous : TicketStatus
  next : TicketStatus
  deriving DecidableEq, Repr

/-- The commit of `transition_ticket`. The `UPDATE` selects the row by its key alone, so it does not
ask which status the row has now. -/
def commitTransition (request : TransitionRequest) (previousStatus : TicketStatus)
    (db : Database) : Option (StatusChange × Database) :=
  (db.tickets.get? request.ticketId).map fun ticket ↦
    (⟨request.ticketId, ticket.status, previousStatus, request.nextStatus⟩,
      { db with tickets := db.tickets.set { ticket with status := request.nextStatus } }.record
        (AuditEventService.recordTicketStatusChanged request.organizationId request.currentUserId
          request.ticketId previousStatus request.nextStatus))

/-- A check that passes read a status that the request may follow. -/
theorem checkTransition_allowed {request : TransitionRequest} {db : Database}
    {status : TicketStatus} (h : checkTransition request db = .ok status) :
    allowedTransitions status = some request.nextStatus := by
  unfold checkTransition at h
  split at h
  · cases h
  · split at h
    · next hallowed =>
      cases h
      exact hallowed
    · cases h

/-- What a commit of `transition_ticket` did. -/
theorem commitTransition_spec {request : TransitionRequest} {previousStatus : TicketStatus}
    {db db' : Database} {change : StatusChange}
    (h : commitTransition request previousStatus db = some (change, db')) :
    ∃ ticket, db.tickets.get? request.ticketId = some ticket ∧
      change = ⟨request.ticketId, ticket.status, previousStatus, request.nextStatus⟩ ∧
      db'.tickets = db.tickets.set { ticket with status := request.nextStatus } ∧
      db'.audit = db.audit ++ [AuditEventService.recordTicketStatusChanged request.organizationId
        request.currentUserId request.ticketId previousStatus request.nextStatus] := by
  obtain ⟨ticket, hget, heq⟩ := Option.map_eq_some_iff.1 h
  cases heq
  exact ⟨ticket, hget, rfl, rfl, rfl⟩

end TicketService

/-! ### Creating tickets and messages -/

/-- What `TicketService` raises. -/
inductive TicketServiceError
  | customerNotFound
  /-- `ValueError`, with `message`. -/
  | agentAuthorRequired
  | ticket (error : TicketError)
  | ticketPersistence
  /-- An exception of a step, as it was raised. -/
  | raised (error : Raised)
  deriving DecidableEq, Repr

/-- The text of the `ValueError`. -/
def TicketServiceError.message : TicketServiceError → String
  | agentAuthorRequired => "Public ticket creation requires an agent author"
  | ticket error => error.message
  | customerNotFound | ticketPersistence | raised _ => ""

namespace Database

/-- `INSERT INTO tickets`, with the row as it is stored: its texts fit, the subject is trimmed, the
organization and the customer exist, and the external id is not taken. -/
def insertTicket (ticket : Ticket) (db : Database) : Except Raised (Ticket × Database) :=
  match Sql.varchar 300 ticket.subject, ticket.externalId.mapM (Sql.varchar 255) with
  | some subject, some externalId =>
    let stored := { ticket with subject := subject, externalId := externalId }
    if ¬Sql.Trimmed subject ∨ db.identity.organizations.get? ticket.organizationId = none ∨
        (ticket.customerId.any fun customerId ↦
          (TicketRepository.getCustomer ticket.organizationId customerId db).isNone) ∨
        externalId.isSome ∧ db.tickets.rows.any fun row ↦
          row.organizationId = ticket.organizationId ∧ row.sourceType = ticket.sourceType ∧
            row.externalId = externalId then
      .error .integrityError
    else
      match db.tickets.insert? stored with
      | none => .error .integrityError
      | some tickets => .ok (stored, { db with tickets := tickets })
  | _, _ => .error .other

/-- `INSERT INTO ticket_messages`, of a message that an agent wrote. -/
def insertAgentMessage (message : TicketMessage) (db : Database) : Except Raised Database :=
  match Sql.text message.body with
  | none => .error .other
  | some body =>
    if ¬Sql.Trimmed body ∨
        TicketRepository.getTicket message.organizationId message.ticketId db = none ∨
        message.authorUserId.any fun author ↦
          (db.identity.members.get? (message.organizationId, author)).isNone then
      .error .integrityError
    else
      match db.ticketMessages.insert? message with
      | none => .error .integrityError
      | some ticketMessages => .ok { db with ticketMessages := ticketMessages }

variable {db db' : Database}

theorem insertTicket_spec {ticket stored : Ticket}
    (h : db.insertTicket ticket = .ok (stored, db')) :
    (stored.id = ticket.id ∧ stored.organizationId = ticket.organizationId) ∧
      ∃ tickets, db.tickets.insert? stored = some tickets ∧
        db' = { db with tickets := tickets } := by
  unfold insertTicket at h
  split at h
  · dsimp only at h
    split at h
    · cases h
    · split at h
      · cases h
      · next tickets hinsert =>
        cases h
        exact ⟨⟨rfl, rfl⟩, tickets, hinsert, rfl⟩
  · cases h

theorem insertAgentMessage_spec {message : TicketMessage}
    (h : db.insertAgentMessage message = .ok db') :
    ∃ ticketMessages, db.ticketMessages.insert? message = some ticketMessages ∧
      db' = { db with ticketMessages := ticketMessages } := by
  unfold insertAgentMessage at h
  split at h
  · cases h
  · split at h
    · cases h
    · split at h
      · cases h
      · next ticketMessages hinsert =>
        cases h
        exact ⟨ticketMessages, hinsert, rfl⟩

end Database

/-- The `except` clauses around a commit. -/
def orPersistenceError {α : Type} : Except Raised α → Except TicketServiceError α
  | .ok value => .ok value
  | .error .integrityError => .error .ticketPersistence
  | .error .other => .error (.raised .other)

@[simp]
theorem orPersistenceError_eq_ok {α : Type} {x : Except Raised α} {a : α} :
    orPersistenceError x = .ok a ↔ x = .ok a := by
  rcases x with e | a
  · cases e <;> exact ⟨fun h ↦ (nomatch h), fun h ↦ (nomatch h)⟩
  · rw [orPersistenceError, Except.ok.injEq, Except.ok.injEq]

/-- A lookup, which no clause is around. -/
def Faults.lookup (faults : Faults) (n : ℕ) : Except TicketServiceError Unit :=
  (faults.pass (.lookup n)).mapError .raised

namespace TicketService

/-- The arguments of a `create_ticket` call, with the organization of its service. -/
structure CreateRequest where
  organizationId : UUID
  subject : String
  sourceType : TicketSourceType
  externalId : Option String
  customerId : Option UUID
  initialMessageBody : String
  initialMessageAuthorType : MessageAuthorType
  currentUserId : UUID
  deriving DecidableEq, Repr

/-- What `create_ticket` draws from `uuid4`, and the time of its transaction. -/
structure TicketDraw where
  ticketId : UUID
  messageId : UUID
  now : Instant
  deriving DecidableEq, Repr

structure CreatedTicket where
  ticket : Ticket
  initialMessage : TicketMessage
  deriving DecidableEq, Repr

/-- The ticket that `create_ticket` constructs. -/
def newTicket (request : CreateRequest) (draw : TicketDraw) : Ticket where
  id := draw.ticketId
  organizationId := request.organizationId
  customerId := request.customerId
  sourceType := request.sourceType
  externalId := request.externalId
  subject := request.subject
  status := .opened
  createdAt := draw.now

/-- A message of an agent. -/
def agentMessage (id organizationId ticketId currentUserId : UUID) (body : String) (now : Instant) :
    TicketMessage where
  id := id
  organizationId := organizationId
  ticketId := ticketId
  authorType := .agent
  authorUserId := some currentUserId
  authorCustomerId := none
  body := body
  createdAt := now

/-- The checks of `create_ticket`. -/
def checkCreate (faults : Faults) (request : CreateRequest) (db : Database) :
    Except TicketServiceError Unit := do
  match request.customerId with
  | none => .ok ()
  | some customerId =>
    faults.lookup 0
    if TicketRepository.getCustomer request.organizationId customerId db = none then
      .error .customerNotFound
    else .ok ()
  if request.initialMessageAuthorType ≠ .agent then .error .agentAuthorRequired else .ok ()

/-- The rows that `create_ticket` staged, with their audit rows, up to the commit. -/
def commitCreate (faults : Faults) (request : CreateRequest) (draw : TicketDraw) (db : Database) :
    Except TicketServiceError (CreatedTicket × Database) :=
  orPersistenceError do
    faults.pass (.audit 0)
    faults.pass (.audit 1)
    faults.pass (.flush 0)
    let (ticket, db) ← db.insertTicket (newTicket request draw)
    let message := agentMessage draw.messageId request.organizationId draw.ticketId
      request.currentUserId request.initialMessageBody draw.now
    let db ← db.insertAgentMessage message
    let db ← db.insertEvent (AuditEventService.recordTicketCreated request.organizationId
      request.currentUserId draw.ticketId request.sourceType)
    let db ← db.insertEvent (AuditEventService.recordTicketMessageCreated request.organizationId
      (some request.currentUserId) draw.messageId)
    faults.pass .commit
    .ok (⟨ticket, message⟩, db)

/-- The arguments of an `append_agent_message` call, with the organization of its service. -/
structure AppendRequest where
  organizationId : UUID
  ticketId : UUID
  body : String
  currentUserId : UUID
  deriving DecidableEq, Repr

/-- What `append_agent_message` draws, and the time of its transaction. -/
structure MessageDraw where
  messageId : UUID
  now : Instant
  deriving DecidableEq, Repr

/-- The check of `append_agent_message`, which locks the ticket. -/
def checkAppend (faults : Faults) (request : AppendRequest) (db : Database) :
    Except TicketServiceError Unit := do
  faults.lookup 0
  if TicketRepository.getTicket request.organizationId request.ticketId db = none then
    .error (.ticket .ticketNotFound)
  else .ok ()

/-- The message that `append_agent_message` staged, with its audit row, up to the commit. -/
def commitAppend (faults : Faults) (request : AppendRequest) (draw : MessageDraw) (db : Database) :
    Except TicketServiceError (TicketMessage × Database) :=
  orPersistenceError do
    faults.pass (.audit 0)
    faults.pass (.flush 0)
    let message := agentMessage draw.messageId request.organizationId request.ticketId
      request.currentUserId request.body draw.now
    let db ← db.insertAgentMessage message
    let db ← db.insertEvent (AuditEventService.recordTicketMessageCreated request.organizationId
      (some request.currentUserId) draw.messageId)
    faults.pass .commit
    .ok (message, db)

/-- `create_ticket`. -/
def createTicket (faults : Faults) (request : CreateRequest) (draw : TicketDraw) (db : Database) :
    Except TicketServiceError (CreatedTicket × Database) := do
  checkCreate faults request db
  commitCreate faults request draw db

/-- `append_agent_message`. -/
def appendAgentMessage (faults : Faults) (request : AppendRequest) (draw : MessageDraw)
    (db : Database) : Except TicketServiceError (TicketMessage × Database) := do
  checkAppend faults request db
  commitAppend faults request draw db

/-- `transition_ticket`, with nobody between its check and its commit. -/
def transitionTicket (faults : Faults) (request : TransitionRequest) (db : Database) :
    Except TicketServiceError (Ticket × Database) := do
  faults.lookup 0
  let previousStatus ← (checkTransition request db).mapError .ticket
  orPersistenceError do
    faults.pass (.audit 0)
    faults.pass (.flush 0)
    -- The foreign key of the audit row; the row itself is part of the commit.
    let _ ← db.insertEvent (AuditEventService.recordTicketStatusChanged request.organizationId
      request.currentUserId request.ticketId previousStatus request.nextStatus)
    match commitTransition request previousStatus db with
    | none => .error .other
    | some (_, committed) =>
      faults.pass .commit
      match TicketRepository.getTicket request.organizationId request.ticketId committed with
      | none => .error .other
      | some ticket => .ok (ticket, committed)

/-- The commit of `transition_ticket`, with its audit row. -/
def storeTransition (faults : Faults) (request : TransitionRequest) (previousStatus : TicketStatus)
    (db : Database) : Except TicketServiceError (Ticket × Database) :=
  orPersistenceError do
    faults.pass (.audit 0)
    faults.pass (.flush 0)
    let _ ← db.insertEvent (AuditEventService.recordTicketStatusChanged request.organizationId
      request.currentUserId request.ticketId previousStatus request.nextStatus)
    match commitTransition request previousStatus db with
    | none => .error .other
    | some (_, committed) =>
      faults.pass .commit
      match TicketRepository.getTicket request.organizationId request.ticketId committed with
      | none => .error .other
      | some ticket => .ok (ticket, committed)

/-- `transition_ticket` is its check and its commit. -/
theorem transitionTicket_eq (faults : Faults) (request : TransitionRequest) (db : Database) :
    transitionTicket faults request db = (do
      faults.lookup 0
      let previousStatus ← (checkTransition request db).mapError .ticket
      storeTransition faults request previousStatus db) :=
  rfl

/-- `get_ticket_detail`. -/
def getTicketDetail (organizationId ticketId : UUID) (db : Database) :
    Except TicketServiceError (Ticket × List TicketMessage) :=
  match TicketRepository.getTicket organizationId ticketId db with
  | none => .error (.ticket .ticketNotFound)
  | some ticket => .ok (ticket, TicketRepository.listTicketMessages organizationId ticketId db)

/-! ### What the commits do -/

variable {faults : Faults} {db db' : Database}

/-- **A ticket is stored with its first message and an audit row for each**, in one commit. -/
theorem commitCreate_spec {request : CreateRequest} {draw : TicketDraw} {created : CreatedTicket}
    (h : commitCreate faults request draw db = .ok (created, db')) :
    (created.ticket.id = draw.ticketId ∧
      created.ticket.organizationId = request.organizationId) ∧
      created.initialMessage = agentMessage draw.messageId request.organizationId draw.ticketId
        request.currentUserId request.initialMessageBody draw.now ∧
      ∃ tickets ticketMessages, db.tickets.insert? created.ticket = some tickets ∧
        db.ticketMessages.insert? created.initialMessage = some ticketMessages ∧
        db' = { db with
          tickets := tickets
          ticketMessages := ticketMessages
          audit := db.audit ++ [AuditEventService.recordTicketCreated request.organizationId
              request.currentUserId draw.ticketId request.sourceType,
            AuditEventService.recordTicketMessageCreated request.organizationId
              (some request.currentUserId) draw.messageId] } := by
  rw [commitCreate, orPersistenceError_eq_ok] at h
  obtain ⟨-, -, h⟩ := Except.bind_eq_ok_iff.1 h
  obtain ⟨-, -, h⟩ := Except.bind_eq_ok_iff.1 h
  obtain ⟨-, -, h⟩ := Except.bind_eq_ok_iff.1 h
  obtain ⟨⟨ticket, db₁⟩, hticket, h⟩ := Except.bind_eq_ok_iff.1 h
  obtain ⟨db₂, hmessage, h⟩ := Except.bind_eq_ok_iff.1 h
  obtain ⟨db₃, hcreated, h⟩ := Except.bind_eq_ok_iff.1 h
  obtain ⟨db₄, hmessageCreated, h⟩ := Except.bind_eq_ok_iff.1 h
  obtain ⟨-, -, h⟩ := Except.bind_eq_ok_iff.1 h
  cases h
  obtain ⟨hkeys, tickets, htickets, rfl⟩ := Database.insertTicket_spec hticket
  obtain ⟨ticketMessages, hmessages, rfl⟩ := Database.insertAgentMessage_spec hmessage
  obtain rfl := Database.insertEvent_spec hcreated
  obtain rfl := Database.insertEvent_spec hmessageCreated
  refine ⟨hkeys, rfl, tickets, ticketMessages, htickets, hmessages, ?_⟩
  simp only [Database.record, List.append_assoc, List.singleton_append]

/-- A message is stored with its audit row. -/
theorem commitAppend_spec {request : AppendRequest} {draw : MessageDraw} {message : TicketMessage}
    (h : commitAppend faults request draw db = .ok (message, db')) :
    message = agentMessage draw.messageId request.organizationId request.ticketId
        request.currentUserId request.body draw.now ∧
      ∃ ticketMessages, db.ticketMessages.insert? message = some ticketMessages ∧
        db' = { db with
          ticketMessages := ticketMessages
          audit := db.audit ++ [AuditEventService.recordTicketMessageCreated
            request.organizationId (some request.currentUserId) draw.messageId] } := by
  rw [commitAppend, orPersistenceError_eq_ok] at h
  obtain ⟨-, -, h⟩ := Except.bind_eq_ok_iff.1 h
  obtain ⟨-, -, h⟩ := Except.bind_eq_ok_iff.1 h
  obtain ⟨db₁, hmessage, h⟩ := Except.bind_eq_ok_iff.1 h
  obtain ⟨db₂, hevent, h⟩ := Except.bind_eq_ok_iff.1 h
  obtain ⟨-, -, h⟩ := Except.bind_eq_ok_iff.1 h
  cases h
  obtain ⟨ticketMessages, hmessages, rfl⟩ := Database.insertAgentMessage_spec hmessage
  obtain rfl := Database.insertEvent_spec hevent
  exact ⟨rfl, ticketMessages, hmessages, rfl⟩

end TicketService

end SupportFlow
