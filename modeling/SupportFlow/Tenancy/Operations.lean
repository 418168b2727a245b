import SupportFlow.Classification.Application
import SupportFlow.Documents.Outbox
import SupportFlow.Documents.Repository

/-!
# What is done in an organization's name

The operations of the services and repositories that are constructed for one organization: those of
`TicketRepository`, `TicketService`, `AuditEventService.list_events`, `DocumentRepository`,
`IngestionIntentRepository.get_for_version` and `ClassificationApplication`. Each is a function from
a database to its answer and the next database (`perform`). What the code draws (ids, clock
readings, failures of its steps, the provider's reply) is an argument.

The database is the one that is stored (`StoredDatabase`), in which an audit row has its own id and
time: `list_events` orders by them. A transaction collects its audit rows and stores them when it
commits.
-/

namespace SupportFlow

open Python

/-- A committed database state, with the audit rows as they are stored. -/
structure StoredDatabase where
  identity : IdentityTables
  customers : Table Customer
  tickets : Table Ticket
  ticketMessages : Table TicketMessage
  documents : Table Document
  versions : Table DocumentVersion
  intents : Table DocumentIngestionIntent
  operations : Table ClassificationOperation
  auditRows : Table AuditRow

/-- The id and the time that each audit row of a transaction gets, from its first one on. -/
abbrev AuditStamps := ℕ → UUID × Instant

/-- The `n`-th audit row of a transaction. -/
def AuditStamps.row (stamps : AuditStamps) (n : ℕ) (event : AuditEvent) : AuditRow :=
  ⟨(stamps n).1, (stamps n).2, event⟩

namespace StoredDatabase

/-- What a transaction begins with: no audit row is staged yet. -/
def session (s : StoredDatabase) : Database where
  identity := s.identity
  customers := s.customers
  tickets := s.tickets
  ticketMessages := s.ticketMessages
  documents := s.documents
  versions := s.versions
  intents := s.intents
  operations := s.operations
  audit := []

/-- Store what a transaction ends with; fails when the id of an audit row is taken. -/
def commit? (stamps : AuditStamps) (db : Database) (s : StoredDatabase) : Option StoredDatabase :=
  (s.auditRows.append? (db.audit.mapIdx stamps.row)).map fun auditRows ↦
    { identity := db.identity
      customers := db.customers
      tickets := db.tickets
      ticketMessages := db.ticketMessages
      documents := db.documents
      versions := db.versions
      intents := db.intents
      operations := db.operations
      auditRows := auditRows }

/-- Run a transaction. One that raises is rolled back; `taken` is what its caller raises for an
audit row that cannot be stored. -/
def transaction {ε α : Type} (taken : ε) (stamps : AuditStamps)
    (run : Database → Except ε (α × Database)) (s : StoredDatabase) : Except ε α × StoredDatabase :=
  match run s.session with
  | .error error => (.error error, s)
  | .ok (value, db) =>
    match s.commit? stamps db with
    | none => (.error taken, s)
    | some s => (.ok value, s)

/-- A transaction that returned has committed. -/
theorem transaction_eq_ok {ε α : Type} {taken : ε} {stamps : AuditStamps}
    {run : Database → Except ε (α × Database)} {s s' : StoredDatabase} {value : α}
    (h : s.transaction taken stamps run = (.ok value, s')) :
    ∃ db, run s.session = .ok (value, db) ∧ s.commit? stamps db = some s' := by
  unfold transaction at h
  split at h
  · cases h
  · next db hrun =>
    split at h
    · cases h
    · next hcommit =>
      cases h
      exact ⟨db, hrun, hcommit⟩

/-- No audit row has an id that a transaction draws. -/
def FreshStamps (stamps : AuditStamps) (s : StoredDatabase) : Prop :=
  ∀ n, s.auditRows.get? (stamps n).1 = none

end StoredDatabase

namespace ClassificationApplication

/-- The provider's turn of `classify`. -/
def providerTurn (loads : String → Option Json) (claim : ClassificationClaim) : ProviderOutcome :=
  if claim.prepared.insufficientContext then .result .insufficientContext
  else .ofReply loads (claim.runtime.provider.classify claim.prepared.payload)

/-- What the first transaction of `classify` draws. -/
structure ClaimDraw where
  operationId : UUID
  viewedAt : Instant
  writtenAt : Instant
  stamps : AuditStamps

/-- What the second transaction of `classify` draws. -/
structure CompletionDraw where
  elapsedMs : ℕ
  completedAt : Instant
  checkedAt : Instant
  stamps : AuditStamps

section

variable (sha256 : String → String) (loads : String → Option Json)

/-- The first transaction of `classify`. -/
def claimStored (runtime : Option FakeClassificationRuntime)
    (organizationId actorId ticketId : UUID) (draw : ClaimDraw) (s : StoredDatabase) :
    Except ClassificationError ClassifyClaim × StoredDatabase :=
  s.transaction .integrity draw.stamps <|
    claim sha256 runtime organizationId actorId ticketId draw.operationId draw.viewedAt
      draw.writtenAt

/-- The second transaction of `classify`, with the answer of the call. -/
def completeStored (claim : ClassificationClaim) (outcome : ProviderOutcome) (draw : CompletionDraw)
    (s : StoredDatabase) : Except ClassificationError ClassificationView × StoredDatabase :=
  match s.transaction .integrity draw.stamps <|
    complete sha256 claim outcome draw.elapsedMs draw.completedAt draw.checkedAt with
  | (.error error, s) => (.error error, s)
  | (.ok (authorized, view), s) => (respond authorized view, s)

/-- `classify`, with nobody between its transactions. -/
def classify (runtime : Option FakeClassificationRuntime) (organizationId actorId ticketId : UUID)
    (claimDraw : ClaimDraw) (completionDraw : CompletionDraw) (s : StoredDatabase) :
    Except ClassificationError ClassificationView × StoredDatabase :=
  match claimStored sha256 runtime organizationId actorId ticketId claimDraw s with
  | (.error error, s) => (.error error, s)
  | (.ok (.existing view), s) => (returnOrError view, s)
  | (.ok (.claimed claim), s) =>
    completeStored sha256 claim (providerTurn loads claim) completionDraw s

end

end ClassificationApplication

open TicketRepository TicketService ClassificationApplication

/-- An operation, with its arguments and what it draws; the index is the type of its answer. The
organization is not among the arguments: an organization that occurs in one is replaced by the one
the service was constructed for. -/
inductive TenantOperation : Type → Type
  | getCustomer (customerId : UUID) : TenantOperation (Option Customer)
  | getTicket (ticketId : UUID) : TenantOperation (Option Ticket)
  | listTicketMessages (ticketId : UUID) : TenantOperation (List TicketMessage)
  | listTickets (limit offset : ℕ) (filters : TicketFilters) : TenantOperation TicketPage
  | getTicketDetail (ticketId : UUID) :
      TenantOperation (Except TicketServiceError (Ticket × List TicketMessage))
  | createTicket (faults : Faults) (request : CreateRequest) (draw : TicketDraw)
      (stamps : AuditStamps) : TenantOperation (Except TicketServiceError CreatedTicket)
  | appendAgentMessage (faults : Faults) (request : AppendRequest) (draw : MessageDraw)
      (stamps : AuditStamps) : TenantOperation (Except TicketServiceError TicketMessage)
  | transitionTicket (faults : Faults) (request : TransitionRequest) (stamps : AuditStamps) :
      TenantOperation (Except TicketServiceError Ticket)
  | listEvents (limit offset : ℕ) : TenantOperation AuditEventPage
  | getWithLatestVersion (documentId : UUID) : TenantOperation (Option DocumentWithVersion)
  | getForVersion (versionId : UUID) : TenantOperation (Option DocumentIngestionIntent)
  | readClassification (runtime : Option FakeClassificationRuntime) (actorId ticketId : UUID)
      (viewedAt : Instant) : TenantOperation (Except ClassificationError ClassificationView)
  /-- The first transaction of a `classify` that others may come between. -/
  | claimClassification (runtime : Option FakeClassificationRuntime) (actorId ticketId : UUID)
      (draw : ClaimDraw) : TenantOperation (Except ClassificationError ClassifyClaim)
  /-- The second transaction of such a `classify`. -/
  | completeClassification (claim : ClassificationClaim) (outcome : ProviderOutcome)
      (draw : CompletionDraw) : TenantOperation (Except ClassificationError ClassificationView)
  | classify (runtime : Option FakeClassificationRuntime) (actorId ticketId : UUID)
      (claimDraw : ClaimDraw) (completionDraw : CompletionDraw) :
      TenantOperation (Except ClassificationError ClassificationView)

namespace TenantOperation

variable {α : Type}

/-- What an operation answers for an organization, and what it leaves. -/
def perform (sha256 : String → String) (loads : String → Option Json) (organizationId : UUID) :
    TenantOperation α → StoredDatabase → α × StoredDatabase
  | getCustomer customerId, s =>
    (TicketRepository.getCustomer organizationId customerId s.session, s)
  | getTicket ticketId, s => (TicketRepository.getTicket organizationId ticketId s.session, s)
  | listTicketMessages ticketId, s =>
    (TicketRepository.listTicketMessages organizationId ticketId s.session, s)
  | listTickets limit offset filters, s =>
    (TicketRepository.listTickets organizationId limit offset filters s.session, s)
  | getTicketDetail ticketId, s =>
    (TicketService.getTicketDetail organizationId ticketId s.session, s)
  | createTicket faults request draw stamps, s =>
    s.transaction .ticketPersistence stamps <|
      TicketService.createTicket faults { request with organizationId := organizationId } draw
  | appendAgentMessage faults request draw stamps, s =>
    s.transaction .ticketPersistence stamps <|
      TicketService.appendAgentMessage faults { request with organizationId := organizationId } draw
  | transitionTicket faults request stamps, s =>
    s.transaction .ticketPersistence stamps <|
      TicketService.transitionTicket faults { request with organizationId := organizationId }
  | listEvents limit offset, s =>
    (AuditEventRepository.listEvents organizationId limit offset s.auditRows, s)
  | getWithLatestVersion documentId, s =>
    (DocumentRepository.getWithLatestVersion organizationId documentId s.session, s)
  | getForVersion versionId, s =>
    (IngestionIntentRepository.getForVersion organizationId versionId s.session, s)
  | readClassification runtime actorId ticketId viewedAt, s =>
    (ClassificationApplication.read sha256 runtime organizationId actorId ticketId viewedAt
      s.session, s)
  | claimClassification runtime actorId ticketId draw, s =>
    claimStored sha256 runtime organizationId actorId ticketId draw s
  | completeClassification claim outcome draw, s =>
    completeStored sha256 { claim with organizationId := organizationId } outcome draw s
  | classify runtime actorId ticketId claimDraw completionDraw, s =>
    ClassificationApplication.classify sha256 loads runtime organizationId actorId ticketId
      claimDraw
      completionDraw s

/-- The ids an operation draws are new. -/
def Fresh : TenantOperation α → StoredDatabase → Prop
  | createTicket _ _ draw stamps, s =>
    s.tickets.get? draw.ticketId = none ∧ s.ticketMessages.get? draw.messageId = none ∧
      s.FreshStamps stamps
  | appendAgentMessage _ _ draw stamps, s =>
    s.ticketMessages.get? draw.messageId = none ∧ s.FreshStamps stamps
  | transitionTicket _ _ stamps, s => s.FreshStamps stamps
  | claimClassification _ _ _ draw, s =>
    s.operations.get? draw.operationId = none ∧ s.FreshStamps draw.stamps
  | completeClassification _ _ draw, s => s.FreshStamps draw.stamps
  | classify _ _ _ claimDraw completionDraw, s =>
    s.operations.get? claimDraw.operationId = none ∧ s.FreshStamps claimDraw.stamps ∧
      s.FreshStamps completionDraw.stamps
  | getCustomer _, _ | getTicket _, _ | listTicketMessages _, _ | listTickets _ _ _, _
  | getTicketDetail _, _ | listEvents _ _, _ | getWithLatestVersion _, _ | getForVersion _, _
  | readClassification _ _ _ _, _ => True

end TenantOperation

end SupportFlow
