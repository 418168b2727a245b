import SupportFlow.Identity.Models

/-!
# Customers, tickets and their messages

The rows of `customers`, `tickets` and `ticket_messages`, without the times of their last update,
which nothing reads. The statuses of a ticket form a chain (`TicketStatus.rank`), which is what
makes "never backwards" a statement about numbers.
-/

namespace SupportFlow

inductive TicketStatus
  | opened
  | processing
  | waitingForAgent
  | resolved
  | closed
  deriving DecidableEq, Repr

/-- The stored value of a ticket status. -/
def TicketStatus.value : TicketStatus → String
  | .opened => "open"
  | .processing => "processing"
  | .waitingForAgent => "waiting_for_agent"
  | .resolved => "resolved"
  | .closed => "closed"

/-- The position of a status along `open → processing → waiting_for_agent → resolved → closed`. -/
def TicketStatus.rank : TicketStatus → ℕ
  | .opened => 0
  | .processing => 1
  | .waitingForAgent => 2
  | .resolved => 3
  | .closed => 4

inductive TicketSourceType
  | manual
  | api
  deriving DecidableEq, Repr

/-- The stored value of a source type. -/
def TicketSourceType.value : TicketSourceType → String
  | .manual => "manual"
  | .api => "api"

inductive MessageAuthorType
  | customer
  | agent
  | system
  deriving DecidableEq, Repr

/-- A row of `customers`. -/
structure Customer where
  id : UUID
  organizationId : UUID
  name : String
  email : Option String
  externalId : Option String
  deriving DecidableEq, Repr

/-- A row of `tickets`. -/
structure Ticket where
  id : UUID
  organizationId : UUID
  customerId : Option UUID
  sourceType : TicketSourceType
  externalId : Option String
  subject : String
  status : TicketStatus
  createdAt : Instant
  deriving DecidableEq, Repr

/-- A row of `ticket_messages`. -/
structure TicketMessage where
  id : UUID
  organizationId : UUID
  ticketId : UUID
  authorType : MessageAuthorType
  authorUserId : Option UUID
  authorCustomerId : Option UUID
  body : String
  createdAt : Instant
  deriving DecidableEq, Repr

instance : PrimaryKey Customer UUID :=
  ⟨Customer.id⟩

instance : PrimaryKey Ticket UUID :=
  ⟨Ticket.id⟩

instance : PrimaryKey TicketMessage UUID :=
  ⟨TicketMessage.id⟩

end SupportFlow
