import SupportFlow.Classification.Models

/-!
# The database

One committed database state: the tables, and the audit log in commit order. A transaction is a
function from such a state to a result and the next state; one that raises leaves the state as it
was, since the session then rolls back.

Any step of a call may fail, whatever its arguments are (`Faults`). The services tell a violated
constraint from everything else (`Raised`).
-/

namespace SupportFlow

/-! ### Faults -/

/-- What a step raises: `IntegrityError`, or another exception. -/
inductive Raised
  | integrityError
  | other
  deriving DecidableEq, Repr

/-- The steps of a call, each kind numbered from its first one. -/
inductive CallStep
  | storage
  | lookup (n : ℕ)
  | audit (n : ℕ)
  | flush (n : ℕ)
  | commit
  deriving DecidableEq, Repr

/-- The steps of a call that fail for reasons of their own, and what they raise. -/
abbrev Faults := CallStep → Option Raised

/-- Nothing fails. -/
def Faults.none : Faults :=
  fun _ ↦ Option.none

/-- A step, up to its own failure. -/
def Faults.pass (faults : Faults) (step : CallStep) : Except Raised Unit :=
  match faults step with
  | Option.none => .ok ()
  | some raised => .error raised

/-! ### States -/

/-- A committed database state. -/
structure Database where
  identity : IdentityTables
  customers : Table Customer
  tickets : Table Ticket
  ticketMessages : Table TicketMessage
  documents : Table Document
  versions : Table DocumentVersion
  intents : Table DocumentIngestionIntent
  operations : Table ClassificationOperation
  /-- The audit log, oldest event first. -/
  audit : List AuditEvent

namespace Database

/-- Write a version row back. -/
def setVersion (db : Database) (version : DocumentVersion) : Database :=
  { db with versions := db.versions.set version }

/-- Write an intent row back. -/
def setIntent (db : Database) (intent : DocumentIngestionIntent) : Database :=
  { db with intents := db.intents.set intent }

/-- Write an operation row back. -/
def setOperation (db : Database) (operation : ClassificationOperation) : Database :=
  { db with operations := db.operations.set operation }

/-- Append an audit event. -/
def record (db : Database) (event : AuditEvent) : Database :=
  { db with audit := db.audit ++ [event] }

/-- `INSERT INTO audit_events`: the organization exists, and the actor is a member of it. -/
def insertEvent (event : AuditEvent) (db : Database) : Except Raised Database :=
  if db.identity.organizations.get? event.organizationId = none ∨
      event.actorUserId.any fun actor ↦
        (db.identity.members.get? (event.organizationId, actor)).isNone then
    .error .integrityError
  else .ok (db.record event)

variable {db : Database} {version : DocumentVersion} {intent : DocumentIngestionIntent}
  {operation : ClassificationOperation} {event : AuditEvent}

@[simp] theorem setVersion_versions : (db.setVersion version).versions = db.versions.set version :=
  rfl

@[simp] theorem setIntent_intents : (db.setIntent intent).intents = db.intents.set intent := rfl

@[simp] theorem record_versions : (db.record event).versions = db.versions := rfl
@[simp] theorem record_audit : (db.record event).audit = db.audit ++ [event] := rfl

/-- `with session.begin()`: what the body leaves is committed, and a body that raises is rolled
back. -/
def transaction {ε α : Type} (body : Database → Except ε (α × Database)) (db : Database) :
    Except ε α × Database :=
  match body db with
  | .ok (value, left) => (.ok value, left)
  | .error error => (.error error, db)

/-- An audit row that was inserted is in the log. -/
theorem insertEvent_spec {db' : Database} (h : db.insertEvent event = .ok db') :
    db' = db.record event := by
  unfold insertEvent at h
  split at h
  · cases h
  · cases h
    rfl

end Database

end SupportFlow
