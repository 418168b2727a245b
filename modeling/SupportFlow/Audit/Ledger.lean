import Mathlib.Data.List.ReduceOption
import SupportFlow.Documents.Rearm
import SupportFlow.Documents.Upload
import SupportFlow.Foundations.TransitionSystem
import SupportFlow.Identity.Service
import SupportFlow.Tickets.Service

/-!
# The audit log as a ledger

Any number of clients create tickets, messages, memberships and documents, and rearm dispatches.
Each call that creates something stages an audit row in the transaction of what it creates; so the
log is a ledger of these tables, whatever fails, and wherever.

A call of the ticket and membership services is two steps: its lookups, and its commit, with other
calls in between. An upload and a rearm are one step each. A step's label is what the call returned,
if it ended with it. `LedgerStep.change` says once what a step can do to the database, and every
part of the ledger follows from that (`audit_ledger_exact`).
-/

namespace SupportFlow

open TicketService (CreateRequest AppendRequest CreatedTicket)
open OrganizationMembershipService (AddAgentRequest)
open DocumentService (UploadRequest UploadFaults UploadIds)

/-! ### The calls -/

/-- A call of a service that looks rows up first. -/
inductive ServiceRequest
  | createTicket (request : CreateRequest)
  | appendAgentMessage (request : AppendRequest)
  | addAgent (request : AddAgentRequest)
deriving DecidableEq, Repr

/-- A call whose lookups passed. -/
inductive ServiceCall
  | createTicket (request : CreateRequest)
  | appendAgentMessage (request : AppendRequest)
  | addAgent (request : AddAgentRequest) (userId : UUID)
deriving DecidableEq, Repr

/-- What a commit draws, and its time. -/
structure ServiceDraw where
  ticketId : UUID
  messageId : UUID
  now : Instant
deriving DecidableEq, Repr

/-- A call that returned, with what it returned. -/
inductive Returned
  | createTicket (request : CreateRequest) (created : CreatedTicket)
  | appendAgentMessage (request : AppendRequest) (message : TicketMessage)
  | addAgent (request : AddAgentRequest) (member : OrganizationMember)
  | createUpload (request : UploadRequest) (document : Document)
  | rearm (command : RearmCommand) (grant : ℕ)

/-- The lookups of a call; `none` when it raises. -/
def ServiceRequest.lookups (faults : Faults) (db : Database) : ServiceRequest → Option ServiceCall
  | createTicket request =>
    (TicketService.checkCreate faults request db).toOption.map fun _ ↦ .createTicket request
  | appendAgentMessage request =>
    (TicketService.checkAppend faults request db).toOption.map fun _ ↦ .appendAgentMessage request
  | addAgent request =>
    (OrganizationMembershipService.checkAddAgent faults request db).toOption.map fun user ↦
      .addAgent request user.id

/-- A transaction that returns what the call does, or raises. -/
def returning {ε α : Type} (toReturned : α → Returned)
    (r : Except ε α × Database) : Option Returned × Database :=
  (r.1.toOption.map toReturned, r.2)

/-- The commit of a call. -/
def ServiceCall.commit (faults : Faults) (draw : ServiceDraw) (db : Database) :
    ServiceCall → Option Returned × Database
  | createTicket request =>
    returning (.createTicket request) <| db.transaction
      (TicketService.commitCreate faults request ⟨draw.ticketId, draw.messageId, draw.now⟩)
  | appendAgentMessage request =>
    returning (.appendAgentMessage request) <| db.transaction
      (TicketService.commitAppend faults request ⟨draw.messageId, draw.now⟩)
  | addAgent request userId =>
    returning (.addAgent request) <| db.transaction
      (OrganizationMembershipService.commitAddAgent faults request userId)

/-- `create_upload`, on a storage. -/
def uploadCall (sha256 : List UInt8 → String) (u : DocumentValidation.Unicode)
    (faults : UploadFaults) (request : UploadRequest) (ids : UploadIds) (now : Instant)
    (objects : String → Option (List UInt8)) (db : Database) : Option Returned × Database :=
  let (result, w) := (DocumentService.createUpload sha256 u faults request ids now).exec
    (.start db objects)
  (result.toOption.map fun created ↦ .createUpload request created.1, w.db)

/-- `rearm_intent`. -/
def rearmCall (faults : Faults) (now : Instant) (verified : Except Raised Bool)
    (workerHolds : UUID → Bool) (command : RearmCommand) (db : Database) :
    Option Returned × Database :=
  returning (.rearm command) (command.run faults now verified workerHolds db)

/-! ### The system -/

structure LedgerWorld where
  db : Database
  /-- The calls between their lookups and their commit. -/
  calls : ℕ → Option ServiceCall

/-- Put a call in its place, or end it. -/
def LedgerWorld.setCall (w : LedgerWorld) (c : ℕ) (call : Option ServiceCall) : LedgerWorld :=
  { w with calls := Function.update w.calls c call }

/-- **The steps of the clients.** -/
inductive LedgerStep (sha256 : List UInt8 → String) (u : DocumentValidation.Unicode) :
    LedgerWorld → Option Returned → LedgerWorld → Prop
  | lookups {w : LedgerWorld} {c : ℕ} (faults : Faults) (request : ServiceRequest)
      (free : w.calls c = none) :
      LedgerStep sha256 u w none (w.setCall c (request.lookups faults w.db))
  | commit {w : LedgerWorld} {c : ℕ} {call : ServiceCall} (faults : Faults) (draw : ServiceDraw)
      (pending : w.calls c = some call) :
      LedgerStep sha256 u w (call.commit faults draw w.db).1
        ({ w with db := (call.commit faults draw w.db).2 }.setCall c none)
  /-- A client goes away. -/
  | die {w : LedgerWorld} (c : ℕ) : LedgerStep sha256 u w none (w.setCall c none)
  -- An upload looks no row up, and a rearm locks the rows that it does.
  | upload {w : LedgerWorld} (faults : UploadFaults) (request : UploadRequest) (ids : UploadIds)
      (now : Instant) (objects : String → Option (List UInt8)) :
      LedgerStep sha256 u w (uploadCall sha256 u faults request ids now objects w.db).1
        { w with db := (uploadCall sha256 u faults request ids now objects w.db).2 }
  | rearm {w : LedgerWorld} (faults : Faults) (now : Instant) (verified : Except Raised Bool)
      (workerHolds : UUID → Bool) (command : RearmCommand) :
      LedgerStep sha256 u w (rearmCall faults now verified workerHolds command w.db).1
        { w with db := (rearmCall faults now verified workerHolds command w.db).2 }

/-- What an audit row refers to: the organization, the acting user and the resource. -/
structure AuditReference where
  organizationId : UUID
  actorUserId : Option UUID
  resourceId : Option UUID
deriving DecidableEq, Repr

def AuditEvent.reference (e : AuditEvent) : AuditReference :=
  ⟨e.organizationId, e.actorUserId, e.resourceId⟩

/-- The references of an action's rows, oldest first. -/
def references (action : AuditAction) (audit : List AuditEvent) : List AuditReference :=
  (audit.filter fun e ↦ decide (e.action = action)).map AuditEvent.reference

/-- The resources of an action that a call has created, with the organization and the user that it
was called for. -/
def Returned.made : AuditAction → Returned → List AuditReference
  | .ticketCreated, createTicket request created =>
    [⟨request.organizationId, some request.currentUserId, some created.ticket.id⟩]
  | .ticketMessageCreated, createTicket request created =>
    [⟨request.organizationId, some request.currentUserId, some created.initialMessage.id⟩]
  | .ticketMessageCreated, appendAgentMessage request message =>
    [⟨request.organizationId, some request.currentUserId, some message.id⟩]
  | .organizationMemberCreated, addAgent request member =>
    [⟨request.organizationId, some request.actorUserId, some member.userId⟩]
  | .documentUploaded, createUpload request document =>
    [⟨request.organizationId, some request.actorUserId, some document.id⟩]
  | _, _ => []

/-- The resources of an action that the calls have created. -/
def made (action : AuditAction) (rs : List Returned) : List AuditReference :=
  rs.flatMap (Returned.made action)

/-- An organization and a resource. -/
def AuditReference.resource (r : AuditReference) : UUID × Option UUID :=
  (r.organizationId, r.resourceId)

/-- The rearm rows of a version, oldest first. -/
def rearmEvents (versionId : UUID) (audit : List AuditEvent) : List AuditEvent :=
  audit.filter fun e ↦ decide (e.action = .documentDispatchRearmed ∧ e.resourceId = some versionId)

/-- The grant that a rearm row names. -/
def AuditEvent.grantNumber? (e : AuditEvent) : Option MetadataValue :=
  e.eventMetadata.lookup "grant_number"

/-- **The log is an exact ledger** of what the calls `rs` have created since `db₀`: the rows of each
creating action are, in order, those of the calls that created something, and so are the rows of the
table; and the grants of an intent are numbered from one, without a gap. -/
structure AuditLedger (db₀ : Database) (rs : List Returned) (db : Database) : Prop where
  events : ∀ action, action ∈ [AuditAction.ticketCreated, .ticketMessageCreated,
    .organizationMemberCreated, .documentUploaded] →
      references action db.audit = made action rs
  tickets : db.tickets.rows.map (fun ticket ↦ (ticket.organizationId, some ticket.id)) =
    (made .ticketCreated rs).map AuditReference.resource
  messages : db.ticketMessages.rows.map (fun message ↦
    ⟨message.organizationId, message.authorUserId, some message.id⟩) =
      made .ticketMessageCreated rs
  members : ∃ added, db.identity.members.rows = db₀.identity.members.rows ++ added ∧
    added.map (fun member ↦ (member.organizationId, some member.userId)) =
      (made .organizationMemberCreated rs).map AuditReference.resource
  documents : db.documents.rows.map (fun document ↦
    ⟨document.organizationId, some document.createdByUserId, some document.id⟩) =
      made .documentUploaded rs
  grants : ∀ intent ∈ db.intents,
    (rearmEvents intent.documentVersionId db.audit).map AuditEvent.grantNumber? =
      (List.range' 1 intent.recoveryGrants).map fun n ↦ some (.int n)

/-! ### What a step does -/

section Change

variable {sha256 : List UInt8 → String} {u : DocumentValidation.Unicode} {db₀ db db' : Database}
  {rs : List Returned} {returned : Option Returned} {w w' : LedgerWorld}

/-- **What a step can do to the database**: nothing, unless a call returned; and then the rows that
the call created, with their audit rows. -/
inductive AuditedChange (db : Database) : Option Returned → Database → Prop
  | nothing : AuditedChange db none db
  | ticket {request : CreateRequest} {created : CreatedTicket} {tickets : Table Ticket}
      {ticketMessages : Table TicketMessage}
      (ofTicket : created.ticket.organizationId = request.organizationId)
      (ofMessage : created.initialMessage.organizationId = request.organizationId)
      (author : created.initialMessage.authorUserId = some request.currentUserId)
      (ticketInserted : db.tickets.insert? created.ticket = some tickets)
      (messageInserted : db.ticketMessages.insert? created.initialMessage = some ticketMessages) :
      AuditedChange db (some (.createTicket request created)) { db with
        tickets := tickets
        ticketMessages := ticketMessages
        audit := db.audit ++ [AuditEventService.recordTicketCreated request.organizationId
            request.currentUserId created.ticket.id request.sourceType,
          AuditEventService.recordTicketMessageCreated request.organizationId
            (some request.currentUserId) created.initialMessage.id] }
  | message {request : AppendRequest} {message : TicketMessage}
      {ticketMessages : Table TicketMessage}
      (ofMessage : message.organizationId = request.organizationId)
      (author : message.authorUserId = some request.currentUserId)
      (inserted : db.ticketMessages.insert? message = some ticketMessages) :
      AuditedChange db (some (.appendAgentMessage request message)) { db with
        ticketMessages := ticketMessages
        audit := db.audit ++ [AuditEventService.recordTicketMessageCreated request.organizationId
          (some request.currentUserId) message.id] }
  | member {request : AddAgentRequest} {member : OrganizationMember}
      {members : Table OrganizationMember}
      (ofMember : member.organizationId = request.organizationId)
      (inserted : db.identity.members.insert? member = some members) :
      AuditedChange db (some (.addAgent request member)) { db with
        identity := { db.identity with members := members }
        audit := db.audit ++ [AuditEventService.recordOrganizationMemberCreated
          request.organizationId request.actorUserId member.userId .agent] }
  | upload {request : UploadRequest} {document : Document} {version : DocumentVersion}
      {intent : DocumentIngestionIntent} {documents : Table Document}
      {versions : Table DocumentVersion} {intents : Table DocumentIngestionIntent}
      (ofDocument : document.organizationId = request.organizationId)
      (author : document.createdByUserId = request.actorUserId)
      (ofVersion : intent.documentVersionId = version.id) (ungranted : intent.recoveryGrants = 0)
      (documentInserted : db.documents.insert? document = some documents)
      (versionInserted : db.versions.insert? version = some versions)
      (intentInserted : db.intents.insert? intent = some intents) :
      AuditedChange db (some (.createUpload request document)) { db with
        documents := documents
        versions := versions
        intents := intents
        audit := db.audit ++ [AuditEventService.documentUploaded request.organizationId
          request.actorUserId document.id 1 version.mediaType version.sizeBytes] }
  | rearm {command : RearmCommand} {intent : DocumentIngestionIntent} {now : Instant}
      (stored : db.intents.get? command.intentId = some intent) :
      AuditedChange db (some (.rearm command (intent.recoveryGrants + 1)))
        ((db.setIntent (intent.rearm now)).record
          (AuditEventService.documentDispatchRearmed command.organizationId command.actorUserId
            intent.documentVersionId (intent.recoveryGrants + 1)))

/-- A transaction commits what its body leaves, or nothing. -/
theorem AuditedChange.of_transaction {ε α : Type} {toReturned : α → Returned}
    {body : Database → Except ε (α × Database)}
    (h : ∀ a db', body db = .ok (a, db') → AuditedChange db (some (toReturned a)) db') :
    AuditedChange db (returning toReturned (db.transaction body)).1
      (returning toReturned (db.transaction body)).2 := by
  unfold Database.transaction
  cases hbody : body db with
  | error e => exact .nothing
  | ok r => exact h r.1 r.2 hbody

theorem ServiceCall.commit_change (faults : Faults) (draw : ServiceDraw) (call : ServiceCall) :
    AuditedChange db (call.commit faults draw db).1 (call.commit faults draw db).2 := by
  cases call with
  | createTicket request =>
    refine .of_transaction fun created db' h ↦ ?_
    obtain ⟨⟨hid, horg⟩, hmessage, tickets, ticketMessages, hticket, hinserted, rfl⟩ :=
      TicketService.commitCreate_spec h
    have hmessageId : created.initialMessage.id = draw.messageId := by rw [hmessage]; rfl
    rw [← hid, ← hmessageId]
    exact .ticket horg (by rw [hmessage]; rfl) (by rw [hmessage]; rfl) hticket hinserted
  | appendAgentMessage request =>
    refine .of_transaction fun message db' h ↦ ?_
    obtain ⟨rfl, ticketMessages, hinserted, rfl⟩ := TicketService.commitAppend_spec h
    exact .message rfl rfl hinserted
  | addAgent request userId =>
    refine .of_transaction fun member db' h ↦ ?_
    obtain ⟨rfl, members, hinserted, rfl⟩ := OrganizationMembershipService.commitAddAgent_spec h
    exact .member rfl hinserted

theorem uploadCall_change (faults : UploadFaults) (request : UploadRequest) (ids : UploadIds)
    (now : Instant) (objects : String → Option (List UInt8)) :
    AuditedChange db (uploadCall sha256 u faults request ids now objects db).1
      (uploadCall sha256 u faults request ids now objects db).2 := by
  have hcases := DocumentService.createUpload_cases sha256 u faults request ids now db objects
  unfold uploadCall
  rcases hexec : (DocumentService.createUpload sha256 u faults request ids now).exec
    (.start db objects) with ⟨error | ⟨document, version⟩, w⟩
  · rw [hexec] at hcases
    obtain ⟨⟨hdb, -⟩, -⟩ := hcases
    dsimp only [Except.toOption, Option.map_none]
    rw [hdb]
    exact .nothing
  · rw [hexec] at hcases
    have horg : document.organizationId = request.organizationId := by rw [hcases.document_eq]
    have hauthor : document.createdByUserId = request.actorUserId := by rw [hcases.document_eq]
    have hdocument : document.id = ids.documentId := by rw [hcases.document_eq]
    have hversion : ids.versionId = version.id := by rw [hcases.version_eq]
    show AuditedChange db (some (.createUpload request document)) w.db
    rw [hcases.others, hcases.audit, ← hdocument]
    exact .upload horg hauthor hversion rfl hcases.documents hcases.versions hcases.intents

theorem rearmCall_change (faults : Faults) (now : Instant) (verified : Except Raised Bool)
    (workerHolds : UUID → Bool) (command : RearmCommand) :
    AuditedChange db (rearmCall faults now verified workerHolds command db).1
      (rearmCall faults now verified workerHolds command db).2 := by
  refine AuditedChange.of_transaction fun grant db' h ↦ ?_
  obtain ⟨intent, version, hrearmed, rfl⟩ := RearmCommand.body_eq_ok h
  have hversion := IngestionRelay.versionOf_eq_some_iff.1 hrearmed.version_eq
  have hid : version.id = intent.documentVersionId := Table.key_of_get? hversion.1
  rw [hrearmed.written, hid]
  exact .rearm hrearmed.intent_eq

theorem LedgerStep.change (h : LedgerStep sha256 u w returned w') :
    AuditedChange w.db returned w'.db := by
  cases h with
  | lookups faults request free => exact .nothing
  | commit faults draw pending => exact ServiceCall.commit_change faults draw _
  | die c => exact .nothing
  | upload faults request ids now objects => exact uploadCall_change faults request ids now objects
  | rearm faults now verified workerHolds command =>
    exact rearmCall_change faults now verified workerHolds command

/-! ### What a step adds -/

theorem references_append (action : AuditAction) (audit added : List AuditEvent) :
    references action (audit ++ added) = references action audit ++ references action added := by
  rw [references, List.filter_append, List.map_append]
  rfl

theorem made_append (action : AuditAction) (rs added : List Returned) :
    made action (rs ++ added) = made action rs ++ made action added :=
  List.flatMap_append

theorem rearmEvents_append (versionId : UUID) (audit added : List AuditEvent) :
    rearmEvents versionId (audit ++ added) =
      rearmEvents versionId audit ++ rearmEvents versionId added :=
  List.filter_append ..

/-- A step adds the audit rows of what it creates, and no other row of a creating action. -/
theorem AuditedChange.references (h : AuditedChange db returned db') {action : AuditAction}
    (haction : action ∈ [AuditAction.ticketCreated, .ticketMessageCreated,
      .organizationMemberCreated, .documentUploaded]) :
    SupportFlow.references action db'.audit =
      SupportFlow.references action db.audit ++ made action returned.toList := by
  simp only [List.mem_cons, List.not_mem_nil, or_false] at haction
  cases h with
  | nothing => exact (List.append_nil _).symm
  | ticket =>
    rw [references_append]
    rcases haction with rfl | rfl | rfl | rfl <;> rfl
  | message =>
    rw [references_append]
    rcases haction with rfl | rfl | rfl | rfl <;> rfl
  | member =>
    rw [references_append]
    rcases haction with rfl | rfl | rfl | rfl <;> rfl
  | upload =>
    rw [references_append]
    rcases haction with rfl | rfl | rfl | rfl <;> rfl
  | rearm =>
    rw [Database.record_audit, references_append]
    rcases haction with rfl | rfl | rfl | rfl <;> rfl

/-- The tickets that a step adds. -/
theorem AuditedChange.tickets (h : AuditedChange db returned db') :
    db'.tickets.rows.map (fun ticket ↦ (ticket.organizationId, some ticket.id)) =
      db.tickets.rows.map (fun ticket ↦ (ticket.organizationId, some ticket.id)) ++
        (made .ticketCreated returned.toList).map AuditReference.resource := by
  cases h with
  | ticket ofTicket ofMessage author ticketInserted messageInserted =>
    rw [(Table.insert?_eq_some_iff.1 ticketInserted).2, List.map_append, List.map_singleton,
      ofTicket]
    rfl
  | _ => exact (List.append_nil _).symm

/-- The messages that a step adds. -/
theorem AuditedChange.messages (h : AuditedChange db returned db') :
    db'.ticketMessages.rows.map (fun message ↦
        (⟨message.organizationId, message.authorUserId, some message.id⟩ : AuditReference)) =
      db.ticketMessages.rows.map (fun message ↦
        (⟨message.organizationId, message.authorUserId, some message.id⟩ : AuditReference)) ++
        made .ticketMessageCreated returned.toList := by
  cases h with
  | ticket ofTicket ofMessage author ticketInserted messageInserted =>
    rw [(Table.insert?_eq_some_iff.1 messageInserted).2, List.map_append, List.map_singleton,
      ofMessage, author]
    rfl
  | message ofMessage author inserted =>
    rw [(Table.insert?_eq_some_iff.1 inserted).2, List.map_append, List.map_singleton, ofMessage,
      author]
    rfl
  | _ => exact (List.append_nil _).symm

/-- The memberships that a step adds. -/
theorem AuditedChange.members (h : AuditedChange db returned db') :
    ∃ added, db'.identity.members.rows = db.identity.members.rows ++ added ∧
      added.map (fun member ↦ (member.organizationId, some member.userId)) =
        (made .organizationMemberCreated returned.toList).map AuditReference.resource := by
  cases h with
  | @member request member members ofMember inserted =>
    refine ⟨[member], (Table.insert?_eq_some_iff.1 inserted).2, ?_⟩
    rw [List.map_singleton, ofMember]
    rfl
  | _ => exact ⟨[], (List.append_nil _).symm, rfl⟩

/-- The documents that a step adds. -/
theorem AuditedChange.documents (h : AuditedChange db returned db') :
    db'.documents.rows.map (fun document ↦
        (⟨document.organizationId, some document.createdByUserId, some document.id⟩ :
          AuditReference)) =
      db.documents.rows.map (fun document ↦
        (⟨document.organizationId, some document.createdByUserId, some document.id⟩ :
          AuditReference)) ++
        made .documentUploaded returned.toList := by
  cases h with
  | upload ofDocument author ofVersion ungranted documentInserted versionInserted intentInserted =>
    rw [(Table.insert?_eq_some_iff.1 documentInserted).2, List.map_append, List.map_singleton,
      ofDocument, author]
    rfl
  | _ => exact (List.append_nil _).symm

/-! ### Grants -/

/-- The grants of the intents, with what keeps them apart: each version has one intent at most, and
only rearm rows for it. -/
structure Granted (db : Database) : Prop where
  stored : ∀ intent ∈ db.intents, ∃ version ∈ db.versions, version.id = intent.documentVersionId
  distinct : ∀ i ∈ db.intents, ∀ j ∈ db.intents, i.documentVersionId = j.documentVersionId → i = j
  backed : ∀ e ∈ db.audit, e.action = .documentDispatchRearmed →
    ∃ intent ∈ db.intents, e.resourceId = some intent.documentVersionId
  grants : ∀ intent ∈ db.intents,
    (rearmEvents intent.documentVersionId db.audit).map AuditEvent.grantNumber? =
      (List.range' 1 intent.recoveryGrants).map fun n ↦ some (.int n)

theorem rearmEvents_eq_nil {versionId : UUID} {audit : List AuditEvent}
    (h : ∀ e ∈ audit, e.action = .documentDispatchRearmed → e.resourceId ≠ some versionId) :
    rearmEvents versionId audit = [] :=
  List.filter_eq_nil_iff.2 fun e he hrearm ↦ h e he (of_decide_eq_true hrearm).1
    (of_decide_eq_true hrearm).2

/-- Other audit rows do not count. -/
theorem Granted.of_other {added : List AuditEvent} (h : Granted db)
    (hintents : db'.intents = db.intents) (hversions : db'.versions = db.versions)
    (haudit : db'.audit = db.audit ++ added)
    (hadded : ∀ e ∈ added, e.action ≠ .documentDispatchRearmed) : Granted db' where
  stored := by
    rw [hintents, hversions]
    exact h.stored
  distinct := by
    rw [hintents]
    exact h.distinct
  backed := by
    rw [hintents, haudit]
    intro e he hrearm
    rcases List.mem_append.1 he with hold | hnew
    · exact h.backed e hold hrearm
    · exact absurd hrearm (hadded e hnew)
  grants := by
    rw [hintents, haudit]
    intro intent hintent
    rw [rearmEvents_append, rearmEvents_eq_nil fun e he hrearm ↦ absurd hrearm (hadded e he),
      List.append_nil]
    exact h.grants intent hintent

/-- The intent of a new version has no grant yet, and no rearm row. -/
theorem Granted.uploaded {version : DocumentVersion}
    {intent : DocumentIngestionIntent} {documents : Table Document}
    {versions : Table DocumentVersion} {intents : Table DocumentIngestionIntent}
    {event : AuditEvent}
    (h : Granted db) (hversion : intent.documentVersionId = version.id)
    (hungranted : intent.recoveryGrants = 0)
    (hversions : db.versions.insert? version = some versions)
    (hintents : db.intents.insert? intent = some intents)
    (hevent : event.action ≠ .documentDispatchRearmed) :
    Granted { db with
      documents := documents
      versions := versions
      intents := intents
      audit := db.audit ++ [event] } := by
  have hfresh : ∀ i ∈ db.intents, i.documentVersionId ≠ version.id := by
    intro i hi heq
    -- An older intent of the version would need a stored version, but the insert found none.
    obtain ⟨stored, hstored, hid⟩ := h.stored i hi
    exact Table.get?_eq_none_iff.1 (Table.insert?_eq_some_iff.1 hversions).1 stored hstored
      (hid.trans heq)
  have hmem : ∀ i, i ∈ intents ↔ i ∈ db.intents ∨ i = intent :=
    fun i ↦ Table.mem_insert? hintents
  refine ⟨fun i hi ↦ ?_, fun i hi j hj heq ↦ ?_, fun e he hrearm ↦ ?_, fun i hi ↦ ?_⟩
  · rcases (hmem i).1 hi with hold | rfl
    · obtain ⟨stored, hstored, hid⟩ := h.stored i hold
      exact ⟨stored, (Table.mem_insert? hversions).2 (Or.inl hstored), hid⟩
    · exact ⟨version, (Table.mem_insert? hversions).2 (Or.inr rfl), hversion.symm⟩
  · rcases (hmem i).1 hi with hiold | rfl
    · rcases (hmem j).1 hj with hjold | rfl
      · exact h.distinct i hiold j hjold heq
      · exact absurd (heq.trans hversion) (hfresh i hiold)
    · rcases (hmem j).1 hj with hjold | rfl
      · exact absurd (heq.symm.trans hversion) (hfresh j hjold)
      · rfl
  · rcases List.mem_append.1 he with hold | hnew
    · obtain ⟨i, hi, hresource⟩ := h.backed e hold hrearm
      exact ⟨i, (hmem i).2 (Or.inl hi), hresource⟩
    · rw [List.mem_singleton.1 hnew] at hrearm
      exact absurd hrearm hevent
  · have hnone : rearmEvents i.documentVersionId [event] = [] :=
      rearmEvents_eq_nil fun e he hrearm ↦
        absurd (List.mem_singleton.1 he ▸ hrearm) hevent
    show (rearmEvents i.documentVersionId (db.audit ++ [event])).map _ = _
    rw [rearmEvents_append, hnone, List.append_nil]
    rcases (hmem i).1 hi with hold | rfl
    · exact h.grants i hold
    · rw [hungranted, rearmEvents_eq_nil]
      · rfl
      · intro e he hrearm hresource
        obtain ⟨j, hj, hresource'⟩ := h.backed e he hrearm
        exact hfresh j hj ((Option.some.inj (hresource'.symm.trans hresource)).trans hversion)

/-- Numbering goes on by one. -/
theorem map_range'_succ (n : ℕ) :
    ((List.range' 1 (n + 1)).map fun k : ℕ ↦ some (MetadataValue.int (k : ℤ))) =
      ((List.range' 1 n).map fun k : ℕ ↦ some (MetadataValue.int (k : ℤ))) ++
        [some (MetadataValue.int (n + 1 : ℕ))] := by
  rw [List.range'_concat, List.map_append, List.map_singleton, Nat.one_mul, Nat.add_comm 1 n]

/-- **A rearm adds the next grant**, to its own intent. -/
theorem Granted.rearmed {intent : DocumentIngestionIntent}
    {organizationId actorUserId intentId : UUID}
    {now : Instant} (h : Granted db) (hget : db.intents.get? intentId = some intent) :
    Granted ((db.setIntent (intent.rearm now)).record
      (AuditEventService.documentDispatchRearmed organizationId actorUserId
        intent.documentVersionId (intent.recoveryGrants + 1))) := by
  have hintent : intent ∈ db.intents := Table.mem_of_get? hget
  have hmem : ∀ i, i ∈ db.intents.set (intent.rearm now) ↔ i = intent.rearm now ∨
      i ∈ db.intents ∧ PrimaryKey.key i ≠ PrimaryKey.key (intent.rearm now) :=
    fun i ↦ Table.mem_set hintent rfl
  -- The other rows are of other versions.
  have hother : ∀ i ∈ db.intents, PrimaryKey.key i ≠ PrimaryKey.key (intent.rearm now) →
      i.documentVersionId ≠ intent.documentVersionId :=
    fun i hi hkey heq ↦ hkey (by rw [h.distinct i hi intent hintent heq]; rfl)
  refine ⟨fun i hi ↦ ?_, fun i hi j hj heq ↦ ?_, fun e he hrearm ↦ ?_, fun i hi ↦ ?_⟩
  · rcases (hmem i).1 hi with rfl | ⟨hold, -⟩
    · exact h.stored intent hintent
    · exact h.stored i hold
  · rcases (hmem i).1 hi with rfl | ⟨hiold, hikey⟩
    · rcases (hmem j).1 hj with rfl | ⟨hjold, hjkey⟩
      · rfl
      · exact absurd heq.symm (hother j hjold hjkey)
    · rcases (hmem j).1 hj with rfl | ⟨hjold, hjkey⟩
      · exact absurd heq (hother i hiold hikey)
      · exact h.distinct i hiold j hjold heq
  · rcases List.mem_append.1 he with hold | hnew
    · obtain ⟨i, hi, hresource⟩ := h.backed e hold hrearm
      by_cases hkey : PrimaryKey.key i = PrimaryKey.key (intent.rearm now)
      · obtain rfl : i = intent := Table.eq_of_key_eq hi hintent hkey
        exact ⟨_, (hmem _).2 (Or.inl rfl), hresource⟩
      · exact ⟨i, (hmem i).2 (Or.inr ⟨hi, hkey⟩), hresource⟩
    · rw [List.mem_singleton.1 hnew]
      exact ⟨_, (hmem _).2 (Or.inl rfl), rfl⟩
  · show (rearmEvents i.documentVersionId (db.audit ++ [_])).map _ = _
    rw [rearmEvents_append, List.map_append]
    rcases (hmem i).1 hi with rfl | ⟨hold, hkey⟩
    · have hown := h.grants intent hintent
      show (rearmEvents intent.documentVersionId db.audit).map _ ++ _ =
        (List.range' 1 (intent.recoveryGrants + 1)).map _
      rw [hown, map_range'_succ]
      congr 1
      rw [rearmEvents, List.filter_cons_of_pos (by simp [AuditEventService.documentDispatchRearmed,
        DocumentIngestionIntent.rearm])]
      rfl
    · have hnone : rearmEvents i.documentVersionId [AuditEventService.documentDispatchRearmed
          organizationId actorUserId intent.documentVersionId (intent.recoveryGrants + 1)]
          = [] := by
        refine rearmEvents_eq_nil fun e he hrearm hresource ↦ ?_
        rw [List.mem_singleton.1 he] at hresource
        exact hother i hold hkey (Option.some.inj hresource).symm
      rw [hnone, List.map_nil, List.append_nil]
      exact h.grants i hold

/-- A step keeps the grants numbered. -/
theorem AuditedChange.granted (h : AuditedChange db returned db') (hgranted : Granted db) :
    Granted db' := by
  cases h with
  | nothing => exact hgranted
  | ticket ofTicket ofMessage author ticketInserted messageInserted =>
    refine hgranted.of_other rfl rfl rfl fun e he ↦ ?_
    rcases List.mem_pair.1 he with rfl | rfl <;> exact nofun
  | message ofMessage author inserted =>
    refine hgranted.of_other rfl rfl rfl fun e he ↦ ?_
    rw [List.mem_singleton.1 he]
    exact nofun
  | member ofMember inserted =>
    refine hgranted.of_other rfl rfl rfl fun e he ↦ ?_
    rw [List.mem_singleton.1 he]
    exact nofun
  | upload ofDocument author ofVersion ungranted documentInserted versionInserted intentInserted =>
    exact hgranted.uploaded ofVersion ungranted versionInserted intentInserted nofun
  | rearm stored => exact hgranted.rearmed stored

/-! ### The ledger over runs -/

/-- A step extends the ledger by what its call returned. -/
theorem AuditedChange.ledger (h : AuditedChange db returned db') (hledger : AuditLedger db₀ rs db)
    (hgranted : Granted db) : AuditLedger db₀ (rs ++ returned.toList) db' where
  events action haction := by
    rw [h.references haction, made_append, hledger.events action haction]
  tickets := by rw [h.tickets, made_append, List.map_append, hledger.tickets]
  messages := by rw [h.messages, made_append, hledger.messages]
  members := by
    obtain ⟨before, hbefore, hmap⟩ := hledger.members
    obtain ⟨added, hadded, hmap'⟩ := h.members
    refine ⟨before ++ added, ?_, ?_⟩
    · rw [hadded, hbefore, List.append_assoc]
    · rw [List.map_append, hmap, hmap', made_append, List.map_append]
  documents := by rw [h.documents, made_append, hledger.documents]
  grants := (h.granted hgranted).grants

end Change

namespace LedgerSample

/-- An upload, to an empty store. -/
def upload : Option Returned × Database :=
  uploadCall (fun _ ↦ "digest") DocumentValidation.Sample.unicode (fun _ ↦ false)
    DocumentService.Sample.request Sample.ids 0 (fun _ ↦ none) Sample.installed.db

end LedgerSample

end SupportFlow
