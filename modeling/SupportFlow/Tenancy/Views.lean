import SupportFlow.Classification.System
import SupportFlow.Foundations.Noninterference
import SupportFlow.Foundations.Selection
import SupportFlow.Tenancy.Operations

/-!
# What an organization sees

Two databases agree for an organization (`AgreeFor`) when they have the same rows of that
organization, and the same identity rows about it; what they hold for any other organization is
arbitrary in each. A step leaves the others alone (`KeepsOthers`) when a row of another organization
is in the database after it exactly when it was there before: it neither changed or deleted one, nor
wrote one.

Every query has the same answer in two databases that agree. A query that lost its organization
filter would have no such lemma.
-/

namespace SupportFlow

open PrimaryKey (key)
open ClassificationApplication

/-! ### What an organization sees, and what it must leave alone -/

/-- Two databases have the same rows of an organization, the same memberships in it and the same
users behind those. -/
structure Database.AgreeFor (organizationId : UUID) (s t : Database) : Prop where
  organization :
    s.identity.organizations.get? organizationId = t.identity.organizations.get? organizationId
  members : ∀ userId,
    s.identity.members.get? (organizationId, userId) =
      t.identity.members.get? (organizationId, userId)
  /-- Only the users with a membership in the organization are relevant to it. -/
  users : ∀ userId, s.identity.members.get? (organizationId, userId) ≠ none →
    s.identity.users.get? userId = t.identity.users.get? userId
  customers : Table.AgreeOn (·.organizationId = organizationId) s.customers t.customers
  tickets : Table.AgreeOn (·.organizationId = organizationId) s.tickets t.tickets
  ticketMessages :
    Table.AgreeOn (·.organizationId = organizationId) s.ticketMessages t.ticketMessages
  documents : Table.AgreeOn (·.organizationId = organizationId) s.documents t.documents
  versions : Table.AgreeOn (·.organizationId = organizationId) s.versions t.versions
  intents : Table.AgreeOn (·.organizationId = organizationId) s.intents t.intents
  operations : Table.AgreeOn (·.organizationId = organizationId) s.operations t.operations
  /-- The audit rows that the transaction has staged. -/
  audit : s.audit = t.audit

/-- Nothing of any other organization was written. -/
structure Database.KeepsOthers (organizationId : UUID) (s t : Database) : Prop where
  identity : t.identity = s.identity
  customers : Table.AgreeOn (·.organizationId ≠ organizationId) s.customers t.customers
  tickets : Table.AgreeOn (·.organizationId ≠ organizationId) s.tickets t.tickets
  ticketMessages :
    Table.AgreeOn (·.organizationId ≠ organizationId) s.ticketMessages t.ticketMessages
  documents : Table.AgreeOn (·.organizationId ≠ organizationId) s.documents t.documents
  versions : Table.AgreeOn (·.organizationId ≠ organizationId) s.versions t.versions
  intents : Table.AgreeOn (·.organizationId ≠ organizationId) s.intents t.intents
  operations : Table.AgreeOn (·.organizationId ≠ organizationId) s.operations t.operations
  audit : ∃ events, t.audit = s.audit ++ events ∧
    ∀ event ∈ events, event.organizationId = organizationId

/-- Two stored databases agree for an organization, their audit rows included. -/
structure StoredDatabase.AgreeFor (organizationId : UUID) (s t : StoredDatabase) : Prop where
  session : s.session.AgreeFor organizationId t.session
  auditRows : Table.AgreeOn (·.event.organizationId = organizationId) s.auditRows t.auditRows

/-- Every row of any other organization is there as before, and no other was added. -/
structure StoredDatabase.KeepsOthers (organizationId : UUID) (s t : StoredDatabase) : Prop where
  session : s.session.KeepsOthers organizationId t.session
  auditRows : Table.AgreeOn (·.event.organizationId ≠ organizationId) s.auditRows t.auditRows

variable {organizationId : UUID}

namespace Database

variable {s t u s' t' : Database}

theorem AgreeFor.refl (s : Database) : AgreeFor organizationId s s where
  organization := rfl
  members _ := rfl
  users _ _ := rfl
  customers := .refl _ _
  tickets := .refl _ _
  ticketMessages := .refl _ _
  documents := .refl _ _
  versions := .refl _ _
  intents := .refl _ _
  operations := .refl _ _
  audit := rfl

theorem KeepsOthers.refl (s : Database) : KeepsOthers organizationId s s where
  identity := rfl
  customers := .refl _ _
  tickets := .refl _ _
  ticketMessages := .refl _ _
  documents := .refl _ _
  versions := .refl _ _
  intents := .refl _ _
  operations := .refl _ _
  audit := ⟨[], (List.append_nil _).symm, fun _ h ↦ absurd h List.not_mem_nil⟩

theorem KeepsOthers.trans (h : KeepsOthers organizationId s t)
    (h' : KeepsOthers organizationId t u) : KeepsOthers organizationId s u where
  identity := h'.identity.trans h.identity
  customers := h.customers.trans h'.customers
  tickets := h.tickets.trans h'.tickets
  ticketMessages := h.ticketMessages.trans h'.ticketMessages
  documents := h.documents.trans h'.documents
  versions := h.versions.trans h'.versions
  intents := h.intents.trans h'.intents
  operations := h.operations.trans h'.operations
  audit := by
    obtain ⟨events, haudit, hevents⟩ := h.audit
    obtain ⟨events', haudit', hevents'⟩ := h'.audit
    refine ⟨events ++ events', ?_, fun e he ↦ ?_⟩
    · rw [haudit', haudit, List.append_assoc]
    · exact (List.mem_append.1 he).elim (hevents e) (hevents' e)

/-- The steps of two computations for an organization, side by side. -/
abbrev Twins (organizationId : UUID) (s t : Database) : Database → Database → Prop :=
  Twin (AgreeFor organizationId) (KeepsOthers organizationId) s t

theorem Twins.refl (h : AgreeFor organizationId s t) : Twins organizationId s t s t :=
  ⟨h, .refl s, .refl t⟩

theorem Twins.trans (h : Twins organizationId s t s' t') {s'' t'' : Database}
    (h' : Twins organizationId s' t' s'' t'') : Twins organizationId s t s'' t'' :=
  Twin.trans (fun _ _ _ ↦ KeepsOthers.trans) h h'

/-- The steps, with the values returned: the same in both. -/
def TwinResults {α : Type} (organizationId : UUID) (s t : Database) (x y : α × Database) : Prop :=
  x.1 = y.1 ∧ Twins organizationId s t x.2 y.2

end Database

/-! ### Queries -/

theorem organizationId_of_getTicket {ticketId : UUID} {db : Database} {ticket : Ticket}
    (h : TicketRepository.getTicket organizationId ticketId db = some ticket) :
    ticket.organizationId = organizationId :=
  of_decide_eq_true (Option.filter_eq_some_iff.1 h).2

theorem organizationId_of_ticket {actorId ticketId : UUID} {db : Database} {ticket : Ticket}
    (h : ClassificationApplication.ticket organizationId actorId ticketId db = .ok ticket) :
    ticket.organizationId = organizationId :=
  organizationId_of_getTicket (ticket_eq_ok h).2

namespace Database.AgreeFor

variable {s t : Database} (h : AgreeFor organizationId s t)
include h

theorem getCustomer (customerId : UUID) :
    TicketRepository.getCustomer organizationId customerId s =
      TicketRepository.getCustomer organizationId customerId t :=
  h.customers.get?_filter (fun _ hq ↦ of_decide_eq_true hq) customerId

theorem getTicket (ticketId : UUID) :
    TicketRepository.getTicket organizationId ticketId s =
      TicketRepository.getTicket organizationId ticketId t :=
  h.tickets.get?_filter (fun _ hq ↦ of_decide_eq_true hq) ticketId

theorem listTicketMessages (ticketId : UUID) :
    TicketRepository.listTicketMessages organizationId ticketId s =
      TicketRepository.listTicketMessages organizationId ticketId t :=
  (Table.orders_oldest TicketMessage.createdAt TicketMessage.id fun _ _ ↦ id).insertionSort
    h.ticketMessages fun _ hq ↦ (of_decide_eq_true hq).1

theorem listTickets (limit offset : ℕ) (filters : TicketRepository.TicketFilters) :
    TicketRepository.listTickets organizationId limit offset filters s =
      TicketRepository.listTickets organizationId limit offset filters t := by
  have hadmits : ∀ ticket : Ticket, filters.admits organizationId ticket = true →
      ticket.organizationId = organizationId := by
    intro ticket hadmits
    simp only [TicketRepository.TicketFilters.admits, Bool.and_eq_true,
      decide_eq_true_eq] at hadmits
    exact hadmits.1.1.1
  have hsorted := (Table.orders_newest Ticket.createdAt Ticket.id fun _ _ ↦ id).insertionSort
    h.tickets hadmits
  unfold TicketRepository.listTickets
  dsimp only
  rw [hsorted, h.tickets.length_filter hadmits]

theorem getTicketDetail (ticketId : UUID) :
    TicketService.getTicketDetail organizationId ticketId s =
      TicketService.getTicketDetail organizationId ticketId t := by
  rw [TicketService.getTicketDetail, TicketService.getTicketDetail, h.getTicket,
    h.listTicketMessages]

/-- The access check. -/
theorem activeMember (userId : UUID) (roles : List MembershipRole) :
    s.identity.activeMember organizationId userId roles =
      t.identity.activeMember organizationId userId roles := by
  unfold IdentityTables.activeMember
  rw [← h.members userId, ← h.organization]
  -- Without a membership nobody looks at the user.
  rcases hmember : s.identity.members.get? (organizationId, userId) with - | m
  · rfl
  · rw [h.users userId (by simp [hmember])]

/-- A search by a condition that only one row of the organization can satisfy. -/
theorem getForVersion (hunique : ∀ i ∈ s.intents, ∀ j ∈ s.intents, i.SameVersion j → i = j)
    (versionId : UUID) :
    IngestionIntentRepository.getForVersion organizationId versionId s =
      IngestionIntentRepository.getForVersion organizationId versionId t := by
  refine h.intents.find? (fun _ hq ↦ (of_decide_eq_true hq).1) fun i hi j hj hqi hqj ↦ ?_
  obtain ⟨horgi, hversioni⟩ := of_decide_eq_true hqi
  obtain ⟨horgj, hversionj⟩ := of_decide_eq_true hqj
  exact hunique i hi j hj ⟨horgi.trans horgj.symm, hversioni.trans hversionj.symm⟩

theorem getWithLatestVersion (hunique : s.UniqueVersionNumbers) (documentId : UUID) :
    DocumentRepository.getWithLatestVersion organizationId documentId s =
      DocumentRepository.getWithLatestVersion organizationId documentId t := by
  have hselects : ∀ row : Document × DocumentVersion,
      DocumentRepository.selects organizationId documentId row = true →
        (row.2.organizationId = row.1.organizationId ∧ row.2.documentId = row.1.id) ∧
          row.1.organizationId = organizationId ∧ row.1.id = documentId ∧
            row.2.organizationId = organizationId := fun row hq ↦ of_decide_eq_true hq
  have hjoined := h.documents.perm_product h.versions fun row hq ↦
    ⟨(hselects row hq).2.1, (hselects row hq).2.2.2⟩
  unfold DocumentRepository.getWithLatestVersion
  dsimp only
  rw [hjoined.insertionSort_eq (fun a b ↦ le_total b.2.versionNumber a.2.versionNumber)
    (fun a b c hab hbc ↦ le_trans hbc hab) ?_]
  -- Two joined rows of one version number are the same row.
  intro a ha b hb hab hba
  obtain ⟨hamem, haq⟩ := List.mem_filter.1 ha
  obtain ⟨hbmem, hbq⟩ := List.mem_filter.1 hb
  obtain ⟨hadoc, haver⟩ := List.pair_mem_product.1 hamem
  obtain ⟨hbdoc, hbver⟩ := List.pair_mem_product.1 hbmem
  obtain ⟨⟨-, hajoin⟩, -, haid, haorg⟩ := hselects a haq
  obtain ⟨⟨-, hbjoin⟩, -, hbid, hborg⟩ := hselects b hbq
  have hfirst : a.1 = b.1 := s.documents.eq_of_key_eq hadoc hbdoc (haid.trans hbid.symm)
  refine Prod.ext hfirst (hunique a.2 haver b.2 hbver (haorg.trans hborg.symm) ?_
    (le_antisymm hba hab))
  rw [hajoin, hbjoin, hfirst]

theorem findOperation (hunique : s.UniqueIdentities) (ticketId : UUID)
    (fingerprint digest : String) :
    s.findOperation ⟨organizationId, ticketId, fingerprint, digest⟩ =
      t.findOperation ⟨organizationId, ticketId, fingerprint, digest⟩ := by
  refine h.operations.find? (fun o hq ↦ ?_) fun a ha b hb hqa hqb ↦ ?_
  · exact congrArg ClassificationIdentity.organizationId (of_decide_eq_true hq)
  · exact hunique a ha b hb ((of_decide_eq_true hqa).trans (of_decide_eq_true hqb).symm)

theorem latestOperation (ticketId : UUID) :
    s.latestOperation organizationId ticketId = t.latestOperation organizationId ticketId := by
  have hsorted := (Table.orders_newest ClassificationOperation.createdAt
    ClassificationOperation.id fun _ _ ↦ id).insertionSort h.operations
      (q := fun operation ↦ operation.organizationId = organizationId ∧
        operation.ticketId = ticketId) fun _ hq ↦ (of_decide_eq_true hq).1
  exact congrArg List.head? hsorted

theorem authorized (actorId : UUID) :
    SupportFlow.authorized organizationId actorId s =
      SupportFlow.authorized organizationId actorId t := by
  rw [SupportFlow.authorized, SupportFlow.authorized, h.activeMember]

/-! #### Classification -/

section Classification

variable {sha256 : String → String} {runtime : Option FakeClassificationRuntime}

theorem ticketInput {ticket : Ticket} (horg : ticket.organizationId = organizationId) :
    SupportFlow.ticketInput sha256 ticket s = SupportFlow.ticketInput sha256 ticket t := by
  subst horg
  rw [SupportFlow.ticketInput, SupportFlow.ticketInput, h.listTicketMessages]

theorem ticket (actorId ticketId : UUID) :
    ClassificationApplication.ticket organizationId actorId ticketId s =
      ClassificationApplication.ticket organizationId actorId ticketId t := by
  rw [ClassificationApplication.ticket, ClassificationApplication.ticket, h.authorized,
    h.getTicket]

theorem readMatch (hunique : s.UniqueIdentities) (ticketId : UUID)
    (prepared : Option PreparedInput) :
    ClassificationApplication.readMatch sha256 runtime organizationId ticketId prepared s =
      ClassificationApplication.readMatch sha256 runtime organizationId ticketId prepared t := by
  unfold ClassificationApplication.readMatch
  split
  · exact h.findOperation hunique _ _ _
  · rfl

theorem read (hunique : s.UniqueIdentities) (actorId ticketId : UUID) (viewedAt : Instant) :
    ClassificationApplication.read sha256 runtime organizationId actorId ticketId viewedAt s =
      ClassificationApplication.read sha256 runtime organizationId actorId ticketId viewedAt t := by
  unfold ClassificationApplication.read
  rw [h.ticket, h.latestOperation]
  refine Except.bind_congr_ok fun found hfound ↦ ?_
  have horg := organizationId_of_ticket hfound
  have hinput : readInput sha256 found s = readInput sha256 found t := by
    rw [readInput, readInput, h.ticketInput horg]
  rw [hinput]
  refine Except.bind_congr_ok fun prepared _ ↦ ?_
  rw [h.readMatch hunique]

theorem completionChecks {claim : ClassificationClaim}
    (horg : claim.organizationId = organizationId) :
    ClassificationApplication.completionChecks sha256 claim s =
      ClassificationApplication.completionChecks sha256 claim t := by
  subst horg
  unfold ClassificationApplication.completionChecks
  rw [h.authorized, h.getTicket]
  dsimp only
  split
  · rfl
  · next found hfound => rw [h.ticketInput (organizationId_of_getTicket hfound)]

end Classification

end Database.AgreeFor

end SupportFlow
