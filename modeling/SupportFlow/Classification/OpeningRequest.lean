import Mathlib.Data.Prod.Lex
import SupportFlow.Classification.Application

/-!
# Only the opening request is prepared

`prepare_input` reads a whole conversation, but its outcome depends on one message. The comparison
of `(created_at as an instant, id)` ranks messages of different ids (`ranks_before`), so the opening
message is the least one that the system did not write (`openingMessage_eq_some_iff`): a notion that
knows neither the order of the list, nor the messages of the system, nor the later messages, nor the
zones in which the times are written.

What is prepared depends on that message by its id and its body alone (`prepareInput_congr`), so
each change of the list that keeps the opening message keeps the payload, the fingerprint and the
error.
-/

namespace SupportFlow

open Python

/-! ### The opening message -/

namespace OpeningMessage

/-- The key of a message, in the lexicographic order. -/
def sortKey (m : OpeningMessage) : ℤ ×ₗ ℕ :=
  toLex (m.createdAt.instant, m.id.val)

theorem before_iff {a b : OpeningMessage} : a.Before b ↔ a.sortKey < b.sortKey := by
  rw [sortKey, sortKey, Prod.Lex.toLex_lt_toLex]
  rfl

/-- Messages of different ids have different keys. -/
theorem id_eq_of_sortKey_eq {a b : OpeningMessage} (h : a.sortKey = b.sortKey) : a.id = b.id :=
  Fin.ext (Prod.mk.inj (toLex.injective h)).2

end OpeningMessage

/-- The body that is prepared. -/
def openingBody (messages : List OpeningMessage) : String :=
  (openingMessage messages).elim "" OpeningMessage.body

/-- The messages that can be the opening one. -/
def eligible (messages : List OpeningMessage) : List OpeningMessage :=
  messages.filter fun message ↦ message.authorType ≠ .system

theorem mem_eligible {messages : List OpeningMessage} {m : OpeningMessage} :
    m ∈ eligible messages ↔ m ∈ messages ∧ m.authorType ≠ .system := by
  rw [eligible, List.mem_filter, decide_eq_true_iff]

variable {messages messages' : List OpeningMessage} {m opening : OpeningMessage}

/-- **The key ranks messages of different ids.** -/
theorem ranks_before (hids : (messages.map OpeningMessage.id).Nodup) :
    Ranks OpeningMessage.Before messages where
  asymm _ _ h h' := lt_asymm (OpeningMessage.before_iff.1 h) (OpeningMessage.before_iff.1 h')
  trans _ _ _ h h' := OpeningMessage.before_iff.2 <|
    lt_trans (OpeningMessage.before_iff.1 h) (OpeningMessage.before_iff.1 h')
  connected a ha b hb := by
    rcases lt_trichotomy a.sortKey b.sortKey with hlt | heq | hgt
    · exact .inr (.inl (OpeningMessage.before_iff.2 hlt))
    · exact .inl (List.inj_on_of_nodup_map hids ha hb (OpeningMessage.id_eq_of_sortKey_eq heq))
    · exact .inr (.inr (OpeningMessage.before_iff.2 hgt))

theorem ranks_eligible (hids : (messages.map OpeningMessage.id).Nodup) :
    Ranks OpeningMessage.Before (eligible messages) :=
  (ranks_before hids).subset (List.filter_subset_self _)

theorem openingMessage_perm (hids : (messages.map OpeningMessage.id).Nodup)
    (h : messages'.Perm messages) : openingMessage messages' = openingMessage messages :=
  least?_perm (ranks_eligible hids) (h.filter _)

/-- A message of the system is never looked at. -/
theorem openingMessage_system (front back : List OpeningMessage) (hm : m.authorType = .system) :
    openingMessage (front ++ m :: back) = openingMessage (front ++ back) := by
  have hfilter : eligible (front ++ m :: back) = eligible (front ++ back) := by
    simp [eligible, hm]
  exact congrArg (least? OpeningMessage.Before) hfilter

/-- A message after the opening one is not chosen. -/
theorem openingMessage_later (front back : List OpeningMessage)
    (hids : ((front ++ m :: back).map OpeningMessage.id).Nodup)
    (hopening : openingMessage (front ++ back) = some opening) (hm : opening.Before m) :
    openingMessage (front ++ m :: back) = some opening := by
  have hinsert : ∀ x, x ∈ front ++ m :: back ↔ x ∈ front ++ back ∨ x = m := fun x ↦ by
    rw [List.perm_middle.mem_iff, List.mem_cons, or_comm]
  refine least?_of_subset (ranks_eligible hids) (fun x hx ↦ ?_) hopening fun x hx ↦ ?_
  · obtain ⟨hmem, hauthor⟩ := mem_eligible.1 hx
    exact mem_eligible.2 ⟨(hinsert x).2 (.inl hmem), hauthor⟩
  · obtain ⟨hmem, hauthor⟩ := mem_eligible.1 hx
    rcases (hinsert x).1 hmem with hmem | rfl
    · exact .inl (mem_eligible.2 ⟨hmem, hauthor⟩)
    · exact .inr hm

section Prepared

variable {sha256 : String → String} {subject inputPolicyVersion taxonomyVersion : String}
  {prepared : PreparedInput}

/-- **What is prepared depends on the opening message alone**, and on that by its id and its
body. -/
theorem prepareInput_congr (hids : (messages.map OpeningMessage.id).Nodup)
    (hids' : (messages'.map OpeningMessage.id).Nodup)
    (h : (openingMessage messages').map (fun m ↦ (m.id, m.body)) =
      (openingMessage messages).map fun m ↦ (m.id, m.body)) :
    prepareInput sha256 subject messages' inputPolicyVersion taxonomyVersion =
      prepareInput sha256 subject messages inputPolicyVersion taxonomyVersion := by
  have hid : (openingMessage messages').map OpeningMessage.id =
      (openingMessage messages).map OpeningMessage.id := by
    have hfst := congrArg (Option.map Prod.fst) h
    rwa [Option.map_map, Option.map_map] at hfst
  have hbody : openingBody messages' = openingBody messages := by
    have hsnd := congrArg (fun pair ↦ pair.elim "" Prod.snd) h
    rwa [Option.elim_map, Option.elim_map] at hsnd
  have hnone : (openingMessage messages').isNone = (openingMessage messages).isNone := by
    simpa only [Option.isNone_map] using congrArg Option.isNone h
  unfold prepareInput
  dsimp only
  rw [hid, hnone, show (openingMessage messages').elim "" OpeningMessage.body = _ from hbody]
  simp only [hids, hids']
  rfl

/-- A prepared input is the opening message's. -/
theorem of_prepareInput
    (h : prepareInput sha256 subject messages inputPolicyVersion taxonomyVersion = .ok prepared) :
    prepared.messageId = (openingMessage messages).map OpeningMessage.id ∧
      prepared.payload = ⟨subject, openingBody messages, schemaVersion, taxonomyVersion⟩ ∧
      prepared.fingerprint = sha256 (canonicalInput subject (openingBody messages)
        prepared.messageId inputPolicyVersion taxonomyVersion) := by
  unfold prepareInput at h
  split at h
  · cases h
  · split at h
    · cases h
    · split at h
      · cases h
      · dsimp only at h
        split at h
        · cases h
        · cases h
          exact ⟨rfl, rfl, rfl⟩

end Prepared

/-! ### The input of a ticket -/

section Ticket

variable {sha256 : String → String} {ticket : Ticket} {db : Database} {message : TicketMessage}
  {table : Table TicketMessage}

/-- A row of `ticket_messages`, as `prepare_input` takes it. -/
def TicketMessage.asOpening (m : TicketMessage) : OpeningMessage :=
  ⟨m.id, .ofInstant m.createdAt, m.authorType, m.body⟩

/-- The messages of a ticket, as `prepare_input` takes them. -/
def ticketOpenings (ticket : Ticket) (db : Database) : List OpeningMessage :=
  (TicketRepository.listTicketMessages ticket.organizationId ticket.id db).map
    TicketMessage.asOpening

/-- The messages of a ticket, in the order of the table. -/
theorem ticketOpenings_perm (ticket : Ticket) (db : Database) :
    (ticketOpenings ticket db).Perm ((db.ticketMessages.rows.filter fun message ↦
      message.organizationId = ticket.organizationId ∧ message.ticketId = ticket.id).map
        TicketMessage.asOpening) :=
  (List.perm_insertionSort _ _).map _

theorem nodup_ticketOpenings (ticket : Ticket) (db : Database) :
    ((ticketOpenings ticket db).map OpeningMessage.id).Nodup := by
  refine ((ticketOpenings_perm ticket db).map OpeningMessage.id).nodup_iff.2 ?_
  rw [List.map_map]
  exact db.ticketMessages.nodup.sublist (List.filter_sublist.map TicketMessage.id)

/-- A new message of another ticket is not listed. -/
theorem ticketOpenings_insert?_of_ne (h : db.ticketMessages.insert? message = some table)
    (hne : ¬(message.organizationId = ticket.organizationId ∧ message.ticketId = ticket.id)) :
    (ticketOpenings ticket { db with ticketMessages := table }).Perm
      (ticketOpenings ticket db) := by
  have hperm := ticketOpenings_perm ticket { db with ticketMessages := table }
  dsimp only at hperm
  rw [(Table.insert?_eq_some_iff.1 h).2, List.filter_append] at hperm
  simp only [List.filter_cons, hne, decide_false, Bool.false_eq_true, if_false, List.filter_nil,
    List.append_nil] at hperm
  exact hperm.trans (ticketOpenings_perm ticket db).symm

/-- A new message of the ticket is listed among the others. -/
theorem ticketOpenings_insert? (h : db.ticketMessages.insert? message = some table)
    (hticket : message.organizationId = ticket.organizationId ∧ message.ticketId = ticket.id) :
    (ticketOpenings ticket { db with ticketMessages := table }).Perm
      (ticketOpenings ticket db ++ [message.asOpening]) := by
  have hperm := ticketOpenings_perm ticket { db with ticketMessages := table }
  dsimp only at hperm
  rw [(Table.insert?_eq_some_iff.1 h).2, List.filter_append, List.map_append] at hperm
  simp only [List.filter_cons, hticket, and_self, decide_true, if_true, List.filter_nil,
    List.map_singleton] at hperm
  exact hperm.trans ((ticketOpenings_perm ticket db).symm.append_right _)

/-- **A new message leaves the input of every ticket as it is**, unless it becomes the opening one:
so a result that was current stays current when the conversation goes on. -/
theorem ticketInput_insert? (h : db.ticketMessages.insert? message = some table)
    (hmessage : message.authorType = .system ∨
      ∃ opening, openingMessage (ticketOpenings ticket db) = some opening ∧
        opening.Before message.asOpening) :
    ticketInput sha256 ticket { db with ticketMessages := table } =
      ticketInput sha256 ticket db := by
  have hids := nodup_ticketOpenings ticket db
  have hids' := nodup_ticketOpenings ticket { db with ticketMessages := table }
  have hsame : openingMessage (ticketOpenings ticket { db with ticketMessages := table }) =
      openingMessage (ticketOpenings ticket db) := by
    by_cases hticket : message.organizationId = ticket.organizationId ∧ message.ticketId = ticket.id
    · have hperm := ticketOpenings_insert? h hticket
      have hall := (hperm.map OpeningMessage.id).nodup_iff.1 hids'
      rw [openingMessage_perm hall hperm]
      rcases hmessage with hsystem | ⟨opening, hopening, hlater⟩
      · rw [openingMessage_system _ [] hsystem, List.append_nil]
      · rw [hopening]
        exact openingMessage_later _ [] hall (by rwa [List.append_nil]) hlater
    · exact openingMessage_perm hids (ticketOpenings_insert?_of_ne h hticket)
  exact prepareInput_congr hids hids' (congrArg _ hsame)

end Ticket

end SupportFlow
