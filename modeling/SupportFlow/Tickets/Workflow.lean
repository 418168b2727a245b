import Mathlib.Data.List.Chain
import Mathlib.Logic.Function.Basic
import SupportFlow.Foundations.TransitionSystem
import SupportFlow.Tickets.Service

/-!
# Concurrent ticket transitions

Any number of `transition_ticket` calls at once, each a `READ COMMITTED` transaction of its own: it
reads the committed row, checks, writes (and holds the row's lock from then on), and commits or
rolls back. Reads, writes and commits of different calls interleave freely; the one thing the
database enforces is that two uncommitted updates of one row do not coexist.

## The workflow is kept exactly by the undisturbed commits

The status a call checked is the one it *read*; the status it overwrites is the one *committed* by
then. Nothing in the code makes the two equal, so the workflow can be left
(`SupportFlow.transition_lost_check`): an open ticket goes `processing`, `waiting_for_agent`, and
back to `processing`.

Since `ALLOWED_TRANSITIONS` is injective, a path through the graph determines each change's source
from its target. That is why the condition is exact (`SupportFlow.transition_workflow_kept_iff`): a
run follows the graph **if and only if** every commit found the status it had read.
-/

namespace SupportFlow

open TicketService

/-! ### The system -/

/-- How far a `transition_ticket` call has come. -/
inductive TransitionStage
  | started
  /-- The row was read in this status, and the check passed. -/
  | checked (previousStatus : TicketStatus)
  /-- The `UPDATE` was sent: the call holds the row's lock until it ends. -/
  | written (previousStatus : TicketStatus)
  deriving DecidableEq, Repr

/-- A running `transition_ticket` call. -/
structure TransitionCall where
  request : TransitionRequest
  stage : TransitionStage
  deriving DecidableEq, Repr

/-- A call holds the lock of a ticket's row. -/
def TransitionCall.Locks (call : TransitionCall) (ticketId : UUID) : Prop :=
  call.request.ticketId = ticketId ∧ ∃ previousStatus, call.stage = .written previousStatus

structure TicketWorld where
  db : Database
  calls : ℕ → Option TransitionCall

/-- Put a call in a stage, or end it. -/
def TicketWorld.setCall (w : TicketWorld) (c : ℕ) (call : Option TransitionCall) : TicketWorld :=
  { w with calls := Function.update w.calls c call }

inductive TicketEvent
  | request (call : ℕ)
  | check (call : ℕ)
  | reject (call : ℕ) (error : TicketError)
  | write (call : ℕ)
  | commit (call : ℕ) (change : StatusChange)
  | rollback (call : ℕ)
  deriving DecidableEq, Repr

/-- **The steps of concurrent transitions.** -/
inductive TicketStep : TicketWorld → TicketEvent → TicketWorld → Prop
  | request {w : TicketWorld} {c : ℕ} (request : TransitionRequest) (free : w.calls c = none) :
      TicketStep w (.request c) (w.setCall c (some ⟨request, .started⟩))
  | check {w : TicketWorld} {c : ℕ} {request : TransitionRequest} {previousStatus : TicketStatus}
      (stage : w.calls c = some ⟨request, .started⟩)
      (run : checkTransition request w.db = .ok previousStatus) :
      TicketStep w (.check c) (w.setCall c (some ⟨request, .checked previousStatus⟩))
  | reject {w : TicketWorld} {c : ℕ} {request : TransitionRequest} {error : TicketError}
      (stage : w.calls c = some ⟨request, .started⟩)
      (run : checkTransition request w.db = .error error) :
      TicketStep w (.reject c error) (w.setCall c none)
  /-- The `UPDATE` waits until no other transaction holds the row. -/
  | write {w : TicketWorld} {c : ℕ} {request : TransitionRequest} {previousStatus : TicketStatus}
      (stage : w.calls c = some ⟨request, .checked previousStatus⟩)
      (free : ∀ d call, w.calls d = some call → ¬call.Locks request.ticketId) :
      TicketStep w (.write c) (w.setCall c (some ⟨request, .written previousStatus⟩))
  | commit {w : TicketWorld} {c : ℕ} {request : TransitionRequest} {previousStatus : TicketStatus}
      {change : StatusChange} {db : Database}
      (stage : w.calls c = some ⟨request, .written previousStatus⟩)
      (run : commitTransition request previousStatus w.db = some (change, db)) :
      TicketStep w (.commit c change) ({ w with db := db }.setCall c none)
  /-- A call raises, is rolled back or dies, at any stage. -/
  | rollback {w : TicketWorld} (c : ℕ) : TicketStep w (.rollback c) (w.setCall c none)

/-! ### What a workflow keeps -/

/-- The status change of a ticket that a step commits. -/
def TicketEvent.statusChange? (ticketId : UUID) : TicketEvent → Option StatusChange
  | commit _ change => if change.ticketId = ticketId then some change else none
  | _ => none

/-- The status changes a run committed on a ticket, oldest first. -/
def statusChanges (ticketId : UUID) (ls : List TicketEvent) : List StatusChange :=
  ls.filterMap (TicketEvent.statusChange? ticketId)

/-- The statuses a ticket had in the database over a run, from its first one on. -/
def committedStatuses (ticketId : UUID) (initial : TicketStatus) (ls : List TicketEvent) :
    List TicketStatus :=
  initial :: (statusChanges ticketId ls).map StatusChange.next

/-- A path of the transition graph. -/
def WorkflowPath (statuses : List TicketStatus) : Prop :=
  statuses.IsChain fun s t ↦ allowedTransitions s = some t

/-- The audit rows about a ticket's status, oldest first. -/
def statusEvents (ticketId : UUID) (audit : List AuditEvent) : List AuditEvent :=
  audit.filter fun e ↦ decide (e.action = .ticketStatusChanged ∧ e.resourceId = some ticketId)

/-- The statuses a status-change row names. -/
def AuditEvent.previousStatus? (e : AuditEvent) : Option MetadataValue :=
  e.eventMetadata.lookup "previous_status"

def AuditEvent.newStatus? (e : AuditEvent) : Option MetadataValue :=
  e.eventMetadata.lookup "new_status"

/-- **The audit trail of a ticket**: each row continues the one before it, and the last one ends in
the ticket's current status. -/
def AuditTrail (ticketId : UUID) (db : Database) : Prop :=
  (statusEvents ticketId db.audit).IsChain (fun e e' ↦ e'.previousStatus? = e.newStatus?) ∧
    ∀ e ∈ (statusEvents ticketId db.audit).getLast?, ∀ ticket ∈ db.tickets.get? ticketId,
      e.newStatus? = some (.str ticket.status.value)

/-- **The ticket workflow** over a run: the committed statuses are a path of the graph, so they
never go back and take no edge twice, and the audit trail tells that path. -/
structure WorkflowKept (ticketId : UUID) (initial : TicketStatus) (ls : List TicketEvent)
    (db : Database) : Prop where
  path : WorkflowPath (committedStatuses ticketId initial ls)
  forwards : (committedStatuses ticketId initial ls).Pairwise fun s t ↦ s.rank < t.rank
  edges : ((committedStatuses ticketId initial ls).zip
    (committedStatuses ticketId initial ls).tail).Nodup
  trail : AuditTrail ticketId db

/-- Concurrent transitions, from a database whose trail of the ticket is in order. -/
def transitions (ticketId : UUID) : TransitionSystem TicketWorld TicketEvent where
  init w := (∀ c, w.calls c = none) ∧ AuditTrail ticketId w.db
  step := TicketStep

/-! ### Paths -/

/-- A path goes forwards. -/
theorem WorkflowPath.forwards {statuses : List TicketStatus} (h : WorkflowPath statuses) :
    statuses.Pairwise fun s t ↦ s.rank < t.rank := by
  have hchain : statuses.IsChain fun s t ↦ s.rank < t.rank :=
    h.imp fun s t hst ↦ by rw [rank_of_allowed hst]; exact Nat.lt_succ_self _
  have htrans : IsTrans TicketStatus fun s t ↦ s.rank < t.rank :=
    ⟨fun _ _ _ hab hbc ↦ Nat.lt_trans hab hbc⟩
  exact List.isChain_iff_pairwise.1 hchain

/-- A path takes no edge twice, since it does not come back to a status. -/
theorem WorkflowPath.edges {statuses : List TicketStatus} (h : WorkflowPath statuses) :
    (statuses.zip statuses.tail).Nodup := by
  have hnodup : statuses.Nodup :=
    h.forwards.imp fun hlt heq ↦ absurd (congrArg TicketStatus.rank heq) hlt.ne
  have htargets : (statuses.zip statuses.tail).map Prod.snd = statuses.tail :=
    List.map_snd_zip (by rw [List.length_tail]; exact Nat.sub_le _ _)
  have htail : ((statuses.zip statuses.tail).map Prod.snd).Nodup := by
    rw [htargets]
    exact hnodup.tail
  exact htail.of_map _

/-! ### What one step does to a ticket -/

theorem statusChanges_snoc (ticketId : UUID) (ls : List TicketEvent) (e : TicketEvent) :
    statusChanges ticketId (ls ++ [e]) =
      statusChanges ticketId ls ++ (e.statusChange? ticketId).toList := by
  rw [statusChanges, statusChanges, List.filterMap_append]
  rfl

/-- A stage past the check has read a status that the requested one may follow. -/
def TransitionStage.Admits (next : TicketStatus) : TransitionStage → Prop
  | started => True
  | checked previousStatus | written previousStatus =>
    allowedTransitions previousStatus = some next

/-- Every call past its check passed it. -/
def TicketWorld.Checked (w : TicketWorld) : Prop :=
  ∀ c call, w.calls c = some call → call.stage.Admits call.request.nextStatus

theorem TicketWorld.Checked.setCall {w : TicketWorld} (h : w.Checked) {c : ℕ}
    {call : Option TransitionCall}
    (hcall : ∀ x ∈ call, x.stage.Admits x.request.nextStatus) : (w.setCall c call).Checked := by
  intro d x hx
  by_cases hd : d = c
  · subst hd
    exact hcall x (by simpa [TicketWorld.setCall] using hx)
  · exact h d x (by simpa [TicketWorld.setCall, hd] using hx)

theorem TicketStep.checked {w w' : TicketWorld} {e : TicketEvent} (h : TicketStep w e w')
    (hw : w.Checked) : w'.Checked := by
  cases h with
  | request request free => exact hw.setCall fun x hx ↦ by cases hx; trivial
  | check stage run => exact hw.setCall fun x hx ↦ by cases hx; exact checkTransition_allowed run
  | reject stage run => exact hw.setCall (by simp)
  | @write c request previousStatus stage free =>
    have hadmits : allowedTransitions previousStatus = some request.nextStatus := hw c _ stage
    exact hw.setCall fun x hx ↦ by cases hx; exact hadmits
  | commit stage run => exact TicketWorld.Checked.setCall (w := { w with db := _ }) hw (by simp)
  | rollback c => exact hw.setCall (by simp)

/-- What a step does to one ticket: nothing, or a status change with its audit row. The change
overwrites whatever the row holds (`found`), and follows the graph only from the status that was
read (`previous`). -/
inductive StatusEffect (ticketId : UUID) (w : TicketWorld) (e : TicketEvent) (w' : TicketWorld) :
    Prop
  | frame (change : e.statusChange? ticketId = none)
      (row : w'.db.tickets.get? ticketId = w.db.tickets.get? ticketId)
      (events : statusEvents ticketId w'.db.audit = statusEvents ticketId w.db.audit)
  | changed {ticket : Ticket} {previous next : TicketStatus} {organizationId actorUserId : UUID}
      (change : e.statusChange? ticketId = some ⟨ticketId, ticket.status, previous, next⟩)
      (allowed : allowedTransitions previous = some next)
      (found : w.db.tickets.get? ticketId = some ticket)
      (row : w'.db.tickets.get? ticketId = some { ticket with status := next })
      (events : statusEvents ticketId w'.db.audit = statusEvents ticketId w.db.audit ++
        [AuditEventService.recordTicketStatusChanged organizationId actorUserId ticketId previous
          next])

theorem TicketStep.effect {w w' : TicketWorld} {e : TicketEvent} (ticketId : UUID)
    (h : TicketStep w e w') (hw : w.Checked) : StatusEffect ticketId w e w' := by
  cases h with
  | @commit c request previousStatus change db stage run =>
    obtain ⟨ticket, hget, rfl, htickets, haudit⟩ := commitTransition_spec run
    have hallowed : allowedTransitions previousStatus = some request.nextStatus := hw c _ stage
    have hkey : ticket.id = request.ticketId := Table.key_of_get? hget
    have hevents : statusEvents ticketId db.audit = statusEvents ticketId w.db.audit ++
        statusEvents ticketId [AuditEventService.recordTicketStatusChanged request.organizationId
          request.currentUserId request.ticketId previousStatus request.nextStatus] := by
      rw [haudit, statusEvents, List.filter_append]
      rfl
    by_cases hid : request.ticketId = ticketId
    · subst hid
      have hrow : db.tickets.get? request.ticketId =
          some { ticket with status := request.nextStatus } := by
        rw [htickets, ← hkey]
        exact Table.get?_set_self (r := { ticket with status := request.nextStatus })
          (hkey ▸ hget)
      have hone : statusEvents request.ticketId [AuditEventService.recordTicketStatusChanged
          request.organizationId request.currentUserId request.ticketId previousStatus
          request.nextStatus] = [AuditEventService.recordTicketStatusChanged
          request.organizationId request.currentUserId request.ticketId previousStatus
          request.nextStatus] := by
        simp [statusEvents, AuditEventService.recordTicketStatusChanged]
      rw [hone] at hevents
      exact .changed (if_pos rfl) hallowed hget hrow hevents
    · refine .frame (if_neg hid) ?_ (hevents.trans ?_)
      · change db.tickets.get? ticketId = _
        rw [htickets]
        exact Table.get?_set_of_ne fun h ↦ hid (hkey.symm.trans h.symm)
      · simp [statusEvents, AuditEventService.recordTicketStatusChanged, hid]
  | request | check | reject | write | rollback => exact .frame rfl rfl rfl

/-! ### Whole runs -/

/-- Every commit of the ticket found the status it had read. -/
def Undisturbed (ticketId : UUID) (ls : List TicketEvent) : Prop :=
  ∀ change ∈ statusChanges ticketId ls, change.found = change.previous

/-- What a run keeps about a ticket, from its first status on. -/
structure Tracked (ticketId : UUID) (initial : TicketStatus) (ls : List TicketEvent)
    (w : TicketWorld) : Prop where
  checked : w.Checked
  current : ∃ ticket, w.db.tickets.get? ticketId = some ticket ∧
    (committedStatuses ticketId initial ls).getLast? = some ticket.status
  path_iff : WorkflowPath (committedStatuses ticketId initial ls) ↔ Undisturbed ticketId ls
  trail : Undisturbed ticketId ls → AuditTrail ticketId w.db

theorem committedStatuses_snoc (ticketId : UUID) (initial : TicketStatus) (ls : List TicketEvent)
    (e : TicketEvent) :
    committedStatuses ticketId initial (ls ++ [e]) =
      committedStatuses ticketId initial ls ++
        (e.statusChange? ticketId).toList.map StatusChange.next := by
  rw [committedStatuses, statusChanges_snoc, List.map_append, committedStatuses, List.cons_append]

theorem undisturbed_snoc {ticketId : UUID} {ls : List TicketEvent} {e : TicketEvent} :
    Undisturbed ticketId (ls ++ [e]) ↔
      Undisturbed ticketId ls ∧
        ∀ change ∈ e.statusChange? ticketId, change.found = change.previous := by
  simp only [Undisturbed, statusChanges_snoc, List.mem_append, Option.mem_toList,
    Option.mem_def, or_imp, forall_and]

/-- A path is extended by one status exactly when the last one leads to it. -/
theorem workflowPath_snoc {statuses : List TicketStatus} {last next : TicketStatus}
    (hlast : statuses.getLast? = some last) :
    WorkflowPath (statuses ++ [next]) ↔
      WorkflowPath statuses ∧ allowedTransitions last = some next := by
  rw [WorkflowPath, List.isChain_append, hlast]
  simp [WorkflowPath]

/-- **One step of the trail**: a row that starts from the ticket's status extends it. -/
theorem AuditTrail.changed {ticketId : UUID} {db db' : Database} {ticket : Ticket}
    {organizationId actorUserId : UUID} {next : TicketStatus} (h : AuditTrail ticketId db)
    (found : db.tickets.get? ticketId = some ticket)
    (row : db'.tickets.get? ticketId = some { ticket with status := next })
    (events : statusEvents ticketId db'.audit = statusEvents ticketId db.audit ++
      [AuditEventService.recordTicketStatusChanged organizationId actorUserId ticketId
        ticket.status next]) : AuditTrail ticketId db' := by
  obtain ⟨hchain, hlast⟩ := h
  refine ⟨?_, ?_⟩
  · rw [events, List.isChain_append]
    refine ⟨hchain, List.isChain_singleton _, ?_⟩
    intro e he e' he'
    obtain rfl := Option.some.inj he'
    exact (hlast e he ticket found).symm
  · intro e he t ht
    rw [events, List.getLast?_concat] at he
    rw [row] at ht
    cases he
    cases ht
    rfl

/-- The step of `Tracked`. -/
theorem Tracked.step {ticketId : UUID} {initial : TicketStatus} {ls : List TicketEvent}
    {w w' : TicketWorld} {e : TicketEvent} (h : Tracked ticketId initial ls w)
    (hs : TicketStep w e w') : Tracked ticketId initial (ls ++ [e]) w' := by
  obtain ⟨ticket, hticket, hlast⟩ := h.current
  cases hs.effect ticketId h.checked with
  | frame change row events =>
    have hstatuses : committedStatuses ticketId initial (ls ++ [e]) =
        committedStatuses ticketId initial ls := by
      rw [committedStatuses_snoc, change]
      simp
    have hiff : Undisturbed ticketId (ls ++ [e]) ↔ Undisturbed ticketId ls := by
      rw [undisturbed_snoc, change]
      simp
    refine ⟨hs.checked h.checked, ⟨ticket, row.trans hticket, hstatuses ▸ hlast⟩, ?_, fun hu ↦ ?_⟩
    · rw [hstatuses, hiff, h.path_iff]
    · rw [AuditTrail, row, events]
      exact h.trail (hiff.1 hu)
  | @changed found previous next _ _ change allowed hfound row events =>
    obtain rfl : found = ticket := Option.some.inj (hfound.symm.trans hticket)
    have hstatuses : committedStatuses ticketId initial (ls ++ [e]) =
        committedStatuses ticketId initial ls ++ [next] := by
      rw [committedStatuses_snoc, change]
      rfl
    have hiff : Undisturbed ticketId (ls ++ [e]) ↔
        Undisturbed ticketId ls ∧ found.status = previous := by
      rw [undisturbed_snoc, change]
      simp
    refine ⟨hs.checked h.checked, ⟨_, row, by rw [hstatuses, List.getLast?_concat]⟩, ?_,
      fun hu ↦ ?_⟩
    · -- The graph has one way into `next`: from the status that was read.
      rw [hstatuses, workflowPath_snoc hlast, hiff, h.path_iff]
      refine and_congr_right fun _ ↦ ⟨fun hedge ↦ allowedTransitions_inj hedge allowed, ?_⟩
      rintro rfl
      exact allowed
    · obtain ⟨hbefore, rfl⟩ := hiff.1 hu
      exact (h.trail hbefore).changed hfound row events

theorem ticket_tracked {ticketId : UUID} {w₀ w : TicketWorld} {ls : List TicketEvent}
    {ticket : Ticket} (init : (transitions ticketId).init w₀)
    (hticket : w₀.db.tickets.get? ticketId = some ticket)
    (run : (transitions ticketId).Run w₀ ls w) : Tracked ticketId ticket.status ls w := by
  refine TransitionSystem.Run.tracked (I := Tracked ticketId ticket.status) ?_ ?_ run
  · refine ⟨fun c call hcall ↦ ?_, ⟨ticket, hticket, rfl⟩, ?_, fun _ ↦ init.2⟩
    · rw [init.1 c] at hcall
      cases hcall
    · exact iff_of_true (List.isChain_singleton _) fun change hchange ↦ (nomatch hchange)
  · exact fun ls w e w' _ h hs ↦ h.step hs

/-- **A run keeps the workflow exactly when every commit found the status its call had read**: when
no other transition of the ticket was committed between a call's `SELECT` and its `UPDATE`. -/
theorem transition_workflow_kept_iff {ticketId : UUID} {w₀ w : TicketWorld}
    {ls : List TicketEvent} {ticket : Ticket} (init : (transitions ticketId).init w₀)
    (hticket : w₀.db.tickets.get? ticketId = some ticket)
    (run : (transitions ticketId).Run w₀ ls w) :
    WorkflowKept ticketId ticket.status ls w.db ↔ Undisturbed ticketId ls := by
  have h := ticket_tracked init hticket run
  refine ⟨fun hkept ↦ h.path_iff.1 hkept.path, fun hu ↦ ?_⟩
  have hpath := h.path_iff.2 hu
  exact ⟨hpath, hpath.forwards, hpath.edges, h.trail hu⟩

/-! ### A lost check -/

namespace Sample

/-- An open ticket, and nothing else. -/
def opened : TicketWorld where
  db :=
    { identity := ⟨.empty, .empty, .empty⟩
      customers := .empty
      tickets := .singleton ⟨uuid 10, uuid 1, none, .manual, none, "Cannot sign in", .opened, 0⟩
      ticketMessages := .empty
      documents := .empty
      versions := .empty
      intents := .empty
      operations := .empty
      audit := [] }
  calls _ := none

def request (nextStatus : TicketStatus) : TransitionRequest :=
  ⟨uuid 1, uuid 10, nextStatus, uuid 2⟩

/-- A call that nothing disturbs. -/
def undisturbed (c : ℕ) (previous next : TicketStatus) : List TicketEvent :=
  [.request c, .check c, .write c, .commit c ⟨uuid 10, previous, previous, next⟩]

/-- Call 0 reads the open ticket and stalls; calls 1 and 2 move it on; call 0 then commits. -/
def disturbed : List TicketEvent :=
  [.request 0, .check 0] ++ undisturbed 1 .opened .processing ++
    undisturbed 2 .processing .waitingForAgent ++
    [.write 0, .commit 0 ⟨uuid 10, .waitingForAgent, .opened, .processing⟩]

theorem opened_init : (transitions (uuid 10)).init opened :=
  ⟨fun _ ↦ rfl, List.isChain_nil, fun _ h ↦ (nomatch h)⟩

theorem run_undisturbed : ∃ w, (transitions (uuid 10)).Run opened
    (undisturbed 0 .opened .processing) w := by
  refine ⟨_, .cons (.request (request .processing) rfl) <| .cons (.check rfl rfl) <|
    .cons (.write rfl ?_) <| .cons (.commit rfl rfl) <| .nil _⟩
  rintro (- | d) call h ⟨-, p, hp⟩
  · cases h
    cases hp
  · cases h

theorem run_disturbed : ∃ w, (transitions (uuid 10)).Run opened disturbed w := by
  refine ⟨_, .cons (.request (request .processing) rfl) <| .cons (.check rfl rfl) <|
    .cons (.request (request .processing) rfl) <| .cons (.check rfl rfl) <|
    .cons (.write rfl ?_) <| .cons (.commit rfl rfl) <|
    .cons (.request (request .waitingForAgent) rfl) <| .cons (.check rfl rfl) <|
    .cons (.write rfl ?_) <| .cons (.commit rfl rfl) <|
    .cons (.write rfl ?_) <| .cons (.commit rfl rfl) <| .nil _⟩ <;>
  · rintro (- | - | - | d) call h ⟨-, p, hp⟩ <;> cases h <;> cases hp

end Sample

/-- The theorem at a run that nothing disturbs. -/
theorem workflow_kept_of_undisturbed_sample : ∃ w, (transitions (uuid 10)).Run Sample.opened
    (Sample.undisturbed 0 .opened .processing) w ∧
    WorkflowKept (uuid 10) .opened (Sample.undisturbed 0 .opened .processing) w.db := by
  obtain ⟨w, run⟩ := Sample.run_undisturbed
  refine ⟨w, run, (transition_workflow_kept_iff Sample.opened_init rfl run).2 ?_⟩
  intro change hchange
  obtain rfl := List.mem_singleton.1 hchange
  rfl

/-- **The check is lost under concurrency**: two other calls move the ticket on after a call has
read it, and its commit moves the ticket back. -/
theorem transition_lost_check : ¬∀ (ticketId : UUID) (w₀ w : TicketWorld) (ls : List TicketEvent)
    (ticket : Ticket), (transitions ticketId).init w₀ →
      w₀.db.tickets.get? ticketId = some ticket → (transitions ticketId).Run w₀ ls w →
        WorkflowKept ticketId ticket.status ls w.db := by
  intro h
  obtain ⟨w, run⟩ := Sample.run_disturbed
  have hforwards := (h (uuid 10) _ w _ _ Sample.opened_init rfl run).forwards
  exact absurd hforwards (by decide)

end SupportFlow
