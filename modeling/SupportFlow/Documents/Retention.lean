import SupportFlow.Documents.Durability
import SupportFlow.Documents.Execution

/-!
# Retention is safe

`cleanup` reads only the intent: settled for seven days, resolved, not leased. What makes the
deletion safe is in the run before it and in the run after it. Before it, an intent was settled by a
transaction that had read its version as terminal, and stored its own time as the time of settlement
(`run_observed`). After it, the version is terminal for good, so no worker writes it, no backfill
selects it, and no upload draws its id again (`run_unclaimed`).

Nothing is assumed of the clock or of the broker: any message with any task id may be delivered at
any time.
-/

namespace SupportFlow

open IngestionRelay (versionOf Examined)

variable {settings : Settings} {w w' : World} {e : Event}

/-! ### Before the deletion -/

/-- The version's processing has ended. -/
def World.Ended (w : World) (versionId : UUID) : Prop :=
  ∃ version, w.db.versions.get? versionId = some version ∧ version.status.Terminal

/-- Some transaction at this database time found the version terminal. -/
def ObservedEnded (rs : List (World × Event)) (versionId : UUID) (t : Instant) : Prop :=
  ∃ l ∈ rs, l.2.now = t ∧ l.1.Ended versionId

theorem ObservedEnded.snoc {rs : List (World × Event)} {versionId : UUID} {t : Instant}
    (h : ObservedEnded rs versionId t) (l : World × Event) :
    ObservedEnded (rs ++ [l]) versionId t := by
  obtain ⟨l', hl', hnow, hended⟩ := h
  exact ⟨l', List.mem_append_left _ hl', hnow, hended⟩

/-- A version found by the transaction of the last step. -/
theorem ObservedEnded.last {rs : List (World × Event)} {intent : DocumentIngestionIntent}
    {version : DocumentVersion} (hstored : versionOf w.db intent = some version)
    (hterminal : version.status.Terminal) :
    ObservedEnded (rs ++ [(w, e)]) intent.documentVersionId e.now :=
  ⟨(w, e), by simp, rfl, version, (IngestionRelay.versionOf_eq_some_iff.1 hstored).1, hterminal⟩

/-- A change of an intent settles it at the time of a transaction that finds its version terminal,
or leaves its settlement alone. -/
theorem IntentChange.settlement {id : UUID} {intent intent' : DocumentIngestionIntent}
    (h : IntentChange settings w e w' id (some intent) (some intent')) :
    intent'.settledAt = intent.settledAt ∨ intent'.settledAt = some e.now ∧
      ∃ version, versionOf w.db intent = some version ∧ version.status.Terminal := by
  cases h with
  | examined action fresh due stored examined =>
    cases examined with
    | settled terminal => exact Or.inr ⟨rfl, _, stored, terminal⟩
    | ambiguous ambiguous => exact Or.inl rfl
    | postponed status owner started fresh => exact Or.inl rfl
    | exhausted recoverable exhausted => exact Or.inl rfl
    | published recoverable within => exact Or.inl rfl
  | settled action unsettled free stored terminal => exact Or.inr ⟨rfl, _, stored, terminal⟩
  | unchanged untouched => exact Or.inl rfl
  | finished action issued intentId leased token unexpired => exact Or.inl rfl
  | rearmed action unresolved exhausted unsettled free grants stored rearmable => exact Or.inl rfl

/-- **Settled means observed**: over a run, the time of settlement is that of a transaction that
found the version terminal. -/
theorem run_observed {w₀ : World} {rs : List (World × Event)} (h₀ : (ingestion settings).init w₀)
    (hrun : (ingestion settings).recorded.Run w₀ rs w) :
    ∀ id intent t, w.db.intents.get? id = some intent → intent.settledAt = some t →
      ObservedEnded rs intent.documentVersionId t := by
  refine TransitionSystem.Run.tracked (I := fun rs w ↦ ∀ id intent t,
    w.db.intents.get? id = some intent → intent.settledAt = some t →
      ObservedEnded rs intent.documentVersionId t) ?_ ?_ hrun
  · intro id intent t hget
    have hmem : intent ∈ w₀.db.intents.rows := Table.mem_of_get? hget
    exact absurd (World.Initial.no_intents h₀ ▸ hmem) List.not_mem_nil
  · intro rs u l u' _ hI hs id intent' t hget' hsettled
    obtain ⟨v, e⟩ := l
    obtain ⟨rfl, hstep⟩ := hs
    have hrow := Step.intent_change hstep id
    rw [hget'] at hrow
    rcases hget : v.db.intents.get? id with - | intent
    · rw [hget] at hrow
      cases hrow with
      | uploaded => cases hsettled
      | backfilled => cases hsettled
    · rw [hget] at hrow
      rw [hrow.identity.2.2.1]
      rcases hrow.settlement with hsame | ⟨hnow, version, hstored, hterminal⟩
      · exact (hI id intent t hget (hsame ▸ hsettled)).snoc (v, e)
      · obtain rfl := Option.some.inj (hnow.symm.trans hsettled)
        exact .last hstored hterminal

/-! ### After the deletion -/

/-- The version has ended, and no intent names it. -/
structure World.Retired (w : World) (version : DocumentVersion) : Prop where
  stored : w.db.versions.get? version.id = some version
  terminal : version.status.Terminal
  unclaimed : ∀ intent ∈ w.db.intents, intent.documentVersionId ≠ version.id

/-- Nothing brings an intent back to a version that has ended. -/
theorem World.Retired.step {version : DocumentVersion} (h : w.Retired version) (hw : w.Coherent)
    (hs : Step settings w e w') : w'.Retired version := by
  obtain ⟨added, hchange, -⟩ := hs.version_change hw.claims_backed version.id
  rw [h.stored] at hchange
  refine ⟨(hchange.of_terminal h.terminal).1, h.terminal, fun intent' hmem' ↦ ?_⟩
  obtain ⟨id, hget'⟩ : ∃ id, w'.db.intents.get? id = some intent' := ⟨_, Table.get?_key hmem'⟩
  have hrow := hs.intent_change id
  rw [hget'] at hrow
  rcases hget : w.db.intents.get? id with - | intent
  · rw [hget] at hrow
    cases hrow with
    | @uploaded ids organizationId action intentId fresh drawn =>
      obtain ⟨-, -, -, -, hfresh, -⟩ := hs.uploaded action
      intro heq
      have hdrawn := hw.versions_drawn version.id version h.stored
      rw [← heq] at hdrawn
      exact hfresh hdrawn
    | @backfilled stale taskId action fresh drawn stored queued free =>
      intro heq
      have hstale := Table.get?_key stored
      have hsame : stale = version := by
        rw [show PrimaryKey.key stale = version.id from heq, h.stored] at hstale
        exact (Option.some.inj hstale).symm
      exact DocumentProcessingStatus.not_terminal_of_queued queued (hsame ▸ h.terminal)
  · rw [hget] at hrow
    rw [hrow.identity.2.2.1]
    exact h.unclaimed intent (Table.mem_of_get? hget)

theorem run_retired {w₀ : World} {ls : List Event} {version : DocumentVersion}
    (hw : (ingestion settings).Reachable w₀) (h : w₀.Retired version)
    (hrun : (ingestion settings).Run w₀ ls w) : w.Retired version :=
  TransitionSystem.Run.invariant_from (I := fun w ↦ w.Retired version) hw h
    (fun _ _ _ ha _ hI hstep ↦ World.Retired.step hI (reachable_coherent ha) hstep) hrun

/-! ### The deletion -/

/-- **A deletion**: only `cleanup` deletes an intent, and only one that is settled for seven days,
resolved and not leased. -/
theorem Step.deleted (h : Step settings w e w') {id : UUID} {intent : DocumentIngestionIntent}
    (hbefore : w.db.intents.get? id = some intent) (hafter : w'.db.intents.get? id = none) :
    e.action = .cleanup ∧ w'.db.versions = w.db.versions ∧ w'.db.audit = w.db.audit ∧
      (∀ i ∈ w'.db.intents, i ∈ w.db.intents ∧ i ≠ intent) ∧ intent.unresolvedAt = none ∧
        intent.lease = none ∧
          ∃ settledAt, intent.settledAt = some settledAt ∧ settledAt ≤ e.now - days 7 := by
  have hrow := h.intent_change id
  rw [hbefore, hafter] at hrow
  cases h with
  | @cleanup t limit n locked db run =>
    obtain ⟨-, hversions, haudit⟩ := IngestionRelay.cleanup_frame run
    refine ⟨rfl, hversions, haudit, fun i hi ↦ ?_, ?_⟩
    · have hi' := Table.get?_key (t := db.intents) hi
      rcases hget : w.db.intents.get? (PrimaryKey.key i) with - | j
      · exact absurd (hi'.symm.trans (IngestionRelay.cleanup_row_none run hget)) (by simp)
      · rcases IngestionRelay.cleanup_row run hget with hsame | ⟨hnone, -⟩
        · obtain rfl := Option.some.inj (hi'.symm.trans hsame)
          refine ⟨Table.mem_of_get? hget, ?_⟩
          rintro rfl
          rw [Table.key_of_get? hbefore] at hi'
          exact absurd (hi'.symm.trans hafter) (by simp)
        · exact absurd (hi'.symm.trans hnone) (by simp)
    · rcases IngestionRelay.cleanup_row run hbefore with hsame | ⟨-, hdeleted⟩
      · exact absurd (hsame.symm.trans hafter) (by simp)
      · exact hdeleted
  | _ =>
    cases hrow with
    | deleted action => exact nomatch action

/-- **Retention is safe.** Whatever step deletes an intent is a cleanup, and the intent was settled,
resolved and not leased. Its version has ended, and a transaction at least seven days before found
it in this very state. From then on, in every run, the version and its terminal events stay as they
are, and no intent names it again. -/
theorem retention_safe {w₀ : World} {ls : List Event} {id : UUID} {intent : DocumentIngestionIntent}
    (h₀ : (ingestion settings).init w₀) (hrun : (ingestion settings).Run w₀ ls w)
    (hstep : (ingestion settings).step w e w') (hbefore : w.db.intents.get? id = some intent)
    (hafter : w'.db.intents.get? id = none) :
    e.action = .cleanup ∧ intent.unresolvedAt = none ∧ intent.lease = none ∧
      ∃ settledAt version, intent.settledAt = some settledAt ∧ settledAt ≤ e.now - days 7 ∧
        w.db.versions.get? intent.documentVersionId = some version ∧ version.status.Terminal ∧
        (∃ before u settling u' after, (ingestion settings).Run w₀ before u ∧
          (ingestion settings).step u settling u' ∧ (ingestion settings).Run u' after w ∧
            ls = before ++ settling :: after ∧ settling.now = settledAt ∧
              u.db.versions.get? intent.documentVersionId = some version) ∧
        ∀ ms w'', (ingestion settings).Run w' ms w'' →
          w''.db.versions.get? intent.documentVersionId = some version ∧
            terminalEvents intent.documentVersionId w''.db.audit =
              terminalEvents intent.documentVersionId w.db.audit ∧
            ∀ i ∈ w''.db.intents, i.documentVersionId ≠ intent.documentVersionId := by
  have hw : (ingestion settings).Reachable w := ⟨w₀, ls, h₀, hrun⟩
  have hcoherent := reachable_coherent hw
  obtain ⟨haction, hversions, haudit, hkept, hresolved, hfree, settledAt, hsettled, hold⟩ :=
    Step.deleted hstep hbefore hafter
  obtain ⟨-, -, version, hstored, hterminal⟩ :=
    reachable_settled hw hbefore (by rw [hsettled]; simp)
  obtain ⟨hget, horg⟩ := IngestionRelay.versionOf_eq_some_iff.1 hstored
  have hid : version.id = intent.documentVersionId := Table.key_of_get? hget
  refine ⟨haction, hresolved, hfree, settledAt, version, hsettled, hold, hget, hterminal, ?_,
    fun ms w'' hlater ↦ ?_⟩
  · obtain ⟨rs, hrecorded, rfl⟩ := hrun.exists_recorded
    obtain ⟨⟨u, settling⟩, hmem, hnow, found, hfound, hended⟩ :=
      run_observed h₀ hrecorded id intent settledAt hbefore hsettled
    obtain ⟨before, u, u', after, hto, ⟨rfl, hsettling⟩, hfrom, rfl⟩ :=
      hrecorded.exists_step_of_mem hmem
    have hu : (ingestion settings).Reachable u := ⟨w₀, _, h₀, hto.of_recorded⟩
    have hrest : (ingestion settings).Run u (settling :: after.map Prod.snd) w :=
      hfrom.of_recorded.cons hsettling
    obtain rfl : version = found := Option.some.inj
      (hget.symm.trans (terminal_version_kept hu hrest hfound hended).1)
    exact ⟨_, u, settling, u', _, hto.of_recorded, hsettling, hfrom.of_recorded, by simp, hnow,
      hfound⟩
  · have hw' : (ingestion settings).Reachable w' := hw.step hstep
    have hretired : w'.Retired version := by
      refine ⟨by rw [hversions, hid, hget], hterminal, fun i hi heq ↦ ?_⟩
      -- Another intent of the version would be a second one under the unique constraint.
      obtain ⟨hmem, hne⟩ := hkept i hi
      obtain ⟨v, hv⟩ := hcoherent.consistent.version_of_intent i hmem
      obtain ⟨hvget, hvorg⟩ := IngestionRelay.versionOf_eq_some_iff.1 hv
      rw [heq, hid, hget] at hvget
      obtain rfl := Option.some.inj hvget
      exact hne (hcoherent.consistent.intent_unique i hmem intent (Table.mem_of_get? hbefore)
        ⟨hvorg.symm.trans horg, heq.trans hid⟩)
    have hevents := (terminal_version_kept hw' hlater
      (hretired.stored) hterminal).2
    rw [hid, haudit] at hevents
    obtain ⟨hstored'', -, hunclaimed⟩ := run_retired hw' hretired hlater
    rw [hid] at hstored'' hunclaimed
    exact ⟨hstored'', hevents, hunclaimed⟩

/-! ### A deleted intent -/

namespace Sample

def readyVersion : DocumentVersion :=
  begunVersion.succeed "hello"

def documentReady : AuditEvent :=
  AuditEventService.documentReady (uuid 1) (uuid 4) 1 1 5

/-- The worker has ended the version. -/
def ready : World :=
  { processing.setDelivery 0 (some ⟨message, .idle⟩) with
    db := (begun.db.setVersion readyVersion).record documentReady }

/-- The relay has settled the intent, a second later. -/
def settled : World :=
  { ready with
    now := 1000000
    db := (IngestionRelay.settleTerminal 1000000 (fun _ ↦ false) ready.db).2 }

/-- The intent is deleted, after seven days. -/
def deleted : World :=
  { settled with
    now := 1000000 + days 7
    db :=
      ((IngestionRelay.cleanup 1 (1000000 + days 7) (fun _ ↦ false) settled.db).map Prod.snd).getD
        settled.db }

theorem step_ready : Step limits processing ⟨0, .markReady 0 "hello"⟩ ready :=
  @Step.markReady limits processing 0 0 message
    (DocumentIngestionService.record document begunVersion) "hello" ready.db
    (World.setDelivery_self ..) rfl

theorem step_settled : Step limits ready ⟨1000000, .settleTerminal⟩ settled :=
  .settleTerminal fun _ ↦ false

theorem step_deleted : Step limits settled ⟨1000000 + days 7, .cleanup⟩ deleted :=
  @Step.cleanup limits settled (1000000 + days 7) 1 1 (fun _ ↦ false) deleted.db rfl

theorem run_settled :
    ∃ ls, (ingestion limits).Run installed ls settled := by
  have hfirst : (ingestion limits).Run installed (firstPass.map Prod.snd) processing :=
    TransitionSystem.Run.of_restrict (A := WorkerLocked)
      (TransitionSystem.Run.of_restrict (M := workerLocked limits) (A := FromBroker ids.versionId)
        run_firstPass.of_recorded)
  exact ⟨_, (hfirst.snoc step_ready).snoc step_settled⟩

end Sample

theorem retention_safe_sample :
    Sample.deleted.db.intents.get? (uuid 5) = none ∧
      ∀ ms w, (ingestion Sample.limits).Run Sample.deleted ms w →
        w.db.versions.get? (uuid 4) = some Sample.readyVersion := by
  obtain ⟨ls, hrun⟩ := Sample.run_settled
  refine ⟨rfl, fun ms w hlater ↦ ?_⟩
  have hbefore : Sample.settled.db.intents.get? (uuid 5) = some
      ((Sample.intent.charge Sample.limits.policy 0 (uuid 7)).settle 1000000) := rfl
  obtain ⟨-, -, -, settledAt, version, -, -, hget, -, -, hsafe⟩ :=
    retention_safe Sample.initial_installed hrun Sample.step_deleted hbefore rfl
  obtain rfl : Sample.readyVersion = version := Option.some.inj hget
  exact (hsafe ms w hlater).1

end SupportFlow
