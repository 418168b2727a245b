import SupportFlow.Documents.Durability

/-!
# Ownership is never ambiguous

The relay refuses to republish a version that somebody else may be working on, and no supported
operation gets such an intent going again. For a version that came in through an upload this refusal
is never reached, as long as its deliveries come from messages the broker really holds: the upload
fixes one task id, the intent carries it, every publication copies it, Celery keeps it across
retries, and a worker can only begin an extraction under the task id of its message.

`Owned` is the joint invariant, over the version, its intents, the ledger of publications, the
broker and the deliveries. Before the upload nothing of it needs to be tracked, because the
version's id is not drawn yet and so occurs nowhere.
-/

namespace SupportFlow

open IngestionRelay (versionOf Examined)

variable {settings : Settings} {w w' : World} {e : Event}

/-- The version is held by nobody or by the task, and an extraction has a start time. -/
def DocumentVersion.HeldBy (version : DocumentVersion) (taskId : String) : Prop :=
  (version.processingTaskId = none ∨ version.processingTaskId = some taskId) ∧
    (version.status = .extracting →
      version.processingTaskId = some taskId ∧ version.processingStartedAt ≠ none)

/-- A version held by the task of its intent is not ambiguous. -/
theorem DocumentVersion.HeldBy.not_ambiguous {version : DocumentVersion}
    {intent : DocumentIngestionIntent} (h : version.HeldBy intent.taskId) :
    ¬IngestionRelay.Ambiguous intent version := by
  obtain ⟨howner, hextracting⟩ := h
  rintro (⟨hstatus, hother | hnone⟩ | ⟨-, hsome, hother⟩)
  · exact hother (hextracting hstatus).1
  · exact (hextracting hstatus).2 hnone
  · exact hother (howner.resolve_left hsome)

/-- **Everything about a version is under one task id.** -/
structure Owned (versionId : UUID) (taskId : String) (w : World) : Prop where
  version : ∃ version, w.db.versions.get? versionId = some version ∧ version.HeldBy taskId
  intents : ∀ id i, w.db.intents.get? id = some i → i.documentVersionId = versionId →
    i.taskId = taskId ∧ i.lastError ≠ some .ownershipAmbiguous
  issued : ∀ p ∈ w.issued, p.versionId = versionId → p.taskId = taskId
  broker : ∀ m ∈ w.broker, m.versionId = versionId → m.taskId = taskId
  deliveries : ∀ d m stage, w.deliveries d = some ⟨m, stage⟩ → m.versionId = versionId →
    m.taskId = taskId

/-- The upload itself puts everything under its task id: nothing else can name the version yet. -/
theorem Step.owned_of_upload (hw : w.Coherent) (h : Step settings w e w')
    {ids : DocumentService.UploadIds} (haction : e.action = .upload ids) :
    Owned ids.versionId ids.taskUuid.str w' := by
  obtain ⟨organizationId, staged, hversion, hintent, hfresh, -, -⟩ := h.uploaded haction
  refine ⟨⟨_, hversion, Or.inl rfl, fun hstatus ↦ nomatch hstatus⟩, fun id i hi hid ↦ ?_,
    fun p hp hid ↦ ?_, fun m hm hid ↦ ?_, fun d m stage hd hid ↦ ?_⟩
  · have hchange := h.intent_change id
    rw [hi] at hchange
    rcases hrow : w.db.intents.get? id with - | i₀
    · rw [hrow] at hchange
      cases hchange with
      | uploaded action intentId fresh drawn =>
        obtain rfl := Action.upload.inj (action.symm.trans haction)
        exact ⟨rfl, fun herror ↦ nomatch herror⟩
      | backfilled action => exact absurd (action.symm.trans haction) (by simp)
    · -- An older intent cannot map to a version whose id is new.
      rw [hrow] at hchange
      obtain ⟨v, hv⟩ := hw.consistent.version_of_intent i₀ (Table.mem_of_get? hrow)
      have hget := (IngestionRelay.versionOf_eq_some_iff.1 hv).1
      rw [← hchange.identity.2.2.1, hid] at hget
      exact absurd (hw.versions_drawn _ v hget) hfresh
  · rcases h.issued hp with hold | ⟨hclaim, -⟩
    · exact absurd (hid ▸ (hw.issued_drawn p hold).2.1) hfresh
    · exact absurd (hclaim.symm.trans haction) (by simp)
  · rcases h.broker hm with hold | ⟨p, hp, rfl⟩ | ⟨d, m₀, stage, hd, hmid, -⟩
    · exact absurd (hid ▸ hw.broker_drawn m hold) hfresh
    · exact absurd (hid ▸ (hw.issued_drawn p (hw.pending_issued p hp)).2.1) hfresh
    · exact absurd (hid ▸ hmid ▸ hw.deliveries_drawn d m₀ stage hd) hfresh
  · rcases h.delivery hd with hold | ⟨⟨stage', hold⟩ | ⟨-, hknown⟩, -⟩
    · exact absurd (hid ▸ hw.deliveries_drawn d m stage hold) hfresh
    · exact absurd (hid ▸ hw.deliveries_drawn d m stage' hold) hfresh
    · exact absurd (hid ▸ hknown) hfresh

/-- The version, under a change: an extraction begins only under a delivered message's task id. -/
theorem VersionChange.heldBy {versionId : UUID} {taskId : String} {version : DocumentVersion}
    {row : Option DocumentVersion} {added : List AuditEvent}
    (h : VersionChange settings w e w' versionId (some version) row added)
    (hheld : version.HeldBy taskId)
    (hdeliveries : ∀ d m stage, w.deliveries d = some ⟨m, stage⟩ → m.versionId = versionId →
      m.taskId = taskId) : ∃ version', row = some version' ∧ version'.HeldBy taskId := by
  cases h with
  | unchanged => exact ⟨version, rfl, hheld⟩
  | @begun _ d m startedAt action delivery ofVersion queued below =>
    have htask := hdeliveries d m .idle delivery ofVersion
    refine ⟨_, rfl, Or.inr ?_, fun _ ↦ ⟨?_, ?_⟩⟩
    · exact congrArg some htask
    · exact congrArg some htask
    · exact Option.some_ne_none _
  | exhausted => exact ⟨_, rfl, Or.inl rfl, fun hstatus ↦ nomatch hstatus⟩
  | succeeded => exact ⟨_, rfl, Or.inl rfl, fun hstatus ↦ nomatch hstatus⟩
  | failed => exact ⟨_, rfl, Or.inl rfl, fun hstatus ↦ nomatch hstatus⟩
  | requeued => exact ⟨_, rfl, Or.inl rfl, fun hstatus ↦ nomatch hstatus⟩

/-- **Every step keeps everything under the task id**, when deliveries come from the broker. The
world must be reachable, for the version to have its intent while it is queued. -/
theorem Step.owned {versionId : UUID} {taskId : String}
    (hreach : (ingestion settings).Reachable w) (h : Step settings w e w')
    (hbroker : FromBroker versionId w e) {ids : DocumentService.UploadIds}
    (hids : ids ∈ w.uploads) (hversionId : ids.versionId = versionId)
    (hI : Owned versionId taskId w) : Owned versionId taskId w' := by
  have hw := reachable_coherent hreach
  obtain ⟨version, hget, hheld⟩ := hI.version
  have hdrawn := hw.versions_drawn versionId version hget
  refine ⟨?_, fun id i' hi' hid ↦ ?_, fun p hp hid ↦ ?_, fun m hm hid ↦ ?_,
    fun d m stage hd hid ↦ ?_⟩
  · obtain ⟨added, hchange, -⟩ := h.version_change hw.claims_backed versionId
    rw [hget] at hchange
    exact hchange.heldBy hheld hI.deliveries
  · have hchange := h.intent_change id
    rw [hi'] at hchange
    rcases hrow : w.db.intents.get? id with - | i
    · rw [hrow] at hchange
      cases hchange with
      | @uploaded ids' _ action intentId fresh drawn =>
        obtain ⟨-, -, -, -, hfresh, -, -⟩ := h.uploaded action
        have hid' : ids'.versionId = versionId := hid
        exact absurd (hid'.symm ▸ hdrawn) hfresh
      | @backfilled v _ action fresh drawn stored queued free =>
        -- The queued version of the upload still has its intent, so no backfill selects it.
        obtain ⟨u, hu, hstate⟩ := reachable_intent hreach ids hids
        have hv : w.db.versions.get? v.id = some v := Table.get?_key stored
        have hid' : v.id = versionId := hid
        rw [hversionId, ← hid', hv] at hu
        obtain rfl := Option.some.inj hu
        obtain ⟨j, hj, hjversion⟩ := hstate.resolve_left
          (DocumentProcessingStatus.not_terminal_of_queued queued)
        have hjmem : j ∈ w.db.intents := Table.mem_of_get? hj
        obtain ⟨x, hx⟩ := hw.consistent.version_of_intent j hjmem
        obtain ⟨hxget, hxorg⟩ := IngestionRelay.versionOf_eq_some_iff.1 hx
        rw [hjversion, hversionId, ← hid', hv] at hxget
        obtain rfl := Option.some.inj hxget
        exact absurd hxorg.symm (free j hjmem (hjversion.trans (hversionId.trans hid'.symm)))
    · rw [hrow] at hchange
      have hid₀ : i.documentVersionId = versionId := hchange.identity.2.2.1 ▸ hid
      obtain ⟨htask, herror⟩ := hI.intents id i hrow hid₀
      refine ⟨hchange.identity.2.2.2.trans htask, ?_⟩
      cases hchange with
      | unchanged untouched => exact herror
      | examined action fresh due stored examined =>
        have hstored := (IngestionRelay.versionOf_eq_some_iff.1 stored).1
        rw [hid₀, hget] at hstored
        obtain rfl := Option.some.inj hstored
        cases examined with
        | ambiguous ambiguous => exact absurd ambiguous (htask ▸ hheld).not_ambiguous
        | exhausted => exact fun herror ↦ nomatch herror
        | settled => exact herror
        | postponed => exact herror
        | published => exact herror
      | @finished _ _ success =>
        cases success with
        | true => exact fun herror ↦ nomatch herror
        | false => exact fun herror ↦ nomatch herror
      | settled => exact fun herror ↦ nomatch herror
      | rearmed => exact fun herror ↦ nomatch herror
  · rcases h.issued hp with hold | ⟨-, -, -, intent, v, hintent, hv, hpub⟩
    · exact hI.issued p hold hid
    · have hvid : v.id = intent.documentVersionId :=
        Table.key_of_get? (IngestionRelay.versionOf_eq_some_iff.1 hv).1
      rw [hpub] at hid ⊢
      exact (hI.intents _ intent hintent (hvid.symm.trans hid)).1
  · rcases h.broker hm with hold | ⟨p, hp, rfl⟩ | ⟨d, m₀, stage, hd, hmid, htask⟩
    · exact hI.broker m hold hid
    · exact hI.issued p (hw.pending_issued p hp) hid
    · exact htask.trans (hI.deliveries d m₀ stage hd (hmid.symm.trans hid))
  · rcases h.delivery hd with hold | ⟨⟨stage', hold⟩ | ⟨hdeliver, -⟩, -⟩
    · exact hI.deliveries d m stage hold hid
    · exact hI.deliveries d m stage' hold hid
    · exact hI.broker m (hbroker d m hdeliver hid) hid

/-- The system in which the deliveries of one version come from the broker. -/
def brokered (settings : Settings) (versionId : UUID) : TransitionSystem World Event :=
  (ingestion settings).restrict fun w e ↦ FromBroker versionId w e

/-- **Everything about an uploaded version is under the upload's task id.** -/
theorem brokered_owned {ids : DocumentService.UploadIds}
    (hw : (brokered settings ids.versionId).Reachable w) (hids : ids ∈ w.uploads) :
    Owned ids.versionId ids.taskUuid.str w := by
  refine hw.invariant (I := fun w ↦ ids ∈ w.uploads → Owned ids.versionId ids.taskUuid.str w)
    ?_ ?_ hids
  · intro w₀ h₀ hmem
    exact absurd (World.Initial.no_uploads h₀ ▸ hmem) List.not_mem_nil
  · intro a e b ha hI hstep hmem
    have hopen := TransitionSystem.reachable_of_restrict ha
    rcases Step.of_mem_uploads hstep.2 hmem with hold | haction
    · exact Step.owned hopen hstep.2 hstep.1 hold rfl (hI hold)
    · exact Step.owned_of_upload (reachable_coherent hopen) hstep.2 haction

/-- **Ownership of an uploaded version is never ambiguous.** When the version's deliveries come from
messages the broker holds, then in every reachable world every message and delivery of the version
carries the upload's task id; the version is held by nobody or by that task, with a start time while
it is extracted; no intent of it was ever marked ambiguous, and no claim marks one now; and no rearm
of its intents is refused over ownership, except while the extraction is within its deadline. -/
theorem uploaded_ownership_unambiguous {ids : DocumentService.UploadIds}
    (hw : (brokered settings ids.versionId).Reachable w) (hids : ids ∈ w.uploads) :
    ((∀ m ∈ w.broker, m.versionId = ids.versionId → m.taskId = ids.taskUuid.str) ∧
      (∀ d delivery, w.deliveries d = some delivery →
        delivery.message.versionId = ids.versionId →
          delivery.message.taskId = ids.taskUuid.str) ∧
      ∀ p ∈ w.pending, p.versionId = ids.versionId → p.taskId = ids.taskUuid.str) ∧
    (∃ version, w.db.versions.get? ids.versionId = some version ∧
      (version.processingTaskId = none ∨ version.processingTaskId = some ids.taskUuid.str) ∧
      (version.status = .extracting → version.processingStartedAt ≠ none)) ∧
    ∀ intent ∈ w.db.intents, intent.documentVersionId = ids.versionId →
      intent.taskId = ids.taskUuid.str ∧ intent.lastError ≠ some .ownershipAmbiguous ∧
      (∀ policy t locked token exit db,
        IngestionRelay.claim policy t locked token w.db = some (exit, db) →
          exit ≠ .ambiguous intent.id) ∧
      ∀ t organizationId actorUserId verified workerHolds extractingSeconds maxWorkerAttempts error,
        rearmIntent t organizationId intent.id actorUserId verified workerHolds extractingSeconds
            maxWorkerAttempts w.db = .error error →
          error ≠ .ambiguousWorkerOwnership ∧
            (error = .extractionActiveOrAmbiguous → ∃ version startedAt,
              w.db.versions.get? ids.versionId = some version ∧ version.status = .extracting ∧
                version.processingStartedAt = some startedAt ∧
                  t < startedAt + seconds extractingSeconds) := by
  have howned := brokered_owned hw hids
  have hcoherent := reachable_coherent (TransitionSystem.reachable_of_restrict hw)
  obtain ⟨version, hget, hheld⟩ := howned.version
  refine ⟨⟨howned.broker, ?_, fun p hp ↦ howned.issued p (hcoherent.pending_issued p hp)⟩,
    ⟨version, hget, hheld.1, fun hstatus ↦ (hheld.2 hstatus).2⟩, fun intent hmem hid ↦ ?_⟩
  · rintro d ⟨m, stage⟩ hd hid
    exact howned.deliveries d m stage hd hid
  · have hrow := Table.get?_key hmem
    obtain ⟨htask, herror⟩ := howned.intents intent.id intent hrow hid
    refine ⟨htask, herror, fun policy t locked token exit db hclaim ↦ ?_, ?_⟩
    · rintro rfl
      rcases IngestionRelay.claim_spec hclaim with ⟨hidle, -⟩ | ⟨i, v, i', hi, -, hv, hexamined, -⟩
      · exact nomatch hidle
      · have hii : i.id = intent.id := Option.some.inj hexamined.intentId?.symm
        rw [hii] at hi
        obtain rfl := Option.some.inj (hrow.symm.trans hi)
        obtain rfl : version = v := by
          have hvget := (IngestionRelay.versionOf_eq_some_iff.1 hv).1
          rw [hid] at hvget
          exact Option.some.inj (hget.symm.trans hvget)
        cases hexamined with
        | ambiguous ambiguous => exact (htask ▸ hheld).not_ambiguous ambiguous
    · intro t organizationId actorUserId verified workerHolds extractingSeconds maxWorkerAttempts
        error hrearm
      have hrefused := fun h ↦ rearmIntent_ownership hrearm h
      -- The version a refusal speaks about is the uploaded one, and the task its own.
      have hsame : ∀ {i v}, w.db.intents.get? intent.id = some i → versionOf w.db i = some v →
          intent = i ∧ version = v := by
        intro i v hi hv
        obtain rfl := Option.some.inj (hrow.symm.trans hi)
        have hvget := (IngestionRelay.versionOf_eq_some_iff.1 hv).1
        rw [hid] at hvget
        exact ⟨rfl, Option.some.inj (hget.symm.trans hvget)⟩
      constructor
      · intro hkind
        obtain ⟨i, v, hi, hv, ⟨hsome, hother, -⟩ | ⟨-, hactive, -⟩⟩ := hrefused (Or.inl hkind)
        · obtain ⟨rfl, rfl⟩ := hsame hi hv
          rw [htask] at hother
          exact hother (hheld.1.resolve_left hsome)
        · exact absurd (hkind.symm.trans hactive) (by decide)
      · intro hkind
        obtain ⟨i, v, hi, hv, ⟨-, -, hambiguous⟩ | ⟨hstatus, -, howner⟩⟩ := hrefused (Or.inr hkind)
        · exact absurd (hkind.symm.trans hambiguous) (by decide)
        · obtain ⟨rfl, rfl⟩ := hsame hi hv
          obtain ⟨hown, hstarted⟩ := hheld.2 hstatus
          obtain ⟨startedAt, hstartedAt⟩ := Option.ne_none_iff_exists'.1 hstarted
          rcases howner with hother | hfresh
          · exact absurd (htask ▸ hown) hother
          · exact ⟨version, startedAt, hget, hstatus, hstartedAt, hfresh startedAt hstartedAt⟩

theorem uploaded_ownership_unambiguous_sample :
    Sample.intent ∈ Sample.uploaded.db.intents ∧
      Sample.intent.taskId = Sample.ids.taskUuid.str ∧
        Sample.intent.lastError ≠ some .ownershipAmbiguous := by
  have hw : (brokered Sample.limits Sample.ids.versionId).Reachable Sample.uploaded :=
    Sample.reachable_uploaded Sample.limits fun _ _ h ↦ (nomatch h)
  have hmem : Sample.intent ∈ Sample.uploaded.db.intents := List.mem_singleton_self _
  obtain ⟨htask, herror, -⟩ := (uploaded_ownership_unambiguous hw
    (List.mem_singleton_self Sample.ids)).2.2 Sample.intent hmem rfl
  exact ⟨hmem, htask, herror⟩

end SupportFlow
