import SupportFlow.Documents.Changes

/-!
# The life of an uploaded version

The state machine of one version row over whole runs. `Lifecycle` is its invariant: the row is
queued, extracting or terminal with exactly the columns that state calls for, the attempts stay
under the cap, and the audit log holds the one terminal event that belongs to the state. It relates
the row to the log because the two are only ever written together.

No delivery lock is assumed, and any number of deliveries with any task ids may run: what keeps two
of them from ending the same version twice is the ownership check in every transaction, which a
terminal row never passes.
-/

namespace SupportFlow

open DocumentIngestionService (IsOwnedExtraction)

variable {settings : Settings} {w w' : World} {e : Event}

/-- **The states of an uploaded version**, with its terminal events. -/
structure Lifecycle (maxAttempts : ℕ) (version : DocumentVersion) (events : List AuditEvent) :
    Prop where
  /-- The attempts never pass the cap. -/
  capped : version.attemptCount ≤ maxAttempts
  /-- A version that left the queue, or came back to it, was attempted, if the cap allows any. -/
  attempted : version.status ≠ .queued ∨ version.errorCode ≠ none →
    min 1 maxAttempts ≤ version.attemptCount
  /-- A version has an owner and a start time exactly while it is being extracted. -/
  owned : if version.status = .extracting then
      version.processingTaskId ≠ none ∧ version.processingStartedAt ≠ none
    else version.processingTaskId = none ∧ version.processingStartedAt = none
  /-- A ready version has its text, and one event that says so. -/
  ready : version.status = .ready → version.errorCode = none ∧ ∃ text,
    version.extractedText = some text ∧ events =
      [AuditEventService.documentReady version.organizationId version.id version.versionNumber
        version.attemptCount text.length]
  /-- A failed version has its error code, and one event that says so. -/
  failed : version.status = .failed → version.extractedText = none ∧ ∃ code,
    version.errorCode = some code ∧ events =
      [AuditEventService.documentFailed version.organizationId version.id version.versionNumber
        code version.attemptCount]
  /-- A version still in progress has no terminal event. -/
  inProgress : ¬version.status.Terminal → events = []

/-- A new version begins its life queued and unattempted. -/
theorem Lifecycle.new (maxAttempts : ℕ) (organizationId : UUID)
    (staged : DocumentService.StagedUpload) (ids : DocumentService.UploadIds) (now : Instant) :
    Lifecycle maxAttempts (DocumentService.newVersion organizationId staged ids now) [] where
  capped := Nat.zero_le _
  attempted h := h.elim (absurd rfl) (absurd rfl)
  owned := ⟨rfl, rfl⟩
  ready h := nomatch h
  failed h := nomatch h
  inProgress _ := rfl

/-- An extracting or queued version is not terminal. -/
theorem DocumentProcessingStatus.not_terminal_of_queued {status : DocumentProcessingStatus}
    (h : status = .queued) : ¬status.Terminal := by
  subst h
  decide

theorem DocumentProcessingStatus.not_terminal_of_extracting {status : DocumentProcessingStatus}
    (h : status = .extracting) : ¬status.Terminal := by
  subst h
  decide

/-- **Every change of a version is a step of its life.** -/
theorem Lifecycle.change {id : UUID} {version : DocumentVersion}
    {row : Option DocumentVersion} {events added : List AuditEvent}
    (hlife : Lifecycle settings.maxAttempts version events)
    (h : VersionChange settings w e w' id (some version) row added) :
    ∃ version', row = some version' ∧
      Lifecycle settings.maxAttempts version' (events ++ added) := by
  have hqueued := fun h ↦ hlife.inProgress (DocumentProcessingStatus.not_terminal_of_queued h)
  have howned : ∀ {taskId}, IsOwnedExtraction version taskId → events = [] ∧
      min 1 settings.maxAttempts ≤ version.attemptCount := fun h ↦
    ⟨hlife.inProgress (DocumentProcessingStatus.not_terminal_of_extracting h.1),
      hlife.attempted (Or.inl (by rw [h.1]; decide))⟩
  cases h with
  | unchanged => exact ⟨version, rfl, by rwa [List.append_nil]⟩
  | begun action delivery versionId queued below =>
    refine ⟨_, rfl, ⟨below, fun _ ↦ (min_le_left _ _).trans (Nat.le_add_left 1 _),
      ⟨by simp [DocumentVersion.begin], by simp [DocumentVersion.begin]⟩, fun h ↦ (nomatch h),
      fun h ↦ (nomatch h), fun _ ↦ ?_⟩⟩
    rw [hqueued queued, List.append_nil]
  | exhausted queued cap =>
    refine ⟨_, rfl, ⟨hlife.capped, fun _ ↦ min_le_of_right_le cap, ⟨rfl, rfl⟩, fun h ↦ (nomatch h),
      fun _ ↦ ⟨rfl, _, rfl, ?_⟩, fun h ↦ absurd (Or.inr rfl) h⟩⟩
    rw [hqueued queued, List.nil_append]
    rfl
  | succeeded owned =>
    refine ⟨_, rfl, ⟨hlife.capped, fun _ ↦ (howned owned).2, ⟨rfl, rfl⟩,
      fun _ ↦ ⟨rfl, _, rfl, ?_⟩, fun h ↦ (nomatch h), fun h ↦ absurd (Or.inl rfl) h⟩⟩
    rw [(howned owned).1, List.nil_append]
    rfl
  | failed owned =>
    refine ⟨_, rfl, ⟨hlife.capped, fun _ ↦ (howned owned).2, ⟨rfl, rfl⟩, fun h ↦ (nomatch h),
      fun _ ↦ ⟨rfl, _, rfl, ?_⟩, fun h ↦ absurd (Or.inr rfl) h⟩⟩
    rw [(howned owned).1, List.nil_append]
    rfl
  | requeued owned =>
    refine ⟨_, rfl, ⟨hlife.capped, fun _ ↦ (howned owned).2, ⟨rfl, rfl⟩, fun h ↦ (nomatch h),
      fun h ↦ (nomatch h), fun _ ↦ ?_⟩⟩
    rw [(howned owned).1, List.append_nil]

/-- **Terminal is absorbing, for one change**: no transaction writes a terminal row. -/
theorem VersionChange.of_terminal {id : UUID} {version : DocumentVersion}
    {row : Option DocumentVersion} {added : List AuditEvent} (hterminal : version.status.Terminal)
    (h : VersionChange settings w e w' id (some version) row added) :
    row = some version ∧ added = [] := by
  have hqueued := fun h ↦ DocumentProcessingStatus.not_terminal_of_queued h hterminal
  have howned : ∀ {taskId}, ¬IsOwnedExtraction version taskId :=
    fun h ↦ DocumentProcessingStatus.not_terminal_of_extracting h.1 hterminal
  cases h with
  | unchanged => exact ⟨rfl, rfl⟩
  | begun action delivery versionId queued below => exact absurd queued hqueued
  | exhausted queued cap => exact absurd queued hqueued
  | succeeded owned => exact absurd owned howned
  | failed owned => exact absurd owned howned
  | requeued owned => exact absurd owned howned

/-- **Terminal is absorbing, over runs**: a terminal row and its events stay as they are. -/
theorem terminal_version_kept {w₀ : World} {ls : List Event}
    (hw : (ingestion settings).Reachable w₀) (hrun : (ingestion settings).Run w₀ ls w) {id : UUID}
    {version : DocumentVersion} (hget : w₀.db.versions.get? id = some version)
    (hterminal : version.status.Terminal) :
    w.db.versions.get? id = some version ∧
      terminalEvents id w.db.audit = terminalEvents id w₀.db.audit := by
  refine TransitionSystem.Run.invariant_from
    (I := fun w ↦ w.db.versions.get? id = some version ∧
      terminalEvents id w.db.audit = terminalEvents id w₀.db.audit)
    hw ⟨hget, rfl⟩ (fun a l b ha _ hrow hstep ↦ ?_) hrun
  obtain ⟨added, hchange, hevents⟩ :=
    Step.version_change (reachable_coherent ha).claims_backed hstep id
  rw [hrow.1] at hchange
  obtain ⟨hsame, rfl⟩ := hchange.of_terminal hterminal
  exact ⟨hsame, by rw [hevents, List.append_nil, hrow.2]⟩

/-- **The lifecycle invariant**: every uploaded version is in a state of its life. -/
theorem reachable_lifecycle (hw : (ingestion settings).Reachable w) :
    ∀ ids ∈ w.uploads, ∃ version, w.db.versions.get? ids.versionId = some version ∧
      Lifecycle settings.maxAttempts version (terminalEvents ids.versionId w.db.audit) := by
  refine hw.invariant (I := fun w ↦ ∀ ids ∈ w.uploads, ∃ version,
    w.db.versions.get? ids.versionId = some version ∧
      Lifecycle settings.maxAttempts version (terminalEvents ids.versionId w.db.audit)) ?_ ?_
  · intro w₀ h₀ ids hids
    have hnone : w₀.uploads = [] := World.Initial.no_uploads h₀
    exact absurd (hnone ▸ hids) List.not_mem_nil
  · intro a l b ha hI hstep ids hids
    have hcoherent := reachable_coherent ha
    have hold : ids ∈ a.uploads → ∃ version, b.db.versions.get? ids.versionId = some version ∧
        Lifecycle settings.maxAttempts version (terminalEvents ids.versionId b.db.audit) := by
      intro hmem
      obtain ⟨version, hget, hlife⟩ := hI ids hmem
      obtain ⟨added, hchange, hevents⟩ :=
        Step.version_change hcoherent.claims_backed hstep ids.versionId
      rw [hget] at hchange
      rw [hevents]
      exact hlife.change hchange
    rcases Step.of_mem_uploads hstep hids with hmem | haction
    · exact hold hmem
    · obtain ⟨organizationId, staged, hversion, -, hfresh, -, hevents⟩ :=
        Step.uploaded hstep haction
      refine ⟨_, hversion, ?_⟩
      rw [hevents, hcoherent.events_drawn _ hfresh]
      exact .new _ organizationId staged ids l.now

/-- **The ingestion state machine over whole runs.** For a version created by an upload, in every
reachable world: a terminal row never changes again; the audit log holds exactly the one terminal
event its state calls for, with the row's own data; the attempts stay within the cap, and at least
one was made unless the version is still queued as uploaded. -/
theorem uploaded_version_lifecycle (hcap : 1 ≤ settings.maxAttempts)
    (hw : (ingestion settings).Reachable w) {ids : DocumentService.UploadIds}
    (hids : ids ∈ w.uploads) :
    ∃ version, w.db.versions.get? ids.versionId = some version ∧
      (version.status.Terminal → ∀ ls w', (ingestion settings).Run w ls w' →
        w'.db.versions.get? ids.versionId = some version ∧
          terminalEvents ids.versionId w'.db.audit = terminalEvents ids.versionId w.db.audit) ∧
      Lifecycle settings.maxAttempts version (terminalEvents ids.versionId w.db.audit) ∧
      (version.status ≠ .queued ∨ version.errorCode ≠ none → 1 ≤ version.attemptCount) := by
  obtain ⟨version, hget, hlife⟩ := reachable_lifecycle hw ids hids
  refine ⟨version, hget, fun hterminal ls w' hrun ↦
    terminal_version_kept hw hrun hget hterminal, hlife, fun h ↦ ?_⟩
  have hattempted := hlife.attempted h
  rwa [min_eq_left hcap] at hattempted

theorem uploaded_version_lifecycle_sample :
    ∃ version, Sample.uploaded.db.versions.get? (uuid 4) = some version ∧
      Lifecycle 3 version (terminalEvents (uuid 4) Sample.uploaded.db.audit) := by
  have hw : (ingestion Sample.limits).Reachable Sample.uploaded :=
    TransitionSystem.reachable_of_restrict (A := fun _ _ ↦ True)
      (Sample.reachable_uploaded Sample.limits trivial)
  obtain ⟨version, hget, -, hlifecycle, -⟩ :=
    uploaded_version_lifecycle (show 1 ≤ Sample.limits.maxAttempts by decide) hw
      (List.mem_singleton_self Sample.ids)
  exact ⟨version, hget, hlifecycle⟩

end SupportFlow
