import SupportFlow.Documents.Lifecycle

/-!
# How often a version is processed

A pass is a claim that hands out a record: the worker goes on to storage, scanner and extractor. A
pass on a queued version is charged as an attempt; a pass under the task id that already extracts
the version (the resume edge) is not.

So the attempt cap bounds the charged passes only. A worker that dies in the middle of a pass leaves
the version extracting, its message is delivered again under the same task id, and the next pass is
free; nothing bounds how often this happens (`SupportFlow.passes_unbounded`). What does hold is that
every free pass is paid for by a pass that was cut off (`SupportFlow.passes_bounded`).

The passes are counted over recorded runs: whether a claim is a pass depends on the database it
found.
-/

namespace SupportFlow

open DocumentIngestionService (IsOwnedExtraction)

variable {settings : Settings} {w w' : World} {e : Event} {versionId : UUID}

/-! ### Passes -/

/-- The record a step's claim hands out for a version. -/
def passRecord (settings : Settings) (versionId : UUID) (w : World) (e : Event) :
    Option ClaimedDocumentVersion :=
  match e.action with
  | .workerClaim d startedAt =>
    match w.deliveries d with
    | some ⟨m, .idle⟩ =>
      if m.versionId = versionId then
        match DocumentIngestionService.claim settings.maxAttempts startedAt m.versionId m.taskId
          w.db with
        | .ok (.claimed claimed, _) => some claimed
        | _ => none
      else none
    | _ => none
  | _ => none

/-- The version waits in the queue. -/
def World.Queued (w : World) (versionId : UUID) : Prop :=
  ∃ version ∈ w.db.versions.get? versionId, version.status = .queued

instance : Decidable (w.Queued versionId) :=
  inferInstanceAs (Decidable (∃ version ∈ w.db.versions.get? versionId, version.status = .queued))

/-- The step takes a worker past its claim. -/
def isPass (settings : Settings) (versionId : UUID) (l : World × Event) : Bool :=
  (passRecord settings versionId l.1 l.2).isSome

/-- A pass that takes the version from the queue, and is charged. -/
def isChargedPass (settings : Settings) (versionId : UUID) (l : World × Event) : Bool :=
  isPass settings versionId l && decide (l.1.Queued versionId)

/-- A pass that goes on with a running extraction. -/
def isResumedPass (settings : Settings) (versionId : UUID) (l : World × Event) : Bool :=
  isPass settings versionId l && !decide (l.1.Queued versionId)

/-- A delivery is between its claim and its terminal write. -/
def World.MidPass (w : World) (versionId : UUID) (d : ℕ) (m : Message) : Prop :=
  (∃ claimed, w.deliveries d = some ⟨m, .extracting claimed⟩) ∧ m.versionId = versionId

/-- The step cuts a pass off: its worker dies, or its call raises. -/
def isCutOff (versionId : UUID) (l : World × Event) : Bool :=
  match l.2.action with
  | .die d | .abandon d =>
    match l.1.deliveries d with
    | some ⟨m, .extracting _⟩ => decide (m.versionId = versionId)
    | _ => false
  | _ => false

/-- The worker's lock: no claim of a version while another delivery of it is between its claim and
its terminal write. -/
def WorkerLocked (w : World) (e : Event) : Prop :=
  ∀ d startedAt, e.action = .workerClaim d startedAt → ∀ m stage,
    w.deliveries d = some ⟨m, stage⟩ → ∀ d' m', ¬w.MidPass m.versionId d' m'

/-- **What a step does to the passes of a version**: it starts one, charged or resumed, or it starts
none, and then an extraction whose pass is over was cut off. -/
inductive PassStep (settings : Settings) (versionId : UUID) (w : World) (e : Event) (w' : World) :
    Prop
  | charged {d : ℕ} {m : Message} {startedAt : Instant} {version : DocumentVersion}
      (action : e.action = .workerClaim d startedAt)
      (delivery : w.deliveries d = some ⟨m, .idle⟩) (ofVersion : m.versionId = versionId)
      (pass : isChargedPass settings versionId (w, e) = true)
      (free : isResumedPass settings versionId (w, e) = false)
      (stored : w.db.versions.get? versionId = some version)
      (begun : w'.db.versions.get? versionId = some (version.begin m.taskId startedAt))
      (midPass : ∀ d' m', w'.MidPass versionId d' m' → d' = d ∧ m' = m ∨ w.MidPass versionId d' m')
      (started : w'.MidPass versionId d m)
  | resumed {d : ℕ} {m : Message} {startedAt : Instant} {version : DocumentVersion}
      (action : e.action = .workerClaim d startedAt)
      (delivery : w.deliveries d = some ⟨m, .idle⟩) (ofVersion : m.versionId = versionId)
      (pass : isResumedPass settings versionId (w, e) = true)
      (free : isChargedPass settings versionId (w, e) = false)
      (stored : w.db.versions.get? versionId = some version)
      (owned : IsOwnedExtraction version m.taskId)
      (kept : w'.db.versions.get? versionId = some version)
      (midPass : ∀ d' m', w'.MidPass versionId d' m' → d' = d ∧ m' = m ∨ w.MidPass versionId d' m')
      (started : w'.MidPass versionId d m)
  | other (pass : isPass settings versionId (w, e) = false)
      (row : ∀ version, w'.db.versions.get? versionId = some version →
        version.status = .extracting → w.db.versions.get? versionId = some version)
      (midPass : ∀ d m, w'.MidPass versionId d m → w.MidPass versionId d m)
      (ended : ∀ d m, w.MidPass versionId d m → w'.MidPass versionId d m ∨
        isCutOff versionId (w, e) = true ∨
          ∀ version, w'.db.versions.get? versionId = some version →
            ¬IsOwnedExtraction version m.taskId)

/-! ### What a step does to the passes -/

/-- Only a worker's claim is a pass. -/
theorem isPass_eq_false (h : ∀ d startedAt, e.action ≠ .workerClaim d startedAt) :
    isPass settings versionId (w, e) = false := by
  unfold isPass passRecord
  split
  · next d startedAt haction => exact absurd haction (h d startedAt)
  · rfl

/-- A delivery in another stage than extraction is in no pass. -/
theorem World.MidPass.of_update {d₀ d : ℕ} {m : Message} {delivery : Option Delivery}
    (hupdate : w'.deliveries = Function.update w.deliveries d₀ delivery)
    (hstage : ∀ m c, delivery ≠ some ⟨m, .extracting c⟩) (h : w'.MidPass versionId d m) :
    w.MidPass versionId d m := by
  obtain ⟨⟨c, hd⟩, hid⟩ := h
  rw [hupdate] at hd
  by_cases heq : d = d₀
  · subst heq
    rw [Function.update_self] at hd
    exact absurd hd (hstage m c)
  · rw [Function.update_of_ne heq] at hd
    exact ⟨⟨c, hd⟩, hid⟩

theorem World.MidPass.update {d₀ d : ℕ} {m : Message} {delivery : Option Delivery}
    (hupdate : w'.deliveries = Function.update w.deliveries d₀ delivery) (hne : d ≠ d₀)
    (h : w.MidPass versionId d m) : w'.MidPass versionId d m := by
  obtain ⟨⟨c, hd⟩, hid⟩ := h
  refine ⟨⟨c, ?_⟩, hid⟩
  rw [hupdate, Function.update_of_ne hne]
  exact hd

/-- A step that moves no delivery, and is no claim of a worker. -/
theorem PassStep.quiet (hw : w.Coherent) (h : Step settings w e w')
    (haction : ∀ d startedAt, e.action ≠ .workerClaim d startedAt)
    (hdeliveries : w'.deliveries = w.deliveries) : PassStep settings versionId w e w' := by
  obtain ⟨added, hchange, -⟩ := h.version_change hw.claims_backed versionId
  refine .other (isPass_eq_false haction) (fun version hrow hstatus ↦ ?_) (fun d m hd ↦ ?_)
    fun d m hd ↦ ?_
  · rcases hchange.extracting hrow hstatus with hold | ⟨d, _, startedAt, _, hclaim, -⟩
    · exact hold
    · exact absurd hclaim (haction d startedAt)
  · unfold World.MidPass at hd
    rwa [hdeliveries] at hd
  · refine Or.inl ?_
    unfold World.MidPass
    rwa [hdeliveries]

/-- A step that ends the stage of one delivery, and is no claim of a worker. -/
theorem PassStep.moved (hw : w.Coherent) (h : Step settings w e w') {d₀ : ℕ}
    {delivery : Option Delivery} (haction : ∀ d startedAt, e.action ≠ .workerClaim d startedAt)
    (hupdate : w'.deliveries = Function.update w.deliveries d₀ delivery)
    (hstage : ∀ m c, delivery ≠ some ⟨m, .extracting c⟩)
    (hended : ∀ m, w.MidPass versionId d₀ m → isCutOff versionId (w, e) = true ∨
      ∀ version, w'.db.versions.get? versionId = some version →
        ¬IsOwnedExtraction version m.taskId) : PassStep settings versionId w e w' := by
  obtain ⟨added, hchange, -⟩ := h.version_change hw.claims_backed versionId
  refine .other (isPass_eq_false haction) (fun version hrow hstatus ↦ ?_)
    (fun d m hd ↦ hd.of_update hupdate hstage) fun d m hd ↦ ?_
  · rcases hchange.extracting hrow hstatus with hold | ⟨d, _, startedAt, _, hclaim, -⟩
    · exact hold
    · exact absurd hclaim (haction d startedAt)
  · by_cases heq : d = d₀
    · subst heq
      exact Or.inr (hended m hd)
    · exact Or.inl (hd.update hupdate heq)

/-- What a terminal write leaves under an id: the written row, or an old one that the task does not
extract. -/
theorem not_owned_of_write {db db' : Database} {taskId : String} {old written version :
    DocumentVersion} (hget : db.versions.get? versionId = some old)
    (hwritten : written.status ≠ .extracting) (hid : written.id = old.id)
    (hrow : db'.versions.get? versionId = some version)
    (h : IsOwnedExtraction old taskId ∧ db'.versions = (db.setVersion written).versions ∨
      ¬IsOwnedExtraction old taskId ∧ db' = db) : ¬IsOwnedExtraction version taskId := by
  rcases h with ⟨-, hset⟩ | ⟨hnot, rfl⟩
  · have hkey : old.id = versionId := Table.key_of_get? hget
    rw [hset, get?_setVersion (hkey ▸ hget) hid, if_pos hkey.symm] at hrow
    obtain rfl := Option.some.inj hrow
    exact fun howned ↦ hwritten howned.1
  · obtain rfl := Option.some.inj (hget.symm.trans hrow)
    exact hnot

/-- A terminal write leaves no extraction under the task that made it. -/
theorem markReady_ends {claimed : ClaimedDocumentVersion} {taskId text : String}
    {db db' : Database} {version : DocumentVersion} (hc : db.Consistent)
    (h : DocumentIngestionService.markReady claimed taskId text db = .ok db')
    (hrow : db'.versions.get? claimed.versionId = some version) :
    ¬IsOwnedExtraction version taskId := by
  rcases hget : db.versions.get? claimed.versionId with - | old
  · rcases DocumentIngestionService.markReady_spec h with rfl | ⟨v, hv, -⟩
    · exact absurd (hget.symm.trans hrow) (by simp)
    · exact absurd (hget.symm.trans hv) (by simp)
  · obtain ⟨document, hload⟩ := hc.loadLocked hget
    have hleft : (old.succeed text).status ≠ .extracting := by simp [DocumentVersion.succeed]
    refine not_owned_of_write hget hleft rfl hrow ?_
    unfold DocumentIngestionService.markReady at h
    simp only [hload] at h
    split at h
    · next howned =>
      obtain ⟨event, -, rfl⟩ := Except.map_eq_ok_iff.1 h
      exact Or.inl ⟨howned, rfl⟩
    · next hnot => exact Or.inr ⟨hnot, (Except.ok.inj h).symm⟩

theorem markFailed_ends {claimed : ClaimedDocumentVersion} {taskId : String}
    {code : DocumentErrorCode} {db db' : Database} {version : DocumentVersion} (hc : db.Consistent)
    (h : DocumentIngestionService.markFailed claimed taskId code db = .ok db')
    (hrow : db'.versions.get? claimed.versionId = some version) :
    ¬IsOwnedExtraction version taskId := by
  rcases hget : db.versions.get? claimed.versionId with - | old
  · rcases DocumentIngestionService.markFailed_spec h with rfl | ⟨v, hv, -⟩
    · exact absurd (hget.symm.trans hrow) (by simp)
    · exact absurd (hget.symm.trans hv) (by simp)
  · obtain ⟨document, hload⟩ := hc.loadLocked hget
    have hleft : (old.fail code).status ≠ .extracting := by simp [DocumentVersion.fail]
    refine not_owned_of_write hget hleft rfl hrow ?_
    unfold DocumentIngestionService.markFailed at h
    simp only [hload] at h
    split at h
    · next howned =>
      obtain ⟨event, -, rfl⟩ := Except.map_eq_ok_iff.1 h
      exact Or.inl ⟨howned, rfl⟩
    · next hnot => exact Or.inr ⟨hnot, (Except.ok.inj h).symm⟩

/-- A delivery in a pass was in it before, or is the one that moved. -/
theorem World.MidPass.of_started {d₀ d : ℕ} {m₀ m : Message} {stage : DeliveryStage}
    (hupdate : w'.deliveries = Function.update w.deliveries d₀ (some ⟨m₀, stage⟩))
    (h : w'.MidPass versionId d m) : d = d₀ ∧ m = m₀ ∨ w.MidPass versionId d m := by
  obtain ⟨⟨c, hd⟩, hid⟩ := h
  rw [hupdate] at hd
  by_cases heq : d = d₀
  · subst heq
    rw [Function.update_self] at hd
    exact Or.inl ⟨rfl, (congrArg Delivery.message (Option.some.inj hd)).symm⟩
  · rw [Function.update_of_ne heq] at hd
    exact Or.inr ⟨⟨c, hd⟩, hid⟩

/-- An idle delivery is in no pass. -/
theorem not_midPass_of_idle {d : ℕ} {m m' : Message} (h : w.deliveries d = some ⟨m, .idle⟩) :
    ¬w.MidPass versionId d m' := by
  rintro ⟨⟨c, hd⟩, -⟩
  rw [h] at hd
  cases hd

theorem not_queued_of_extracting {version : DocumentVersion}
    (hget : w.db.versions.get? versionId = some version) (h : version.status = .extracting) :
    ¬w.Queued versionId := by
  rintro ⟨v, hv, hqueued⟩
  obtain rfl := Option.some.inj (hget.symm.trans hv)
  rw [h] at hqueued
  cases hqueued

/-- A claim that hands out no record for the version. -/
theorem PassStep.noop (hw : w.Coherent) (h : Step settings w e w') {d : ℕ} {m : Message}
    {stage : DeliveryStage} {startedAt : Instant} (haction : e.action = .workerClaim d startedAt)
    (hidle : w.deliveries d = some ⟨m, .idle⟩)
    (hupdate : w'.deliveries = Function.update w.deliveries d (some ⟨m, stage⟩))
    (hstage : m.versionId = versionId → ∀ c, stage ≠ .extracting c)
    (hrow : m.versionId = versionId → ∀ version, w'.db.versions.get? versionId = some version →
      version.status = .extracting → w.db.versions.get? versionId = some version)
    (hpass : isPass settings versionId (w, e) = false) : PassStep settings versionId w e w' := by
  obtain ⟨added, hchange, -⟩ := h.version_change hw.claims_backed versionId
  refine .other hpass (fun version hget hstatus ↦ ?_) (fun d' m' hd ↦ ?_) fun d' m' hd ↦ ?_
  · rcases hchange.extracting hget hstatus with hold | ⟨d', m', _, _, haction', hidle', hid, -⟩
    · exact hold
    · obtain ⟨rfl, -⟩ := Action.workerClaim.inj (haction.symm.trans haction')
      obtain rfl : m = m' :=
        congrArg Delivery.message (Option.some.inj (hidle.symm.trans hidle'))
      exact hrow hid version hget hstatus
  · rcases hd.of_started hupdate with ⟨rfl, rfl⟩ | hold
    · obtain ⟨⟨c, hd⟩, hid⟩ := hd
      rw [hupdate, Function.update_self] at hd
      exact absurd (congrArg Delivery.stage (Option.some.inj hd)) (hstage hid c)
    · exact hold
  · refine Or.inl (hd.update hupdate ?_)
    rintro rfl
    exact not_midPass_of_idle hidle hd

/-- The claim step, for the passes of one version. -/
theorem PassStep.claimed (hw : w.Coherent) {t startedAt : Instant} {d : ℕ} {m : Message}
    {result : ClaimResult} {db : Database} (stage : w.deliveries d = some ⟨m, .idle⟩)
    (run : DocumentIngestionService.claim settings.maxAttempts startedAt m.versionId m.taskId w.db =
      .ok (result, db)) :
    PassStep settings versionId w ⟨t, .workerClaim d startedAt⟩
      ((w.commit t db).setDelivery d (some ⟨m, result.stage⟩)) := by
  have hstep : Step settings w ⟨t, .workerClaim d startedAt⟩
      ((w.commit t db).setDelivery d (some ⟨m, result.stage⟩)) := .workerClaim stage run
  have hrecord : passRecord settings versionId w ⟨t, .workerClaim d startedAt⟩ =
      if m.versionId = versionId then result.stage.claimed? else none := by
    simp only [passRecord, stage, run]
    cases result <;> rfl
  by_cases hid : m.versionId = versionId
  · subst hid
    rw [if_pos rfl] at hrecord
    rcases DocumentIngestionService.claim_spec run with ⟨⟨outcome, rfl⟩, rfl⟩ |
      ⟨version, claimed, hget, howned, -, rfl, rfl⟩ |
      ⟨version, claimed, hget, hqueued, -, -, rfl, rfl⟩ | ⟨version, hget, hqueued, -, rfl, rfl⟩
    · refine .noop hw hstep rfl stage rfl (fun _ c h ↦ by cases h) (fun _ v hv _ ↦ hv) ?_
      rw [isPass, hrecord]
      rfl
    · have hnot := not_queued_of_extracting hget howned.1
      refine .resumed rfl stage rfl ?_ ?_ hget howned hget (fun d' m' hd ↦ hd.of_started rfl)
        ⟨⟨claimed, Function.update_self ..⟩, rfl⟩
      · rw [isResumedPass, isPass, hrecord, decide_eq_false hnot]
        rfl
      · rw [isChargedPass, decide_eq_false hnot, Bool.and_false]
    · have hyes : w.Queued m.versionId := ⟨version, hget, hqueued⟩
      have hkey : version.id = m.versionId := Table.key_of_get? hget
      refine .charged rfl stage rfl ?_ ?_ hget ?_ (fun d' m' hd ↦ hd.of_started rfl)
        ⟨⟨claimed, Function.update_self ..⟩, rfl⟩
      · rw [isChargedPass, isPass, hrecord, decide_eq_true hyes]
        rfl
      · rw [isResumedPass, decide_eq_true hyes, Bool.not_true, Bool.and_false]
      · show (w.db.setVersion (version.begin m.taskId startedAt)).versions.get? m.versionId = _
        rw [get?_setVersion (hkey ▸ hget) (version.begin_id _ _), if_pos hkey.symm]
    · refine .noop hw hstep rfl stage rfl (fun _ c h ↦ by cases h) (fun _ v hv hstatus ↦ ?_) ?_
      · have hkey : version.id = m.versionId := Table.key_of_get? hget
        change (w.db.setVersion (version.fail .retryExhausted)).versions.get? m.versionId = _ at hv
        rw [get?_setVersion (hkey ▸ hget) (version.fail_id _), if_pos hkey.symm] at hv
        obtain rfl := Option.some.inj hv
        cases hstatus
      · rw [isPass, hrecord]
        rfl
  · refine .noop hw hstep rfl stage rfl (fun h ↦ absurd h hid) (fun h ↦ absurd h hid) ?_
    rw [isPass, hrecord, if_neg hid]
    rfl

/-- **A step, for the passes of one version.** -/
theorem Step.pass (hw : w.Coherent) (h : Step settings w e w') (versionId : UUID) :
    PassStep settings versionId w e w' := by
  have hstep := h
  cases h with
  | workerClaim stage run => exact .claimed hw stage run
  | @markReady t d m claimed text db stage run =>
    refine .moved hw hstep (by simp) rfl (by simp) fun m' hd ↦ Or.inr fun version hrow ↦ ?_
    obtain ⟨⟨c, hd⟩, rfl⟩ := hd
    obtain ⟨rfl, -⟩ := Delivery.mk.inj (Option.some.inj (stage.symm.trans hd))
    obtain ⟨hid, -⟩ := hw.claims_backed.claimOf stage (c := claimed) rfl
    exact markReady_ends hw.consistent run (hid ▸ hrow)
  | @markFailed t d m claimed code db stage run =>
    refine .moved hw hstep (by simp) rfl (by simp) fun m' hd ↦ Or.inr fun version hrow ↦ ?_
    obtain ⟨⟨c, hd⟩, rfl⟩ := hd
    obtain ⟨rfl, -⟩ := Delivery.mk.inj (Option.some.inj (stage.symm.trans hd))
    obtain ⟨hid, -⟩ := hw.claims_backed.claimOf stage (c := claimed) rfl
    exact markFailed_ends hw.consistent run (hid ▸ hrow)
  | @abandon t d m stage₀ stage =>
    refine .moved hw hstep (by simp) rfl (by simp) fun m' hd ↦ Or.inl ?_
    obtain ⟨⟨c, hd⟩, rfl⟩ := hd
    simp only [isCutOff, hd, decide_true]
  | @die t d =>
    refine .moved hw hstep (by simp) rfl (by simp) fun m' hd ↦ Or.inl ?_
    obtain ⟨⟨c, hd⟩, rfl⟩ := hd
    simp only [isCutOff, hd, decide_true]
  | @deliver t d m free known =>
    refine .moved hw hstep (by simp) rfl (by simp) fun m' hd ↦ ?_
    obtain ⟨⟨c, hd⟩, -⟩ := hd
    exact absurd (free.symm.trans hd) (by simp)
  | @readOwned t d m stage =>
    refine .moved hw hstep (by simp) rfl ?_ fun m' hd ↦ absurd hd (not_midPass_of_idle stage)
    rcases DocumentIngestionService.ownedRecord m.versionId m.taskId w.db with - | c
    · simp [DeliveryStage.ofOwned]
    · simp [DeliveryStage.ofOwned]
  | @markExhausted t d m claimed db stage run =>
    refine .moved hw hstep (by simp) rfl (by simp) fun m' hd ↦ ?_
    obtain ⟨⟨c, hd⟩, -⟩ := hd
    exact absurd (stage.symm.trans hd) (by simp)
  | @retry t d m stage =>
    exact .moved hw hstep (by simp) rfl (by simp) fun m' hd ↦ absurd hd (not_midPass_of_idle stage)
  | _ => exact .quiet hw hstep (by simp) rfl

/-! ### Counting passes -/

/-- Every pass is charged or resumed, and none is both. -/
theorem countP_isPass (settings : Settings) (versionId : UUID) (rs : List (World × Event)) :
    rs.countP (isPass settings versionId) = rs.countP (isChargedPass settings versionId) +
      rs.countP (isResumedPass settings versionId) := by
  induction rs with
  | nil => rfl
  | cons l rs ih =>
    have hkind : (if isPass settings versionId l then 1 else 0) =
        (if isChargedPass settings versionId l then 1 else 0) +
          if isResumedPass settings versionId l then 1 else 0 := by
      rw [isChargedPass, isResumedPass]
      cases isPass settings versionId l <;> cases decide (l.1.Queued versionId) <;> rfl
    simp only [List.countP_cons, ih]
    omega

/-- No change takes attempts back. -/
theorem VersionChange.attempts {version version' : DocumentVersion} {added : List AuditEvent}
    (h : VersionChange settings w e w' versionId (some version) (some version') added) :
    version.attemptCount ≤ version'.attemptCount := by
  cases h with
  | begun => exact Nat.le_succ _
  | _ => exact le_refl _

/-- **The passes of an uploaded version so far**, beside the world they led to. -/
structure Passed (settings : Settings) (ids : DocumentService.UploadIds)
    (rs : List (World × Event)) (w : World) : Prop where
  unborn : ids.versionId ∉ w.generated →
    rs.countP (isChargedPass settings ids.versionId) = 0 ∧
      rs.countP (isResumedPass settings ids.versionId) = 0
  /-- By the lock, one delivery at most is in a pass. -/
  sole : ∀ d m d' m', w.MidPass ids.versionId d m → w.MidPass ids.versionId d' m' →
    d = d' ∧ m = m'
  uploaded : ids ∈ w.uploads → ∃ version, w.db.versions.get? ids.versionId = some version ∧
    rs.countP (isChargedPass settings ids.versionId) ≤ version.attemptCount ∧
    (∀ d m, w.MidPass ids.versionId d m → version.status = .extracting →
      IsOwnedExtraction version m.taskId) ∧
    rs.countP (isResumedPass settings ids.versionId) ≤ rs.countP (isCutOff ids.versionId) ∧
    -- An extraction that nobody is at work on was cut off, and not resumed yet.
    (version.status = .extracting → (∀ d m, ¬w.MidPass ids.versionId d m) →
      rs.countP (isResumedPass settings ids.versionId) < rs.countP (isCutOff ids.versionId))

/-- A step that is no pass adds to neither count of passes. -/
theorem countP_not_pass (rs : List (World × Event))
    (hpass : isPass settings versionId (w, e) = false) :
    (rs ++ [(w, e)]).countP (isChargedPass settings versionId) =
        rs.countP (isChargedPass settings versionId) ∧
      (rs ++ [(w, e)]).countP (isResumedPass settings versionId) =
        rs.countP (isResumedPass settings versionId) := by
  rw [TransitionSystem.countP_snoc, TransitionSystem.countP_snoc, isChargedPass, isResumedPass,
    hpass]
  exact ⟨rfl, rfl⟩

variable {ids : DocumentService.UploadIds} {rs : List (World × Event)}

theorem countP_cutOff_mono (rs : List (World × Event)) (l : World × Event) (versionId : UUID) :
    rs.countP (isCutOff versionId) ≤ (rs ++ [l]).countP (isCutOff versionId) := by
  rw [TransitionSystem.countP_snoc]
  exact Nat.le_add_right _ _

theorem countP_charged (rs : List (World × Event))
    (hpass : isChargedPass settings versionId (w, e) = true)
    (hfree : isResumedPass settings versionId (w, e) = false) :
    (rs ++ [(w, e)]).countP (isChargedPass settings versionId) =
        rs.countP (isChargedPass settings versionId) + 1 ∧
      (rs ++ [(w, e)]).countP (isResumedPass settings versionId) =
        rs.countP (isResumedPass settings versionId) := by
  rw [TransitionSystem.countP_snoc, TransitionSystem.countP_snoc, if_pos hpass, hfree]
  exact ⟨rfl, rfl⟩

theorem countP_resumed (rs : List (World × Event))
    (hpass : isResumedPass settings versionId (w, e) = true)
    (hfree : isChargedPass settings versionId (w, e) = false) :
    (rs ++ [(w, e)]).countP (isChargedPass settings versionId) =
        rs.countP (isChargedPass settings versionId) ∧
      (rs ++ [(w, e)]).countP (isResumedPass settings versionId) =
        rs.countP (isResumedPass settings versionId) + 1 := by
  rw [TransitionSystem.countP_snoc, TransitionSystem.countP_snoc, if_pos hpass, hfree]
  exact ⟨rfl, rfl⟩

/-- A delivery that is alone in its pass is the only one. -/
theorem World.MidPass.eq_of_alone {d : ℕ} {m : Message}
    (halone : ∀ d' m', w.MidPass versionId d' m' → d' = d ∧ m' = m) (d₁ : ℕ) (m₁ : Message)
    (d₂ : ℕ) (m₂ : Message) (h₁ : w.MidPass versionId d₁ m₁) (h₂ : w.MidPass versionId d₂ m₂) :
    d₁ = d₂ ∧ m₁ = m₂ := by
  obtain ⟨rfl, rfl⟩ := halone d₁ m₁ h₁
  obtain ⟨rfl, rfl⟩ := halone d₂ m₂ h₂
  exact ⟨rfl, rfl⟩

/-- A worker's claim uploads nothing. -/
theorem mem_uploads_of_claim {d : ℕ} {startedAt : Instant} (hs : Step settings w e w')
    (haction : e.action = .workerClaim d startedAt) (hids : ids ∈ w'.uploads) : ids ∈ w.uploads :=
  (hs.of_mem_uploads hids).resolve_right fun hupload ↦ by
    rw [haction] at hupload
    cases hupload

theorem Passed.step (h : Passed settings ids rs w) (hw : w.Coherent)
    (hs : Step settings w e w') (hlock : WorkerLocked w e) :
    Passed settings ids (rs ++ [(w, e)]) w' := by
  have hcut := countP_cutOff_mono rs (w, e) ids.versionId
  have hstored : ∀ version, w.db.versions.get? ids.versionId = some version →
      ids.versionId ∈ w.generated := fun version hget ↦ hw.versions_drawn _ version hget
  cases hs.pass hw ids.versionId with
  | @charged d m startedAt version action delivery ofVersion pass free stored begun midPass
      started =>
    have hnone : ∀ d' m', ¬w.MidPass ids.versionId d' m' :=
      ofVersion ▸ hlock d startedAt action m _ delivery
    have halone : ∀ d' m', w'.MidPass ids.versionId d' m' → d' = d ∧ m' = m :=
      fun d' m' hd ↦ (midPass d' m' hd).resolve_right (hnone d' m')
    obtain ⟨hcharged, hresumed⟩ := countP_charged rs pass free
    refine ⟨fun hunborn ↦ ?_, World.MidPass.eq_of_alone halone, fun hids ↦ ?_⟩
    · exact absurd (hs.generated_mono (hstored version stored)) hunborn
    · obtain ⟨old, hget, hattempts, -, hfree, -⟩ := h.uploaded (mem_uploads_of_claim hs action hids)
      obtain rfl := Option.some.inj (stored.symm.trans hget)
      refine ⟨_, begun, ?_, fun d' m' hd _ ↦ ?_, ?_, fun _ hidle ↦ ?_⟩
      · rw [hcharged]
        exact Nat.succ_le_succ hattempts
      · obtain ⟨rfl, rfl⟩ := halone d' m' hd
        exact ⟨rfl, rfl⟩
      · rw [hresumed]
        exact hfree.trans hcut
      · exact absurd started (hidle d m)
  | @resumed d m startedAt version action delivery ofVersion pass free stored owned kept midPass
      started =>
    have hnone : ∀ d' m', ¬w.MidPass ids.versionId d' m' :=
      ofVersion ▸ hlock d startedAt action m _ delivery
    have halone : ∀ d' m', w'.MidPass ids.versionId d' m' → d' = d ∧ m' = m :=
      fun d' m' hd ↦ (midPass d' m' hd).resolve_right (hnone d' m')
    obtain ⟨hcharged, hresumed⟩ := countP_resumed rs pass free
    refine ⟨fun hunborn ↦ ?_, World.MidPass.eq_of_alone halone, fun hids ↦ ?_⟩
    · exact absurd (hs.generated_mono (hstored version stored)) hunborn
    · obtain ⟨old, hget, hattempts, -, -, hpaid⟩ := h.uploaded (mem_uploads_of_claim hs action hids)
      obtain rfl := Option.some.inj (stored.symm.trans hget)
      refine ⟨version, kept, hcharged ▸ hattempts, fun d' m' hd _ ↦ ?_, ?_, fun _ hidle ↦ ?_⟩
      · obtain ⟨rfl, rfl⟩ := halone d' m' hd
        exact owned
      · -- Nobody was at work, so a cut-off pass pays for this one.
        rw [hresumed]
        exact (Nat.succ_le_of_lt (hpaid owned.1 hnone)).trans hcut
      · exact absurd started (hidle d m)
  | other pass row midPass ended =>
    obtain ⟨hcharged, hresumed⟩ := countP_not_pass rs pass
    refine ⟨fun hunborn ↦ ?_, fun d₁ m₁ d₂ m₂ h₁ h₂ ↦
      h.sole d₁ m₁ d₂ m₂ (midPass d₁ m₁ h₁) (midPass d₂ m₂ h₂), fun hids ↦ ?_⟩
    · rw [hcharged, hresumed]
      exact h.unborn fun hdrawn ↦ hunborn (hs.generated_mono hdrawn)
    · rw [hcharged, hresumed]
      rcases hs.of_mem_uploads hids with hids' | hupload
      · obtain ⟨version, hget, hattempts, howned, hfree, hpaid⟩ := h.uploaded hids'
        obtain ⟨added, hchange, -⟩ := hs.version_change hw.claims_backed ids.versionId
        obtain ⟨version', hget', -⟩ := hs.version_kept hw.claims_backed hget
        rw [hget, hget'] at hchange
        have hsame : version'.status = .extracting → version' = version := fun hstatus ↦
          Option.some.inj ((row version' hget' hstatus).symm.trans hget)
        refine ⟨version', hget', hattempts.trans hchange.attempts, fun d m hd hstatus ↦ ?_,
          hfree.trans hcut, fun hstatus hidle ↦ ?_⟩
        · obtain rfl := hsame hstatus
          exact howned d m (midPass d m hd) hstatus
        · obtain rfl := hsame hstatus
          by_cases hbusy : ∃ d m, w.MidPass ids.versionId d m
          · obtain ⟨d, m, hd⟩ := hbusy
            rcases ended d m hd with hd' | hcutOff | hnot
            · exact absurd hd' (hidle d m)
            · rw [TransitionSystem.countP_snoc, if_pos hcutOff]
              exact Nat.lt_succ_of_le hfree
            · exact absurd (howned d m hd hstatus) (hnot version' hget')
          · exact (hpaid hstatus fun d m hd ↦ hbusy ⟨d, m, hd⟩).trans_le hcut
      · obtain ⟨organizationId, staged, hversion, -, hfresh, -⟩ := hs.uploaded hupload
        obtain ⟨hno, hno'⟩ := h.unborn hfresh
        refine ⟨_, hversion, hno ▸ Nat.zero_le _, fun d m hd hstatus ↦ (by cases hstatus),
          hno' ▸ Nat.zero_le _, fun hstatus ↦ (by cases hstatus)⟩

/-- The ingestion system with workers that hold the version's lock. -/
def workerLocked (settings : Settings) : TransitionSystem World Event :=
  (ingestion settings).restrict WorkerLocked

theorem run_passed {w₀ : World} (h₀ : (workerLocked settings).init w₀)
    (hrun : (workerLocked settings).recorded.Run w₀ rs w) (ids : DocumentService.UploadIds) :
    Passed settings ids rs w := by
  refine TransitionSystem.Run.tracked (I := Passed settings ids) ?_ ?_ hrun
  · refine ⟨fun _ ↦ ⟨rfl, rfl⟩, fun d m d' m' hd ↦ ?_, fun hids ↦ ?_⟩
    · obtain ⟨⟨c, hd⟩, -⟩ := hd
      rw [World.Initial.nothing_delivered h₀ d] at hd
      cases hd
    · rw [World.Initial.no_uploads h₀] at hids
      cases hids
  · intro rs w l w' hbefore hI hs
    obtain ⟨u, e⟩ := l
    obtain ⟨rfl, hlock, hstep⟩ := hs
    have hreach : (ingestion settings).Reachable u :=
      ⟨w₀, _, h₀, hbefore.of_recorded.of_restrict⟩
    exact hI.step (reachable_coherent hreach) hstep hlock

/-- **Every free pass is paid for by one that was cut off.** With workers that hold the version's
lock, over any run: at most `maxAttempts` passes of an uploaded version are charged, however often
its messages are delivered; a pass resumes a running extraction at most as often as a pass was cut
off, by a lost worker or a raised error; so there are at most `maxAttempts` passes beyond these. -/
theorem passes_bounded {w₀ : World} (h₀ : (workerLocked settings).init w₀)
    (hrun : (workerLocked settings).recorded.Run w₀ rs w) (hids : ids ∈ w.uploads) :
    rs.countP (isChargedPass settings ids.versionId) ≤ settings.maxAttempts ∧
      rs.countP (isResumedPass settings ids.versionId) ≤ rs.countP (isCutOff ids.versionId) ∧
        rs.countP (isPass settings ids.versionId) ≤
          settings.maxAttempts + rs.countP (isCutOff ids.versionId) := by
  obtain ⟨version, hget, hcharged, -, hresumed, -⟩ := (run_passed h₀ hrun ids).uploaded hids
  have hreach : (ingestion settings).Reachable w := ⟨w₀, _, h₀, hrun.of_recorded.of_restrict⟩
  obtain ⟨version', hget', hlife⟩ := reachable_lifecycle hreach ids hids
  obtain rfl := Option.some.inj (hget.symm.trans hget')
  have hcapped := hcharged.trans hlife.capped
  refine ⟨hcapped, hresumed, ?_⟩
  rw [countP_isPass]
  exact Nat.add_le_add hcapped hresumed

theorem World.setDelivery_self (w : World) (d : ℕ) (delivery : Option Delivery) :
    (w.setDelivery d delivery).deliveries d = delivery :=
  Function.update_self ..

theorem World.setDelivery_idem (w : World) (d : ℕ) (delivery delivery' : Option Delivery) :
    (w.setDelivery d delivery).setDelivery d delivery' = w.setDelivery d delivery' := by
  simp [World.setDelivery]

theorem World.setDelivery_of_eq {w : World} {d : ℕ} {delivery : Option Delivery}
    (h : w.deliveries d = delivery) : w.setDelivery d delivery = w := by
  subst h
  simp [World.setDelivery]

/-! ### A worker that is lost in every pass -/

namespace Sample

/-- The message is in the broker. -/
def published : World :=
  { claimed with
    pending := []
    broker := [message] }

def begunVersion : DocumentVersion :=
  version.begin message.taskId 0

/-- The version has been claimed, and the message waits for its next delivery. -/
def begun : World :=
  { published with db := published.db.setVersion begunVersion }

/-- A worker has the message. -/
def delivered (w : World) : World :=
  w.setDelivery 0 (some ⟨message, .idle⟩)

/-- A worker extracts the version. -/
def processing : World :=
  begun.setDelivery 0
    (some ⟨message, .extracting (DocumentIngestionService.record document begunVersion)⟩)

theorem step_published :
    Step limits claimed ⟨0, .publish (publication (uuid 7)) true⟩ published :=
  @Step.publish limits claimed 0 (publication (uuid 7)) true (List.mem_singleton_self _)

theorem step_delivered : Step limits published ⟨0, .deliver 0 message⟩ (delivered published) :=
  @Step.deliver limits published 0 0 message rfl
    (show uuid 4 ∈ Sample.ids.draws ++ [uuid 7] by decide)

theorem step_processing : Step limits (delivered published) ⟨0, .workerClaim 0 0⟩ processing := by
  have hstep := @Step.workerClaim limits (delivered published) 0 0 0 message
    (.claimed (DocumentIngestionService.record document begunVersion))
    (published.db.setVersion begunVersion) (World.setDelivery_self ..) rfl
  rw [processing, ← World.setDelivery_idem begun 0 (some ⟨message, .idle⟩)]
  exact hstep

theorem step_lost : Step limits processing ⟨0, .die 0⟩ begun := by
  have hnone : processing.setDelivery 0 none = begun := by
    rw [processing, World.setDelivery_idem]
    exact World.setDelivery_of_eq rfl
  rw [← hnone]
  exact .die 0

theorem step_redelivered : Step limits begun ⟨0, .deliver 0 message⟩ (delivered begun) :=
  @Step.deliver limits begun 0 0 message rfl
    (show uuid 4 ∈ Sample.ids.draws ++ [uuid 7] by decide)

theorem step_resumed : Step limits (delivered begun) ⟨0, .workerClaim 0 0⟩ processing := by
  have hstep := @Step.workerClaim limits (delivered begun) 0 0 0 message
    (.claimed (DocumentIngestionService.record document begunVersion))
    begun.db (World.setDelivery_self ..) rfl
  rw [processing, ← World.setDelivery_idem begun 0 (some ⟨message, .idle⟩)]
  exact hstep

/-- The system with the worker's lock, and deliveries of the upload that come from the broker. -/
def deployed : TransitionSystem World Event :=
  (workerLocked limits).restrict (FromBroker Sample.ids.versionId)

/-- The upload, its publication, and a first pass. -/
def firstPass : List (World × Event) :=
  [(installed, ⟨0, .upload Sample.ids⟩),
    (uploaded, ⟨0, .relayClaim (.published (publication (uuid 7)))⟩),
    (claimed, ⟨0, .publish (publication (uuid 7)) true⟩), (published, ⟨0, .deliver 0 message⟩),
    (delivered published, ⟨0, .workerClaim 0 0⟩)]

/-- A step of the sample that is no claim. -/
theorem deployed_step {w w' : World} {e : Event} (h : Step limits w e w')
    (hclaim : ∀ d startedAt, e.action ≠ .workerClaim d startedAt)
    (hbroker : w.broker = [message] ∧ e.action = .deliver 0 message ∨
      ∀ d m, e.action ≠ .deliver d m) : deployed.recorded.step w (w, e) w' := by
  refine ⟨rfl, fun d m hdeliver _ ↦ ?_, fun d startedAt h ↦ absurd h (hclaim d startedAt), h⟩
  rcases hbroker with ⟨hbroker, haction⟩ | hnot
  · obtain ⟨-, rfl⟩ := Action.deliver.inj (haction.symm.trans hdeliver)
    rw [hbroker]
    exact List.mem_singleton_self _
  · exact absurd hdeliver (hnot d m)

/-- A claim of the sample, while nobody is at work. -/
theorem deployed_claim {w w' : World} (h : Step limits w ⟨0, .workerClaim 0 0⟩ w')
    (hidle : ∀ d, d ≠ 0 → w.deliveries d = none) (hzero : w.deliveries 0 = some ⟨message, .idle⟩) :
    deployed.recorded.step w (w, ⟨0, .workerClaim 0 0⟩) w' := by
  refine ⟨rfl, fun d m hdeliver ↦ (by cases hdeliver),
    fun d startedAt _ m stage _ d' m' hmid ↦ ?_, h⟩
  by_cases hd : d' = 0
  · subst hd
    exact not_midPass_of_idle hzero hmid
  · obtain ⟨⟨c, hc⟩, -⟩ := hmid
    rw [hidle d' hd] at hc
    cases hc

theorem run_firstPass : deployed.recorded.Run installed firstPass processing := by
  refine .cons (deployed_step (step_uploaded limits) (by simp) (Or.inr (by simp))) ?_
  refine .cons (deployed_step step_claimed (by simp) (Or.inr (by simp))) ?_
  refine .cons (deployed_step step_published (by simp) (Or.inr (by simp))) ?_
  refine .cons (deployed_step step_delivered (by simp) (Or.inl ⟨rfl, rfl⟩)) ?_
  exact .single (deployed_claim step_processing (fun d hd ↦ Function.update_of_ne hd ..)
    (World.setDelivery_self ..))

/-- The worker is lost, its message delivered again, and the next worker resumes. -/
def lostPass : List (World × Event) :=
  [(processing, ⟨0, .die 0⟩), (begun, ⟨0, .deliver 0 message⟩),
    (delivered begun, ⟨0, .workerClaim 0 0⟩)]

theorem run_lostPass : deployed.recorded.Run processing lostPass processing := by
  refine .cons (deployed_step step_lost (by simp) (Or.inr (by simp))) ?_
  refine .cons (deployed_step step_redelivered (by simp) (Or.inl ⟨rfl, rfl⟩)) ?_
  exact .single (deployed_claim step_resumed (fun d hd ↦ Function.update_of_ne hd ..)
    (World.setDelivery_self ..))

/-- However often a worker was lost, the next one passes the claim again. -/
theorem run_lostPasses (n : ℕ) : ∃ rs, deployed.recorded.Run installed rs processing ∧
    n ≤ rs.countP (isPass limits Sample.ids.versionId) := by
  induction n with
  | zero => exact ⟨firstPass, run_firstPass, Nat.zero_le _⟩
  | succ n ih =>
    obtain ⟨rs, hrun, hcount⟩ := ih
    refine ⟨rs ++ lostPass, hrun.trans run_lostPass, ?_⟩
    have hpass : lostPass.countP (isPass limits Sample.ids.versionId) = 1 := rfl
    rw [List.countP_append, hpass]
    exact Nat.succ_le_succ hcount

end Sample

/-- **No bound on the passes of an uploaded version** in terms of the attempt cap and the relay's
policy, even with the worker's lock and only deliveries that come from the broker. -/
theorem passes_unbounded :
    ¬∃ bound : ℕ → RelayPolicy → ℕ, ∀ (settings : Settings) (ids : DocumentService.UploadIds)
      (w₀ w : World) (rs : List (World × Event)),
      ((workerLocked settings).restrict (FromBroker ids.versionId)).init w₀ →
      ((workerLocked settings).restrict (FromBroker ids.versionId)).recorded.Run w₀ rs w →
      ids ∈ w.uploads →
        rs.countP (isPass settings ids.versionId) ≤ bound settings.maxAttempts settings.policy := by
  rintro ⟨bound, hbound⟩
  obtain ⟨rs, hrun, hcount⟩ :=
    Sample.run_lostPasses (bound Sample.limits.maxAttempts Sample.limits.policy + 1)
  have hle := hbound Sample.limits Sample.ids Sample.installed Sample.processing rs
    Sample.initial_installed hrun (List.mem_singleton_self _)
  exact absurd (hcount.trans hle) (Nat.not_succ_le_self _)

theorem passes_bounded_sample :
    Sample.ids ∈ Sample.processing.uploads ∧
      Sample.firstPass.countP (isPass Sample.limits (uuid 4)) ≤
        3 + Sample.firstPass.countP (isCutOff (uuid 4)) := by
  have hids : Sample.ids ∈ Sample.processing.uploads := List.mem_singleton_self _
  have hrun : (workerLocked Sample.limits).recorded.Run Sample.installed Sample.firstPass
      Sample.processing := by
    refine TransitionSystem.Run.mono (M := Sample.deployed.recorded) (fun u l t h ↦ ?_)
      Sample.run_firstPass
    exact ⟨h.1, h.2.2⟩
  exact ⟨hids, (passes_bounded Sample.initial_installed hrun hids).2.2⟩

end SupportFlow
