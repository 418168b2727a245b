import SupportFlow.Documents.System

/-!
# What a step does to one row

The system has twenty kinds of steps, and every invariant below is about one intent, one version, or
one intent with its version. `Step.intent_change` and `Step.version_change` project a step onto such
a row once and for all: an intent is left alone or changed in one of seven ways, a version in one of
six, each with its guard. The invariants are proved by cases on these changes, not on the steps.

`World.Coherent` is the invariant the projections rest on. The database is consistent, every id in
use was drawn, and a delivery that has claimed a version still carries that version's identity.
-/

namespace SupportFlow

open PrimaryKey (key)
open IngestionRelay (versionOf Examined)
open DocumentIngestionService (IsOwnedExtraction ClaimOf)

variable {settings : Settings} {w w' : World} {e : Event}

/-! ### Intents -/

/-- The action reports having written to the intent. -/
def Action.Touches (id : UUID) : Action → Prop
  | relayClaim exit => exit.intentId? = some id
  | finish p _ result => result = true ∧ p.intentId = id
  | rearm intentId _ _ => intentId = id
  | _ => False

/-- **What a step does to the intent stored under an id.** -/
inductive IntentChange (settings : Settings) (w : World) (e : Event) (w' : World) (id : UUID) :
    Option DocumentIngestionIntent → Option DocumentIngestionIntent → Prop
  | unchanged {row : Option DocumentIngestionIntent} (untouched : ¬e.action.Touches id) :
      IntentChange settings w e w' id row row
  | uploaded {ids : DocumentService.UploadIds} {organizationId : UUID}
      (action : e.action = .upload ids) (intentId : ids.intentId = id)
      (fresh : id ∉ w.generated) (drawn : id ∈ w'.generated) :
      IntentChange settings w e w' id none
        (some (.create id organizationId ids.versionId ids.taskUuid.str e.now))
  | backfilled {version : DocumentVersion} {taskId : String} (action : e.action = .backfill)
      (fresh : id ∉ w.generated) (drawn : id ∈ w'.generated) (stored : version ∈ w.db.versions)
      (queued : version.status = .queued)
      (free : ∀ i ∈ w.db.intents, i.documentVersionId = version.id →
        i.organizationId ≠ version.organizationId) :
      IntentChange settings w e w' id none
        (some (.create id version.organizationId version.id taskId e.now))
  | examined {intent intent' : DocumentIngestionIntent} {version : DocumentVersion} {token : UUID}
      {exit : ClaimExit} (action : e.action = .relayClaim exit) (fresh : token ∉ w.generated)
      (due : intent.Due e.now) (stored : versionOf w.db intent = some version)
      (examined : Examined settings.policy e.now token intent version exit intent') :
      IntentChange settings w e w' id (some intent) (some intent')
  | finished {intent : DocumentIngestionIntent} {p : Publication} {success : Bool} {lease : Lease}
      (action : e.action = .finish p success true) (issued : p ∈ w.issued)
      (intentId : p.intentId = id) (leased : intent.lease = some lease)
      (token : lease.token = p.token) (unexpired : e.now < lease.expiresAt) :
      IntentChange settings w e w' id (some intent)
        (some (intent.finish settings.policy e.now success))
  | settled {intent : DocumentIngestionIntent} {version : DocumentVersion}
      (action : e.action = .settleTerminal) (unsettled : intent.settledAt = none)
      (free : intent.LeaseFree e.now) (stored : versionOf w.db intent = some version)
      (terminal : version.status.Terminal) :
      IntentChange settings w e w' id (some intent) (some (intent.settle e.now))
  | rearmed {intent : DocumentIngestionIntent} {version : DocumentVersion} {extractingSeconds : ℤ}
      {maxWorkerAttempts : ℕ} (action : e.action = .rearm id extractingSeconds maxWorkerAttempts)
      (unresolved : intent.unresolvedAt ≠ none)
      (exhausted : intent.lastError = some .attemptsExhausted)
      (unsettled : intent.settledAt = none) (free : intent.LeaseFree e.now)
      (grants : intent.recoveryGrants < 3) (stored : versionOf w.db intent = some version)
      (rearmable : Rearmable e.now extractingSeconds maxWorkerAttempts intent version) :
      IntentChange settings w e w' id (some intent) (some (intent.rearm e.now))
  | deleted {intent : DocumentIngestionIntent} {settledAt : Instant} (action : e.action = .cleanup)
      (settled : intent.settledAt = some settledAt) (resolved : intent.unresolvedAt = none)
      (free : intent.lease = none) :
      IntentChange settings w e w' id (some intent) none

/-- Writing one intent back changes that intent and no other. -/
theorem get?_setIntent {db : Database} {intent intent' : DocumentIngestionIntent}
    (hget : db.intents.get? intent.id = some intent) (hid : intent'.id = intent.id) (id : UUID) :
    (db.setIntent intent').intents.get? id =
      if id = intent.id then some intent' else db.intents.get? id := by
  have hkey : key intent' = intent.id := hid
  rw [Database.setIntent_intents, Table.get?_set, hkey]
  by_cases h : id = intent.id
  · rw [if_pos h, if_pos h, h, hget, Option.map_some]
  · rw [if_neg h, if_neg h]

theorem get?_setVersion {db : Database} {version version' : DocumentVersion}
    (hget : db.versions.get? version.id = some version) (hid : version'.id = version.id)
    (id : UUID) :
    (db.setVersion version').versions.get? id =
      if id = version.id then some version' else db.versions.get? id := by
  have hkey : key version' = version.id := hid
  rw [Database.setVersion_versions, Table.get?_set, hkey]
  by_cases h : id = version.id
  · rw [if_pos h, if_pos h, h, hget, Option.map_some]
  · rw [if_neg h, if_neg h]

/-- A backfill only adds intents: fresh ones, for selected versions. -/
theorem backfill_rows {cutoff now : Instant} {limit n : ℕ} {locked : UUID → Bool}
    {draw : UUID → UUID × UUID} {db db' : Database}
    (h : backfill cutoff limit now locked draw db = .ok (n, db')) :
    (db'.documents = db.documents ∧ db'.versions = db.versions ∧ db'.audit = db.audit) ∧
      ∀ id, db'.intents.get? id = db.intents.get? id ∨
        db.intents.get? id = none ∧ ∃ version ∈ Backfill.candidates cutoff limit locked db,
          id = (draw version.id).1 ∧
            db'.intents.get? id = some (Backfill.intentFor now draw version) := by
  refine backfill_invariant (I := fun a ↦
    (a.documents = db.documents ∧ a.versions = db.versions ∧ a.audit = db.audit) ∧
      ∀ id, a.intents.get? id = db.intents.get? id ∨
        db.intents.get? id = none ∧ ∃ version ∈ Backfill.candidates cutoff limit locked db,
          id = (draw version.id).1 ∧
            a.intents.get? id = some (Backfill.intentFor now draw version)) h
    ⟨⟨rfl, rfl, rfl⟩, fun id ↦ Or.inl rfl⟩ ?_
  rintro version hversion a b ⟨⟨hd, hv, ha⟩, hrows⟩ hinsert
  obtain ⟨-, -, hintents, hd', hv', ha'⟩ := Database.insertIntent?_spec hinsert
  refine ⟨⟨hd'.trans hd, hv'.trans hv, ha'.trans ha⟩, fun id ↦ ?_⟩
  have hfresh := (Table.insert?_eq_some_iff.1 hintents).1
  rw [Table.get?_of_insert? hintents]
  split
  · next hid =>
    subst hid
    rcases hrows (key (Backfill.intentFor now draw version)) with hrow | ⟨-, v, -, -, hrow⟩
    · exact Or.inr ⟨hrow.symm.trans hfresh, version, hversion, rfl, rfl⟩
    · rw [hfresh] at hrow
      exact absurd hrow (by simp)
  · exact hrows id

/-- **The projection of a step onto one intent.** -/
theorem Step.intent_change (h : Step settings w e w') (id : UUID) :
    IntentChange settings w e w' id (w.db.intents.get? id) (w'.db.intents.get? id) := by
  cases h with
  | changeIdentity tables => exact .unchanged fun h ↦ h
  | @upload t organizationId actorUserId staged ids db fresh run =>
    obtain ⟨-, hintents, -⟩ := DocumentService.persistUpload_spec run
    show IntentChange _ _ _ _ _ _ (db.intents.get? id)
    rw [Table.get?_of_insert? hintents]
    split
    · next hid =>
      subst hid
      rw [(Table.insert?_eq_some_iff.1 hintents).1]
      have hdraw : ids.intentId ∈ ids.draws := by simp [DocumentService.UploadIds.draws]
      exact .uploaded rfl rfl (fresh _ hdraw) (List.mem_append_right _ hdraw)
    · exact .unchanged fun h ↦ h
  | @backfill t cutoff limit n locked draw db fresh run =>
    show IntentChange _ _ _ _ _ _ (db.intents.get? id)
    rcases (backfill_rows run).2 id with hrow | ⟨hnone, version, hversion, rfl, hrow⟩
    · rw [hrow]
      exact .unchanged fun h ↦ h
    · rw [hnone, hrow]
      obtain ⟨hmem, hqueued, hfree⟩ := Backfill.candidates_spec hversion
      have hdraw : (draw version.id).1 ∈
          Backfill.draws draw (Backfill.candidates cutoff limit locked w.db) :=
        List.mem_flatMap.2 ⟨version, hversion, by simp⟩
      exact .backfilled rfl (fresh _ hdraw) (List.mem_append_right _ hdraw) hmem hqueued hfree
  | @relayClaim t locked token exit db fresh run =>
    show IntentChange _ _ _ _ _ _ (db.intents.get? id)
    rcases IngestionRelay.claim_spec run with ⟨rfl, rfl⟩ | ⟨intent, version, intent', hget, hdue,
      hversion, hexamined, rfl⟩
    · exact .unchanged (by simp [Action.Touches, ClaimExit.intentId?])
    · rw [get?_setIntent hget hexamined.identity.1]
      split
      · next hid =>
        subst hid
        rw [hget]
        exact .examined rfl (fresh token (by simp)) hdue hversion hexamined
      · next hid =>
        refine .unchanged fun htouch ↦ hid ?_
        exact (Option.some.inj (hexamined.intentId?.symm.trans htouch)).symm
  | publish pending => exact .unchanged fun h ↦ h
  | @finish t p success result db issued run =>
    show IntentChange _ _ _ _ _ _ (db.intents.get? id)
    rcases IngestionRelay.finish_spec run with ⟨rfl, rfl⟩ | ⟨rfl, intent, lease, hget, hlease,
      htoken, hnow, rfl⟩
    · exact .unchanged fun h ↦ absurd h.1 (by simp)
    · have hid : intent.id = p.intentId := Table.key_of_get? hget
      rw [← hid] at hget
      rw [get?_setIntent hget (intent.finish_id _ _ _)]
      split
      · next hid' =>
        subst hid'
        rw [hget]
        exact .finished rfl issued hid.symm hlease htoken hnow
      · next hne => exact .unchanged fun h ↦ hne (h.2.symm.trans hid.symm)
  | @settleTerminal t locked =>
    show IntentChange _ _ _ _ _ _ ((IngestionRelay.settleTerminal t locked w.db).2.intents.get? id)
    rcases hrow : w.db.intents.get? id with - | intent
    · rw [IngestionRelay.settleTerminal_row_none t locked hrow]
      exact .unchanged fun h ↦ h
    · rcases IngestionRelay.settleTerminal_row t locked hrow with hsame |
        ⟨hsettled, hnone, hfree, version, hversion, hterminal⟩
      · rw [hsame]
        exact .unchanged fun h ↦ h
      · rw [hsettled]
        exact .settled rfl hnone hfree hversion hterminal
  | @cleanup t limit n locked db run =>
    show IntentChange _ _ _ _ _ _ (db.intents.get? id)
    rcases hrow : w.db.intents.get? id with - | intent
    · rw [IngestionRelay.cleanup_row_none run hrow]
      exact .unchanged fun h ↦ h
    · rcases IngestionRelay.cleanup_row run hrow with hsame | ⟨hnone, hresolved, hfree, settledAt,
        hsettled, -⟩
      · rw [hsame]
        exact .unchanged fun h ↦ h
      · rw [hnone]
        exact .deleted rfl hsettled hresolved hfree
  | @rearm t organizationId intentId actorUserId _ _ extractingSeconds maxWorkerAttempts _ db run =>
    obtain ⟨intent, version, event, hget, -, hunresolved, hexhausted, hsettled, hfree, hgrants,
      hversion, hrearmable, -, -, rfl⟩ := rearmIntent_spec run
    have hid : intent.id = intentId := Table.key_of_get? hget
    subst hid
    show IntentChange _ _ _ _ _ _ ((w.db.setIntent (intent.rearm t)).intents.get? id)
    rw [get?_setIntent hget (intent.rearm_id t)]
    split
    · next hid' =>
      subst hid'
      rw [hget]
      exact .rearmed rfl hunresolved hexhausted hsettled hfree hgrants hversion hrearmable
    · next hne => exact .unchanged fun h ↦ hne h.symm
  | lose m => exact .unchanged fun h ↦ h
  | deliver free known => exact .unchanged fun h ↦ h
  | @workerClaim t _ _ _ _ db stage run =>
    show IntentChange _ _ _ _ _ _ (db.intents.get? id)
    rw [(DocumentIngestionService.claim_write run).frame.1]
    exact .unchanged fun h ↦ h
  | markReady stage run =>
    rcases DocumentIngestionService.markReady_spec run with rfl | ⟨version, -, -, rfl⟩ <;>
      exact .unchanged fun h ↦ h
  | markFailed stage run =>
    rcases DocumentIngestionService.markFailed_spec run with rfl | ⟨version, -, -, rfl⟩ <;>
      exact .unchanged fun h ↦ h
  | @prepareRetry t _ m code stage =>
    have hwrite := DocumentIngestionService.prepareRetry_write settings.maxAttempts
      m.versionId m.taskId code w.db
    show IntentChange _ _ _ _ _ _
      ((DocumentIngestionService.prepareRetry m.versionId m.taskId code w.db).intents.get? id)
    rw [hwrite.frame.1]
    exact .unchanged fun h ↦ h
  | readOwned stage => exact .unchanged fun h ↦ h
  | markExhausted stage run =>
    rcases DocumentIngestionService.markFailed_spec run with rfl | ⟨version, -, -, rfl⟩ <;>
      exact .unchanged fun h ↦ h
  | abandon stage => exact .unchanged fun h ↦ h
  | retry stage => exact .unchanged fun h ↦ h
  | die d => exact .unchanged fun h ↦ h

/-! ### What a label says about an intent -/

/-- How the claim with this label ended, if it selected the intent. -/
def Event.exitFor (id : UUID) (e : Event) : Option ClaimExit :=
  match e.action with
  | .relayClaim exit => if exit.intentId? = some id then some exit else none
  | _ => none

theorem Event.exitFor_eq_some_iff {id : UUID} {exit : ClaimExit} :
    e.exitFor id = some exit ↔ e.action = .relayClaim exit ∧ exit.intentId? = some id := by
  unfold exitFor
  split
  · next exit' haction =>
    rw [haction, Action.relayClaim.injEq]
    constructor
    · intro h
      split at h
      · next hid => exact ⟨Option.some.inj h, Option.some.inj h ▸ hid⟩
      · exact absurd h (by simp)
    · rintro ⟨rfl, hid⟩
      rw [if_pos hid]
  · next hother => exact ⟨fun h ↦ absurd h (by simp), fun h ↦ absurd h.1 (hother exit)⟩

theorem Event.exitFor_eq_none {id : UUID} (h : ¬e.action.Touches id) : e.exitFor id = none := by
  rcases hexit : e.exitFor id with - | exit
  · rfl
  · obtain ⟨haction, hid⟩ := exitFor_eq_some_iff.1 hexit
    refine absurd ?_ h
    rw [haction]
    exact hid

/-- Only claims select. -/
theorem Event.exitFor_eq_none_of_action {id : UUID} {action : Action} (h : e.action = action)
    (hno : ∀ exit, action ≠ .relayClaim exit) : e.exitFor id = none := by
  rcases hexit : e.exitFor id with - | exit
  · rfl
  · exact absurd (h.symm.trans (exitFor_eq_some_iff.1 hexit).1) (hno exit)

/-- **Claims and changes agree**: a label whose claim selected the intent is a change that examined
it, and no other change carries such a label. -/
theorem IntentChange.exit {id : UUID} {row row' : Option DocumentIngestionIntent}
    (h : IntentChange settings w e w' id row row') (hkey : ∀ i, row = some i → i.id = id) :
    e.exitFor id = none ∨ ∃ intent intent' version token exit, row = some intent ∧
      row' = some intent' ∧ e.exitFor id = some exit ∧ intent.Due e.now ∧
        versionOf w.db intent = some version ∧
          Examined settings.policy e.now token intent version exit intent' := by
  have hnone : ∀ {action : Action}, e.action = action → (∀ exit, action ≠ .relayClaim exit) →
      e.exitFor id = none := Event.exitFor_eq_none_of_action
  cases h with
  | unchanged untouched => exact Or.inl (Event.exitFor_eq_none untouched)
  | uploaded action => exact Or.inl (hnone action fun _ ↦ nofun)
  | backfilled action => exact Or.inl (hnone action fun _ ↦ nofun)
  | @examined intent intent' version token exit action fresh due stored examined =>
    refine Or.inr ⟨intent, intent', version, token, exit, rfl, rfl, ?_, due, stored, examined⟩
    exact Event.exitFor_eq_some_iff.2 ⟨action, hkey intent rfl ▸ examined.intentId?⟩
  | finished action => exact Or.inl (hnone action fun _ ↦ nofun)
  | settled action => exact Or.inl (hnone action fun _ ↦ nofun)
  | rearmed action => exact Or.inl (hnone action fun _ ↦ nofun)
  | deleted action => exact Or.inl (hnone action fun _ ↦ nofun)

/-! ### Messages, deliveries and publications -/

/-- The record a delivery in this stage works on. -/
def DeliveryStage.claimed? : DeliveryStage → Option ClaimedDocumentVersion
  | idle => none
  | extracting c => some c
  | exhausting c => some c

/-- Ids are only ever added. -/
theorem Step.generated_mono (h : Step settings w e w') {id : UUID} (hid : id ∈ w.generated) :
    id ∈ w'.generated := by
  cases h with
  | upload => exact List.mem_append_left _ hid
  | backfill => exact List.mem_append_left _ hid
  | relayClaim => exact List.mem_append_left _ hid
  | _ => exact hid

theorem Step.clock (h : Step settings w e w') : w'.now = e.now := by
  cases h <;> rfl

/-- Only an upload adds to the uploads. -/
theorem Step.uploads (h : Step settings w e w') :
    w'.uploads = w.uploads ∨ ∃ ids, e.action = .upload ids ∧ w'.uploads = w.uploads ++ [ids] := by
  cases h with
  | @upload t _ _ _ ids db fresh run => exact Or.inr ⟨ids, rfl, rfl⟩
  | _ => exact Or.inl rfl

/-- An upload was there before, or is this step's. -/
theorem Step.of_mem_uploads (h : Step settings w e w') {ids : DocumentService.UploadIds}
    (hids : ids ∈ w'.uploads) : ids ∈ w.uploads ∨ e.action = .upload ids := by
  rcases h.uploads with hsame | ⟨ids', haction, huploads⟩
  · exact Or.inl (hsame ▸ hids)
  · rcases List.mem_append.1 (huploads ▸ hids) with hold | hnew
    · exact Or.inl hold
    · exact Or.inr (List.mem_singleton.1 hnew ▸ haction)

/-- A publication in the ledger was there before, or this step's claim returned it. -/
theorem Step.issued (h : Step settings w e w') {p : Publication} (hp : p ∈ w'.issued) :
    p ∈ w.issued ∨ e.action = .relayClaim (.published p) ∧ p.token ∉ w.generated ∧
      p.token ∈ w'.generated ∧ ∃ intent version, w.db.intents.get? p.intentId = some intent ∧
        versionOf w.db intent = some version ∧
          p = IngestionRelay.publicationOf p.token intent version := by
  cases h with
  | @relayClaim t locked token exit db fresh run =>
    rcases List.mem_append.1 hp with hp | hp
    · exact Or.inl hp
    · right
      rcases IngestionRelay.claim_spec run with ⟨rfl, -⟩ | ⟨intent, version, intent', hget, -,
        hversion, hexamined, -⟩
      · simp [ClaimExit.publication?] at hp
      · cases hexamined with
        | published recoverable within =>
          obtain rfl : p = IngestionRelay.publicationOf token intent version := by
            simpa [ClaimExit.publication?] using hp
          exact ⟨rfl, fresh token (by simp), List.mem_append_right _ (by
            simp [IngestionRelay.publicationOf]), intent, version, hget, hversion, rfl⟩
        | _ => simp [ClaimExit.publication?] at hp
  | _ => exact Or.inl hp

theorem Step.issued_mono (h : Step settings w e w') {p : Publication} (hp : p ∈ w.issued) :
    p ∈ w'.issued := by
  cases h with
  | relayClaim => exact List.mem_append_left _ hp
  | _ => exact hp

/-- A pending publication was pending before, or this step's claim returned it. -/
theorem Step.pending (h : Step settings w e w') {p : Publication} (hp : p ∈ w'.pending) :
    p ∈ w.pending ∨ e.action = .relayClaim (.published p) ∧ p ∈ w'.issued := by
  cases h with
  | @relayClaim t locked token exit db fresh run =>
    rcases List.mem_append.1 hp with hp | hp
    · exact Or.inl hp
    · refine Or.inr ⟨?_, List.mem_append_right _ hp⟩
      cases exit with
      | published q =>
        obtain rfl : p = q := by simpa [ClaimExit.publication?] using hp
        rfl
      | _ => simp [ClaimExit.publication?] at hp
  | publish pending => exact Or.inl (List.mem_of_mem_erase hp)
  | _ => exact Or.inl hp

/-- A message in the broker was there before, is a publication's, or is a retry of a delivered one,
under the same task id. -/
theorem Step.broker (h : Step settings w e w') {m : Message} (hm : m ∈ w'.broker) :
    m ∈ w.broker ∨ (∃ p ∈ w.pending, m = p.message) ∨
      ∃ d m₀ stage, w.deliveries d = some ⟨m₀, stage⟩ ∧ m.versionId = m₀.versionId ∧
        m.taskId = m₀.taskId := by
  cases h with
  | @publish t p accepted pending =>
    rcases List.mem_append.1 hm with hm | hm
    · exact Or.inl hm
    · cases accepted with
      | true => exact Or.inr (Or.inl ⟨p, pending, by simpa using hm⟩)
      | false => simp at hm
  | lose m₀ => exact Or.inl (List.mem_of_mem_erase hm)
  | @retry t d m₀ stage =>
    rcases List.mem_append.1 hm with hm | hm
    · exact Or.inl hm
    · obtain rfl := List.mem_singleton.1 hm
      exact Or.inr (Or.inr ⟨d, m₀, .idle, stage, rfl, rfl⟩)
  | _ => exact Or.inl hm

/-- A record was read from the version it names. -/
def DeliveryStage.Backed (w : World) (m : Message) (stage : DeliveryStage) : Prop :=
  ∀ c, stage.claimed? = some c → ∃ v, w.db.versions.get? m.versionId = some v ∧ ClaimOf c v

theorem DeliveryStage.backed_idle (w : World) (m : Message) : idle.Backed w m :=
  fun _ h ↦ absurd h (by simp [claimed?])

/-- A delivery after one delivery went on to its next stage. -/
theorem delivery_next {d d₀ : ℕ} {m m₀ : Message} {stage stage₀ stage₁ : DeliveryStage}
    (hfrom : w.deliveries d₀ = some ⟨m₀, stage₀⟩) (hbacked : stage₁.Backed w m₀)
    (h : Function.update w.deliveries d₀ (some ⟨m₀, stage₁⟩) d = some ⟨m, stage⟩) :
    w.deliveries d = some ⟨m, stage⟩ ∨
      ((∃ stage', w.deliveries d = some ⟨m, stage'⟩) ∨
        e.action = .deliver d m ∧ m.versionId ∈ w.generated) ∧ stage.Backed w m := by
  by_cases hd : d = d₀
  · subst hd
    rw [Function.update_self] at h
    cases h
    exact Or.inr ⟨Or.inl ⟨stage₀, hfrom⟩, hbacked⟩
  · rw [Function.update_of_ne hd] at h
    exact Or.inl h

/-- A delivery after another one ended. -/
theorem delivery_ended {d d₀ : ℕ} {delivery : Delivery}
    (h : Function.update w.deliveries d₀ none d = some delivery) :
    w.deliveries d = some delivery := by
  by_cases hd : d = d₀
  · subst hd
    rw [Function.update_self] at h
    exact absurd h (by simp)
  · rwa [Function.update_of_ne hd] at h

/-- Where a delivery comes from: nothing changed, or it goes on with the same message or is just
starting, and a record it now holds was read from a stored version. -/
theorem Step.delivery (h : Step settings w e w') {d : ℕ} {m : Message} {stage : DeliveryStage}
    (hd : w'.deliveries d = some ⟨m, stage⟩) :
    w.deliveries d = some ⟨m, stage⟩ ∨
      ((∃ stage', w.deliveries d = some ⟨m, stage'⟩) ∨
        e.action = .deliver d m ∧ m.versionId ∈ w.generated) ∧ stage.Backed w m := by
  cases h with
  | @deliver t d₀ m₀ free known =>
    by_cases hd₀ : d = d₀
    · subst hd₀
      obtain ⟨rfl, rfl⟩ : m₀ = m ∧ DeliveryStage.idle = stage := by
        simpa [World.setDelivery] using hd
      exact Or.inr ⟨Or.inr ⟨rfl, known⟩, DeliveryStage.backed_idle w m₀⟩
    · have hsame : w.deliveries d = some ⟨m, stage⟩ := by
        simpa [World.setDelivery, hd₀] using hd
      exact Or.inl hsame
  | @workerClaim t startedAt d₀ m₀ result db from₀ run =>
    refine delivery_next from₀ (fun c hc ↦ ?_) hd
    cases result with
    | claimed record =>
      obtain rfl : record = c := Option.some.inj hc
      exact DocumentIngestionService.claim_claimOf run
    | noop outcome => exact absurd hc (by simp [ClaimResult.stage, DeliveryStage.claimed?])
  | readOwned from₀ =>
    refine delivery_next from₀ (fun c hc ↦ ?_) hd
    unfold DeliveryStage.ofOwned at hc
    split at hc
    · next record howned =>
      obtain rfl : record = c := Option.some.inj hc
      exact DocumentIngestionService.claimOf_of_ownedRecord howned
    · exact absurd hc (by simp [DeliveryStage.claimed?])
  | markReady from₀ => exact delivery_next from₀ (DeliveryStage.backed_idle w _) hd
  | markFailed from₀ => exact delivery_next from₀ (DeliveryStage.backed_idle w _) hd
  | markExhausted from₀ => exact delivery_next from₀ (DeliveryStage.backed_idle w _) hd
  | abandon from₀ => exact delivery_next from₀ (DeliveryStage.backed_idle w _) hd
  | retry => exact Or.inl (delivery_ended hd)
  | die => exact Or.inl (delivery_ended hd)
  | _ => exact Or.inl hd

/-! ### Versions and their terminal events -/

/-- The audit events that end a version's processing. -/
def AuditEvent.IsTerminal (event : AuditEvent) : Prop :=
  event.action = .documentReady ∨ event.action = .documentFailed

instance (event : AuditEvent) : Decidable event.IsTerminal :=
  inferInstanceAs (Decidable (_ ∨ _))

/-- The terminal events of one version, oldest first. -/
def terminalEvents (id : UUID) (log : List AuditEvent) : List AuditEvent :=
  log.filter fun event ↦ decide (event.IsTerminal ∧ event.resourceId = some id)

theorem terminalEvents_append (id : UUID) (log more : List AuditEvent) :
    terminalEvents id (log ++ more) = terminalEvents id log ++ terminalEvents id more :=
  List.filter_append ..

theorem terminalEvents_append_other {id : UUID} {log : List AuditEvent} {event : AuditEvent}
    (h : ¬(event.IsTerminal ∧ event.resourceId = some id)) :
    terminalEvents id (log ++ [event]) = terminalEvents id log := by
  rw [terminalEvents_append, terminalEvents, terminalEvents, List.filter_singleton,
    decide_eq_false h, cond_false, List.append_nil]

/-- An event with another action is not terminal. -/
theorem terminalEvents_append_action {id : UUID} {log : List AuditEvent} {event : AuditEvent}
    (hready : event.action ≠ .documentReady) (hfailed : event.action ≠ .documentFailed) :
    terminalEvents id (log ++ [event]) = terminalEvents id log :=
  terminalEvents_append_other fun h ↦ h.1.elim hready hfailed

theorem terminalEvents_append_own {id : UUID} {log : List AuditEvent} {event : AuditEvent}
    (h : event.IsTerminal) (hid : event.resourceId = some id) :
    terminalEvents id (log ++ [event]) = terminalEvents id log ++ [event] := by
  rw [terminalEvents_append, terminalEvents, terminalEvents, List.filter_singleton,
    decide_eq_true ⟨h, hid⟩, cond_true]

/-- **What a step does to the version stored under an id**, with the terminal events it records. -/
inductive VersionChange (settings : Settings) (w : World) (e : Event) (w' : World) (id : UUID) :
    Option DocumentVersion → Option DocumentVersion → List AuditEvent → Prop
  | unchanged {row : Option DocumentVersion} : VersionChange settings w e w' id row row []
  | uploaded {ids : DocumentService.UploadIds} {organizationId : UUID}
      {staged : DocumentService.StagedUpload} (action : e.action = .upload ids)
      (versionId : ids.versionId = id) (fresh : id ∉ w.generated) (drawn : id ∈ w'.generated) :
      VersionChange settings w e w' id none
        (some (DocumentService.newVersion organizationId staged ids e.now)) []
  | begun {version : DocumentVersion} {d : ℕ} {m : Message} {startedAt : Instant}
      (action : e.action = .workerClaim d startedAt) (delivery : w.deliveries d = some ⟨m, .idle⟩)
      (versionId : m.versionId = id) (queued : version.status = .queued)
      (below : version.attemptCount < settings.maxAttempts) :
      VersionChange settings w e w' id (some version) (some (version.begin m.taskId startedAt)) []
  | exhausted {version : DocumentVersion} (queued : version.status = .queued)
      (cap : settings.maxAttempts ≤ version.attemptCount) :
      VersionChange settings w e w' id (some version) (some (version.fail .retryExhausted))
        [AuditEventService.documentFailed version.organizationId version.id version.versionNumber
          .retryExhausted version.attemptCount]
  | succeeded {version : DocumentVersion} {taskId text : String}
      (owned : IsOwnedExtraction version taskId) :
      VersionChange settings w e w' id (some version) (some (version.succeed text))
        [AuditEventService.documentReady version.organizationId version.id version.versionNumber
          version.attemptCount text.length]
  | failed {version : DocumentVersion} {taskId : String} {code : DocumentErrorCode}
      (owned : IsOwnedExtraction version taskId) :
      VersionChange settings w e w' id (some version) (some (version.fail code))
        [AuditEventService.documentFailed version.organizationId version.id version.versionNumber
          code version.attemptCount]
  | requeued {version : DocumentVersion} {taskId : String} {code : DocumentErrorCode}
      (owned : IsOwnedExtraction version taskId) :
      VersionChange settings w e w' id (some version) (some (version.requeue code)) []

/-- Writing one version, seen from any version: that one changes, the others do not. -/
theorem setVersion_change {version version' : DocumentVersion} (id : UUID)
    (stored : w.db.versions.get? version.id = some version) (hid : version'.id = version.id)
    (change : id = version.id →
      VersionChange settings w e w' id (some version) (some version') []) :
    VersionChange settings w e w' id (w.db.versions.get? id)
      ((w.db.setVersion version').versions.get? id) [] := by
  rw [get?_setVersion stored hid]
  by_cases h : id = version.id
  · rw [if_pos h, h, stored]
    exact h ▸ change h
  · rw [if_neg h]
    exact .unchanged

/-- The same for a write with the terminal event of the version. -/
theorem setVersion_record_change {version version' : DocumentVersion} {event : AuditEvent}
    (id : UUID) (stored : w.db.versions.get? version.id = some version)
    (hid : version'.id = version.id) (hterminal : event.IsTerminal)
    (hresource : event.resourceId = some version.id)
    (change : id = version.id →
      VersionChange settings w e w' id (some version) (some version') [event]) :
    ∃ added, VersionChange settings w e w' id (w.db.versions.get? id)
        (((w.db.setVersion version').record event).versions.get? id) added ∧
      terminalEvents id ((w.db.setVersion version').record event).audit =
        terminalEvents id w.db.audit ++ added := by
  rw [Database.record_versions, get?_setVersion stored hid]
  by_cases h : id = version.id
  · refine ⟨[event], ?_, terminalEvents_append_own hterminal (h ▸ hresource)⟩
    rw [if_pos h, h, stored]
    exact h ▸ change h
  · refine ⟨[], ?_, ?_⟩
    · rw [if_neg h]
      exact .unchanged
    · rw [List.append_nil]
      exact terminalEvents_append_other fun hown ↦
        h (Option.some.inj (hown.2.symm.trans hresource))

/-- A worker's write, seen from any version. -/
theorem workerWrite_change {d : ℕ} {m : Message} {startedAt : Option Instant} {db : Database}
    (hwrite : DocumentIngestionService.WorkerWrite settings.maxAttempts m.versionId m.taskId
      startedAt w.db db)
    (hclaim : ∀ s, startedAt = some s →
      e.action = .workerClaim d s ∧ w.deliveries d = some ⟨m, .idle⟩) (id : UUID) :
    ∃ added, VersionChange settings w e w' id (w.db.versions.get? id) (db.versions.get? id) added ∧
      terminalEvents id db.audit = terminalEvents id w.db.audit ++ added := by
  cases hwrite with
  | nothing => exact ⟨[], .unchanged, (List.append_nil _).symm⟩
  | @begin version s clock stored queued below =>
    have hkey : version.id = m.versionId := Table.key_of_get? stored
    obtain ⟨haction, hdelivery⟩ := hclaim s clock
    exact ⟨[], setVersion_change id (hkey ▸ stored) (version.begin_id m.taskId s) fun h ↦
      .begun haction hdelivery (h.trans hkey).symm queued below, (List.append_nil _).symm⟩
  | @exhaust version stored queued cap =>
    have hkey : version.id = m.versionId := Table.key_of_get? stored
    exact setVersion_record_change id (hkey ▸ stored) (version.fail_id .retryExhausted)
      (Or.inr rfl) rfl fun _ ↦ .exhausted queued cap
  | @succeed version text stored owned =>
    have hkey : version.id = m.versionId := Table.key_of_get? stored
    exact setVersion_record_change id (hkey ▸ stored) (version.succeed_id text)
      (Or.inl rfl) rfl fun _ ↦ .succeeded owned
  | @fail version code stored owned =>
    have hkey : version.id = m.versionId := Table.key_of_get? stored
    exact setVersion_record_change id (hkey ▸ stored) (version.fail_id code)
      (Or.inr rfl) rfl fun _ ↦ .failed owned
  | @requeue version code stored owned =>
    have hkey : version.id = m.versionId := Table.key_of_get? stored
    exact ⟨[], setVersion_change id (hkey ▸ stored) (version.requeue_id code) fun _ ↦
      .requeued owned, (List.append_nil _).symm⟩

/-- The records of all deliveries were read from the versions their messages name. -/
def World.ClaimsBacked (w : World) : Prop :=
  ∀ d m stage, w.deliveries d = some ⟨m, stage⟩ → stage.Backed w m

/-- A record names the version of its delivery's message, with its identity. -/
theorem World.ClaimsBacked.claimOf (h : w.ClaimsBacked) {d : ℕ} {m : Message}
    {stage : DeliveryStage} {c : ClaimedDocumentVersion}
    (hd : w.deliveries d = some ⟨m, stage⟩) (hc : stage.claimed? = some c) :
    c.versionId = m.versionId ∧
      ∀ v, w.db.versions.get? c.versionId = some v → ClaimOf c v := by
  obtain ⟨v, hv, hclaim⟩ := h d m stage hd c hc
  have hid : c.versionId = m.versionId := hclaim.1.trans (Table.key_of_get? hv)
  refine ⟨hid, fun v' hv' ↦ ?_⟩
  rw [hid, hv] at hv'
  exact Option.some.inj hv' ▸ hclaim

/-- **The projection of a step onto one version and its terminal events.** -/
theorem Step.version_change (hbacked : w.ClaimsBacked) (h : Step settings w e w') (id : UUID) :
    ∃ added, VersionChange settings w e w' id (w.db.versions.get? id) (w'.db.versions.get? id)
        added ∧
      terminalEvents id w'.db.audit = terminalEvents id w.db.audit ++ added := by
  have hnothing : ∃ added, VersionChange settings w e w' id (w.db.versions.get? id)
        (w.db.versions.get? id) added ∧
      terminalEvents id w.db.audit = terminalEvents id w.db.audit ++ added :=
    ⟨[], .unchanged, (List.append_nil _).symm⟩
  cases h with
  | @upload t organizationId actorUserId staged ids db fresh run =>
    obtain ⟨hversions, -, event, haction, haudit⟩ := DocumentService.persistUpload_spec run
    refine ⟨[], ?_, ?_⟩
    · show VersionChange _ _ _ _ _ _ (db.versions.get? id) _
      rw [Table.get?_of_insert? hversions]
      split
      · next hid =>
        subst hid
        rw [(Table.insert?_eq_some_iff.1 hversions).1]
        have hdraw : ids.versionId ∈ ids.draws := by simp [DocumentService.UploadIds.draws]
        exact .uploaded rfl rfl (fresh _ hdraw) (List.mem_append_right _ hdraw)
      · exact .unchanged
    · show terminalEvents id db.audit = _
      rw [haudit, List.append_nil]
      exact terminalEvents_append_action (by simp [haction]) (by simp [haction])
  | @backfill t cutoff limit n locked draw db fresh run =>
    obtain ⟨⟨-, hversions, haudit⟩, -⟩ := backfill_rows run
    show ∃ added, VersionChange _ _ _ _ _ _ (db.versions.get? id) _ ∧
      terminalEvents id db.audit = _
    rw [hversions, haudit]
    exact ⟨[], .unchanged, (List.append_nil _).symm⟩
  | @relayClaim t locked token exit db fresh run =>
    rcases IngestionRelay.claim_spec run with ⟨-, rfl⟩ | ⟨intent, version, intent', -, -, -, -, rfl⟩
    · exact ⟨[], .unchanged, (List.append_nil _).symm⟩
    · exact ⟨[], .unchanged, (List.append_nil _).symm⟩
  | @finish t p success result db issued run =>
    rcases IngestionRelay.finish_spec run with ⟨-, rfl⟩ | ⟨-, intent, lease, -, -, -, -, rfl⟩
    · exact ⟨[], .unchanged, (List.append_nil _).symm⟩
    · exact ⟨[], .unchanged, (List.append_nil _).symm⟩
  | @cleanup t limit n locked db run =>
    obtain ⟨-, hversions, haudit⟩ := IngestionRelay.cleanup_frame run
    show ∃ added, VersionChange _ _ _ _ _ _ (db.versions.get? id) _ ∧
      terminalEvents id db.audit = _
    rw [hversions, haudit]
    exact ⟨[], .unchanged, (List.append_nil _).symm⟩
  | @rearm t organizationId intentId actorUserId _ _ extractingSeconds maxWorkerAttempts _ db run =>
    obtain ⟨intent, version, event, -, -, -, -, -, -, -, -, -, -, haction, rfl⟩ :=
      rearmIntent_spec run
    refine ⟨[], .unchanged, ?_⟩
    rw [List.append_nil]
    exact terminalEvents_append_action (by simp [haction]) (by simp [haction])
  | @workerClaim t startedAt d m result db stage run =>
    exact workerWrite_change (d := d) (DocumentIngestionService.claim_write run)
      (fun s hs ↦ ⟨by rw [Option.some.inj hs], stage⟩) id
  | @markReady t d m claimed text db stage run =>
    obtain ⟨hid, hclaim⟩ := hbacked.claimOf stage rfl
    have hwrite := DocumentIngestionService.markReady_write settings.maxAttempts hclaim run
    exact workerWrite_change (d := d) (hid ▸ hwrite) (fun s hs ↦ absurd hs (by simp)) id
  | @markFailed t d m claimed code db stage run =>
    obtain ⟨hid, hclaim⟩ := hbacked.claimOf stage rfl
    have hwrite := DocumentIngestionService.markFailed_write settings.maxAttempts hclaim run
    exact workerWrite_change (d := d) (hid ▸ hwrite) (fun s hs ↦ absurd hs (by simp)) id
  | @prepareRetry t d m code stage =>
    exact workerWrite_change (d := d)
      (DocumentIngestionService.prepareRetry_write _ m.versionId m.taskId code w.db)
      (fun s hs ↦ absurd hs (by simp)) id
  | @markExhausted t d m claimed db stage run =>
    obtain ⟨hid, hclaim⟩ := hbacked.claimOf stage rfl
    have hwrite := DocumentIngestionService.markFailed_write settings.maxAttempts hclaim run
    exact workerWrite_change (d := d) (hid ▸ hwrite) (fun s hs ↦ absurd hs (by simp)) id
  | _ => exact hnothing

/-- A version row is never deleted, and keeps its identity. -/
theorem VersionChange.kept {id : UUID} {version : DocumentVersion} {row : Option DocumentVersion}
    {added : List AuditEvent}
    (h : VersionChange settings w e w' id (some version) row added) :
    ∃ version', row = some version' ∧ version'.SameIdentity version := by
  cases h <;> exact ⟨_, rfl, rfl, rfl, rfl, rfl⟩

theorem Step.version_kept (hbacked : w.ClaimsBacked) (h : Step settings w e w') {id : UUID}
    {version : DocumentVersion} (hget : w.db.versions.get? id = some version) :
    ∃ version', w'.db.versions.get? id = some version' ∧ version'.SameIdentity version := by
  obtain ⟨added, hchange, -⟩ := h.version_change hbacked id
  rw [hget] at hchange
  exact hchange.kept

/-- An extracting row is an old one, unless the step began it. -/
theorem VersionChange.extracting {id : UUID} {row row' : Option DocumentVersion}
    {added : List AuditEvent} (h : VersionChange settings w e w' id row row' added)
    {version : DocumentVersion} (hrow : row' = some version)
    (hstatus : version.status = .extracting) :
    row = some version ∨ ∃ d m startedAt old, e.action = .workerClaim d startedAt ∧
      w.deliveries d = some ⟨m, .idle⟩ ∧ m.versionId = id ∧ row = some old ∧
        old.status = .queued := by
  cases h with
  | unchanged => exact Or.inl hrow
  | @begun old d m startedAt action delivery ofVersion queued below =>
    exact Or.inr ⟨d, m, startedAt, old, action, delivery, ofVersion, rfl, queued⟩
  | uploaded => cases hrow; cases hstatus
  | exhausted => cases hrow; cases hstatus
  | succeeded => cases hrow; cases hstatus
  | failed => cases hrow; cases hstatus
  | requeued => cases hrow; cases hstatus

/-! ### The coherence of a world -/

/-- A stored version has its document. -/
theorem Database.Consistent.loadLocked {db : Database} (h : db.Consistent) {versionId : UUID}
    {version : DocumentVersion} (hget : db.versions.get? versionId = some version) :
    ∃ document, DocumentIngestionService.loadLocked db versionId = some (document, version) := by
  obtain ⟨document, hdocument, horg⟩ := h.document_of_version version (Table.mem_of_get? hget)
  exact ⟨document, DocumentIngestionService.loadLocked_eq_some_iff.2 ⟨hget, hdocument, horg⟩⟩

theorem workerWrite_consistent {maxAttempts : ℕ} {versionId : UUID} {taskId : String}
    {startedAt : Option Instant} {db db' : Database} (hc : db.Consistent)
    (h : DocumentIngestionService.WorkerWrite maxAttempts versionId taskId startedAt db db') :
    db'.Consistent := by
  -- The row written back is the stored one with the same identity, and audit events do not matter.
  have hset : ∀ {version : DocumentVersion} (version' : DocumentVersion),
      db.versions.get? versionId = some version → version'.SameIdentity version →
        (db.setVersion version').Consistent := by
    intro version version' stored hsame
    have hkey : version.id = versionId := Table.key_of_get? stored
    exact hc.setVersion (hkey ▸ stored) hsame
  cases h with
  | nothing => exact hc
  | begin clock stored queued below => exact hset _ stored ⟨rfl, rfl, rfl, rfl⟩
  | @exhaust version stored =>
    exact (hset (version.fail .retryExhausted) stored ⟨rfl, rfl, rfl, rfl⟩).record _
  | @succeed version text stored =>
    exact (hset (version.succeed text) stored ⟨rfl, rfl, rfl, rfl⟩).record _
  | @fail version code stored =>
    exact (hset (version.fail code) stored ⟨rfl, rfl, rfl, rfl⟩).record _
  | requeue stored => exact hset _ stored ⟨rfl, rfl, rfl, rfl⟩

/-- Every step keeps the constraints of the schema. -/
theorem Step.consistent (hc : w.db.Consistent) (hbacked : w.ClaimsBacked)
    (h : Step settings w e w') : w'.db.Consistent := by
  cases h with
  | changeIdentity tables => exact hc.congr rfl rfl rfl
  | @upload t organizationId actorUserId staged ids db fresh run =>
    obtain ⟨db₁, db₂, event, hdocument, hversion, -, hintent⟩ :=
      DocumentService.persistUpload_inserts run
    have h₂ := (hc.insertDocument? hdocument).insertVersion? hversion
    exact (h₂.record event).insertIntent? hintent
  | backfill fresh run =>
    exact backfill_invariant (I := Database.Consistent) run hc
      fun version _ a b ha hinsert ↦ ha.insertIntent? hinsert
  | relayClaim fresh run =>
    rcases IngestionRelay.claim_spec run with ⟨-, rfl⟩ | ⟨intent, version, intent', hget, -, -,
      hexamined, rfl⟩
    · exact hc
    · exact hc.setIntent hget hexamined.identity
  | finish issued run =>
    rcases IngestionRelay.finish_spec run with ⟨-, rfl⟩ | ⟨-, intent, lease, hget, -, -, -, rfl⟩
    · exact hc
    · exact hc.setIntent (Table.get?_key (Table.mem_of_get? hget)) ⟨rfl, rfl, rfl, rfl⟩
  | @settleTerminal t locked =>
    refine hc.of_intents rfl rfl fun i hi ↦ ?_
    have hget' := Table.get?_key hi
    rcases hget : w.db.intents.get? (key i) with - | intent
    · have hnone := IngestionRelay.settleTerminal_row_none t locked hget
      exact absurd (hget'.symm.trans hnone) (by simp)
    · refine ⟨intent, Table.mem_of_get? hget, ?_⟩
      rcases IngestionRelay.settleTerminal_row t locked hget with hsame |
        ⟨hsettled, -⟩
      · obtain rfl := Option.some.inj (hget'.symm.trans hsame)
        exact ⟨rfl, rfl, rfl, rfl⟩
      · obtain rfl := Option.some.inj (hget'.symm.trans hsettled)
        exact ⟨rfl, rfl, rfl, rfl⟩
  | @cleanup t limit n locked db run =>
    obtain ⟨hd, hv, -⟩ := IngestionRelay.cleanup_frame run
    refine hc.of_intents hd hv fun i hi ↦ ?_
    have hget' := Table.get?_key (t := db.intents) hi
    rcases hget : w.db.intents.get? (key i) with - | intent
    · exact absurd (hget'.symm.trans (IngestionRelay.cleanup_row_none run hget)) (by simp)
    · refine ⟨intent, Table.mem_of_get? hget, ?_⟩
      rcases IngestionRelay.cleanup_row run hget with hsame | ⟨hnone, -⟩
      · obtain rfl := Option.some.inj (hget'.symm.trans hsame)
        exact ⟨rfl, rfl, rfl, rfl⟩
      · exact absurd (hget'.symm.trans hnone) (by simp)
  | @rearm t _ _ _ _ _ _ _ _ _ run =>
    obtain ⟨intent, version, event, hget, -, -, -, -, -, -, -, -, -, -, rfl⟩ :=
      rearmIntent_spec run
    have hset : (w.db.setIntent (intent.rearm t)).Consistent :=
      hc.setIntent (Table.get?_key (Table.mem_of_get? hget)) ⟨rfl, rfl, rfl, rfl⟩
    exact hset.record event
  | workerClaim stage run =>
    exact workerWrite_consistent hc (DocumentIngestionService.claim_write run)
  | markReady stage run =>
    exact workerWrite_consistent hc (DocumentIngestionService.markReady_write 0
      (hbacked.claimOf stage rfl).2 run)
  | markFailed stage run =>
    exact workerWrite_consistent hc (DocumentIngestionService.markFailed_write 0
      (hbacked.claimOf stage rfl).2 run)
  | prepareRetry stage =>
    exact workerWrite_consistent hc (DocumentIngestionService.prepareRetry_write 0
      _ _ _ w.db)
  | markExhausted stage run =>
    exact workerWrite_consistent hc (DocumentIngestionService.markFailed_write 0
      (hbacked.claimOf stage rfl).2 run)
  | _ => exact hc

/-- **A coherent world**: the constraints hold, claimed records are backed by versions, and every id
in use was drawn. -/
structure World.Coherent (w : World) : Prop where
  consistent : w.db.Consistent
  claims_backed : w.ClaimsBacked
  versions_drawn : ∀ id v, w.db.versions.get? id = some v → id ∈ w.generated
  intents_drawn : ∀ id i, w.db.intents.get? id = some i → id ∈ w.generated
  /-- An id not drawn yet has no terminal event. -/
  events_drawn : ∀ id, id ∉ w.generated → terminalEvents id w.db.audit = []
  broker_drawn : ∀ m ∈ w.broker, m.versionId ∈ w.generated
  deliveries_drawn : ∀ d m stage, w.deliveries d = some ⟨m, stage⟩ → m.versionId ∈ w.generated
  issued_drawn : ∀ p ∈ w.issued,
    p.intentId ∈ w.generated ∧ p.versionId ∈ w.generated ∧ p.token ∈ w.generated
  pending_issued : ∀ p ∈ w.pending, p ∈ w.issued
  uploads_drawn : ∀ ids ∈ w.uploads, ∀ id ∈ ids.draws, id ∈ w.generated

theorem World.Initial.coherent (h : w.Initial) : w.Coherent where
  consistent := h.consistent
  claims_backed d m stage hd := absurd (hd.symm.trans (h.nothing_delivered d)) (by simp)
  versions_drawn id v hv := Table.key_of_get? hv ▸ h.versions_drawn v (Table.mem_of_get? hv)
  intents_drawn id i hi := by
    have hmem : i ∈ w.db.intents.rows := Table.mem_of_get? hi
    exact absurd (h.no_intents ▸ hmem) List.not_mem_nil
  events_drawn id hid := by
    refine List.filter_eq_nil_iff.2 fun event hevent ↦ ?_
    simp only [decide_eq_true_eq, not_and]
    exact fun _ hresource ↦ hid (h.audit_drawn event hevent id hresource)
  broker_drawn := h.broker_drawn
  deliveries_drawn d m stage hd := absurd (hd.symm.trans (h.nothing_delivered d)) (by simp)
  issued_drawn p hp := absurd (h.nothing_issued.1 ▸ hp) List.not_mem_nil
  pending_issued p hp := absurd (h.nothing_issued.2 ▸ hp) List.not_mem_nil
  uploads_drawn ids hids := absurd (h.no_uploads ▸ hids) List.not_mem_nil

/-- Every step keeps a world coherent. -/
theorem Step.coherent (hw : w.Coherent) (h : Step settings w e w') : w'.Coherent where
  consistent := h.consistent hw.consistent hw.claims_backed
  claims_backed d m stage hd c hc := by
    have hbacked : stage.Backed w m := by
      rcases h.delivery hd with hsame | ⟨-, hbacked⟩
      · exact hw.claims_backed d m stage hsame
      · exact hbacked
    obtain ⟨v, hv, hid, horg, hnumber⟩ := hbacked c hc
    obtain ⟨v', hv', hid', horg', -, hnumber'⟩ := h.version_kept hw.claims_backed hv
    exact ⟨v', hv', hid.trans hid'.symm, horg.trans horg'.symm, hnumber.trans hnumber'.symm⟩
  versions_drawn id v hv := by
    obtain ⟨added, hchange, -⟩ := h.version_change hw.claims_backed id
    rw [hv] at hchange
    rcases hrow : w.db.versions.get? id with - | v₀
    · rw [hrow] at hchange
      cases hchange with
      | uploaded action versionId fresh drawn => exact drawn
    · exact h.generated_mono (hw.versions_drawn id v₀ hrow)
  intents_drawn id i hi := by
    have hchange := h.intent_change id
    rw [hi] at hchange
    rcases hrow : w.db.intents.get? id with - | i₀
    · rw [hrow] at hchange
      cases hchange with
      | uploaded action intentId fresh drawn => exact drawn
      | backfilled action fresh drawn => exact drawn
    · exact h.generated_mono (hw.intents_drawn id i₀ hrow)
  events_drawn id hid := by
    have hid₀ : id ∉ w.generated := fun hmem ↦ hid (h.generated_mono hmem)
    obtain ⟨added, hchange, hevents⟩ := h.version_change hw.claims_backed id
    rw [hevents, hw.events_drawn id hid₀]
    have hrow : w.db.versions.get? id = none := by
      rcases hget : w.db.versions.get? id with - | v
      · rfl
      · exact absurd (hw.versions_drawn id v hget) hid₀
    rw [hrow] at hchange
    generalize w'.db.versions.get? id = row at hchange
    cases hchange <;> rfl
  broker_drawn m hm := by
    rcases h.broker hm with hold | ⟨p, hp, rfl⟩ | ⟨d, m₀, stage, hd, hversion, -⟩
    · exact h.generated_mono (hw.broker_drawn m hold)
    · exact h.generated_mono (hw.issued_drawn p (hw.pending_issued p hp)).2.1
    · rw [hversion]
      exact h.generated_mono (hw.deliveries_drawn d m₀ stage hd)
  deliveries_drawn d m stage hd := by
    rcases h.delivery hd with hsame | ⟨⟨stage', hsame⟩ | ⟨-, hknown⟩, -⟩
    · exact h.generated_mono (hw.deliveries_drawn d m stage hsame)
    · exact h.generated_mono (hw.deliveries_drawn d m stage' hsame)
    · exact h.generated_mono hknown
  issued_drawn p hp := by
    rcases h.issued hp with hold | ⟨-, -, htoken, intent, version, hget, hversion, hpub⟩
    · obtain ⟨hintent, hversion, htoken⟩ := hw.issued_drawn p hold
      exact ⟨h.generated_mono hintent, h.generated_mono hversion, h.generated_mono htoken⟩
    · refine ⟨h.generated_mono (hw.intents_drawn _ _ hget), ?_, htoken⟩
      have hstored := (IngestionRelay.versionOf_eq_some_iff.1 hversion).1
      have hid : p.versionId = intent.documentVersionId := by
        rw [hpub]
        exact Table.key_of_get? hstored
      rw [hid]
      exact h.generated_mono (hw.versions_drawn _ _ hstored)
  pending_issued p hp := by
    rcases h.pending hp with hold | ⟨-, hnew⟩
    · exact h.issued_mono (hw.pending_issued p hold)
    · exact hnew
  uploads_drawn ids hids id hid := by
    have hold : ids ∈ w.uploads → id ∈ w'.generated :=
      fun hmem ↦ h.generated_mono (hw.uploads_drawn ids hmem id hid)
    cases h with
    | upload fresh run =>
      rcases List.mem_append.1 hids with hmem | hmem
      · exact hold hmem
      · exact List.mem_append_right _ (List.mem_singleton.1 hmem ▸ hid)
    | _ => exact hold hids

/-- **Every reachable world is coherent.** -/
theorem reachable_coherent (h : (ingestion settings).Reachable w) : w.Coherent :=
  h.invariant (I := World.Coherent) (fun _ h₀ ↦ World.Initial.coherent h₀)
    fun _ _ _ _ hw hstep ↦ Step.coherent hw hstep

/-! ### Uploads -/

/-- **An upload**, as a step: the version and its intent appear together, under ids just drawn. -/
theorem Step.uploaded (h : Step settings w e w') {ids : DocumentService.UploadIds}
    (haction : e.action = .upload ids) :
    ∃ organizationId staged,
      w'.db.versions.get? ids.versionId =
          some (DocumentService.newVersion organizationId staged ids e.now) ∧
        w'.db.intents.get? ids.intentId =
          some (.create ids.intentId organizationId ids.versionId ids.taskUuid.str e.now) ∧
        ids.versionId ∉ w.generated ∧ ids.intentId ∉ w.generated ∧
          terminalEvents ids.versionId w'.db.audit = terminalEvents ids.versionId w.db.audit := by
  cases h with
  | @upload t organizationId actorUserId staged ids₀ db fresh run =>
    obtain rfl : ids₀ = ids := Action.upload.inj haction
    obtain ⟨hversions, hintents, event, hevent, haudit⟩ := DocumentService.persistUpload_spec run
    refine ⟨organizationId, staged, ?_, ?_, fresh _ (by simp [DocumentService.UploadIds.draws]),
      fresh _ (by simp [DocumentService.UploadIds.draws]), ?_⟩
    · show db.versions.get? ids₀.versionId = _
      rw [Table.get?_of_insert? hversions]
      exact if_pos rfl
    · show db.intents.get? ids₀.intentId = _
      rw [Table.get?_of_insert? hintents]
      exact if_pos rfl
    · show terminalEvents ids₀.versionId db.audit = _
      rw [haudit]
      exact terminalEvents_append_action (by simp [hevent]) (by simp [hevent])
  | _ => exact nomatch haction

/-- A step that leaves no row, or that finds none, is no claim that selected the intent. -/
theorem Step.exitFor_eq_none (h : Step settings w e w') {id : UUID}
    (hnone : w.db.intents.get? id = none ∨ w'.db.intents.get? id = none) : e.exitFor id = none := by
  rcases (h.intent_change id).exit fun i hi ↦ Table.key_of_get? hi with hexit | ⟨i, i', -, -, -, hi,
    hi', -⟩
  · exact hexit
  · rcases hnone with hnone | hnone
    · exact absurd (hi.symm.trans hnone) (by simp)
    · exact absurd (hi'.symm.trans hnone) (by simp)

/-- No claim selects an intent whose id is not drawn. -/
theorem Step.exitFor_unborn (hw : w.Coherent) (h : Step settings w e w') {id : UUID}
    (hid : id ∉ w.generated) : e.exitFor id = none := by
  refine h.exitFor_eq_none (Or.inl ?_)
  rcases hget : w.db.intents.get? id with - | i
  · rfl
  · exact absurd (hw.intents_drawn id i hget) hid

/-! ### The invariant rules of rows -/

section Rules

variable {M : TransitionSystem World Event}

/-- **The invariant rule for intents**, in the ingestion system or a restriction of it: what holds
of a new intent and is kept by every change holds of every intent in every reachable world. -/
theorem intent_rule (hinit : ∀ w, M.init w → w.Initial)
    (hsteps : ∀ w e w', M.step w e w' → Step settings w e w')
    {P : World → DocumentIngestionIntent → Prop}
    (hcreate : ∀ w e w' id organizationId versionId taskId, M.Reachable w → M.step w e w' →
      P w' (.create id organizationId versionId taskId e.now))
    (hchange : ∀ w e w' id i i', M.Reachable w → M.step w e w' →
      w.db.intents.get? id = some i → IntentChange settings w e w' id (some i) (some i') →
        P w i → P w' i')
    (hw : M.Reachable w) {id : UUID} {intent : DocumentIngestionIntent}
    (hget : w.db.intents.get? id = some intent) : P w intent := by
  refine hw.invariant (I := fun w ↦ ∀ i, w.db.intents.get? id = some i → P w i) ?_ ?_ intent hget
  · intro w₀ h₀ i hi
    have hmem : i ∈ w₀.db.intents.rows := Table.mem_of_get? hi
    exact absurd ((hinit w₀ h₀).no_intents ▸ hmem) List.not_mem_nil
  · intro a e b ha hI hstep i' hi'
    have hrow := (hsteps a e b hstep).intent_change id
    rw [hi'] at hrow
    rcases hget : a.db.intents.get? id with - | i
    · rw [hget] at hrow
      cases hrow with
      | uploaded => exact hcreate a e b _ _ _ _ ha hstep
      | backfilled => exact hcreate a e b _ _ _ _ ha hstep
    · rw [hget] at hrow
      exact hchange a e b id i i' ha hstep hget hrow (hI i hget)

end Rules

/-- A changed intent keeps its identity. -/
theorem IntentChange.identity {id : UUID} {intent intent' : DocumentIngestionIntent}
    (h : IntentChange settings w e w' id (some intent) (some intent')) :
    intent'.SameIdentity intent := by
  cases h with
  | examined action fresh due stored examined => exact examined.identity
  | _ => exact ⟨rfl, rfl, rfl, rfl⟩

end SupportFlow
