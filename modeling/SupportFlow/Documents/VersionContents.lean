import SupportFlow.Documents.Changes

/-!
# What a version describes, and the text that was made of it

The row of a version describes an object: its key, its media type, its size and its digest. No
transaction changes that or deletes the row, and only `_mark_ready` stores a text (`ContentsKept`,
for the transactions of a worker and for every step of the ingestion system).
-/

namespace SupportFlow

/-- The object that a version is about. -/
structure ObjectDescription where
  storageKey : String
  mediaType : DocumentMediaType
  sizeBytes : ℕ
  contentSha256 : String

def DocumentVersion.object (version : DocumentVersion) : ObjectDescription :=
  ⟨version.storageKey, version.mediaType, version.sizeBytes, version.contentSha256⟩

def ClaimedDocumentVersion.object (claimed : ClaimedDocumentVersion) : ObjectDescription :=
  ⟨claimed.storageKey, claimed.mediaType, claimed.sizeBytes, claimed.contentSha256⟩

/-- The versions are there and describe what they did, and what is a new text of one is among
`stored`. -/
structure ContentsKept (stored : UUID → String → Prop) (db db' : Database) : Prop where
  kept : ∀ id version, db.versions.get? id = some version →
    ∃ version', db'.versions.get? id = some version' ∧ version'.object = version.object
  texts : ∀ id version' text, db'.versions.get? id = some version' →
    version'.extractedText = some text →
      stored id text ∨
        ∃ version, db.versions.get? id = some version ∧ version.extractedText = some text

namespace ContentsKept

variable {stored stored' : UUID → String → Prop} {db db' : Database}

theorem imp (h : ContentsKept stored db db') (himp : ∀ id text, stored id text → stored' id text) :
    ContentsKept stored' db db' where
  kept := h.kept
  texts id version' text hget htext := (h.texts id version' text hget htext).imp_left (himp id text)

/-- A transaction that leaves the versions alone. -/
theorem of_versions (h : db'.versions = db.versions) : ContentsKept stored db db' where
  kept _ version hget := ⟨version, h ▸ hget, rfl⟩
  texts _ version' _ hget htext := Or.inr ⟨version', h ▸ hget, htext⟩

theorem refl (db : Database) : ContentsKept stored db db :=
  of_versions rfl

/-- A transaction that writes one version back. -/
theorem of_setVersion {version : DocumentVersion} (version' : DocumentVersion)
    (hget : db.versions.get? version.id = some version) (hid : version'.id = version.id)
    (hobject : version'.object = version.object)
    (htext : ∀ text, version'.extractedText = some text →
      stored version.id text ∨ version.extractedText = some text)
    (h : db'.versions = (db.setVersion version').versions) : ContentsKept stored db db' where
  kept id old hold := by
    rw [h, get?_setVersion hget hid]
    split
    · next heq =>
      subst heq
      obtain rfl : version = old := Option.some.inj (hget.symm.trans hold)
      exact ⟨version', rfl, hobject⟩
    · exact ⟨old, hold, rfl⟩
  texts id new text hnew hnewText := by
    rw [h, get?_setVersion hget hid] at hnew
    split at hnew
    · next heq =>
      subst heq
      obtain rfl := Option.some.inj hnew
      exact (htext text hnewText).imp id fun hold ↦ ⟨version, hget, hold⟩
    · exact Or.inr ⟨new, hnew, hnewText⟩

/-- A transaction that adds a version without a text. -/
theorem of_insert {version : DocumentVersion}
    (h : db.versions.insert? version = some db'.versions) (htext : version.extractedText = none) :
    ContentsKept stored db db' where
  kept id old hold := by
    rw [Table.get?_of_insert? h]
    split
    · next heq =>
      subst heq
      rw [(Table.insert?_eq_some_iff.1 h).1] at hold
      cases hold
    · exact ⟨old, hold, rfl⟩
  texts id new text hnew hnewText := by
    rw [Table.get?_of_insert? h] at hnew
    split at hnew
    · obtain rfl := Option.some.inj hnew
      rw [htext] at hnewText
      cases hnewText
    · exact Or.inr ⟨new, hnew, hnewText⟩

end ContentsKept

/-! ### The transactions of a worker -/

namespace DocumentIngestionService

variable {stored : UUID → String → Prop} {db db' : Database} {versionId : UUID} {taskId : String}
  {claimed : ClaimedDocumentVersion}

theorem get?_id {version : DocumentVersion} (h : db.versions.get? versionId = some version) :
    db.versions.get? version.id = some version := by
  have hkey : version.id = versionId := Table.key_of_get? h
  rwa [hkey]

theorem claim_contents {maxAttempts : ℕ} {startedAt : Instant} {result : ClaimResult}
    (h : claim maxAttempts startedAt versionId taskId db = .ok (result, db')) :
    ContentsKept stored db db' := by
  rcases claim_spec h with ⟨-, rfl⟩ | ⟨-, -, -, -, -, -, rfl⟩ |
    ⟨version, -, hget, -, -, -, -, rfl⟩ | ⟨version, hget, -, -, -, rfl⟩
  · exact .refl _
  · exact .refl _
  · exact .of_setVersion (version.begin taskId startedAt) (get?_id hget) rfl rfl
      (fun _ ↦ Or.inr) rfl
  · exact .of_setVersion (version.fail .retryExhausted) (get?_id hget) rfl rfl
      (fun _ htext ↦ by cases htext) rfl

/-- A claim hands out what the row describes. -/
theorem claim_object {maxAttempts : ℕ} {startedAt : Instant}
    (h : claim maxAttempts startedAt versionId taskId db = .ok (.claimed claimed, db')) :
    claimed.versionId = versionId ∧
      ∃ version, db.versions.get? versionId = some version ∧ claimed.object = version.object := by
  obtain ⟨version, hget, hid, -⟩ := claim_claimOf h
  refine ⟨hid.trans (Table.key_of_get? hget), version, hget, ?_⟩
  unfold claim at h
  rcases hload : loadLocked db versionId with - | ⟨document, loaded⟩
  · simp only [hload, Except.ok.injEq, Prod.mk.injEq] at h
    cases h.1
  · obtain rfl : version = loaded :=
      Option.some.inj (hget.symm.trans (loadLocked_eq_some_iff.1 hload).1)
    simp only [hload] at h
    cases hstatus : version.status with
    | ready | failed =>
      simp only [hstatus, Except.ok.injEq, Prod.mk.injEq] at h
      cases h.1
    | extracting =>
      simp only [hstatus] at h
      split at h
      · simp only [Except.ok.injEq, Prod.mk.injEq] at h
        cases h.1
      · simp only [Except.ok.injEq, Prod.mk.injEq, ClaimResult.claimed.injEq] at h
        rw [← h.1]
        rfl
    | queued =>
      simp only [hstatus] at h
      split at h
      · obtain ⟨event, -, heq⟩ := Except.map_eq_ok_iff.1 h
        simp only [Prod.mk.injEq] at heq
        cases heq.1
      · simp only [Except.ok.injEq, Prod.mk.injEq, ClaimResult.claimed.injEq] at h
        rw [← h.1]
        rfl

/-- Only here a text is stored. -/
theorem markReady_contents {extractedText : String}
    (h : markReady claimed taskId extractedText db = .ok db') :
    ContentsKept (fun id text ↦ claimed.versionId = id ∧ text = extractedText) db db' := by
  rcases markReady_spec h with rfl | ⟨version, hget, -, rfl⟩
  · exact .refl _
  · refine .of_setVersion (version.succeed extractedText) (get?_id hget) rfl rfl
      (fun text htext ↦ Or.inl ⟨?_, ?_⟩) rfl
    · exact (Table.key_of_get? hget).symm
    · exact (Option.some.inj htext).symm

theorem markFailed_contents {errorCode : DocumentErrorCode}
    (h : markFailed claimed taskId errorCode db = .ok db') : ContentsKept stored db db' := by
  rcases markFailed_spec h with rfl | ⟨version, hget, -, rfl⟩
  · exact .refl _
  · exact .of_setVersion (version.fail errorCode) (get?_id hget) rfl rfl
      (fun _ htext ↦ by cases htext) rfl

theorem prepareRetry_contents (versionId : UUID) (taskId : String) (errorCode : DocumentErrorCode)
    (db : Database) : ContentsKept stored db (prepareRetry versionId taskId errorCode db) := by
  rcases prepareRetry_spec versionId taskId errorCode db with h | ⟨version, hget, -, h⟩
  · rw [h]
    exact .refl _
  · exact .of_setVersion (version.requeue errorCode) (get?_id hget) rfl rfl
      (fun _ ↦ Or.inr) (congrArg _ h)

end DocumentIngestionService

/-! ### The system -/

/-- **Every step keeps the contents of the versions**, and the texts that are new are those of
`_mark_ready`. -/
theorem Step.contents {settings : Settings} {w w' : World} {e : Event} (h : Step settings w e w') :
    ContentsKept (fun _ text ↦ ∃ d, e.action = .markReady d text) w.db w'.db := by
  cases h with
  | upload fresh run =>
    exact .of_insert (DocumentService.persistUpload_spec run).1 rfl
  | backfill fresh run => exact .of_versions (backfill_rows run).1.2.1
  | relayClaim fresh run =>
    rcases IngestionRelay.claim_spec run with ⟨-, rfl⟩ | ⟨intent, version, intent', -, -, -, -, rfl⟩
    · exact .refl _
    · exact .of_versions rfl
  | finish issued run =>
    rcases IngestionRelay.finish_spec run with ⟨-, rfl⟩ | ⟨-, intent, lease, -, -, -, -, rfl⟩
    · exact .refl _
    · exact .of_versions rfl
  | cleanup run => exact .of_versions (IngestionRelay.cleanup_frame run).2.1
  | rearm run =>
    obtain ⟨intent, version, event, -, -, -, -, -, -, -, -, -, -, -, rfl⟩ := rearmIntent_spec run
    exact .of_versions rfl
  | workerClaim stage run => exact DocumentIngestionService.claim_contents run
  | @markReady t d m claimed text db stage run =>
    refine (DocumentIngestionService.markReady_contents run).imp ?_
    rintro id stored ⟨-, rfl⟩
    exact ⟨d, rfl⟩
  | markFailed stage run => exact DocumentIngestionService.markFailed_contents run
  | prepareRetry stage => exact DocumentIngestionService.prepareRetry_contents _ _ _ _
  | markExhausted stage run => exact DocumentIngestionService.markFailed_contents run
  | _ => exact .of_versions rfl

end SupportFlow
