import SupportFlow.Database
import SupportFlow.Foundations.Python

/-!
# The upload transaction

`create_upload` commits a document, its first version, the audit event and the ingestion intent in
one transaction (`stage_upload_with_intent`). The inserts enforce the schema's keys: the foreign
keys from version to document and from intent to version, and the unique constraints on an intent's
version and task id. A violated constraint raises, and the transaction rolls back.

The schema's CHECK constraints only reject rows; every transaction may fail for reasons of its own,
so they are not repeated here.
-/

namespace SupportFlow

/-- Two intents for the same version of the same organization (`uq_ingestion_outbox_version`). -/
def DocumentIngestionIntent.SameVersion (i j : DocumentIngestionIntent) : Prop :=
  i.organizationId = j.organizationId ∧ i.documentVersionId = j.documentVersionId

instance (i j : DocumentIngestionIntent) : Decidable (i.SameVersion j) :=
  inferInstanceAs (Decidable (_ ∧ _))

namespace Database

variable (db : Database)

/-- `INSERT INTO documents`. -/
def insertDocument? (document : Document) : Option Database :=
  (db.documents.insert? document).map fun documents ↦ { db with documents := documents }

/-- `INSERT INTO document_versions`: the document exists in the organization, and neither its
version number nor the storage key is taken. -/
def insertVersion? (version : DocumentVersion) : Option Database :=
  if (∃ document ∈ db.documents.get? version.documentId,
        document.organizationId = version.organizationId) ∧
      ∀ v ∈ db.versions.rows, v.storageKey ≠ version.storageKey ∧
        ¬(v.organizationId = version.organizationId ∧ v.documentId = version.documentId ∧
          v.versionNumber = version.versionNumber) then
    (db.versions.insert? version).map fun versions ↦ { db with versions := versions }
  else none

/-- `INSERT INTO document_ingestion_outbox`: the version exists in the organization, has no intent
yet, and the task id is unused. -/
def insertIntent? (intent : DocumentIngestionIntent) : Option Database :=
  if (∃ version ∈ db.versions.get? intent.documentVersionId,
        version.organizationId = intent.organizationId) ∧
      ∀ i ∈ db.intents.rows, ¬i.SameVersion intent ∧ i.taskId ≠ intent.taskId then
    (db.intents.insert? intent).map fun intents ↦ { db with intents := intents }
  else none

end Database

inductive UploadError
  | expectedNewUpload
  | invalidTaskIdentity
  | auditMetadata (error : AuditMetadataError)
  | integrityError
  deriving DecidableEq, Repr

/-- `IngestionIntentRepository.add`, with the flush that inserts the row. -/
def IngestionIntentRepository.add (organizationId versionId : UUID) (taskId : String)
    (intentId : UUID) (now : Instant) (db : Database) : Except UploadError Database :=
  if taskId = "" ∨ taskId ≠ Python.strip taskId ∨ 255 < taskId.length then
    .error .invalidTaskIdentity
  else
    match db.insertIntent? (.create intentId organizationId versionId taskId now) with
    | none => .error .integrityError
    | some db => .ok db

/-- `IngestionIntentRepository.get_for_version`. -/
def IngestionIntentRepository.getForVersion (organizationId versionId : UUID) (db : Database) :
    Option DocumentIngestionIntent :=
  db.intents.rows.find? fun intent ↦
    intent.organizationId = organizationId ∧ intent.documentVersionId = versionId

/-- `stage_upload_with_intent`, in the caller's transaction. The two generated identifiers are the
intent's key and the UUID whose text is the task id. -/
def stageUploadWithIntent (organizationId : UUID) (document : Document)
    (version : DocumentVersion) (intentId taskUuid : UUID) (now : Instant) (db : Database) :
    Except UploadError Database :=
  if document.organizationId ≠ organizationId ∨ version.organizationId ≠ organizationId ∨
      version.documentId ≠ document.id ∨ version.status ≠ .queued ∨
        version.processingTaskId ≠ none ∨ version.attemptCount ≠ 0 then
    .error .expectedNewUpload
  else
    match db.insertDocument? document with
    | none => .error .integrityError
    | some db =>
      match db.insertVersion? version with
      | none => .error .integrityError
      | some db =>
        match AuditEventService.recordDocumentUploaded organizationId document.createdByUserId
            document.id version.versionNumber version.mediaType version.sizeBytes with
        | .error error => .error (.auditMetadata error)
        | .ok event =>
          IngestionIntentRepository.add organizationId version.id taskUuid.str intentId now
            (db.record event)

namespace DocumentService

/-- What `stage_document_upload` established about an upload. -/
structure StagedUpload where
  displayFilename : String
  mediaType : DocumentMediaType
  sizeBytes : ℕ
  contentSha256 : String
  deriving DecidableEq, Repr

/-- The identifiers `create_upload` and the intent row draw from `uuid4`. -/
structure UploadIds where
  documentId : UUID
  versionId : UUID
  intentId : UUID
  taskUuid : UUID
  deriving DecidableEq, Repr

def buildStorageKey (organizationId documentId versionId : UUID) : String :=
  "organizations/" ++ organizationId.str ++ "/documents/" ++ documentId.str ++ "/versions/" ++
    versionId.str

/-- The `Document` that `create_upload` constructs. -/
def newDocument (organizationId actorUserId : UUID) (staged : StagedUpload) (ids : UploadIds) :
    Document where
  id := ids.documentId
  organizationId := organizationId
  displayFilename := staged.displayFilename
  createdByUserId := actorUserId

/-- The `DocumentVersion` that `create_upload` constructs: version 1, queued, no attempt yet. -/
def newVersion (organizationId : UUID) (staged : StagedUpload) (ids : UploadIds)
    (now : Instant) : DocumentVersion where
  id := ids.versionId
  organizationId := organizationId
  documentId := ids.documentId
  versionNumber := 1
  mediaType := staged.mediaType
  sizeBytes := staged.sizeBytes
  contentSha256 := staged.contentSha256
  storageKey := buildStorageKey organizationId ids.documentId ids.versionId
  status := .queued
  extractedText := none
  attemptCount := 0
  processingTaskId := none
  processingStartedAt := none
  errorCode := none
  createdAt := now

/-- The database transaction of `create_upload`. -/
def persistUpload (organizationId actorUserId : UUID) (staged : StagedUpload) (ids : UploadIds)
    (now : Instant) (db : Database) : Except UploadError Database :=
  stageUploadWithIntent organizationId (newDocument organizationId actorUserId staged ids)
    (newVersion organizationId staged ids now) ids.intentId ids.taskUuid now db

end DocumentService

/-! ### What the inserts do -/

namespace Database

variable {db db' : Database}

theorem insertDocument?_spec {document : Document} (h : db.insertDocument? document = some db') :
    db.documents.insert? document = some db'.documents ∧ db'.versions = db.versions ∧
      db'.intents = db.intents ∧ db'.audit = db.audit := by
  obtain ⟨documents, hdocuments, rfl⟩ := Option.map_eq_some_iff.1 h
  exact ⟨hdocuments, rfl, rfl, rfl⟩

theorem insertVersion?_spec {version : DocumentVersion}
    (h : db.insertVersion? version = some db') :
    (∃ document, db.documents.get? version.documentId = some document ∧
      document.organizationId = version.organizationId) ∧
      db.versions.insert? version = some db'.versions ∧ db'.documents = db.documents ∧
        db'.intents = db.intents ∧ db'.audit = db.audit := by
  unfold insertVersion? at h
  split at h
  · next hkeys =>
    obtain ⟨versions, hversions, rfl⟩ := Option.map_eq_some_iff.1 h
    exact ⟨hkeys.1, hversions, rfl, rfl, rfl⟩
  · exact absurd h (by simp)

theorem insertIntent?_spec {intent : DocumentIngestionIntent}
    (h : db.insertIntent? intent = some db') :
    (∃ version, db.versions.get? intent.documentVersionId = some version ∧
      version.organizationId = intent.organizationId) ∧
      (∀ i ∈ db.intents, ¬i.SameVersion intent ∧ i.taskId ≠ intent.taskId) ∧
        db.intents.insert? intent = some db'.intents ∧ db'.documents = db.documents ∧
          db'.versions = db.versions ∧ db'.audit = db.audit := by
  unfold insertIntent? at h
  split at h
  · next hkeys =>
    obtain ⟨intents, hintents, rfl⟩ := Option.map_eq_some_iff.1 h
    exact ⟨hkeys.1, hkeys.2, hintents, rfl, rfl, rfl⟩
  · exact absurd h (by simp)

end Database

theorem IngestionIntentRepository.add_spec {organizationId versionId intentId : UUID}
    {taskId : String} {now : Instant} {db db' : Database}
    (h : add organizationId versionId taskId intentId now db = .ok db') :
    db.insertIntent? (.create intentId organizationId versionId taskId now) = some db' := by
  unfold add at h
  split at h
  · exact nomatch h
  · split at h
    · exact nomatch h
    · next hinsert => rw [hinsert, Except.ok.inj h]

/-- A committed upload is three inserts with one audit event between them. -/
theorem DocumentService.persistUpload_inserts {organizationId actorUserId : UUID}
    {staged : StagedUpload} {ids : UploadIds} {now : Instant} {db db' : Database}
    (h : persistUpload organizationId actorUserId staged ids now db = .ok db') :
    ∃ db₁ db₂ event,
      db.insertDocument? (newDocument organizationId actorUserId staged ids) = some db₁ ∧
        db₁.insertVersion? (newVersion organizationId staged ids now) = some db₂ ∧
          event.action = .documentUploaded ∧
            (db₂.record event).insertIntent?
              (.create ids.intentId organizationId ids.versionId ids.taskUuid.str now) =
                some db' := by
  unfold persistUpload stageUploadWithIntent at h
  split at h
  · exact nomatch h
  split at h
  · exact nomatch h
  next db₁ hdocument =>
  split at h
  · exact nomatch h
  next db₂ hversion =>
  split at h
  · exact nomatch h
  next event hevent =>
  have haction : event.action = .documentUploaded := by
    unfold AuditEventService.recordDocumentUploaded at hevent
    split at hevent
    · exact nomatch hevent
    · rw [← Except.ok.inj hevent]
  exact ⟨db₁, db₂, event, hdocument, hversion, haction, IngestionIntentRepository.add_spec h⟩

/-- **A committed upload**: the version and its intent are inserted together, under keys that were
free, and the only audit event added is the upload's own. -/
theorem DocumentService.persistUpload_spec {organizationId actorUserId : UUID}
    {staged : StagedUpload} {ids : UploadIds} {now : Instant} {db db' : Database}
    (h : persistUpload organizationId actorUserId staged ids now db = .ok db') :
    db.versions.insert? (newVersion organizationId staged ids now) = some db'.versions ∧
      db.intents.insert? (.create ids.intentId organizationId ids.versionId ids.taskUuid.str now) =
        some db'.intents ∧
      ∃ event, event.action = .documentUploaded ∧ db'.audit = db.audit ++ [event] := by
  obtain ⟨db₁, db₂, event, hdocument, hversion, haction, hintent⟩ := persistUpload_inserts h
  obtain ⟨-, hv₁, hi₁, ha₁⟩ := Database.insertDocument?_spec hdocument
  obtain ⟨-, hversions, -, hi₂, ha₂⟩ := Database.insertVersion?_spec hversion
  obtain ⟨-, -, hintents, -, hv₃, ha₃⟩ := Database.insertIntent?_spec hintent
  refine ⟨?_, ?_, event, haction, ?_⟩
  · rw [hv₃, Database.record_versions, ← hv₁, hversions]
  · rw [← hi₁, ← hi₂]
    exact hintents
  · rw [ha₃, Database.record_audit, ha₂, ha₁]

/-- **The whole effect of a committed upload**: a document, its first version and its intent, under
keys that were free, and the audit row. -/
theorem DocumentService.persistUpload_eq_ok {organizationId actorUserId : UUID}
    {staged : StagedUpload} {ids : UploadIds} {now : Instant} {db db' : Database}
    (h : persistUpload organizationId actorUserId staged ids now db = .ok db') :
    ∃ documents versions intents,
      db.documents.insert? (newDocument organizationId actorUserId staged ids) = some documents ∧
      db.versions.insert? (newVersion organizationId staged ids now) = some versions ∧
      (∀ i ∈ db.intents, ¬i.SameVersion
        (.create ids.intentId organizationId ids.versionId ids.taskUuid.str now) ∧
          i.taskId ≠ ids.taskUuid.str) ∧
      db.intents.insert? (.create ids.intentId organizationId ids.versionId ids.taskUuid.str now) =
        some intents ∧
      db' = { db with
        documents := documents
        versions := versions
        intents := intents
        audit := db.audit ++ [AuditEventService.documentUploaded organizationId actorUserId
          ids.documentId 1 staged.mediaType staged.sizeBytes] } := by
  unfold persistUpload stageUploadWithIntent at h
  split at h
  · exact nomatch h
  split at h
  · exact nomatch h
  next db₁ hdocument =>
  split at h
  · exact nomatch h
  next db₂ hversion =>
  split at h
  · exact nomatch h
  next event hevent =>
  obtain ⟨-, rfl⟩ := AuditEventService.recordDocumentUploaded_eq_ok_iff.1 hevent
  obtain ⟨documents, hdocuments, rfl⟩ := Option.map_eq_some_iff.1 hdocument
  unfold Database.insertVersion? at hversion
  split at hversion
  swap
  · cases hversion
  obtain ⟨versions, hversions, rfl⟩ := Option.map_eq_some_iff.1 hversion
  have hintent := IngestionIntentRepository.add_spec h
  unfold Database.insertIntent? at hintent
  split at hintent
  swap
  · cases hintent
  next hkeys =>
  obtain ⟨intents, hintents, rfl⟩ := Option.map_eq_some_iff.1 hintent
  exact ⟨documents, versions, intents, hdocuments, hversions, hkeys.2, hintents, rfl⟩

end SupportFlow
