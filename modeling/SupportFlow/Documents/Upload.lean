import SupportFlow.Documents.Validation

/-!
# Creating an upload

`create_upload` writes to two stores that share no transaction: the object first, and then the rows.
So there can be an object without rows, for a while, but never rows without an object. When the rows
fail, the object is deleted again; what remains of a failed upload is at most an object that
`delete` could not remove (`createUpload_spec`).

A step may fail for reasons of its own (`UploadFaults`). One that fails has changed nothing.
-/

namespace SupportFlow

namespace DocumentService

open Effect
open DocumentValidation (Unicode stageDocumentUpload)

/-- The steps that may fail for reasons of their own. -/
inductive UploadStep
  | put
  | addAll
  | flush (n : ℕ)
  | audit
  | commit
  | delete
deriving DecidableEq, Repr

/-- Which steps raise. -/
abbrev UploadFaults := UploadStep → Bool

/-- What `create_upload` works on. -/
structure UploadWorld where
  /-- The committed database. -/
  db : Database
  /-- The database as the open transaction sees it. -/
  session : Database
  /-- The storage. -/
  objects : String → Option (List UInt8)
  /-- The temporary file, if one was opened, and whether it is closed. -/
  file : Option (ByteFile × Bool)

/-- What a request starts from. -/
def UploadWorld.start (db : Database) (objects : String → Option (List UInt8)) : UploadWorld :=
  ⟨db, db, objects, none⟩

/-- What `create_upload` raises. -/
inductive CreateUploadError
  | validation (error : DocumentValidation.StagingError)
  | storageUnavailable
  | persistence
  /-- An exception of a step, before a handler turned it into one of the above. -/
  | raised
deriving DecidableEq, Repr

/-- The arguments of a call. -/
structure UploadRequest where
  organizationId : UUID
  actorUserId : UUID
  filename : Option String
  /-- What the reads of the source return after its `seek(0)`. -/
  source : List (Except Unit (List UInt8))
  maxUploadBytes : ℕ

/-- A step, up to its own failure. -/
def pass (faults : UploadFaults) (step : UploadStep) : Effect CreateUploadError UploadWorld PUnit :=
  raiseWhen (faults step = true) .raised

/-- A statement of the transaction; `none` is an exception. -/
def onSession (statement : Database → Option Database) :
    Effect CreateUploadError UploadWorld PUnit := do
  match statement (← get).session with
  | none => throw .raised
  | some db => update fun w ↦ { w with session := db }

/-- `stage_document_upload`. -/
def stageUpload (sha256 : List UInt8 → String) (u : Unicode) (request : UploadRequest) :
    Effect CreateUploadError UploadWorld StagedUpload := do
  let (result, file) :=
    stageDocumentUpload sha256 u request.filename request.source request.maxUploadBytes
  update fun w ↦ { w with file := file }
  MonadExcept.ofExcept (result.mapError .validation)

/-- `storage.put`, of the staged stream from its start. -/
def put (faults : UploadFaults) (storageKey : String) :
    Effect CreateUploadError UploadWorld PUnit := do
  pass faults .put
  update fun w ↦
    { w with objects := Function.update w.objects storageKey (w.file.map fun file ↦
      (file.1.seek 0).rest) }

/-- `storage.delete`. -/
def delete (faults : UploadFaults) (storageKey : String) :
    Effect CreateUploadError UploadWorld PUnit := do
  pass faults .delete
  update fun w ↦ { w with objects := Function.update w.objects storageKey none }

/-- `staged.close()`. -/
def closeStaged (w : UploadWorld) : UploadWorld :=
  { w with file := w.file.map fun file ↦ (file.1, true) }

/-- `stage_upload_with_intent`, step by step. -/
def stageRows (faults : UploadFaults) (organizationId : UUID) (document : Document)
    (version : DocumentVersion) (ids : UploadIds) (now : Instant) :
    Effect CreateUploadError UploadWorld PUnit := do
  raiseWhen (document.organizationId ≠ organizationId ∨ version.organizationId ≠ organizationId ∨
    version.documentId ≠ document.id ∨ version.status ≠ .queued ∨
      version.processingTaskId ≠ none ∨ version.attemptCount ≠ 0) .raised
  pass faults .addAll
  pass faults (.flush 0)
  onSession fun db ↦ db.insertDocument? document
  onSession fun db ↦ db.insertVersion? version
  pass faults .audit
  onSession fun db ↦ (AuditEventService.recordDocumentUploaded organizationId
    document.createdByUserId document.id version.versionNumber version.mediaType
      version.sizeBytes).toOption.map db.record
  pass faults (.flush 1)
  onSession fun db ↦ (IngestionIntentRepository.add organizationId version.id ids.taskUuid.str
    ids.intentId now db).toOption

/-- `session.commit()`. -/
def commit (faults : UploadFaults) : Effect CreateUploadError UploadWorld PUnit := do
  pass faults .commit
  update fun w ↦ { w with db := w.session }

/-- `session.rollback()`. -/
def rollback : Effect CreateUploadError UploadWorld PUnit :=
  update fun w ↦ { w with session := w.db }

/-- `_delete_after_failed_persistence`. -/
def deleteAfterFailedPersistence (faults : UploadFaults) (storageKey : String) :
    Effect CreateUploadError UploadWorld PUnit :=
  tryCatch (delete faults storageKey) fun _ ↦ pure ⟨⟩

/-- The outer `try`, from the object to the rows. -/
def storeUpload (faults : UploadFaults) (request : UploadRequest) (ids : UploadIds) (now : Instant)
    (staged : StagedUpload) :
    Effect CreateUploadError UploadWorld (Document × DocumentVersion) := do
  let storageKey := buildStorageKey request.organizationId ids.documentId ids.versionId
  -- A failed put needs no compensation: nothing is stored yet.
  tryCatch (put faults storageKey) fun _ ↦ throw .storageUnavailable
  let document := newDocument request.organizationId request.actorUserId staged ids
  let version := newVersion request.organizationId staged ids now
  tryCatch (do
    stageRows faults request.organizationId document version ids now
    commit faults) fun _ ↦ do
      rollback
      deleteAfterFailedPersistence faults storageKey
      throw .persistence
  return (document, version)

/-- `create_upload`. -/
def createUpload (sha256 : List UInt8 → String) (u : Unicode) (faults : UploadFaults)
    (request : UploadRequest) (ids : UploadIds) (now : Instant) :
    Effect CreateUploadError UploadWorld (Document × DocumentVersion) := do
  let staged ← stageUpload sha256 u request
  (storeUpload faults request ids now staged).ensuring closeStaged

/-! ### The steps -/

section Steps

variable {faults : UploadFaults} {w₀ : UploadWorld} {storageKey : String}

/-- Only the transaction has moved on. -/
def SameStores (w₀ w : UploadWorld) : Prop :=
  w.db = w₀.db ∧ w.objects = w₀.objects ∧ w.file = w₀.file

/-- A step that has not failed does nothing yet. -/
theorem pass_spec {P : UploadWorld → Prop} (step : UploadStep) :
    Spec P (pass faults step) (fun _ w ↦ P w ∧ faults step = false)
      fun _ w ↦ P w ∧ faults step = true :=
  Spec.raiseWhen (fun hfault _ hw ↦ ⟨hw, hfault⟩)
    fun hworks _ hw ↦ ⟨hw, Bool.eq_false_iff.2 hworks⟩

/-- Only the transaction has moved on, to a state like this. -/
structure Within (w₀ : UploadWorld) (R : Database → Prop) (w : UploadWorld) : Prop where
  same : SameStores w₀ w
  session : R w.session

/-- A statement is done, or raises and leaves the transaction as it is. -/
theorem onSession_spec {statement : Database → Option Database} {R : Database → Prop} :
    Spec (Within w₀ R) (onSession statement)
      (fun _ ↦ Within w₀ fun db' ↦ ∃ db, R db ∧ statement db = some db')
      fun _ ↦ SameStores w₀ := by
  intro w hw
  simp only [onSession, exec_bind, exec_get]
  cases hstatement : statement w.session with
  | none => exact hw.same
  | some db => exact ⟨hw.same, w.session, hw.session, hstatement⟩

theorem pass_within {R : Database → Prop} (step : UploadStep) :
    Spec (Within w₀ R) (pass faults step) (fun _ ↦ Within w₀ R) fun _ ↦ SameStores w₀ :=
  (pass_spec step).mono (fun _ h ↦ h) (fun _ _ h ↦ h.1) fun _ _ h ↦ h.1.same

/-- **The rows of an upload are staged as by the one transaction**, or it raises and nothing is
committed. -/
theorem stageRows_spec {organizationId : UUID} {document : Document} {version : DocumentVersion}
    {ids : UploadIds} {now : Instant} :
    Spec (fun w ↦ w = w₀) (stageRows faults organizationId document version ids now)
      (fun _ ↦ Within w₀ fun db ↦ stageUploadWithIntent organizationId document version
        ids.intentId ids.taskUuid now w₀.session = .ok db)
      fun _ ↦ SameStores w₀ := by
  refine Spec.bind (Q := fun _ w ↦ Within w₀ (fun db ↦ db = w₀.session) w ∧
    ¬(document.organizationId ≠ organizationId ∨ version.organizationId ≠ organizationId ∨
      version.documentId ≠ document.id ∨ version.status ≠ .queued ∨
        version.processingTaskId ≠ none ∨ version.attemptCount ≠ 0)) ?_ fun _ ↦
    Spec.assume fun hnew ↦ ?_
  · refine Spec.raiseWhen ?_ ?_
    · rintro - w rfl
      exact ⟨rfl, rfl, rfl⟩
    · rintro hnew w rfl
      exact ⟨⟨⟨rfl, rfl, rfl⟩, rfl⟩, hnew⟩
  -- Up to here nothing has changed; from here on only the session does.
  refine (pass_within .addAll).bind fun _ ↦ (pass_within (.flush 0)).bind fun _ ↦ ?_
  refine onSession_spec.bind fun _ ↦ onSession_spec.bind fun _ ↦ ?_
  refine (pass_within .audit).bind fun _ ↦ onSession_spec.bind fun _ ↦ ?_
  refine (pass_within (.flush 1)).bind fun _ ↦ ?_
  refine onSession_spec.mono (fun _ h ↦ h) (fun _ w h ↦ ⟨h.same, ?_⟩) fun _ _ h ↦ h
  -- The statements one after the other make up the one transaction.
  obtain ⟨-, db₃, ⟨db₂, ⟨db₁, ⟨db, rfl, hdocument⟩, hversion⟩, haudit⟩, hintent⟩ := h
  obtain ⟨event, hevent, rfl⟩ := Option.map_eq_some_iff.1 haudit
  rw [stageUploadWithIntent, if_neg hnew]
  simp only [hdocument, hversion, Except.toOption_eq_some_iff.1 hevent]
  exact Except.toOption_eq_some_iff.1 hintent

/-- The commit makes the transaction's state the database's. -/
theorem persist_spec {organizationId : UUID} {document : Document} {version : DocumentVersion}
    {ids : UploadIds} {now : Instant} :
    Spec (fun w ↦ w = w₀)
      (do
        stageRows faults organizationId document version ids now
        commit faults)
      (fun _ w ↦ (w.objects = w₀.objects ∧ w.file = w₀.file) ∧
        stageUploadWithIntent organizationId document version ids.intentId ids.taskUuid now
          w₀.session = .ok w.db)
      fun _ ↦ SameStores w₀ := by
  refine stageRows_spec.bind fun _ ↦ (pass_within .commit).bind fun _ ↦ ?_
  exact Spec.update fun w hw ↦ ⟨⟨hw.same.2.1, hw.same.2.2⟩, hw.session⟩

/-- The object is removed, or its removal fails. -/
theorem deleteAfterFailedPersistence_spec :
    Spec (SameStores w₀) (deleteAfterFailedPersistence faults storageKey)
      (fun _ w ↦ (w.db = w₀.db ∧ w.file = w₀.file) ∧
        (w.objects = Function.update w₀.objects storageKey none ∨
          w.objects = w₀.objects ∧ faults .delete = true))
      fun _ _ ↦ False := by
  refine Spec.tryCatch (E := fun _ w ↦ SameStores w₀ w ∧ faults .delete = true) ?_ fun _ ↦ ?_
  · refine (pass_spec .delete).bind fun _ ↦ Spec.update fun w hw ↦ ⟨⟨hw.1.1, hw.1.2.2⟩, Or.inl ?_⟩
    show Function.update w.objects storageKey none = _
    rw [hw.1.2.1]
  · exact Spec.pure fun w hw ↦ ⟨⟨hw.1.1, hw.1.2.2⟩, Or.inr ⟨hw.1.2.1, hw.2⟩⟩

end Steps

/-! ### The two stores -/

/-- What a returned call has left: the whole source is stored under the generated key, and the
document, its first version, the audit event and the intent are committed; nothing else changed. -/
structure Uploaded (sha256 : List UInt8 → String) (request : UploadRequest) (ids : UploadIds)
    (now : Instant) (w₀ w : UploadWorld) (document : Document) (version : DocumentVersion) :
    Prop where
  complete : ByteStream.interruption request.source = none
  valid : DocumentValidation.ContentValid version.mediaType (ByteStream.content request.source)
  stored : w.objects = Function.update w₀.objects
    (buildStorageKey request.organizationId ids.documentId ids.versionId)
      (some (ByteStream.content request.source))
  document_eq : document =
    ⟨ids.documentId, request.organizationId, document.displayFilename, request.actorUserId⟩
  version_eq : version =
    { id := ids.versionId
      organizationId := request.organizationId
      documentId := ids.documentId
      versionNumber := 1
      mediaType := version.mediaType
      sizeBytes := (ByteStream.content request.source).length
      contentSha256 := sha256 (ByteStream.content request.source)
      storageKey := buildStorageKey request.organizationId ids.documentId ids.versionId
      status := .queued
      extractedText := none
      attemptCount := 0
      processingTaskId := none
      processingStartedAt := none
      errorCode := none
      createdAt := now }
  documents : w₀.db.documents.insert? document = some w.db.documents
  versions : w₀.db.versions.insert? version = some w.db.versions
  intents : w₀.db.intents.insert? (.create ids.intentId request.organizationId ids.versionId
    ids.taskUuid.str now) = some w.db.intents
  task_fresh : ∀ i ∈ w₀.db.intents, i.taskId ≠ ids.taskUuid.str
  audit : w.db.audit = w₀.db.audit ++ [AuditEventService.documentUploaded request.organizationId
    request.actorUserId ids.documentId 1 version.mediaType version.sizeBytes]
  others : w.db = { w₀.db with
    documents := w.db.documents
    versions := w.db.versions
    intents := w.db.intents
    audit := w.db.audit }
  closed : ∃ contents, w.file = some (contents, true)

/-- What a call that raised has left: no row, and under the generated key no object, unless `delete`
failed; nothing else changed. -/
structure Compensated (faults : UploadFaults) (storageKey : String) (w₀ w : UploadWorld) :
    Prop where
  rows : w.db = w₀.db
  removed : w.objects storageKey = none ∨ faults .delete = true
  others : ∀ other, other ≠ storageKey → w.objects other = w₀.objects other
  closed : ∀ contents closed, w.file = some (contents, closed) → closed = true

section Stores

variable {sha256 : List UInt8 → String} {u : Unicode} {faults : UploadFaults}
  {request : UploadRequest} {ids : UploadIds} {now : Instant} {staged : StagedUpload}
  {w₀ : UploadWorld}

/-- The object is stored whole, or not at all. -/
theorem put_spec {storageKey : String} {file : ByteFile} (hfile : w₀.file = some (file, false)) :
    Spec (fun w ↦ w = w₀)
      (tryCatch (put faults storageKey) fun _ ↦ throw .storageUnavailable)
      (fun _ w ↦ w = { w₀ with
        objects := Function.update w₀.objects storageKey (some file.content) })
      fun _ w ↦ w = w₀ := by
  refine Spec.tryCatch (E := fun _ w ↦ w = w₀) ?_ fun _ ↦ Spec.throw fun _ hw ↦ hw
  refine ((pass_spec .put).mono (fun _ h ↦ h) (fun _ _ h ↦ h.1) fun _ _ h ↦ h.1).bind fun _ ↦ ?_
  refine Spec.update ?_
  rintro w rfl
  rw [hfile]
  rfl

/-- The outer `try`, on an open file: both stores are written, or the object is removed again. -/
theorem storeUpload_spec {file : ByteFile} (hfile : w₀.file = some (file, false)) :
    Spec (fun w ↦ w = w₀) (storeUpload faults request ids now staged)
      (fun created w ↦ (w.objects = Function.update w₀.objects
          (buildStorageKey request.organizationId ids.documentId ids.versionId)
            (some file.content) ∧
            w.file = w₀.file) ∧
        persistUpload request.organizationId request.actorUserId staged ids now w₀.session =
          .ok w.db ∧
        created = (newDocument request.organizationId request.actorUserId staged ids,
          newVersion request.organizationId staged ids now))
      fun _ w ↦ (w.db = w₀.db ∧ w.file = w₀.file) ∧ (w.objects = w₀.objects ∨
        w.objects = Function.update w₀.objects
          (buildStorageKey request.organizationId ids.documentId ids.versionId) none ∨
        w.objects = Function.update w₀.objects
          (buildStorageKey request.organizationId ids.documentId ids.versionId)
            (some file.content) ∧ faults .delete = true) := by
  refine ((put_spec hfile).mono (fun _ h ↦ h) (fun _ _ h ↦ h) ?_).bind fun _ ↦ ?_
  · rintro - w rfl
    exact ⟨⟨rfl, rfl⟩, Or.inl rfl⟩
  refine Spec.bind (Spec.tryCatch persist_spec fun _ ↦ ?_) fun _ ↦ Spec.pure fun w hw ↦ ?_
  · -- The handler: roll back, and remove the object.
    refine Spec.bind (Q := fun _ ↦ SameStores _) (Spec.update fun w hw ↦ hw) fun _ ↦ ?_
    refine Spec.bind (deleteAfterFailedPersistence_spec.mono (fun _ h ↦ h) (fun _ _ h ↦ h)
      fun _ _ h ↦ h.elim) fun _ ↦ Spec.throw fun w hw ↦ ⟨hw.1, ?_⟩
    rcases hw.2 with hremoved | hkept
    · rw [Function.update_idem] at hremoved
      exact Or.inr (Or.inl hremoved)
    · exact Or.inr (Or.inr hkept)
  · exact ⟨hw.1, hw.2, rfl⟩

/-- A committed upload is what its rows and its object say. -/
theorem Uploaded.of_stored {file : Option (ByteFile × Bool)} {w w' : UploadWorld}
    (hstaged : stageDocumentUpload sha256 u request.filename request.source request.maxUploadBytes =
      (.ok staged, file))
    (hobjects : w'.objects = Function.update w.objects
      (buildStorageKey request.organizationId ids.documentId ids.versionId)
        (some (ByteStream.content request.source)))
    (hclosed : w'.file = some (⟨ByteStream.content request.source, 0⟩, true))
    (hrows : persistUpload request.organizationId request.actorUserId staged ids now w.db =
      .ok w'.db) :
    Uploaded sha256 request ids now w w'
      (newDocument request.organizationId request.actorUserId staged ids)
      (newVersion request.organizationId staged ids now) := by
  -- What validation established of the staged bytes is what the version records.
  obtain ⟨-, ⟨hcomplete, -, -, hvalid⟩, hsize, hdigest⟩ :=
    DocumentValidation.stageDocumentUpload_spec hstaged
  obtain ⟨documents, versions, intents, hdocuments, hversions, hfree, hintents, hdb⟩ :=
    persistUpload_eq_ok hrows
  obtain ⟨db, session, objects, closed⟩ := w'
  obtain rfl := hdb.symm
  exact
    { complete := hcomplete
      valid := hvalid
      stored := hobjects
      document_eq := rfl
      version_eq := by rw [← hsize, ← hdigest]; rfl
      documents := hdocuments
      versions := hversions
      intents := hintents
      task_fresh := fun i hi ↦ (hfree i hi).2
      audit := rfl
      others := rfl
      closed := ⟨_, hclosed⟩ }

/-- **How a call ends**: with everything stored, or with no row, and with the object as it was,
removed, or left behind by a `delete` that failed. -/
theorem createUpload_cases (sha256 : List UInt8 → String) (u : Unicode) (faults : UploadFaults)
    (request : UploadRequest) (ids : UploadIds) (now : Instant) (db : Database)
    (objects : String → Option (List UInt8)) :
    match (createUpload sha256 u faults request ids now).exec (.start db objects) with
    | (.ok (document, version), w) =>
      Uploaded sha256 request ids now (.start db objects) w document version
    | (.error _, w) => (w.db = db ∧
        ∀ contents closed, w.file = some (contents, closed) → closed = true) ∧
      (w.objects = objects ∨
        w.objects = Function.update objects
          (buildStorageKey request.organizationId ids.documentId ids.versionId) none ∨
        w.objects = Function.update objects
          (buildStorageKey request.organizationId ids.documentId ids.versionId)
            (some (ByteStream.content request.source)) ∧ faults .delete = true) := by
  simp only [createUpload, stageUpload, exec_bind, exec_update, exec_ofExcept, exec_ensuring]
  rcases hstage : stageDocumentUpload sha256 u request.filename request.source
    request.maxUploadBytes with ⟨error | staged, file⟩
  · exact ⟨⟨rfl, DocumentValidation.stageDocumentUpload_closed hstage⟩, Or.inl rfl⟩
  · obtain ⟨rfl, -⟩ := DocumentValidation.stageDocumentUpload_spec hstage
    dsimp only [Except.mapError, UploadWorld.start]
    -- The staged file is open, and holds the whole source from its start.
    have hstore := @storeUpload_spec faults request ids now staged
      ⟨db, db, objects, some (⟨ByteStream.content request.source, 0⟩, false)⟩ _ rfl
    rcases hexec : (storeUpload faults request ids now staged).exec
      ⟨db, db, objects, some (⟨ByteStream.content request.source, 0⟩, false)⟩ with
      ⟨error | created, w⟩
    · obtain ⟨⟨hdb, hfile⟩, hobjects⟩ := hstore.of_error rfl hexec
      refine ⟨⟨hdb, fun contents closed hclosed ↦ ?_⟩, hobjects⟩
      rw [closeStaged, hfile] at hclosed
      exact (congrArg Prod.snd (Option.some.inj hclosed)).symm
    · obtain ⟨⟨hobjects, hfile⟩, hrows, rfl⟩ := hstore.of_ok rfl hexec
      refine Uploaded.of_stored hstage hobjects ?_ hrows
      rw [closeStaged, hfile]
      rfl

/-- **Both stores or neither**: a call that returns has written the object and the rows that point
to it; one that raises has written no row, and leaves no object that it could remove. -/
theorem createUpload_spec {db : Database} {objects : String → Option (List UInt8)}
    (hfresh : objects (buildStorageKey request.organizationId ids.documentId ids.versionId) =
      none) :
    match (createUpload sha256 u faults request ids now).exec (.start db objects) with
    | (.ok (document, version), w) =>
      Uploaded sha256 request ids now (.start db objects) w document version
    | (.error _, w) => Compensated faults
        (buildStorageKey request.organizationId ids.documentId ids.versionId) (.start db objects)
          w := by
  have hcases := createUpload_cases sha256 u faults request ids now db objects
  rcases hexec : (createUpload sha256 u faults request ids now).exec (.start db objects) with
    ⟨error | ⟨document, version⟩, w⟩
  · rw [hexec] at hcases
    obtain ⟨⟨hdb, hclosed⟩, hobjects⟩ := hcases
    exact
      { rows := hdb
        removed := by
          rcases hobjects with hkept | hremoved | ⟨-, hdelete⟩
          · exact Or.inl ((congrFun hkept _).trans hfresh)
          · exact Or.inl ((congrFun hremoved _).trans (Function.update_self ..))
          · exact Or.inr hdelete
        others := fun other hother ↦ by
          rcases hobjects with hkept | hremoved | ⟨hkept, -⟩
          · exact congrFun hkept other
          · exact (congrFun hremoved other).trans (Function.update_of_ne hother ..)
          · exact (congrFun hkept other).trans (Function.update_of_ne hother ..)
        closed := hclosed }
  · rwa [hexec] at hcases

end Stores

namespace Sample

/-- A request for the first upload. -/
def request : UploadRequest where
  organizationId := uuid 1
  actorUserId := uuid 2
  filename := some "guide.txt"
  source := [.ok [104, 101], .ok [108, 108, 111]]
  maxUploadBytes := 10485760

/-- Nothing fails. -/
theorem createUpload_guide :
    ((createUpload (fun _ ↦ "digest") DocumentValidation.Sample.unicode (fun _ ↦ false) request
      SupportFlow.Sample.ids 0).exec (.start SupportFlow.Sample.installed.db fun _ ↦ none)).1 =
        .ok (SupportFlow.Sample.document, SupportFlow.Sample.version) := by
  decide +kernel

end Sample

/-- The theorem for the first upload. -/
theorem createUpload_sample :
    Uploaded (fun _ ↦ "digest") Sample.request Sample.ids 0
      (.start Sample.installed.db fun _ ↦ none)
      ((createUpload (fun _ ↦ "digest") DocumentValidation.Sample.unicode (fun _ ↦ false)
        Sample.request Sample.ids 0).exec (.start Sample.installed.db fun _ ↦ none)).2
          Sample.document Sample.version := by
  have hrun := @createUpload_spec (fun _ ↦ "digest") DocumentValidation.Sample.unicode
    (fun _ ↦ false) Sample.request Sample.ids 0 Sample.installed.db (fun _ ↦ none) rfl
  have hresult := Sample.createUpload_guide
  rcases hexec : (createUpload (fun _ ↦ "digest") DocumentValidation.Sample.unicode
    (fun _ ↦ false) Sample.request Sample.ids 0).exec
      (.start Sample.installed.db fun _ ↦ none) with ⟨result, w⟩
  rw [hexec] at hrun hresult
  obtain rfl := hresult
  exact hrun

end DocumentService

end SupportFlow
