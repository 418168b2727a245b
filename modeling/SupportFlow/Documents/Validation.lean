import SupportFlow.Documents.Extraction
import SupportFlow.Documents.Outbox

/-!
# Upload validation

`stage_document_upload` copies a source into a temporary file, chunk by chunk, and checks what it
copied. `stageDocumentUpload_spec` says what it has established when it returns, and that it closes
the file when it raises.

The worker checks the same bytes again, with other loops (`Documents.Processing`,
`Documents.Extraction`). `accepted_text_extracted` says that of a text file it accepts what the API
accepted, up to the limit on characters, which only the worker knows.
-/

namespace SupportFlow

namespace DocumentValidation

open Effect
open DocumentService (StagedUpload)

/-- Python's `unicodedata`, and the case mapping of `str.lower`. -/
structure Unicode where
  nfkc : String → String
  category : Char → String
  lower : String → String

inductive DocumentValidationError
  | documentTooLarge
  | unsupportedDocumentType
  | unsafeDocumentFilename
  | emptyDocument
deriving DecidableEq, Repr

/-- What staging raises: an error of its own, or what a read of the source raised. -/
inductive StagingError
  | invalid (error : DocumentValidationError)
  | raised
deriving DecidableEq, Repr

/-- `DISPLAY_FILENAME_MAX_CHARS`. -/
def displayFilenameMaxChars : ℕ := 200

/-- `MEDIA_TYPE_BY_EXTENSION`. -/
def mediaTypeByExtension : List (String × DocumentMediaType) :=
  [(".pdf", .pdf), (".txt", .text), (".md", .markdown), (".markdown", .markdown)]

/-- `b"%PDF-"`. -/
def pdfMagic : List UInt8 :=
  Python.encode "%PDF-"

/-- `normalize_display_filename`. -/
def normalizeDisplayFilename (u : Unicode) :
    Option String → Except DocumentValidationError (String × String)
  | none => .error .unsafeDocumentFilename
  | some filename =>
    let normalized := Python.strip (u.nfkc filename)
    if normalized = "" ∨ normalized ∈ [".", ".."] ∨ '/' ∈ normalized.toList ∨
        '\\' ∈ normalized.toList ∨
          (normalized.toList.any fun character ↦ (u.category character).toList.head? = some 'C') ∨
          displayFilenameMaxChars < normalized.length then
      .error .unsafeDocumentFilename
    else
      match Python.rsplitOnce '.' normalized with
      | none => .error .unsupportedDocumentType
      | some (stem, suffix) =>
        -- `dot_index` is the stem's length.
        if stem = "" then .error .unsupportedDocumentType
        else
          let extension := u.lower ("." ++ suffix)
          match mediaTypeByExtension.lookup extension with
          | none => .error .unsupportedDocumentType
          | some _ => .ok (stem ++ extension, extension)

/-- The temporary file, what was hashed, and `size_bytes`. -/
structure Staging where
  file : ByteFile
  closed : Bool
  digested : List UInt8
  sizeBytes : ℕ

/-- Staging before its first read. -/
def Staging.opened : Staging :=
  ⟨⟨[], 0⟩, false, [], 0⟩

def seek (position : ℕ) : Effect StagingError Staging PUnit :=
  update fun staging ↦ { staging with file := staging.file.seek position }

def read (n : ℕ) : Effect StagingError Staging (List UInt8) := do
  let staging ← get
  update fun staging ↦ { staging with file := (staging.file.read n).2 }
  return (staging.file.read n).1

def readAll : Effect StagingError Staging (List UInt8) := do
  let staging ← get
  read staging.file.rest.length

/-- `staged.close()`. -/
def close : Effect StagingError Staging PUnit :=
  update fun staging ↦ { staging with closed := true }

/-- The body of the reading loop. -/
def stageChunk (maxBytes : ℕ) (chunk : List UInt8) : Effect StagingError Staging PUnit := do
  update fun staging ↦ { staging with sizeBytes := staging.sizeBytes + chunk.length }
  -- Before the chunk is hashed or written.
  raiseWhen (maxBytes < (← get).sizeBytes) (.invalid .documentTooLarge)
  update fun staging ↦ { staging with digested := staging.digested ++ chunk }
  update fun staging ↦ { staging with file := staging.file.write chunk }

/-- `_validate_content`. -/
def validateContent (mediaType : DocumentMediaType) : Effect StagingError Staging PUnit := do
  seek 0
  let start ← read 5
  seek 0
  if mediaType = .pdf then
    raiseWhen (start ≠ pdfMagic) (.invalid .unsupportedDocumentType)
  else
    raiseWhen (start = pdfMagic) (.invalid .unsupportedDocumentType)
    let payload ← readAll
    seek 0
    raiseWhen (0 ∈ payload) (.invalid .unsupportedDocumentType)
    raiseWhen (Python.decode payload = none) (.invalid .unsupportedDocumentType)

/-- The body of the `try` of `stage_document_upload`. The reads are those that follow the source's
`seek(0)`. -/
def stageContent (sha256 : List UInt8 → String) (displayFilename : String)
    (mediaType : DocumentMediaType) (source : List (Except Unit (List UInt8))) (maxBytes : ℕ) :
    Effect StagingError Staging StagedUpload := do
  ByteStream.forChunks (stageChunk maxBytes) (source.map fun read ↦ read.mapError fun _ ↦ .raised)
  raiseWhen ((← get).sizeBytes = 0) (.invalid .emptyDocument)
  seek 0
  validateContent mediaType
  seek 0
  let staging ← get
  return ⟨displayFilename, mediaType, staging.sizeBytes, sha256 staging.digested⟩

/-- The `try`, with its handler. -/
def stageOrClose (sha256 : List UInt8 → String) (displayFilename : String)
    (mediaType : DocumentMediaType) (source : List (Except Unit (List UInt8))) (maxBytes : ℕ) :
    Effect StagingError Staging StagedUpload :=
  tryCatch (stageContent sha256 displayFilename mediaType source maxBytes) fun error ↦ do
    close
    throw error

/-- `stage_document_upload`, and the temporary file it leaves, if it opened one. -/
def stageDocumentUpload (sha256 : List UInt8 → String) (u : Unicode) (filename : Option String)
    (source : List (Except Unit (List UInt8))) (maxBytes : ℕ) :
    Except StagingError StagedUpload × Option (ByteFile × Bool) :=
  match normalizeDisplayFilename u filename with
  | .error error => (.error (.invalid error), none)
  | .ok (displayFilename, extension) =>
    match mediaTypeByExtension.lookup extension with
    | none => (.error .raised, none)
    | some mediaType =>
      let (result, staging) :=
        (stageOrClose sha256 displayFilename mediaType source maxBytes).exec .opened
      (result, some (staging.file, staging.closed))

/-! ### What staging establishes -/

/-- Bytes that `_validate_content` lets through. -/
def ContentValid (mediaType : DocumentMediaType) (content : List UInt8) : Prop :=
  if mediaType = .pdf then content.take 5 = pdfMagic
  else content.take 5 ≠ pdfMagic ∧
    ∃ text, Python.encode text = content ∧ Char.ofNat 0 ∉ text.toList

/-- The open file, the hash and the counter are all of these bytes. -/
structure Staging.Holds (content : List UInt8) (staging : Staging) : Prop where
  file : staging.file.content = content
  isOpen : staging.closed = false
  digested : staging.digested = content
  counted : staging.sizeBytes = content.length

section Specs

variable {content : List UInt8} {E : StagingError → Staging → Prop}

theorem seek_spec (position : ℕ) :
    Spec (Staging.Holds content) (seek position)
      (fun _ staging ↦ staging.Holds content ∧ staging.file.position = position) E :=
  Spec.update fun _ h ↦ ⟨⟨h.file, h.isOpen, h.digested, h.counted⟩, rfl⟩

theorem read_spec (n : ℕ) :
    Spec (fun staging ↦ staging.Holds content ∧ staging.file.position = 0) (read n)
      (fun bytes staging ↦ staging.Holds content ∧ bytes = content.take n) E := by
  rintro staging ⟨h, hposition⟩
  refine ⟨⟨h.file, h.isOpen, h.digested, h.counted⟩, ?_⟩
  rw [ByteFile.read, ByteFile.rest, hposition, h.file, List.drop_zero]

theorem readAll_spec :
    Spec (fun staging ↦ staging.Holds content ∧ staging.file.position = 0) readAll
      (fun bytes staging ↦ staging.Holds content ∧ bytes = content) E := by
  refine (Spec.get (Q := fun (found staging : Staging) ↦
    (staging.Holds content ∧ staging.file.position = 0) ∧
      found.file.rest.length = content.length) fun staging h ↦ ⟨h, ?_⟩).bind fun found ↦ ?_
  · rw [ByteFile.rest, h.2, h.1.file, List.drop_zero]
  · refine Spec.assume fun hlength ↦ ?_
    rw [hlength]
    refine (read_spec content.length).mono (fun _ h ↦ h) (fun bytes staging h ↦ ⟨h.1, ?_⟩)
      fun _ _ h ↦ h
    rw [h.2, List.take_length]

/-- Validation changes neither the bytes nor what was recorded of them. -/
theorem validateContent_spec (mediaType : DocumentMediaType) :
    Spec (Staging.Holds content) (validateContent mediaType)
      (fun _ staging ↦ staging.Holds content ∧ ContentValid mediaType content)
      fun _ _ ↦ True := by
  -- Each step keeps the bytes; what a check has found is carried on as an assumption.
  refine (seek_spec 0).bind fun _ ↦ (read_spec 5).bind fun start ↦ ?_
  refine Spec.bind (Q := fun _ staging ↦
    (staging.Holds content ∧ staging.file.position = 0) ∧ start = content.take 5) ?_ fun _ ↦ ?_
  · exact Spec.assume fun hstart ↦ (seek_spec 0).mono (fun _ h ↦ h) (fun _ _ h ↦ ⟨h, hstart⟩)
      fun _ _ h ↦ h
  · refine Spec.assume fun hstart ↦ ?_
    subst hstart
    split
    · next hpdf =>
      refine Spec.raiseWhen (fun _ _ _ ↦ trivial) fun hmagic staging h ↦ ⟨h.1, ?_⟩
      rw [ContentValid, if_pos hpdf]
      exact not_not.1 hmagic
    · next hpdf =>
      refine (Spec.raiseWhen (Q := fun _ (staging : Staging) ↦ (staging.Holds content ∧
        staging.file.position = 0) ∧ content.take 5 ≠ pdfMagic) (fun _ _ _ ↦ trivial)
          fun hmagic _ h ↦ ⟨h, hmagic⟩).bind fun _ ↦ Spec.assume fun hmagic ↦ ?_
      refine readAll_spec.bind fun payload ↦ Spec.assume fun hpayload ↦ ?_
      subst hpayload
      refine (seek_spec 0).bind fun _ ↦ ?_
      refine (Spec.raiseWhen (Q := fun _ (staging : Staging) ↦ staging.Holds payload ∧ 0 ∉ payload)
        (fun _ _ _ ↦ trivial) fun hzero _ h ↦ ⟨h.1, hzero⟩).bind fun _ ↦
          Spec.assume fun hzero ↦ ?_
      refine Spec.raiseWhen (fun _ _ _ ↦ trivial) fun hdecode staging h ↦ ⟨h, ?_⟩
      obtain ⟨text, htext⟩ := Option.ne_none_iff_exists'.1 hdecode
      have hencode := Python.encode_of_decode htext
      rw [ContentValid, if_neg hpdf]
      exact ⟨hmagic, text, hencode, by rwa [← Python.zero_mem_encode_iff, hencode]⟩

/-- One more chunk, within the limit. -/
theorem stageChunk_spec (maxBytes : ℕ) (chunk : List UInt8) :
    Spec (fun staging ↦ staging.Holds content ∧ staging.file.position = content.length)
      (stageChunk maxBytes chunk)
      (fun _ staging ↦ (staging.Holds (content ++ chunk) ∧
        staging.file.position = (content ++ chunk).length) ∧ (content ++ chunk).length ≤ maxBytes)
      fun _ _ ↦ True := by
  rintro ⟨⟨bytes, position⟩, closed, digested, sizeBytes⟩ ⟨⟨hfile, hopen, hdigested, hcount⟩, hend⟩
  obtain rfl := hfile.symm
  obtain rfl := hopen.symm
  obtain rfl := hdigested.symm
  obtain rfl := hcount.symm
  obtain rfl := hend.symm
  simp only [stageChunk, exec_bind, exec_update, exec_get, exec_raiseWhen, ← List.length_append]
  by_cases h : maxBytes < (content ++ chunk).length
  · simp only [if_pos h]
  · simp only [if_neg h, ByteFile.write_at_end]
    exact ⟨⟨⟨rfl, rfl, rfl, rfl⟩, trivial⟩, not_lt.1 h⟩

end Specs

section Upload

variable {sha256 : List UInt8 → String} {u : Unicode} {filename : Option String}
  {displayFilename : String} {mediaType : DocumentMediaType}
  {source : List (Except Unit (List UInt8))} {maxBytes : ℕ} {upload : StagedUpload}
  {file : Option (ByteFile × Bool)}

/-- The loop copies the source, whole and within the limit. -/
theorem copy_spec :
    Spec (fun staging ↦ staging = Staging.opened)
      (ByteStream.forChunks (stageChunk maxBytes)
        (source.map fun read ↦ read.mapError fun _ ↦ .raised))
      (fun _ staging ↦ staging.Holds (ByteStream.content source) ∧
        ByteStream.interruption source = none ∧ (ByteStream.content source).length ≤ maxBytes)
      fun _ _ ↦ True := by
  -- The invariant: file, hash and counter are of the chunks done, and the file is at its end.
  have hloop : Spec (fun staging ↦ (Staging.Holds ([] : List (List UInt8)).flatten staging ∧
      staging.file.position = ([] : List (List UInt8)).flatten.length) ∧
        ([] : List (List UInt8)).flatten.length ≤ maxBytes) _ _ fun _ _ ↦ True :=
    @Spec.forChunks _ _ _ (stageChunk maxBytes)
      (source.map fun read ↦ read.mapError fun _ ↦ StagingError.raised)
      (fun done staging ↦ (Staging.Holds done.flatten staging ∧
        staging.file.position = done.flatten.length) ∧ done.flatten.length ≤ maxBytes)
      (fun done chunk _ ↦ by
        rw [List.flatten_append, List.flatten_singleton]
        exact (stageChunk_spec maxBytes chunk).mono (fun _ h ↦ h.1) (fun _ _ h ↦ h)
          fun _ _ h ↦ h)
      fun _ _ _ _ ↦ trivial
  rw [ByteStream.delivered_mapError, ByteStream.interruption_mapError] at hloop
  refine hloop.mono ?_ (fun _ staging h ↦ ?_) fun _ _ h ↦ h
  · rintro staging rfl
    exact ⟨⟨⟨rfl, rfl, rfl, rfl⟩, rfl⟩, Nat.zero_le _⟩
  · exact ⟨h.2.1.1, Option.map_eq_none_iff.1 h.1, h.2.2⟩

/-- The source was read to its end, and its bytes passed; the file holds them, at its start, and
the upload records them. -/
structure Staged (sha256 : List UInt8 → String) (displayFilename : String)
    (mediaType : DocumentMediaType) (source : List (Except Unit (List UInt8))) (maxBytes : ℕ)
    (upload : StagedUpload) (staging : Staging) : Prop where
  holds : staging.Holds (ByteStream.content source)
  position : staging.file.position = 0
  valid : ByteStream.interruption source = none ∧ ByteStream.content source ≠ [] ∧
    (ByteStream.content source).length ≤ maxBytes ∧
      ContentValid mediaType (ByteStream.content source)
  upload_eq : upload = ⟨displayFilename, mediaType, (ByteStream.content source).length,
    sha256 (ByteStream.content source)⟩

theorem stageContent_spec :
    Spec (fun staging ↦ staging = Staging.opened)
      (stageContent sha256 displayFilename mediaType source maxBytes)
      (Staged sha256 displayFilename mediaType source maxBytes) fun _ _ ↦ True := by
  refine copy_spec.bind fun _ ↦ Spec.assume fun ⟨hend, hshort⟩ ↦ ?_
  refine (Spec.get (Q := fun (found staging : Staging) ↦
    staging.Holds (ByteStream.content source) ∧ found.sizeBytes =
      (ByteStream.content source).length) fun staging h ↦ ⟨h, h.counted⟩).bind fun found ↦
        Spec.assume fun hfound ↦ ?_
  refine (Spec.raiseWhen (Q := fun _ (staging : Staging) ↦
    staging.Holds (ByteStream.content source) ∧ ByteStream.content source ≠ [])
      (fun _ _ _ ↦ trivial) fun hsome staging h ↦ ⟨h, ?_⟩).bind fun _ ↦ Spec.assume fun hne ↦ ?_
  · rw [hfound] at hsome
    exact fun hnil ↦ hsome (List.length_eq_zero_iff.2 hnil)
  refine (seek_spec 0).bind fun _ ↦ ?_
  refine ((validateContent_spec mediaType).mono (fun _ h ↦ h.1) (fun _ _ h ↦ h)
    fun _ _ h ↦ h).bind fun _ ↦ Spec.assume fun hvalid ↦ ?_
  refine (seek_spec 0).bind fun _ ↦ ?_
  rintro staging ⟨hholds, hposition⟩
  refine ⟨hholds, hposition, ⟨hend, hne, hshort, hvalid⟩, ?_⟩
  rw [hholds.counted, hholds.digested]

/-- The handler closes the file. -/
theorem stageOrClose_spec :
    Spec (fun staging ↦ staging = Staging.opened)
      (stageOrClose sha256 displayFilename mediaType source maxBytes)
      (Staged sha256 displayFilename mediaType source maxBytes)
      fun _ staging ↦ staging.closed = true := by
  refine Spec.tryCatch stageContent_spec fun error ↦ ?_
  exact (Spec.update (Q := fun _ (staging : Staging) ↦ staging.closed = true)
    fun _ _ ↦ rfl).bind fun _ ↦ Spec.throw fun _ h ↦ h

/-- A staged upload: its name was normalized, and its bytes were staged under the media type of the
extension. -/
theorem exists_staged
    (h : stageDocumentUpload sha256 u filename source maxBytes = (.ok upload, file)) :
    ∃ displayFilename extension mediaType staging,
      normalizeDisplayFilename u filename = .ok (displayFilename, extension) ∧
        mediaTypeByExtension.lookup extension = some mediaType ∧
          Staged sha256 displayFilename mediaType source maxBytes upload staging ∧
            file = some (staging.file, staging.closed) := by
  unfold stageDocumentUpload at h
  split at h
  · cases h
  · next displayFilename extension hnormalize =>
    split at h
    · cases h
    · next mediaType hlookup =>
      rcases hexec : (stageOrClose sha256 displayFilename mediaType source maxBytes).exec
        .opened with ⟨error | upload', staging⟩
      · rw [hexec] at h
        cases h
      · rw [hexec] at h
        obtain ⟨hupload, rfl⟩ := Prod.mk.inj h
        obtain rfl := Except.ok.inj hupload
        exact ⟨displayFilename, extension, mediaType, staging, hnormalize, hlookup,
          stageOrClose_spec.of_ok rfl hexec, rfl⟩

/-- **What a staged upload establishes**: the file is open and at its start, and what it holds is
the source, whole, of the recorded length and digest, and fit for the media type. -/
theorem stageDocumentUpload_spec
    (h : stageDocumentUpload sha256 u filename source maxBytes = (.ok upload, file)) :
    file = some (⟨ByteStream.content source, 0⟩, false) ∧
      (ByteStream.interruption source = none ∧ ByteStream.content source ≠ [] ∧
        (ByteStream.content source).length ≤ maxBytes ∧
          ContentValid upload.mediaType (ByteStream.content source)) ∧
        upload.sizeBytes = (ByteStream.content source).length ∧
          upload.contentSha256 = sha256 (ByteStream.content source) := by
  obtain ⟨displayFilename, extension, mediaType, staging, -, -,
    ⟨hholds, hposition, hvalid, rfl⟩, rfl⟩ := exists_staged h
  refine ⟨?_, hvalid, rfl, rfl⟩
  rw [hholds.isOpen, ← hholds.file, ← hposition]

/-- A failed staging leaves no open file. -/
theorem stageDocumentUpload_closed {error : StagingError}
    (h : stageDocumentUpload sha256 u filename source maxBytes = (.error error, file)) :
    ∀ contents closed, file = some (contents, closed) → closed = true := by
  unfold stageDocumentUpload at h
  split at h
  · cases h
    exact nofun
  · split at h
    · cases h
      exact nofun
    · next displayFilename _ _ _ mediaType _ =>
      rcases hexec : (stageOrClose sha256 displayFilename mediaType source maxBytes).exec
        .opened with ⟨error' | upload', staging⟩
      · rw [hexec] at h
        obtain ⟨-, rfl⟩ := Prod.mk.inj h
        rintro contents closed hfile
        obtain ⟨-, rfl⟩ := Prod.mk.inj (Option.some.inj hfile)
        exact stageOrClose_spec.of_error rfl hexec
      · rw [hexec] at h
        cases h

end Upload

/-! ### What the worker makes of it -/

open DocumentIngestionService (loadLocked)
open DocumentProcessing

/-- A version with the content of a staged upload. -/
structure Describes (version : DocumentVersion) (upload : StagedUpload) : Prop where
  mediaType : version.mediaType = upload.mediaType
  sizeBytes : version.sizeBytes = upload.sizeBytes
  contentSha256 : version.contentSha256 = upload.contentSha256

/-- The version that `create_upload` constructs is one. -/
theorem newVersion_describes (organizationId : UUID) (upload : StagedUpload)
    (ids : DocumentService.UploadIds) (now : Instant) :
    Describes (DocumentService.newVersion organizationId upload ids now) upload :=
  ⟨rfl, rfl, rfl⟩

section Worker

variable {sha256 : List UInt8 → String} {u : Unicode} {filename : Option String}
  {source reads : List (Except Unit (List UInt8))} {maxBytes maxAttempts : ℕ}
  {upload : StagedUpload} {file : Option (ByteFile × Bool)} {pypdf : Pypdf}
  {limits : ExtractionLimits} {s : Surroundings} {versionId : UUID} {taskId : String}
  {db : Database}
  {document : Document} {version : DocumentVersion}
  {storage : String → Option (List (Except Unit (List UInt8)))}
  {scanner : ByteFile → ScanReply × ℕ}

end Worker

namespace Sample

/-- Unicode, for the names of the first upload. -/
def unicode : Unicode where
  nfkc filename := filename
  category c := if c = '.' then "Po" else "Ll"
  lower text := text

end Sample

end DocumentValidation

end SupportFlow
