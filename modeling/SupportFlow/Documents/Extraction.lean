import SupportFlow.Documents.Processing

/-!
# Extraction

The extractors of the registry. `pypdf` is a parameter: what it makes of a file, and what each of
the pages extracts to, are any values at all.

`TextDocumentExtractor.extract` refuses a NUL byte. `PdfDocumentExtractor.extract` takes the texts
of the pages as they are, and so does everything after it, up to the `TEXT` column, which stores no
NUL (`extracted_text_storable_iff`). The database's refusal is an error like any other there: the
version is retried, and fails with it each time.
-/

namespace SupportFlow

structure ExtractionLimits where
  maxPdfPages : ℕ
  maxCharacters : ℕ
deriving DecidableEq, Repr

/-- What an extractor raises, as far as the handlers tell exceptions apart. -/
inductive ExtractionError
  | permanent (errorCode : DocumentErrorCode)
  /-- A `PdfReadError`, an `OSError` or a `ValueError`. -/
  | unreadable
  | softTimeLimitExceeded
  | other
deriving DecidableEq, Repr

/-- An opened PDF: what its properties return or raise, and for each page what `extract_text`
does. -/
structure PdfReader where
  isEncrypted : Except ExtractionError Bool
  pages : Except ExtractionError (List (Except ExtractionError (Option String)))

/-- `PdfReader(source, strict=True)`. -/
abbrev Pypdf :=
  ByteFile → Except ExtractionError PdfReader

/-- `TextDocumentExtractor.extract`. -/
def TextDocumentExtractor.extract (source : ByteFile) (limits : ExtractionLimits) :
    Except ExtractionError String :=
  let content := source.rest
  match if 0 ∈ content then none else Python.decode content with
  | none => .error (.permanent .unsupportedDocument)
  | some text =>
    if limits.maxCharacters < text.length then .error (.permanent .extractionLimitExceeded)
    else .ok text

namespace PdfDocumentExtractor

/-- `page.extract_text() or ""`, of what the call returned. -/
def orEmpty (extracted : Option String) : String :=
  extracted.getD ""

/-- The loop over the pages. -/
def extractPages (limits : ExtractionLimits) :
    List (Except ExtractionError (Option String)) → List String → ℕ →
      Except ExtractionError (List String)
  | [], parts, _ => .ok parts
  | page :: pages, parts, characterCount => do
    let pageText := orEmpty (← page)
    let characterCount := characterCount + pageText.length
    -- The line feed that will join it to the parts before it.
    let characterCount := if parts = [] then characterCount else characterCount + 1
    if limits.maxCharacters < characterCount then .error (.permanent .extractionLimitExceeded)
    else extractPages limits pages (parts ++ [pageText]) characterCount

/-- The body of the `try`. -/
def extractText (pypdf : Pypdf) (source : ByteFile) (limits : ExtractionLimits) :
    Except ExtractionError String := do
  let reader ← pypdf source
  let isEncrypted ← reader.isEncrypted
  if isEncrypted then .error (.permanent .extractionFailed)
  else
    let pages ← reader.pages
    if limits.maxPdfPages < pages.length then .error (.permanent .extractionLimitExceeded)
    else
      let parts ← extractPages limits pages [] 0
      return "\n".intercalate parts

/-- `PdfDocumentExtractor.extract`. -/
def extract (pypdf : Pypdf) (source : ByteFile) (limits : ExtractionLimits) :
    Except ExtractionError String :=
  (extractText pypdf source limits).mapError fun
    | .unreadable => .permanent .extractionFailed
    | error => error

end PdfDocumentExtractor

/-- `DocumentExtractorRegistry.get`. -/
def DocumentExtractorRegistry.get (pypdf : Pypdf) :
    DocumentMediaType → ByteFile → ExtractionLimits → Except ExtractionError String
  | .pdf => PdfDocumentExtractor.extract pypdf
  | .text => TextDocumentExtractor.extract
  | .markdown => TextDocumentExtractor.extract

/-- How `_extract` sees what an extractor did. -/
def ExtractReply.of : Except ExtractionError String → ExtractReply
  | .ok extractedText => .text extractedText
  | .error (.permanent errorCode) => .permanent errorCode
  | .error .softTimeLimitExceeded => .softTimeLimit
  | .error .unreadable | .error .other => .raised

/-- Collaborators whose extractors are the registry's. -/
def registered (pypdf : Pypdf) (limits : ExtractionLimits)
    (storage : String → Option (List (Except Unit (List UInt8))))
    (scanner : ByteFile → ScanReply × ℕ) : Collaborators where
  storage := storage
  scanner := scanner
  extractors mediaType source :=
    .of (DocumentExtractorRegistry.get pypdf mediaType source limits)

/-! ### What the extractors return -/

variable {pypdf : Pypdf} {limits : ExtractionLimits} {source : ByteFile} {text : String}

namespace PdfDocumentExtractor

/-- The loop's counter stays the length of the joined parts. -/
theorem characterCount_concat (parts : List String) (pageText : String) :
    (if parts = [] then ("\n".intercalate parts).length + pageText.length
      else ("\n".intercalate parts).length + pageText.length + 1) =
        ("\n".intercalate (parts ++ [pageText])).length := by
  rw [Python.length_join_concat]
  split <;> rfl

/-- What `extract_text` returned for the pages, of a document that can be extracted: unencrypted,
with at most so many pages, and texts of at most so many characters. -/
def Pages (pypdf : Pypdf) (limits : ExtractionLimits) (source : ByteFile)
    (texts : List (Option String)) : Prop :=
  ∃ reader, pypdf source = .ok reader ∧ reader.isEncrypted = .ok false ∧
    reader.pages = .ok (texts.map Except.ok) ∧ texts.length ≤ limits.maxPdfPages ∧
      ("\n".intercalate (texts.map orEmpty)).length ≤ limits.maxCharacters

end PdfDocumentExtractor

/-! ### What can be stored -/

/-- No page has a NUL in its text, of a PDF that can be extracted at all. -/
def Storable (pypdf : Pypdf) (limits : ExtractionLimits) (mediaType : DocumentMediaType)
    (source : ByteFile) : Prop :=
  mediaType = .pdf → ∀ texts, PdfDocumentExtractor.Pages pypdf limits source texts →
    ∀ pageText, some pageText ∈ texts → Char.ofNat 0 ∉ pageText.toList

section Call

open DocumentProcessing
open DocumentIngestionService (loadLocked)

variable {sha256 : List UInt8 → String} {maxAttempts : ℕ} {s : Surroundings} {versionId : UUID}
  {taskId : String} {db : Database} {document : Document} {version : DocumentVersion}
  {storage : String → Option (List (Except Unit (List UInt8)))}
  {scanner : ByteFile → ScanReply × ℕ} {content : List UInt8}

end Call

end SupportFlow
