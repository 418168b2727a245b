import SupportFlow.Database

/-!
# The document repository

`DocumentRepository.get_with_latest_version`: a join of `documents` and `document_versions`, of
which the row with the greatest version number is taken.
-/

namespace SupportFlow

structure DocumentWithVersion where
  document : Document
  version : DocumentVersion
  deriving DecidableEq, Repr

/-- No document of an organization has two versions of one number: the unique constraint of
`document_versions`. -/
def Database.UniqueVersionNumbers (db : Database) : Prop :=
  ∀ v ∈ db.versions, ∀ w ∈ db.versions, v.organizationId = w.organizationId →
    v.documentId = w.documentId → v.versionNumber = w.versionNumber → v = w

namespace DocumentRepository

/-- The `JOIN … ON` and the `WHERE` of `get_with_latest_version`. -/
def selects (organizationId documentId : UUID) (row : Document × DocumentVersion) : Bool :=
  (row.2.organizationId = row.1.organizationId ∧ row.2.documentId = row.1.id) ∧
    row.1.organizationId = organizationId ∧ row.1.id = documentId ∧
      row.2.organizationId = organizationId

/-- `get_with_latest_version`. -/
def getWithLatestVersion (organizationId documentId : UUID) (db : Database) :
    Option DocumentWithVersion :=
  let joined := (db.documents.rows.product db.versions.rows).filter
    (selects organizationId documentId)
  (joined.insertionSort fun a b ↦ b.2.versionNumber ≤ a.2.versionNumber).head?.map fun row ↦
    ⟨row.1, row.2⟩

end DocumentRepository

end SupportFlow
