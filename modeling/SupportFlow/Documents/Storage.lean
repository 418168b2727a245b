import SupportFlow.Foundations.ByteStream
import SupportFlow.Foundations.FileTree
import SupportFlow.Foundations.PosixPath

/-!
# Document storage

The three adapters of the document-storage port, from `storage.py` and `s3_storage.py`: the private
directory of `LocalDocumentStorage`, the objects of an S3 bucket behind `S3DocumentStorage`, and the
dictionary of `InMemoryDocumentStorage`. All three put the key through `validate_storage_key` first.

The file system has no links, and an S3 client is a parameter. Names on a path are innermost first.
-/

namespace SupportFlow

open Python Effect

/-! ### Keys -/

/-- The exceptions of the adapters. -/
inductive StorageError
  | invalidStorageKey
  | valueError
  | keyError
  | osError (e : OSError)
  | s3ObjectNotFound
  | s3StorageUnavailable
deriving DecidableEq

/-- `validate_storage_key`. -/
def validateStorageKey (key : String) : Except StorageError PurePosixPath :=
  let path := PurePosixPath.parse key
  if key = "" ∨ path.isAbsolute = true ∨ '\\' ∈ key.toList ∨
      (path.parts.any fun part ↦ part ∈ ["", ".", ".."]) = true then
    .error .invalidStorageKey
  else .ok path

/-! ### The private directory -/

/-- A `LocalDocumentStorage`: its resolved root, innermost name first. -/
structure LocalDocumentStorage where
  root : List String
  root_names : ∀ name ∈ root, name ≠ "" ∧ name ≠ "." ∧ name ≠ ".." ∧ Char.ofNat 0 ∉ name.toList

namespace LocalDocumentStorage

variable (storage : LocalDocumentStorage)

/-- `path.resolve()`, which does not take a NUL. -/
def resolve (path : List String) : Except StorageError (List String) :=
  if path.any fun name ↦ Char.ofNat 0 ∈ name.toList then .error .valueError else .ok (realpath path)

/-- `_path_for`. -/
def pathFor (key : String) : Except StorageError (List String) := do
  let relative ← validateStorageKey key
  let target ← resolve (relative.parts.reverse ++ storage.root)
  if storage.root <:+ target then pure target else throw .invalidStorageKey

/-- The name of the temporary file for a target. -/
def temporaryName (name token : String) : String :=
  "." ++ name ++ "." ++ token ++ ".tmp"

section Calls

-- `usable` are the names that the file system takes.
variable (usable : String → Bool)

/-- `LocalDocumentStorage.put`, with what `uuid4` draws. -/
def put (token key : String) (source : ByteFile) :
    Effect StorageError (FileTree (List UInt8)) Unit := do
  match ← MonadExcept.ofExcept (storage.pathFor key) with
  | [] => throw .valueError
  | name :: dir =>
    let temporary := temporaryName name token
    mapError .osError do
      FileTree.makeDirectories usable dir
      andFinally
        (do
          FileTree.create usable temporary dir (source.seek 0).rest
          FileTree.replace usable temporary name dir)
        (FileTree.unlinkMissingOk usable temporary dir)

/-- `LocalDocumentStorage.open`, and what the file it returns reads as. -/
def openKey (key : String) : Effect StorageError (FileTree (List UInt8)) (List UInt8) := do
  let target ← MonadExcept.ofExcept (storage.pathFor key)
  match ← MonadExcept.ofExcept (((← get).find usable target).mapError .osError) with
  | .directory => throw (.osError .isADirectory)
  | .file content => return content

/-- `LocalDocumentStorage.delete`. -/
def delete (key : String) : Effect StorageError (FileTree (List UInt8)) Unit := do
  match ← MonadExcept.ofExcept (storage.pathFor key) with
  | [] => throw (.osError .isADirectory)
  | name :: dir => (FileTree.unlinkMissingOk usable name dir).mapError .osError

end Calls

end LocalDocumentStorage

/-! ### The bucket -/

/-- The errors of an S3 client. -/
inductive S3ClientError
  | botoCore
  | client (code : String)

/-- An S3 client, on states of the service: `put_object`, `get_object` with the `Body` it returns,
and `delete_object`. -/
structure S3Client (σ : Type) where
  putObject : (bucket key : String) → (body : List UInt8) → Effect S3ClientError σ Unit
  getObject : (bucket key : String) → Effect S3ClientError σ (Option (List UInt8))
  deleteObject : (bucket key : String) → Effect S3ClientError σ Unit

/-- An `S3DocumentStorage`. -/
structure S3DocumentStorage (σ : Type) where
  client : S3Client σ
  bucket : String

namespace S3DocumentStorage

variable {σ : Type} (storage : S3DocumentStorage σ)

/-- `_validated_key`. -/
def validatedKey (key : String) : Except StorageError String :=
  (validateStorageKey key).map PurePosixPath.asPosix

/-- `S3DocumentStorage.put`. -/
def put (key : String) (source : ByteFile) : Effect StorageError σ Unit := do
  let validatedKey ← MonadExcept.ofExcept (validatedKey key)
  (storage.client.putObject storage.bucket validatedKey (source.seek 0).rest).mapError fun _ ↦
    .s3StorageUnavailable

/-- `S3DocumentStorage.open`, and what the stream it returns reads as. -/
def openKey (key : String) : Effect StorageError σ (List UInt8) := do
  let validatedKey ← MonadExcept.ofExcept (validatedKey key)
  let body ← (storage.client.getObject storage.bucket validatedKey).mapError fun
    | .client errorCode =>
      if errorCode ∈ ["404", "NoSuchKey", "NotFound"] then .s3ObjectNotFound
      else .s3StorageUnavailable
    | .botoCore => .s3StorageUnavailable
  match body with
  | none => throw .s3StorageUnavailable
  | some content => return content

/-- `S3DocumentStorage.delete`. -/
def delete (key : String) : Effect StorageError σ Unit := do
  let validatedKey ← MonadExcept.ofExcept (validatedKey key)
  (storage.client.deleteObject storage.bucket validatedKey).mapError fun _ ↦ .s3StorageUnavailable

end S3DocumentStorage

/-! ### The dictionary -/

namespace InMemoryDocumentStorage

/-- `self.objects`. -/
abbrev Objects :=
  String → Option (List UInt8)

/-- `InMemoryDocumentStorage.put`. -/
def put (key : String) (source : ByteFile) : Effect StorageError Objects Unit := do
  let _ ← MonadExcept.ofExcept (validateStorageKey key)
  update fun objects ↦ Function.update objects key (some (source.seek 0).rest)

/-- `InMemoryDocumentStorage.open`, and what the stream it returns reads as. -/
def openKey (key : String) : Effect StorageError Objects (List UInt8) := do
  let _ ← MonadExcept.ofExcept (validateStorageKey key)
  match (← get) key with
  | none => throw .keyError
  | some content => return content

/-- `InMemoryDocumentStorage.delete`. -/
def delete (key : String) : Effect StorageError Objects Unit := do
  let _ ← MonadExcept.ofExcept (validateStorageKey key)
  update fun objects ↦ Function.update objects key none

end InMemoryDocumentStorage

/-! ### Calls -/

/-- A call of the storage port. The token is what `uuid4` draws for the temporary file of a put. -/
inductive StorageCall
  | put (key : String) (source : ByteFile) (token : String)
  | openKey (key : String)
  | delete (key : String)

/-- The key of a call. -/
def StorageCall.key : StorageCall → String
  | .put key _ _ | .openKey key | .delete key => key

/-- A call of the local adapter, with the content that is opened. -/
def LocalDocumentStorage.perform (storage : LocalDocumentStorage) (usable : String → Bool) :
    StorageCall → Effect StorageError (FileTree (List UInt8)) (Option (List UInt8))
  | .put key source token => do
    storage.put usable token key source
    return none
  | .openKey key => some <$> storage.openKey usable key
  | .delete key => do
    storage.delete usable key
    return none

/-- A call of the S3 adapter. -/
def S3DocumentStorage.perform {σ : Type} (storage : S3DocumentStorage σ) :
    StorageCall → Effect StorageError σ (Option (List UInt8))
  | .put key source _ => do
    storage.put key source
    return none
  | .openKey key => some <$> storage.openKey key
  | .delete key => do
    storage.delete key
    return none

/-- A call of the in-memory adapter. -/
def InMemoryDocumentStorage.perform :
    StorageCall → Effect StorageError InMemoryDocumentStorage.Objects (Option (List UInt8))
  | .put key source _ => do
    put key source
    return none
  | .openKey key => some <$> openKey key
  | .delete key => do
    delete key
    return none

end SupportFlow
