import SupportFlow.Documents.Outbox
import SupportFlow.Documents.StorageKeys
import SupportFlow.Foundations.FileSystem
import SupportFlow.Foundations.History
import SupportFlow.Foundations.Linearization
import SupportFlow.Identity.Uuid

/-!
# The private directory, call by call

`LocalDocumentStorage` as programs on the calls of the operating system: a put makes the directories
of its target, writes to a temporary file, replaces the target by it and removes what is left of
it; a read opens the target and goes on with the open file; a delete removes the target.

What a call does, whatever it is answered, is told by `StorageJob.Allowed` and `StorageJob.Ended`:
a put writes only to the file it has created, and only replaces the target when that file has the
whole source. They are computed from the text of the programs (`StorageJob.safe`).
-/

namespace SupportFlow

open Python Python.PurePosixPath Service Move DocumentService
open Program (Safe)
open InMemoryDocumentStorage (Objects)

/-! ### Keys -/

/-- A key that names a file of its own, and no hidden one. -/
structure StorageKey where
  text : String
  accepted : AcceptedKey text
  plain : PlainKey text
  nulFree : NulFree text
  visible : ∀ segment ∈ plainSegments text, segment.toList.head? ≠ some '.'

namespace StorageKey

theorem slash_not_mem_str (u : UUID) : '/' ∉ u.str.toList := by
  intro h
  rcases UUID.mem_str h with heq | ⟨n, heq⟩
  · exact absurd heq (by decide)
  · have hdigit : ∀ k < 16, Nat.digitChar k ≠ '/' := by decide
    exact hdigit (n % 16) (Nat.mod_lt n (by decide)) heq.symm

theorem split_buildStorageKey (organizationId documentId versionId : UUID) :
    split '/' (buildStorageKey organizationId documentId versionId) =
      ["organizations", organizationId.str, "documents", documentId.str, "versions",
        versionId.str] := by
  have hjoined (a b c d e f : String) :
      (a ++ "/" ++ b ++ ("/" ++ c ++ "/") ++ d ++ ("/" ++ e ++ "/") ++ f).toList =
        a.toList ++ '/' :: (b.toList ++ '/' :: (c.toList ++ '/' :: (d.toList ++ '/' ::
          (e.toList ++ '/' :: f.toList)))) := by
    simp
  unfold buildStorageKey
  rw [split, show "organizations/" = "organizations" ++ "/" by decide,
    show "/documents/" = "/" ++ "documents" ++ "/" by decide,
    show "/versions/" = "/" ++ "versions" ++ "/" by decide, hjoined,
    List.splitOn_append_cons_self_of_not_mem (show '/' ∉ "organizations".toList by decide),
    List.splitOn_append_cons_self_of_not_mem (slash_not_mem_str organizationId),
    List.splitOn_append_cons_self_of_not_mem (show '/' ∉ "documents".toList by decide),
    List.splitOn_append_cons_self_of_not_mem (slash_not_mem_str documentId),
    List.splitOn_append_cons_self_of_not_mem (show '/' ∉ "versions".toList by decide),
    List.splitOn_eq_singleton (slash_not_mem_str versionId)]
  simp only [List.map_cons, List.map_nil, String.ofList_toList]

/-- A segment of the key of a version is a word, or the text of a UUID. -/
theorem head_of_mem {organizationId documentId versionId : UUID} {segment : String}
    (h : segment ∈ split '/' (buildStorageKey organizationId documentId versionId)) :
    ∃ c cs, segment.toList = c :: cs ∧ c ≠ '.' ∧ ∀ c' ∈ segment.toList, c' ≠ '\\' ∧
      c' ≠ Char.ofNat 0 := by
  rw [split_buildStorageKey] at h
  have hword : ∀ word ∈ ["organizations", "documents", "versions"], ∃ c cs,
      word.toList = c :: cs ∧ c ≠ '.' ∧ ∀ c' ∈ word.toList, c' ≠ '\\' ∧ c' ≠ Char.ofNat 0 := by
    intro word hword
    simp only [List.mem_cons, List.not_mem_nil, or_false] at hword
    rcases hword with rfl | rfl | rfl <;> exact ⟨_, _, rfl, by decide, by simp⟩
  have htext : ∀ u : UUID, ∃ c cs, u.str.toList = c :: cs ∧ c ≠ '.' ∧
      ∀ c' ∈ u.str.toList, c' ≠ '\\' ∧ c' ≠ Char.ofNat 0 := by
    intro u
    have hplain : ∀ c ∈ u.str.toList, c ≠ '.' ∧ c ≠ '\\' ∧ c ≠ Char.ofNat 0 := by
      intro c hc
      rcases UUID.mem_str hc with rfl | ⟨n, rfl⟩
      · decide
      · have hdigit : ∀ k < 16, Nat.digitChar k ≠ '.' ∧ Nat.digitChar k ≠ '\\' ∧
            Nat.digitChar k ≠ Char.ofNat 0 := by decide
        exact hdigit (n % 16) (Nat.mod_lt n (by decide))
    obtain ⟨c, cs, hcons⟩ : ∃ c cs, u.str.toList = c :: cs := by
      rw [UUID.toList_str]
      exact ⟨_, _, rfl⟩
    exact ⟨c, cs, hcons, (hplain c (hcons ▸ List.mem_cons_self)).1, fun c' hc' ↦ (hplain c' hc').2⟩
  simp only [List.mem_cons, List.not_mem_nil, or_false] at h
  rcases h with rfl | rfl | rfl | rfl | rfl | rfl
  · exact hword _ (by decide)
  · exact htext organizationId
  · exact hword _ (by decide)
  · exact htext documentId
  · exact hword _ (by decide)
  · exact htext versionId

/-- The key of a document version. -/
def ofIds (organizationId documentId versionId : UUID) : StorageKey where
  text := buildStorageKey organizationId documentId versionId
  accepted := by
    rw [acceptedKey_iff]
    refine ⟨fun h ↦ ?_, fun h ↦ ?_, fun h ↦ ?_, fun h ↦ ?_⟩
    · have hempty : "" ∈ split '/' (buildStorageKey organizationId documentId versionId) := by
        rw [h]
        decide
      obtain ⟨c, cs, hcons, -⟩ := head_of_mem hempty
      cases hcons
    · obtain ⟨cs, hcs⟩ := List.head?_eq_some_iff.1 h
      have hempty : "" ∈ split '/' (buildStorageKey organizationId documentId versionId) := by
        refine mem_split_iff.2 ⟨by decide, [], cs ++ ['/'], ?_⟩
        rw [hcs]
        rfl
      obtain ⟨c, cs, hcons, -⟩ := head_of_mem hempty
      cases hcons
    · obtain ⟨segment, hsegment, hmem⟩ := exists_mem_split h (by decide : '\\' ≠ '/')
      obtain ⟨-, -, -, -, hplain⟩ := head_of_mem hsegment
      exact (hplain _ hmem).1 rfl
    · obtain ⟨c, cs, hcons, hdot, -⟩ := head_of_mem h
      exact hdot (List.cons.inj hcons).1.symm
  plain := by
    rw [plainKey_iff]
    refine ⟨fun h ↦ ?_, fun h ↦ ?_⟩
    · obtain ⟨c, cs, hcons, -⟩ := head_of_mem h
      cases hcons
    · obtain ⟨c, cs, hcons, hdot, -⟩ := head_of_mem h
      exact hdot (List.cons.inj hcons).1.symm
  nulFree h := by
    obtain ⟨segment, hsegment, hmem⟩ := exists_mem_split h (by decide : Char.ofNat 0 ≠ '/')
    obtain ⟨-, -, -, -, hplain⟩ := head_of_mem hsegment
    exact (hplain _ hmem).2 rfl
  visible segment hsegment h := by
    obtain ⟨c, cs, hcons, hdot, -⟩ := head_of_mem (mem_plainSegments hsegment)
    rw [hcons] at h
    exact hdot (Option.some.inj h)

end StorageKey

/-! ### Programs -/

/-- `uuid.hex`. -/
def UUID.hex (u : UUID) : String :=
  String.ofList (u.digits 0 32)

/-- What is raised: the key cannot be used, or a call of the system failed. -/
inductive StorageFailure
  | key (e : StorageError)
  | file (e : FileError)
deriving DecidableEq

/-- An answered call of the system. -/
abbrev FileAnswered := Answered FileCall.Answer

/-- A program on the calls of the system. -/
abbrev StorageProgram (α : Type) := Program FileCall.Answer StorageFailure α

/-- How a writer cuts up what it is given. -/
structure Chunking where
  chunks : List UInt8 → List (List UInt8)
  flatten_chunks : ∀ bytes, (chunks bytes).flatten = bytes

namespace StorageProgram

/-- A call, whose error is raised. -/
def issue (request : FileCall) : StorageProgram request.Value := do
  MonadExcept.ofExcept ((← Program.ask request).mapError .file)

/-- `if not path.is_dir(): raise e`. -/
def raiseUnlessDir (path : List String) (e : StorageFailure) : StorageProgram Unit := do
  if !(← issue (.isDir path)) then throw e

/-- `path.mkdir(exist_ok=True)`. -/
def makeDirectory (path : List String) : StorageProgram Unit :=
  tryCatch (issue (.mkdir path)) fun e ↦
    if e = .file (.os .fileNotFound) then throw e else raiseUnlessDir path e

/-- `path.mkdir(parents=True, exist_ok=True)`. -/
def makeDirectories : List String → StorageProgram Unit
  | [] => makeDirectory []
  | name :: dir =>
    tryCatch (issue (.mkdir (name :: dir))) fun e ↦
      if e = .file (.os .fileNotFound) then do
        makeDirectories dir
        makeDirectory (name :: dir)
      else raiseUnlessDir (name :: dir) e

/-- `path.unlink(missing_ok=True)`. -/
def unlinkMissingOk (name : String) (dir : List String) : StorageProgram Unit :=
  tryCatch (issue (.unlink name dir)) fun e ↦ do
    if e ≠ .file (.os .fileNotFound) then throw e

/-- What is copied to a new file, chunk by chunk. -/
def copyTo (file : ℕ) : List (List UInt8) → StorageProgram Unit
  | [] => pure ()
  | bytes :: rest => do
    issue (.write file bytes)
    copyTo file rest

/-- What is read from a file, in reads of these sizes. -/
def readFrom (file position : ℕ) : List ℕ → StorageProgram (List UInt8)
  | [] => pure []
  | size :: sizes => do
    let bytes ← issue (.read file position size)
    return bytes ++ (← readFrom file (position + bytes.length) sizes)

end StorageProgram

namespace LocalDocumentStorage

open StorageProgram

variable (storage : LocalDocumentStorage)

/-- `LocalDocumentStorage.put`. -/
def putProgram (chunking : Chunking) (key : String) (source : ByteFile) (draw : UUID) :
    StorageProgram Unit := do
  match ← MonadExcept.ofExcept ((storage.pathFor key).mapError .key) with
  | [] => throw (.key .valueError)
  | name :: dir =>
    let temporary := temporaryName name draw.hex
    makeDirectories dir
    Program.andFinally
      (do
        let file ← issue (.createNew temporary dir)
        copyTo file (chunking.chunks (source.seek 0).rest)
        issue (.replace temporary name dir))
      (unlinkMissingOk temporary dir)

/-- `LocalDocumentStorage.open`, and reads of the file that it returns. -/
def readProgram (key : String) (sizes : List ℕ) : StorageProgram (List UInt8) := do
  let target ← MonadExcept.ofExcept ((storage.pathFor key).mapError .key)
  let file ← issue (.openRead target)
  readFrom file 0 sizes

/-- `LocalDocumentStorage.delete`. -/
def deleteProgram (key : String) : StorageProgram Unit := do
  match ← MonadExcept.ofExcept ((storage.pathFor key).mapError .key) with
  | [] => throw (.key (.osError .isADirectory))
  | name :: dir => unlinkMissingOk name dir

end LocalDocumentStorage

/-- A call of the storage port. The draw is what `uuid4` gives a put. -/
inductive StorageJob
  | put (key : StorageKey) (source : ByteFile) (draw : UUID)
  | read (key : StorageKey) (sizes : List ℕ)
  | delete (key : StorageKey)

namespace StorageJob

/-- What runs for a call. -/
def program (storage : LocalDocumentStorage) (chunking : Chunking) :
    StorageJob → StorageProgram (Option (List UInt8))
  | put key source draw => do
    storage.putProgram chunking key.text source draw
    return none
  | read key sizes => do
    return some (← storage.readProgram key.text sizes)
  | delete key => do
    storage.deleteProgram key.text
    return none

/-- The call of the object store that it is meant as. -/
def call : StorageJob → StorageCall
  | put key source draw => .put key.text source draw.hex
  | read key _ => .openKey key.text
  | delete key => .delete key.text

/-- Where it takes effect: a put when the target is replaced, a read when the file is opened or is
not there, and a delete when it is removed or is not there. -/
def point : StorageJob → FileAnswered → Bool
  | put .., ⟨.replace .., .ok ()⟩ => true
  | read .., ⟨.openRead _, .ok _⟩ => true
  | read .., ⟨.openRead _, .error (.os .fileNotFound)⟩ => true
  | delete _, ⟨.unlink .., .ok ()⟩ => true
  | delete _, ⟨.unlink .., .error (.os .fileNotFound)⟩ => true
  | _, _ => false

end StorageJob

/-! ### Paths -/

theorem UUID.hex_injective : Function.Injective UUID.hex := by
  intro u v h
  have hdigits : u.digits 0 32 = v.digits 0 32 := by
    rw [← String.toList_ofList (l := u.digits 0 32), ← UUID.hex, h, UUID.hex, String.toList_ofList]
  have hu := foldlM_digits u (show 0 + 32 ≤ 32 by decide)
  have hv := foldlM_digits v (show 0 + 32 ≤ 32 by decide)
  rw [Nat.div_eq_of_lt (show u.val < 16 ^ (32 - 0) from u.isLt), hdigits] at hu
  rw [Nat.div_eq_of_lt (show v.val < 16 ^ (32 - 0) from v.isLt), hu] at hv
  have hval := Option.some.inj hv
  rw [show 16 ^ (32 - (0 + 32)) = 1 from rfl, Nat.div_one, Nat.div_one] at hval
  exact Fin.ext hval

theorem temporaryName_token {name name' token token' : String}
    (hlength : token.toList.length = token'.toList.length)
    (h : LocalDocumentStorage.temporaryName name token =
      LocalDocumentStorage.temporaryName name' token') : token = token' := by
  have htext := congrArg String.toList h
  simp only [LocalDocumentStorage.temporaryName, String.toList_append] at htext
  have hfront := List.append_cancel_right htext
  exact String.toList_inj.1 (List.append_inj' hfront hlength).2

namespace LocalDocumentStorage

variable (storage : LocalDocumentStorage) (key : StorageKey) (draw : UUID)

/-- The name of the target of a key. -/
def targetName : String :=
  (storage.target key.text).headD ""

/-- The directory of the target of a key. -/
def targetDir : List String :=
  (storage.target key.text).tail

/-- The temporary file of a put. -/
def temporaryPath : List String :=
  temporaryName (storage.targetName key) draw.hex :: storage.targetDir key

theorem target_eq_cons :
    storage.target key.text = storage.targetName key :: storage.targetDir key ∧
      storage.targetName key ∈ plainSegments key.text := by
  have hsegments : (plainSegments key.text).reverse ≠ [] := by
    intro h
    have hroot : storage.target key.text = storage.root := by
      rw [target, h, List.nil_append]
    exact target_ne_root key.plain hroot
  obtain ⟨name, dir, hcons⟩ := List.exists_cons_of_ne_nil hsegments
  have hmem : name ∈ plainSegments key.text :=
    List.mem_reverse.1 (hcons ▸ List.mem_cons_self)
  rw [targetName, targetDir, target, hcons]
  exact ⟨rfl, hmem⟩

theorem pathFor_key :
    storage.pathFor key.text = .ok (storage.targetName key :: storage.targetDir key) := by
  rw [pathFor_of_nulFree key.accepted key.nulFree, (storage.target_eq_cons key).1]

variable {storage key draw}

/-- A target is no temporary file. -/
theorem temporaryPath_ne_target (key' : StorageKey) :
    storage.temporaryPath key draw ≠ storage.target key'.text := by
  obtain ⟨htarget, hmem⟩ := storage.target_eq_cons key'
  intro h
  rw [htarget] at h
  refine key'.visible _ hmem ?_
  rw [← (List.cons.inj h).1]
  simp only [temporaryName, String.toList_append]
  rfl

/-- Different draws give different temporary files. -/
theorem draw_eq_of_temporaryPath {key' : StorageKey} {draw' : UUID}
    (h : storage.temporaryPath key draw = storage.temporaryPath key' draw') : draw = draw' := by
  refine UUID.hex_injective (temporaryName_token ?_ (List.cons.inj h).1)
  rw [UUID.hex, UUID.hex, String.toList_ofList, String.toList_ofList, UUID.length_digits,
    UUID.length_digits]

theorem target_inj {key' : StorageKey} (h : storage.target key.text = storage.target key'.text) :
    key.text = key'.text :=
  target_injective key.plain key'.plain h

end LocalDocumentStorage

/-! ### What a call does -/

/-- Nothing was done but to make directories. -/
def Preparing (past : List FileAnswered) : Prop :=
  ∀ call ∈ past, (∃ path, call.1 = .mkdir path) ∨ ∃ path, call.1 = .isDir path

/-- A new file was created under a name, and that much was written to it. -/
inductive Writing (name : String) (dir : List String) :
    List FileAnswered → ℕ → List UInt8 → Prop
  | created {past : List FileAnswered} {file : ℕ} (h : Preparing past) :
    Writing name dir (past ++ [⟨.createNew name dir, .ok file⟩]) file []
  | written {past : List FileAnswered} {file : ℕ} {written bytes : List UInt8}
    (h : Writing name dir past file written) :
    Writing name dir (past ++ [⟨.write file bytes, .ok ()⟩]) file (written ++ bytes)

namespace StorageJob

variable (storage : LocalDocumentStorage)

/-- What a call has been answered when it issues another one. -/
def Allowed : StorageJob → List FileAnswered → FileCall → Prop
  | put key source draw, past, request =>
    let temporary := LocalDocumentStorage.temporaryName (storage.targetName key) draw.hex
    let dir := storage.targetDir key
    match request with
    | .mkdir _ | .isDir _ => True
    | .createNew name dir' => name = temporary ∧ dir' = dir ∧ Preparing past
    | .write file _ => ∃ written, Writing temporary dir past file written
    | .replace name target dir' => name = temporary ∧ target = storage.targetName key ∧
      dir' = dir ∧ ∃ file, Writing temporary dir past file source.content
    | .unlink name dir' => name = temporary ∧ dir' = dir
    | .openRead _ | .read .. => False
  | read key _, past, request =>
    match request with
    | .openRead path => path = storage.target key.text ∧ past = []
    | .read file _ _ => ∃ rest, past = ⟨.openRead (storage.target key.text), .ok file⟩ :: rest
    | .mkdir _ | .isDir _ | .createNew .. | .write .. | .replace .. | .unlink .. => False
  | delete key, past, request =>
    match request with
    | .unlink name dir => name :: dir = storage.target key.text ∧ past = []
    | .mkdir _ | .isDir _ | .createNew .. | .write .. | .replace .. | .openRead _ | .read .. =>
      False

/-- What a call has been answered when it ends. -/
def Ended : StorageJob → List FileAnswered → Except StorageFailure (Option (List UInt8)) → Prop
  | put key source draw, past, result =>
    let temporary := LocalDocumentStorage.temporaryName (storage.targetName key) draw.hex
    let dir := storage.targetDir key
    (∀ bytes, result = .ok bytes →
      bytes = none ∧ ∃ call ∈ past, (put key source draw).point call = true) ∧
    (⟨.unlink temporary dir, .ok ()⟩ ∈ past ∨
      ⟨.unlink temporary dir, .error (.os .fileNotFound)⟩ ∈ past ∨
      (∃ e, ⟨.unlink temporary dir, .error e⟩ ∈ past ∧ result = .error (.file e)) ∨
      Preparing past)
  | read key sizes, past, result =>
    (∀ found, result = .ok found → ∃ file rest bytes, found = some bytes ∧
      past = ⟨.openRead (storage.target key.text), .ok file⟩ :: rest ∧
      ∀ content : List UInt8, (∀ position size chunk, ⟨.read file position size, .ok chunk⟩ ∈ rest →
        chunk = (content.drop position).take size) → bytes = content.take sizes.sum) ∧
    (result = .error (.file (.os .fileNotFound)) →
      ⟨.openRead (storage.target key.text), .error (.os .fileNotFound)⟩ ∈ past ∨
        ∃ file position size, ⟨.read file position size, .error (.os .fileNotFound)⟩ ∈ past)
  | delete key, past, result => ∀ bytes, result = .ok bytes →
    bytes = none ∧ ∃ call ∈ past, (delete key).point call = true

end StorageJob

/-! ### Obligations of the pieces -/

section Pieces

open StorageProgram

variable {A : List FileAnswered → FileCall → Prop} {past : List FileAnswered}

theorem safe_issue {request : FileCall}
    {Q : List FileAnswered → Except StorageFailure request.Value → Prop} :
    Safe A Q past (issue request) ↔ A past request ∧
      ∀ reply, Q (past ++ [⟨request, reply⟩]) (reply.mapError .file) := by
  simp only [issue, Program.safe_bind, Program.safe_ask, Program.safe_ofExcept]

theorem safe_unlinkMissingOk {name : String} {dir : List String}
    {Q : List FileAnswered → Except StorageFailure Unit → Prop}
    (hallowed : A past (.unlink name dir))
    (hok : Q (past ++ [⟨.unlink name dir, .ok ()⟩]) (.ok ()))
    (hmissing : Q (past ++ [⟨.unlink name dir, .error (.os .fileNotFound)⟩]) (.ok ()))
    (herror : ∀ e, Q (past ++ [⟨.unlink name dir, .error e⟩]) (.error (.file e))) :
    Safe A Q past (unlinkMissingOk name dir) := by
  refine Program.safe_tryCatch.2 (safe_issue.2 ⟨hallowed, fun reply ↦ ?_⟩)
  cases reply with
  | ok => exact hok
  | error e =>
    show Safe A Q _ (if StorageFailure.file e ≠ _ then _ else _)
    split
    · exact herror e
    · next h =>
      obtain rfl : e = .os .fileNotFound := StorageFailure.file.inj (not_not.1 h)
      exact hmissing

theorem Preparing.snoc (h : Preparing past) (call : FileAnswered)
    (hcall : (∃ path, call.1 = .mkdir path) ∨ ∃ path, call.1 = .isDir path) :
    Preparing (past ++ [call]) := by
  intro other hother
  rcases List.mem_append.1 hother with hother | hother
  · exact h other hother
  · exact List.mem_singleton.1 hother ▸ hcall

section Preparing

theorem safe_raiseUnlessDir (hisDir : ∀ past path, A past (.isDir path)) {path : List String}
    {e : StorageFailure} (h : Preparing past) :
    Safe A (fun past _ ↦ Preparing past) past (raiseUnlessDir path e) := by
  refine Program.safe_bind.2 (safe_issue.2 ⟨hisDir past path, fun reply ↦ ?_⟩)
  have hasked := h.snoc ⟨.isDir path, reply⟩ (Or.inr ⟨path, rfl⟩)
  cases reply with
  | ok found => cases found <;> exact hasked
  | error e => exact hasked

variable (hmkdir : ∀ past path, A past (.mkdir path)) (hisDir : ∀ past path, A past (.isDir path))
include hmkdir hisDir

theorem safe_makeDirectory {path : List String} (h : Preparing past) :
    Safe A (fun past _ ↦ Preparing past) past (makeDirectory path) := by
  refine Program.safe_tryCatch.2 (safe_issue.2 ⟨hmkdir past path, fun reply ↦ ?_⟩)
  have hmade := h.snoc ⟨.mkdir path, reply⟩ (Or.inl ⟨path, rfl⟩)
  cases reply with
  | ok => exact hmade
  | error e =>
    show Safe A _ _ (if StorageFailure.file e = _ then _ else _)
    split
    · exact hmade
    · exact safe_raiseUnlessDir hisDir hmade

/-- Making directories is preparing, whatever comes of it. -/
theorem safe_makeDirectories {path : List String} (h : Preparing past) :
    Safe A (fun past _ ↦ Preparing past) past (makeDirectories path) := by
  induction path generalizing past with
  | nil => exact safe_makeDirectory hmkdir hisDir h
  | cons name dir ih =>
    refine Program.safe_tryCatch.2 (safe_issue.2 ⟨hmkdir past _, fun reply ↦ ?_⟩)
    have hmade := h.snoc ⟨.mkdir (name :: dir), reply⟩ (Or.inl ⟨_, rfl⟩)
    cases reply with
    | ok => exact hmade
    | error e =>
      show Safe A _ _ (if StorageFailure.file e = _ then _ else _)
      split
      · refine Program.safe_bind.2 (Safe.mono (fun past result h ↦ ?_) (ih hmade))
        cases result with
        | ok => exact safe_makeDirectory hmkdir hisDir h
        | error => exact h
      · exact safe_raiseUnlessDir hisDir hmade

end Preparing

/-- Copying goes on with the file that it writes to, as long as no write fails. -/
theorem safe_copyTo {name : String} {dir : List String} {file : ℕ} {written : List UInt8}
    {chunks : List (List UInt8)}
    (hwrite : ∀ past bytes written, Writing name dir past file written → A past (.write file bytes))
    (h : Writing name dir past file written) :
    Safe A
      (fun past result ↦ result = .ok () → Writing name dir past file (written ++ chunks.flatten))
      past (copyTo file chunks) := by
  induction chunks generalizing past written with
  | nil =>
    intro _
    rwa [List.flatten_nil, List.append_nil]
  | cons bytes rest ih =>
    refine Program.safe_bind.2 (safe_issue.2 ⟨hwrite past bytes written h, fun reply ↦ ?_⟩)
    cases reply with
    | ok =>
      rw [List.flatten_cons, ← List.append_assoc]
      exact ih h.written
    | error e => exact nofun

/-- Behind what was read stands the rest. -/
theorem drop_length_take {content chunk : List UInt8} {position size : ℕ}
    (h : chunk = (content.drop position).take size) :
    content.drop (position + chunk.length) = (content.drop position).drop size := by
  rw [← List.drop_drop, h, List.length_take]
  rcases le_total size (content.drop position).length with hle | hle
  · rw [min_eq_left hle]
  · rw [min_eq_right hle, List.drop_length, List.drop_eq_nil_of_le hle]

/-- What is read in pieces is read in one piece. -/
theorem safe_readFrom {file position : ℕ} {sizes : List ℕ} {first : FileAnswered}
    (rest : List FileAnswered)
    (hread : ∀ rest position size, A (first :: rest) (.read file position size)) :
    Safe A (fun past result ↦ ∃ rest', past = first :: rest' ∧ (∀ call ∈ rest, call ∈ rest') ∧
      match result with
      | .ok bytes => ∀ content : List UInt8,
        (∀ position size chunk, ⟨.read file position size, .ok chunk⟩ ∈ rest' →
          chunk = (content.drop position).take size) →
        bytes = (content.drop position).take sizes.sum
      | .error e => ∃ position size e', e = .file e' ∧
        ⟨.read file position size, .error e'⟩ ∈ rest')
      (first :: rest) (readFrom file position sizes) := by
  induction sizes generalizing position rest with
  | nil =>
    refine ⟨rest, rfl, fun _ h ↦ h, fun content _ ↦ ?_⟩
    rw [List.sum_nil, List.take_zero]
  | cons size sizes ih =>
    refine Program.safe_bind.2 (safe_issue.2 ⟨hread rest position size, fun reply ↦ ?_⟩)
    cases reply with
    | error e =>
      exact ⟨rest ++ [_], rfl, fun _ h ↦ List.mem_append_left _ h, position, size, e, rfl,
        List.mem_append_right _ (List.mem_singleton_self _)⟩
    | ok chunk =>
      refine Program.safe_bind.2 (Safe.mono (fun past result h ↦ ?_)
        (ih (rest ++ [⟨.read file position size, .ok chunk⟩])))
      obtain ⟨rest', rfl, hmem, hresult⟩ := h
      have hkept : ∀ call ∈ rest, call ∈ rest' := fun _ h ↦ hmem _ (List.mem_append_left _ h)
      cases result with
      | error e => exact ⟨rest', rfl, hkept, hresult⟩
      | ok bytes =>
        refine ⟨rest', rfl, hkept, fun content hcontent ↦ ?_⟩
        have hchunk : chunk = (content.drop position).take size :=
          hcontent position size chunk
            (hmem _ (List.mem_append_right _ (List.mem_singleton_self _)))
        rw [hresult content hcontent, List.sum_cons, List.take_add, drop_length_take hchunk,
          ← hchunk]

end Pieces

/-! ### The obligations of a call -/

namespace Writing

variable {name : String} {dir : List String} {past : List FileAnswered} {file : ℕ}
  {written : List UInt8}

/-- While it writes, a put has not replaced anything. -/
theorem not_replace (h : Writing name dir past file written) {call : FileAnswered}
    (hcall : call ∈ past) (source target : String) (dir' : List String) :
    call.1 ≠ .replace source target dir' := by
  induction h with
  | created hprepared =>
    rcases List.mem_append.1 hcall with hcall | hcall
    · rcases hprepared call hcall with ⟨path, hpath⟩ | ⟨path, hpath⟩ <;> rw [hpath] <;> exact nofun
    · rw [List.mem_singleton.1 hcall]
      exact nofun
  | written _ ih =>
    rcases List.mem_append.1 hcall with hcall | hcall
    · exact ih hcall
    · rw [List.mem_singleton.1 hcall]
      exact nofun

/-- The file that it writes to is the one that it has created. -/
theorem created_mem (h : Writing name dir past file written) :
    ⟨.createNew name dir, .ok file⟩ ∈ past := by
  induction h with
  | created => exact List.mem_append_right _ (List.mem_singleton_self _)
  | written _ ih => exact List.mem_append_left _ ih

/-- What was done last. -/
theorem of_snoc {call : FileAnswered} (h : Writing name dir (past ++ [call]) file written) :
    (call = ⟨.createNew name dir, .ok file⟩ ∧ written = []) ∨
      ∃ before bytes, Writing name dir past file before ∧
        call = ⟨.write file bytes, .ok ()⟩ ∧ written = before ++ bytes := by
  generalize hpast : past ++ [call] = all at h
  cases h with
  | created =>
    exact Or.inl ⟨List.singleton_inj.1 (List.append_inj' hpast rfl).2, rfl⟩
  | written h =>
    obtain ⟨hfront, hlast⟩ := List.append_inj' hpast rfl
    exact Or.inr ⟨_, _, hfront ▸ h, List.singleton_inj.1 hlast, rfl⟩

end Writing

namespace StorageJob

open StorageProgram LocalDocumentStorage

variable {storage : LocalDocumentStorage} {chunking : Chunking}

theorem safe_put (key : StorageKey) (source : ByteFile) (draw : UUID) :
    Safe ((put key source draw).Allowed storage) ((put key source draw).Ended storage) []
      ((put key source draw).program storage chunking) := by
  refine Program.safe_bind.2 (Program.safe_bind.2 (Program.safe_ofExcept.2 ?_))
  rw [storage.pathFor_key key]
  refine Program.safe_bind.2 (Safe.mono (fun past made hprepared ↦ ?_)
    (safe_makeDirectories (fun _ _ ↦ trivial) (fun _ _ ↦ trivial) (nofun : Preparing [])))
  cases made with
  | error e => exact ⟨nofun, Or.inr (Or.inr (Or.inr hprepared))⟩
  | ok =>
    refine Program.safe_andFinally.2 (Safe.mono (Q := fun past result ↦ result = .ok () →
      ∃ call ∈ past, (put key source draw).point call = true) (fun past result hresult ↦ ?_) ?_)
    · -- Whatever comes of the file, the rest of it is removed.
      refine safe_unlinkMissingOk ⟨rfl, rfl⟩ ?_ ?_ ?_
      · have hlast := List.mem_append_right past (List.mem_singleton_self
          (⟨.unlink (temporaryName (storage.targetName key) draw.hex) (storage.targetDir key),
            .ok ()⟩ : FileAnswered))
        cases result with
        | error e => exact ⟨nofun, Or.inl hlast⟩
        | ok =>
          obtain ⟨call, hcall, hpoint⟩ := hresult rfl
          exact ⟨fun bytes h ↦ ⟨(Except.ok.inj h).symm, call, List.mem_append_left _ hcall, hpoint⟩,
            Or.inl hlast⟩
      · have hlast := List.mem_append_right past (List.mem_singleton_self
          (⟨.unlink (temporaryName (storage.targetName key) draw.hex) (storage.targetDir key),
            .error (.os .fileNotFound)⟩ : FileAnswered))
        cases result with
        | error e => exact ⟨nofun, Or.inr (Or.inl hlast)⟩
        | ok =>
          obtain ⟨call, hcall, hpoint⟩ := hresult rfl
          exact ⟨fun bytes h ↦ ⟨(Except.ok.inj h).symm, call, List.mem_append_left _ hcall, hpoint⟩,
            Or.inr (Or.inl hlast)⟩
      · exact fun e ↦ ⟨nofun, Or.inr (Or.inr (Or.inl ⟨e,
          List.mem_append_right past (List.mem_singleton_self _), rfl⟩))⟩
    · refine Program.safe_bind.2 (safe_issue.2 ⟨⟨rfl, rfl, hprepared⟩, fun reply ↦ ?_⟩)
      cases reply with
      | error e => exact nofun
      | ok file =>
        refine Program.safe_bind.2 (Safe.mono (fun past result hcopied ↦ ?_)
          (safe_copyTo (fun _ _ written h ↦ ⟨written, h⟩) (.created hprepared)))
        cases result with
        | error e => exact nofun
        | ok =>
          have hwhole := hcopied rfl
          rw [List.nil_append, chunking.flatten_chunks] at hwhole
          refine safe_issue.2 ⟨⟨rfl, rfl, rfl, file, hwhole⟩, fun reply ↦ ?_⟩
          cases reply with
          | error e => exact nofun
          | ok =>
            exact fun _ ↦ ⟨_, List.mem_append_right _ (List.mem_singleton_self _), rfl⟩

theorem safe_read (key : StorageKey) (sizes : List ℕ) :
    Safe ((read key sizes).Allowed storage) ((read key sizes).Ended storage) []
      ((read key sizes).program storage chunking) := by
  refine Program.safe_bind.2 (Program.safe_bind.2 (Program.safe_ofExcept.2 ?_))
  rw [storage.pathFor_key key, ← (storage.target_eq_cons key).1]
  refine Program.safe_bind.2 (safe_issue.2 ⟨⟨rfl, rfl⟩, fun reply ↦ ?_⟩)
  cases reply with
  | error e =>
    refine ⟨nofun, fun h ↦ Or.inl ?_⟩
    obtain rfl : e = .os .fileNotFound := StorageFailure.file.inj (Except.error.inj h)
    exact List.mem_singleton_self _
  | ok file =>
    refine Safe.mono (fun past result h ↦ ?_) (safe_readFrom [] fun rest _ _ ↦ ⟨rest, rfl⟩)
    obtain ⟨rest, rfl, -, hresult⟩ := h
    cases result with
    | ok bytes =>
      exact ⟨fun found h ↦ ⟨file, rest, bytes, (Except.ok.inj h).symm, rfl, hresult⟩, nofun⟩
    | error e =>
      obtain ⟨position, size, e', rfl, hmem⟩ := hresult
      refine ⟨nofun, fun h ↦ Or.inr ⟨file, position, size, ?_⟩⟩
      obtain rfl : e' = .os .fileNotFound := StorageFailure.file.inj (Except.error.inj h)
      exact List.mem_cons_of_mem _ hmem

theorem safe_delete (key : StorageKey) :
    Safe ((delete key).Allowed storage) ((delete key).Ended storage) []
      ((delete key).program storage chunking) := by
  refine Program.safe_bind.2 (Program.safe_bind.2 (Program.safe_ofExcept.2 ?_))
  rw [storage.pathFor_key key]
  refine safe_unlinkMissingOk ⟨(storage.target_eq_cons key).1.symm, rfl⟩ ?_ ?_ ?_
  · exact fun bytes h ↦ ⟨(Except.ok.inj h).symm, _, List.mem_singleton_self _, rfl⟩
  · exact fun bytes h ↦ ⟨(Except.ok.inj h).symm, _, List.mem_singleton_self _, rfl⟩
  · exact fun e ↦ nofun

/-- **What a call does, whatever it is answered.** -/
theorem safe (job : StorageJob) :
    Safe (job.Allowed storage) (job.Ended storage) [] (job.program storage chunking) := by
  cases job with
  | put key source draw => exact safe_put key source draw
  | read key sizes => exact safe_read key sizes
  | delete key => exact safe_delete key

/-- No call takes effect twice. -/
theorem point_once (job : StorageJob) (past : List FileAnswered) (request : FileCall)
    (reply : request.Answer) (h : job.Allowed storage past request)
    (hpoint : job.point ⟨request, reply⟩ = true) : ∀ call ∈ past, job.point call = false := by
  intro call hcall
  cases job with
  | put key source draw =>
    cases request with
    | replace name target dir' =>
      obtain ⟨-, -, -, file, hwriting⟩ := h
      obtain ⟨other, reply'⟩ := call
      cases other with
      | replace source' target' dir =>
        exact absurd rfl (hwriting.not_replace hcall source' target' dir)
      | mkdir | isDir | createNew | write | unlink | openRead | read => rfl
    | mkdir | isDir | createNew | write | unlink | openRead | read => cases hpoint
  | read key sizes =>
    cases request with
    | openRead path => exact absurd hcall (h.2 ▸ List.not_mem_nil)
    | mkdir | isDir | createNew | write | unlink | replace | read => cases hpoint
  | delete key =>
    cases request with
    | unlink name dir => exact absurd hcall (h.2 ▸ List.not_mem_nil)
    | mkdir | isDir | createNew | write | openRead | replace | read => cases hpoint

end StorageJob

end SupportFlow
