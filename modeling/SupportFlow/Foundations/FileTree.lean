import Mathlib.Data.List.Infix
import Mathlib.Logic.Function.Basic
import SupportFlow.Foundations.Effect

/-!
# File trees

A file system without links: directories, and files with a content of any type. A path is the list
of its names, innermost first, so the directory of `name :: dir` is `dir` and `[]` is the root
directory. A tree carries that whatever it holds stands in a directory.

The calls of the operating system are computations on a tree that raise an `OSError`. Each finds its
way from the root: every directory on it has to be there, and every name to be one the file system
takes (`usable`). Below a file nothing is found, so a call goes as on a flat store of files where no
file stands above its path (`find_of_noFileAbove`).
-/

/-- What a path holds. -/
inductive FileEntry (β : Type)
  | directory
  | file (content : β)

/-- The errors of the operating system. -/
inductive OSError
  | fileNotFound
  | fileExists
  | isADirectory
  | notADirectory
  | nameTooLong
deriving DecidableEq

/-- A tree of directories and files. -/
structure FileTree (β : Type) where
  entry : List String → Option (FileEntry β)
  root_directory : entry [] = some .directory
  /-- Whatever is there stands in a directory. -/
  parent_directory : ∀ name dir, entry (name :: dir) ≠ none → entry dir = some .directory

namespace FileTree

open Effect

variable {β : Type}

/-! ### Changes -/

/-- `os.path.isdir`, for a path that is found. -/
def isDirectory (tree : FileTree β) (path : List String) : Bool :=
  match tree.entry path with
  | some .directory => true
  | some (.file _) | none => false

theorem isDirectory_iff {tree : FileTree β} {path : List String} :
    tree.isDirectory path = true ↔ tree.entry path = some .directory := by
  unfold isDirectory
  split <;> simp_all

/-- The tree with another entry at a path, or none. Nothing changes when a directory is there, or
when there is no directory for the new entry to stand in. -/
def set (tree : FileTree β) (name : String) (dir : List String) (new : Option (FileEntry β)) :
    FileTree β :=
  if h : tree.isDirectory (name :: dir) = false ∧ (new.isSome = true → tree.isDirectory dir = true)
  then
    { entry := Function.update tree.entry (name :: dir) new
      root_directory := by
        rw [Function.update_of_ne (List.cons_ne_nil name dir).symm]
        exact tree.root_directory
      parent_directory := by
        intro name' dir' hne
        -- Neither the directory of the new entry nor another one is overwritten.
        have hkept : tree.entry dir' = some .directory →
            Function.update tree.entry (name :: dir) new dir' = some .directory := by
          intro hdir'
          rw [Function.update_of_ne, hdir']
          rintro rfl
          rw [isDirectory_iff.2 hdir'] at h
          cases h.1
        by_cases heq : name' :: dir' = name :: dir
        · obtain ⟨rfl, rfl⟩ := List.cons.inj heq
          rw [Function.update_self] at hne
          exact hkept (isDirectory_iff.1 (h.2 (Option.isSome_iff_ne_none.2 hne)))
        · rw [Function.update_of_ne heq] at hne
          exact hkept (tree.parent_directory name' dir' hne) }
  else tree

/-- What a change does to the entries, where no directory is lost. -/
theorem entry_set {tree : FileTree β} {name : String} {dir : List String}
    {new : Option (FileEntry β)} (hpath : tree.entry (name :: dir) ≠ some .directory)
    (hdir : new ≠ none → tree.entry dir = some .directory) :
    (tree.set name dir new).entry = Function.update tree.entry (name :: dir) new := by
  rw [set, dif_pos]
  refine ⟨?_, fun hnew ↦ isDirectory_iff.2 (hdir (Option.isSome_iff_ne_none.1 hnew))⟩
  rw [← Bool.not_eq_true, isDirectory_iff]
  exact hpath

/-! ### Calls -/

section Calls

-- `usable` are the names that the file system takes.
variable (usable : String → Bool)

/-- The entry at a path, or the error of the first step from the root that fails. -/
def find (tree : FileTree β) : List String → Except OSError (FileEntry β)
  | [] => .ok .directory
  | name :: dir => do
    match ← tree.find dir with
    | .file _ => throw .notADirectory
    | .directory =>
      if usable name = false then throw .nameTooLong
      match tree.entry (name :: dir) with
      | none => throw .fileNotFound
      | some found => pure found

/-- The way to a directory, for a name in it. -/
def enter (tree : FileTree β) (name : String) (dir : List String) : Except OSError Unit := do
  match ← tree.find usable dir with
  | .file _ => throw .notADirectory
  | .directory => if usable name = false then throw .nameTooLong

/-- `path.is_dir()`. -/
def isDir (tree : FileTree β) (path : List String) : Bool :=
  match tree.find usable path with
  | .ok .directory => true
  | .ok (.file _) | .error _ => false

/-- `os.mkdir`. -/
def mkdir : List String → Effect OSError (FileTree β) Unit
  | [] => throw .fileExists
  | name :: dir => do
    let tree ← get
    MonadExcept.ofExcept (tree.enter usable name dir)
    raiseWhen ((tree.entry (name :: dir)).isSome = true) .fileExists
    update fun tree ↦ tree.set name dir (some .directory)

/-- A new file: `open("xb")`, and what is written. -/
def create (name : String) (dir : List String) (content : β) :
    Effect OSError (FileTree β) Unit := do
  let tree ← get
  MonadExcept.ofExcept (tree.enter usable name dir)
  raiseWhen ((tree.entry (name :: dir)).isSome = true) .fileExists
  update fun tree ↦ tree.set name dir (some (.file content))

/-- `os.unlink`. -/
def unlink (name : String) (dir : List String) : Effect OSError (FileTree β) Unit := do
  match ← MonadExcept.ofExcept ((← get).find usable (name :: dir)) with
  | .directory => throw .isADirectory
  | .file _ => update fun tree ↦ tree.set name dir none

/-- `os.replace` of a file by another in the same directory. -/
def replace (source target : String) (dir : List String) : Effect OSError (FileTree β) Unit := do
  match ← MonadExcept.ofExcept ((← get).find usable (source :: dir)) with
  | .directory => throw .isADirectory
  | .file content =>
    let tree ← get
    MonadExcept.ofExcept (tree.enter usable target dir)
    raiseWhen (tree.isDirectory (target :: dir) = true) .isADirectory
    update fun tree ↦ (tree.set source dir none).set target dir (some (.file content))

/-- `path.unlink(missing_ok=True)`. -/
def unlinkMissingOk (name : String) (dir : List String) : Effect OSError (FileTree β) Unit :=
  tryCatch (unlink usable name dir) fun e ↦ raiseWhen (e ≠ .fileNotFound) e

/-- `path.mkdir(exist_ok=True)`. -/
def makeDirectory (path : List String) : Effect OSError (FileTree β) Unit :=
  tryCatch (mkdir usable path) fun e ↦ do
    raiseWhen (e = .fileNotFound) e
    raiseWhen ((← get).isDir usable path = false) e

/-- `path.mkdir(parents=True, exist_ok=True)`. -/
def makeDirectories : List String → Effect OSError (FileTree β) Unit
  | [] => makeDirectory usable []
  | name :: dir =>
    tryCatch (mkdir usable (name :: dir)) fun e ↦ do
      if e = .fileNotFound then
        makeDirectories dir
        makeDirectory usable (name :: dir)
      else
        raiseWhen ((← get).isDir usable (name :: dir) = false) e

end Calls

/-! ### What is found -/

variable {usable : String → Bool} {tree : FileTree β} {name : String} {dir path : List String}

section Done

variable (husable : ∀ n ∈ name :: dir, usable n = true)
include husable

end Done

variable (tree) in
/-- A tree with all the directories of a path, and otherwise as before. -/
def WithDirectories (path : List String) (tree' : FileTree β) : Prop :=
  (∀ above, above <:+ path → tree'.entry above = some .directory) ∧
    ∀ p, ¬p <:+ path → tree'.entry p = tree.entry p

/-- One more directory. -/
theorem WithDirectories.set {tree' : FileTree β} (h : tree.WithDirectories dir tree')
    (hpath : tree'.entry (name :: dir) = none) :
    tree.WithDirectories (name :: dir) (tree'.set name dir (some .directory)) := by
  have hentry : (tree'.set name dir (some .directory)).entry =
      Function.update tree'.entry (name :: dir) (some .directory) :=
    entry_set (by rw [hpath]; exact nofun) fun _ ↦ h.1 dir List.suffix_rfl
  rw [WithDirectories, hentry]
  constructor
  · intro above habove
    rcases List.suffix_cons_iff.1 habove with rfl | habove
    · exact Function.update_self ..
    · rw [Function.update_of_ne, h.1 above habove]
      rintro rfl
      exact absurd habove.length_le (by simp)
  · intro p hp
    rw [List.suffix_cons_iff, not_or] at hp
    rw [Function.update_of_ne hp.1, h.2 p hp.2]

end FileTree
