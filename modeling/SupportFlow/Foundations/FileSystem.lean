import SupportFlow.Foundations.FileTree
import SupportFlow.Foundations.Programs

/-!
# A file system with open files

The names of a file tree link to files, which are known by numbers, and a program that has opened a
file goes on with it by its number: it reads and writes the same file whatever becomes of the name.
A number is given to one file only, and a file has at most one name.

`FileCall` are the calls of the operating system that create, write, move, remove and read files,
and `FileSystem.perform` says what each does. `FileSystem.Serve` answers them as a service: a call
may also fail without having done anything, or, for a write, having written a part. A program on
such calls may stop between any two of them.

What the calls do to names is told by `FileTree.file?`, the file that a path names.
-/

/-- The content of a file. -/
def FileEntry.content? {β : Type} : FileEntry β → Option β
  | directory => none
  | file content => some content

namespace FileTree

open Effect

variable {β : Type} {usable : String → Bool} {tree tree' : FileTree β} {name : String}
  {dir path : List String} {content : β}

variable (tree) in
/-- The file that a path names. -/
def file? (path : List String) : Option β :=
  (tree.entry path).bind FileEntry.content?

theorem file?_eq_some :
    tree.file? path = some content ↔ tree.entry path = some (.file content) := by
  rw [file?, Option.bind_eq_some_iff]
  constructor
  · rintro ⟨_ | there, hentry, hcontent⟩
    · cases hcontent
    · rw [hentry, Option.some.inj hcontent]
  · exact fun h ↦ ⟨_, h, rfl⟩

theorem file?_eq_none (h : tree.entry path = none ∨ tree.entry path = some .directory) :
    tree.file? path = none := by
  rcases h with h | h <;> rw [file?, h] <;> rfl

/-- Where the entries are as before but for one path, so are the files. -/
theorem file?_of_entry {new : Option (FileEntry β)}
    (h : tree'.entry = Function.update tree.entry path new) :
    tree'.file? = Function.update tree.file? path (new.bind FileEntry.content?) := by
  funext other
  by_cases heq : other = path
  · rw [file?, h, heq, Function.update_self, Function.update_self]
  · rw [file?, h, Function.update_of_ne heq, Function.update_of_ne heq, file?]

/-! ### What is found -/

/-- In a directory that is found, what is there is found under a name that can be used. -/
theorem find_cons (hdir : tree.find usable dir = .ok .directory) :
    tree.find usable (name :: dir) =
      if usable name = false then .error .nameTooLong
      else (tree.entry (name :: dir)).elim (.error .fileNotFound) .ok := by
  rw [find, hdir]
  show (if usable name = false then _ else _) = _
  split
  · rfl
  · cases tree.entry (name :: dir) <;> rfl

theorem entry_of_find {found : FileEntry β} (h : tree.find usable path = .ok found) :
    tree.entry path = some found := by
  cases path with
  | nil =>
    rw [← Except.ok.inj h]
    exact tree.root_directory
  | cons name dir =>
    cases hdir : tree.find usable dir with
    | error e =>
      rw [find, hdir] at h
      cases h
    | ok above =>
      cases above with
      | file =>
        rw [find, hdir] at h
        cases h
      | directory =>
        rw [find_cons hdir] at h
        split at h
        · cases h
        · cases hentry : tree.entry (name :: dir) with
          | none =>
            rw [hentry] at h
            cases h
          | some there =>
            rw [hentry] at h
            exact congrArg some (Except.ok.inj h)

/-- What is not found is not there. -/
theorem entry_of_notFound (h : tree.find usable path = .error .fileNotFound) :
    tree.entry path = none := by
  induction path with
  | nil => cases h
  | cons name dir ih =>
    by_contra hentry
    have hdirectory := tree.parent_directory name dir hentry
    cases hdir : tree.find usable dir with
    | error e =>
      rw [find, hdir] at h
      rw [ih (Except.error.inj h ▸ hdir)] at hdirectory
      cases hdirectory
    | ok above =>
      rw [entry_of_find hdir] at hdirectory
      obtain rfl := Option.some.inj hdirectory
      obtain ⟨there, hthere⟩ := Option.ne_none_iff_exists'.1 hentry
      rw [find_cons hdir, hthere] at h
      split at h <;> cases h

theorem directory_of_enter (h : tree.enter usable name dir = .ok ()) :
    tree.entry dir = some .directory := by
  rw [enter] at h
  cases hdir : tree.find usable dir with
  | error e =>
    rw [hdir] at h
    cases h
  | ok above =>
    rw [hdir] at h
    cases above with
    | file => cases h
    | directory => exact entry_of_find hdir

/-! ### What the calls do to files -/

/-- A new directory is no file. -/
theorem file?_mkdir : ((mkdir usable path).exec tree).2.file? = tree.file? := by
  cases path with
  | nil => rfl
  | cons name dir =>
    simp only [mkdir, exec_bind, exec_get, exec_ofExcept, exec_raiseWhen]
    cases henter : tree.enter usable name dir with
    | error e => rfl
    | ok =>
      simp only
      cases hentry : tree.entry (name :: dir) with
      | some found => rfl
      | none =>
        have hset : (tree.set name dir (some .directory)).entry =
            Function.update tree.entry (name :: dir) (some .directory) :=
          entry_set (by simp [hentry]) fun _ ↦ directory_of_enter henter
        have hnone : tree.file? (name :: dir) = none := file?_eq_none (Or.inl hentry)
        simp only [Option.isSome_none, Bool.false_eq_true, if_false, exec_update]
        rw [file?_of_entry hset]
        show Function.update tree.file? (name :: dir) none = _
        rw [← hnone, Function.update_eq_self]

theorem file?_create (h : (create usable name dir content).exec tree = (.ok (), tree')) :
    tree.file? (name :: dir) = none ∧
      tree'.file? = Function.update tree.file? (name :: dir) (some content) := by
  simp only [create, exec_bind, exec_get, exec_ofExcept, exec_raiseWhen] at h
  cases henter : tree.enter usable name dir with
  | error e => rw [henter] at h; cases h
  | ok =>
    cases hentry : tree.entry (name :: dir) with
    | some found => rw [henter, hentry] at h; cases h
    | none =>
      rw [henter, hentry] at h
      simp only [Option.isSome_none, Bool.false_eq_true, if_false, exec_update, Prod.mk.injEq,
        true_and] at h
      have hset : (tree.set name dir (some (.file content))).entry =
          Function.update tree.entry (name :: dir) (some (.file content)) :=
        entry_set (by simp [hentry]) fun _ ↦ directory_of_enter henter
      exact ⟨file?_eq_none (Or.inl hentry), h ▸ file?_of_entry hset⟩

theorem file?_unlink (h : (unlink usable name dir).exec tree = (.ok (), tree')) :
    tree'.file? = Function.update tree.file? (name :: dir) none := by
  simp only [unlink, exec_bind, exec_get, exec_ofExcept] at h
  cases hfind : tree.find usable (name :: dir) with
  | error e => rw [hfind] at h; cases h
  | ok found =>
    cases found with
    | directory => rw [hfind] at h; cases h
    | file content =>
      rw [hfind] at h
      simp only [exec_update, Prod.mk.injEq, true_and] at h
      have hset : (tree.set name dir none).entry = Function.update tree.entry (name :: dir) none :=
        entry_set (by simp [entry_of_find hfind]) fun hne ↦ absurd rfl hne
      exact h ▸ file?_of_entry hset

theorem file?_of_unlink_notFound
    (h : (unlink usable name dir).exec tree = (.error .fileNotFound, tree')) :
    tree.file? (name :: dir) = none := by
  simp only [unlink, exec_bind, exec_get, exec_ofExcept] at h
  cases hfind : tree.find usable (name :: dir) with
  | error e =>
    rw [hfind] at h
    obtain rfl : e = .fileNotFound := Except.error.inj (Prod.mk.inj h).1
    exact file?_eq_none (Or.inl (entry_of_notFound hfind))
  | ok found =>
    cases found with
    | directory => exact file?_eq_none (Or.inr (entry_of_find hfind))
    | file content =>
      rw [hfind] at h
      cases h

/-- A file that replaces another is there under its new name only. -/
theorem file?_replace {source : String}
    (h : (replace usable source name dir).exec tree = (.ok (), tree')) :
    ∃ content, tree.file? (source :: dir) = some content ∧
      tree'.file? = Function.update (Function.update tree.file? (source :: dir) none)
        (name :: dir) (some content) := by
  simp only [replace, exec_bind, exec_get, exec_ofExcept] at h
  cases hfind : tree.find usable (source :: dir) with
  | error e => rw [hfind] at h; cases h
  | ok found =>
    cases found with
    | directory => rw [hfind] at h; cases h
    | file content =>
      rw [hfind] at h
      simp only [exec_bind, exec_get, exec_ofExcept, exec_raiseWhen] at h
      cases henter : tree.enter usable name dir with
      | error e => rw [henter] at h; cases h
      | ok =>
        rw [henter] at h
        by_cases hdirectory : tree.isDirectory (name :: dir) = true
        · simp [hdirectory] at h
        · simp only [if_neg hdirectory, exec_update, Prod.mk.injEq, true_and] at h
          have hfile := entry_of_find hfind
          have hdir := directory_of_enter henter
          have hgone : (tree.set source dir none).entry =
              Function.update tree.entry (source :: dir) none :=
            entry_set (by simp [hfile]) fun hne ↦ absurd rfl hne
          have hmoved : ((tree.set source dir none).set name dir (some (.file content))).entry =
              Function.update (tree.set source dir none).entry (name :: dir)
                (some (.file content)) := by
            refine entry_set ?_ fun _ ↦ ?_
            · rw [isDirectory_iff] at hdirectory
              rw [hgone, Function.update_apply]
              split
              · exact (Option.some_ne_none _).symm
              · exact hdirectory
            · rw [hgone, Function.update_of_ne (List.cons_ne_self source dir).symm, hdir]
          refine ⟨content, file?_eq_some.2 hfile, ?_⟩
          rw [← h, file?_of_entry hmoved, file?_of_entry hgone]
          rfl

end FileTree

/-! ### Open files -/

/-- The names of a file system, and its files under their numbers. -/
structure FileSystem where
  tree : FileTree ℕ
  contents : ℕ → List UInt8
  /-- The number of the next file that is created. -/
  next : ℕ
  file_lt : ∀ path file, tree.file? path = some file → file < next
  /-- No file has two names. -/
  file_once : ∀ path path' file, tree.file? path = some file → tree.file? path' = some file →
    path = path'

/-- Why a call fails: it is not to be done, or the system fails to do it. -/
inductive FileError
  | os (e : OSError)
  | failed
deriving DecidableEq

/-- The calls of the operating system. Files are created for writing, and written at their end. -/
inductive FileCall
  | mkdir (path : List String)
  | isDir (path : List String)
  | createNew (name : String) (dir : List String)
  | write (file : ℕ) (bytes : List UInt8)
  | replace (source target : String) (dir : List String)
  | unlink (name : String) (dir : List String)
  | openRead (path : List String)
  | read (file position size : ℕ)

/-- What a call returns: of an open file, its number. -/
abbrev FileCall.Value : FileCall → Type
  | mkdir _ | write .. | replace .. | unlink .. => Unit
  | isDir _ => Bool
  | createNew .. | openRead _ => ℕ
  | read .. => List UInt8

/-- How a call is answered. -/
abbrev FileCall.Answer (call : FileCall) : Type :=
  Except FileError call.Value

namespace FileSystem

open Effect

-- `usable` are the names that the file system takes.
variable (usable : String → Bool) (fs : FileSystem)

/-- `os.mkdir`. -/
def mkdir (path : List String) : Except FileError Unit × FileSystem :=
  let made := (FileTree.mkdir usable path).exec fs.tree
  (made.1.mapError .os,
    { fs with
      tree := made.2
      file_lt := by rw [FileTree.file?_mkdir]; exact fs.file_lt
      file_once := by rw [FileTree.file?_mkdir]; exact fs.file_once })

/-- `open("xb")`. -/
def createNew (name : String) (dir : List String) : Except FileError ℕ × FileSystem :=
  match h : (FileTree.create usable name dir fs.next).exec fs.tree with
  | (.error e, _) => (.error (.os e), fs)
  | (.ok (), tree) =>
    (.ok fs.next,
      { tree
        contents := Function.update fs.contents fs.next []
        next := fs.next + 1
        file_lt := by
          rw [(FileTree.file?_create h).2]
          intro path file hfile
          rw [Function.update_apply] at hfile
          split at hfile
          · exact Option.some.inj hfile ▸ Nat.lt_succ_self _
          · exact (fs.file_lt path file hfile).trans (Nat.lt_succ_self _)
        file_once := by
          rw [(FileTree.file?_create h).2]
          intro path path' file hfile hfile'
          rw [Function.update_apply] at hfile hfile'
          split at hfile <;> split at hfile'
          · next heq heq' => rw [heq, heq']
          · exact absurd (Option.some.inj hfile) (fs.file_lt _ _ hfile').ne'
          · exact absurd (Option.some.inj hfile') (fs.file_lt _ _ hfile).ne'
          · exact fs.file_once path path' file hfile hfile' })

/-- What is written to an open file. -/
def write (file : ℕ) (bytes : List UInt8) : FileSystem :=
  { fs with contents := Function.update fs.contents file (fs.contents file ++ bytes) }

/-- `os.replace`. -/
def replace (source target : String) (dir : List String) : Except FileError Unit × FileSystem :=
  match h : (FileTree.replace usable source target dir).exec fs.tree with
  | (.error e, _) => (.error (.os e), fs)
  | (.ok (), tree) =>
    (.ok (),
      { fs with
        tree
        file_lt := by
          obtain ⟨moved, hmoved, hfiles⟩ := FileTree.file?_replace h
          rw [hfiles]
          intro path file hfile
          rw [Function.update_apply] at hfile
          split at hfile
          · exact Option.some.inj hfile ▸ fs.file_lt _ _ hmoved
          · rw [Function.update_apply] at hfile
            split at hfile
            · cases hfile
            · exact fs.file_lt path file hfile
        file_once := by
          obtain ⟨moved, hmoved, hfiles⟩ := FileTree.file?_replace h
          rw [hfiles]
          -- Any other name of the file that is moved would have been a second one.
          have hother : ∀ path, Function.update fs.tree.file? (source :: dir) none path ≠
              some moved := by
            intro path hpath
            rw [Function.update_apply] at hpath
            split at hpath
            · cases hpath
            · next hne => exact hne (fs.file_once _ _ _ hpath hmoved)
          intro path path' file hfile hfile'
          rw [Function.update_apply] at hfile hfile'
          split at hfile <;> split at hfile'
          · next heq heq' => rw [heq, heq']
          · exact absurd (Option.some.inj hfile ▸ hfile') (hother path')
          · exact absurd (Option.some.inj hfile' ▸ hfile) (hother path)
          · rw [Function.update_apply] at hfile hfile'
            split at hfile <;> split at hfile'
            · cases hfile
            · cases hfile
            · cases hfile'
            · exact fs.file_once path path' file hfile hfile' })

/-- `os.unlink`. -/
def unlink (name : String) (dir : List String) : Except FileError Unit × FileSystem :=
  match h : (FileTree.unlink usable name dir).exec fs.tree with
  | (.error e, _) => (.error (.os e), fs)
  | (.ok (), tree) =>
    (.ok (),
      { fs with
        tree
        file_lt := by
          rw [FileTree.file?_unlink h]
          intro path file hfile
          rw [Function.update_apply] at hfile
          split at hfile
          · cases hfile
          · exact fs.file_lt path file hfile
        file_once := by
          rw [FileTree.file?_unlink h]
          intro path path' file hfile hfile'
          rw [Function.update_apply] at hfile hfile'
          split at hfile <;> split at hfile'
          · cases hfile
          · cases hfile
          · cases hfile'
          · exact fs.file_once path path' file hfile hfile' })

/-- `open("rb")`. -/
def openRead (path : List String) : Except FileError ℕ :=
  match fs.tree.find usable path with
  | .error e => .error (.os e)
  | .ok .directory => .error (.os .isADirectory)
  | .ok (.file file) => .ok file

/-- A call, when the system does not fail. -/
def perform : (call : FileCall) → call.Answer × FileSystem
  | .mkdir path => fs.mkdir usable path
  | .isDir path => (.ok (fs.tree.isDir usable path), fs)
  | .createNew name dir => fs.createNew usable name dir
  | .write file bytes => (.ok (), fs.write file bytes)
  | .replace source target dir => fs.replace usable source target dir
  | .unlink name dir => fs.unlink usable name dir
  | .openRead path => (fs.openRead usable path, fs)
  | .read file position size => (.ok (((fs.contents file).drop position).take size), fs)

/-- What can be answered: what the call does, or that the system failed. -/
inductive Serve : (call : FileCall) → call.Answer → FileSystem → Prop
  | performed (call : FileCall) : Serve call (fs.perform usable call).1 (fs.perform usable call).2
  | failed (call : FileCall) : Serve call (.error .failed) fs
  | cutShort {file : ℕ} {bytes written : List UInt8} (h : written <+: bytes) :
      Serve (.write file bytes) (.error .failed) (fs.write file written)

/-! ### What is done -/

/-- The same names, and the same files. -/
structure Same (fs fs' : FileSystem) : Prop where
  names : fs'.tree.file? = fs.tree.file?
  contents : fs'.contents = fs.contents
  next : fs'.next = fs.next

/-- What an answered call has done to names and files. -/
def Did (fs fs' : FileSystem) : (call : FileCall) → call.Answer → Prop
  | .createNew name dir, .ok file => file = fs.next ∧
      fs'.tree.file? = Function.update fs.tree.file? (name :: dir) (some file) ∧
      fs'.contents = Function.update fs.contents file [] ∧ fs'.next = fs.next + 1
  | .write file bytes, reply => ∃ written, (reply = .ok () → written = bytes) ∧
      fs'.tree.file? = fs.tree.file? ∧
      fs'.contents = Function.update fs.contents file (fs.contents file ++ written) ∧
      fs'.next = fs.next
  | .replace source target dir, .ok () => ∃ file, fs.tree.file? (source :: dir) = some file ∧
      fs'.tree.file? = Function.update (Function.update fs.tree.file? (source :: dir) none)
        (target :: dir) (some file) ∧
      fs'.contents = fs.contents ∧ fs'.next = fs.next
  | .unlink name dir, .ok () => fs'.tree.file? = Function.update fs.tree.file? (name :: dir) none ∧
      fs'.contents = fs.contents ∧ fs'.next = fs.next
  | .unlink name dir, .error (.os .fileNotFound) =>
      fs.tree.file? (name :: dir) = none ∧ Same fs fs'
  | .openRead path, .ok file => fs.tree.file? path = some file ∧ Same fs fs'
  | .openRead path, .error (.os .fileNotFound) => fs.tree.file? path = none ∧ Same fs fs'
  | .read file position size, reply => (reply = .error .failed ∨
      reply = .ok (((fs.contents file).drop position).take size)) ∧ Same fs fs'
  | _, _ => Same fs fs'

variable {usable : String → Bool} {fs fs' : FileSystem}

theorem Same.refl (fs : FileSystem) : Same fs fs :=
  ⟨rfl, rfl, rfl⟩

theorem did_createNew (name : String) (dir : List String) :
    Did fs (fs.createNew usable name dir).2 (.createNew name dir)
      (fs.createNew usable name dir).1 := by
  unfold createNew
  split
  · exact Same.refl fs
  · next h => exact ⟨rfl, (FileTree.file?_create h).2, rfl, rfl⟩

theorem did_replace (source target : String) (dir : List String) :
    Did fs (fs.replace usable source target dir).2 (.replace source target dir)
      (fs.replace usable source target dir).1 := by
  unfold replace
  split
  · exact Same.refl fs
  · next h =>
    obtain ⟨file, hfile, hfiles⟩ := FileTree.file?_replace h
    exact ⟨file, hfile, hfiles, rfl, rfl⟩

theorem did_unlink (name : String) (dir : List String) :
    Did fs (fs.unlink usable name dir).2 (.unlink name dir) (fs.unlink usable name dir).1 := by
  unfold unlink
  split
  · next e tree h =>
    cases e with
    | fileNotFound => exact ⟨FileTree.file?_of_unlink_notFound h, Same.refl fs⟩
    | fileExists | isADirectory | notADirectory | nameTooLong => exact Same.refl fs
  · next h => exact ⟨FileTree.file?_unlink h, rfl, rfl⟩

theorem did_openRead (path : List String) :
    Did fs fs (.openRead path) (fs.openRead usable path) := by
  unfold openRead
  split
  · next e h =>
    cases e with
    | fileNotFound =>
      exact ⟨FileTree.file?_eq_none (Or.inl (FileTree.entry_of_notFound h)), Same.refl fs⟩
    | fileExists | isADirectory | notADirectory | nameTooLong => exact Same.refl fs
  · exact Same.refl fs
  · next h => exact ⟨FileTree.file?_eq_some.2 (FileTree.entry_of_find h), Same.refl fs⟩

/-- **Whatever is answered has been done, and nothing else.** -/
theorem Serve.did {call : FileCall} {reply : call.Answer} (h : Serve usable fs call reply fs') :
    Did fs fs' call reply := by
  cases h with
  | performed =>
    cases call with
    | mkdir path => exact ⟨FileTree.file?_mkdir, rfl, rfl⟩
    | isDir => exact Same.refl fs
    | createNew name dir => exact did_createNew name dir
    | write file bytes => exact ⟨bytes, fun _ ↦ rfl, rfl, rfl, rfl⟩
    | replace source target dir => exact did_replace source target dir
    | unlink name dir => exact did_unlink name dir
    | openRead path => exact did_openRead path
    | read => exact ⟨Or.inr rfl, Same.refl fs⟩
  | failed =>
    cases call with
    | write file bytes =>
      exact ⟨[], nofun, rfl, by rw [List.append_nil, Function.update_eq_self], rfl⟩
    | read => exact ⟨Or.inl rfl, Same.refl fs⟩
    | mkdir | isDir | createNew | replace | unlink | openRead => exact Same.refl fs
  | cutShort => exact ⟨_, nofun, rfl, rfl, rfl⟩

/-- Opening a file changes nothing. -/
theorem Did.same_of_openRead {path : List String} {reply : FileCall.Answer (.openRead path)}
    (h : Did fs fs' (.openRead path) reply) : Same fs fs' := by
  rcases reply with ((_ | _ | _ | _ | _) | _) | _
  · exact h.2
  · exact h
  · exact h
  · exact h
  · exact h
  · exact h
  · exact h.2

/-- What is removed is one name at most. -/
theorem Did.names_of_unlink {name : String} {dir path : List String}
    {reply : FileCall.Answer (.unlink name dir)} (h : Did fs fs' (.unlink name dir) reply)
    (hne : path ≠ name :: dir) : fs'.tree.file? path = fs.tree.file? path := by
  rcases reply with ((_ | _ | _ | _ | _) | _) | _
  · exact congrFun h.2.names path
  · exact congrFun h.names path
  · exact congrFun h.names path
  · exact congrFun h.names path
  · exact congrFun h.names path
  · exact congrFun h.names path
  · rw [h.1, Function.update_of_ne hne]

/-- Numbers are not given back. -/
theorem Did.next_le {call : FileCall} {reply : call.Answer} (h : Did fs fs' call reply) :
    fs.next ≤ fs'.next := by
  unfold Did at h
  split at h
  · exact h.2.2.2 ▸ Nat.le_succ _
  · obtain ⟨_, -, -, -, hnext⟩ := h
    exact hnext.ge
  · obtain ⟨_, -, -, -, hnext⟩ := h
    exact hnext.ge
  · exact h.2.2.ge
  · exact h.2.next.ge
  · exact h.2.next.ge
  · exact h.2.next.ge
  · exact h.2.next.ge
  · exact h.next.ge

/-- A file changes by what is written to it. -/
theorem Did.contents_eq {call : FileCall} {reply : call.Answer} (h : Did fs fs' call reply)
    {file : ℕ} (hold : file < fs.next) (hwrite : ∀ bytes, call ≠ .write file bytes) :
    fs'.contents file = fs.contents file := by
  unfold Did at h
  split at h
  · rw [h.2.2.1, Function.update_of_ne]
    exact fun heq ↦ hold.ne (heq.trans h.1)
  · obtain ⟨_, -, -, hcontents, -⟩ := h
    rw [hcontents, Function.update_of_ne]
    rintro rfl
    exact hwrite _ rfl
  · obtain ⟨_, -, -, hcontents, -⟩ := h
    rw [hcontents]
  · rw [h.2.1]
  · rw [h.2.contents]
  · rw [h.2.contents]
  · rw [h.2.contents]
  · rw [h.2.contents]
  · rw [h.contents]

/-- A name that is there now was there before, or is that of a file created or moved. -/
theorem Did.named {call : FileCall} {reply : call.Answer} (h : Did fs fs' call reply)
    {path : List String} (hnamed : fs'.tree.file? path ≠ none) :
    fs.tree.file? path ≠ none ∨
      (∃ name dir file, (⟨call, reply⟩ : Answered FileCall.Answer) =
        ⟨.createNew name dir, .ok file⟩ ∧ path = name :: dir) ∨
      ∃ source target dir, (⟨call, reply⟩ : Answered FileCall.Answer) =
        ⟨.replace source target dir, .ok ()⟩ ∧ path = target :: dir := by
  unfold Did at h
  split at h
  · rw [h.2.1, Function.update_apply] at hnamed
    split at hnamed
    · next heq => exact Or.inr (Or.inl ⟨_, _, _, rfl, heq⟩)
    · exact Or.inl hnamed
  · obtain ⟨_, -, hnames, -, -⟩ := h
    exact Or.inl (hnames ▸ hnamed)
  · obtain ⟨_, -, hnames, -, -⟩ := h
    rw [hnames, Function.update_apply] at hnamed
    split at hnamed
    · next heq => exact Or.inr (Or.inr ⟨_, _, _, rfl, heq⟩)
    · rw [Function.update_apply] at hnamed
      split at hnamed
      · exact absurd rfl hnamed
      · exact Or.inl hnamed
  · rw [h.1, Function.update_apply] at hnamed
    split at hnamed
    · exact absurd rfl hnamed
    · exact Or.inl hnamed
  · exact Or.inl (h.2.names ▸ hnamed)
  · exact Or.inl (h.2.names ▸ hnamed)
  · exact Or.inl (h.2.names ▸ hnamed)
  · exact Or.inl (h.2.names ▸ hnamed)
  · exact Or.inl (h.names ▸ hnamed)

end FileSystem
