import SupportFlow.Documents.StorageCalls

/-!
# The private directory under concurrent calls

Any number of puts, reads and deletes run beside each other on one directory, call by call of the
operating system; each may fail anywhere and may stop anywhere, and directories come and go. The
directory is one store all the same (`local_storage_atomic`): every call takes effect in one moment
of its run or not at all, a put with its whole source, and what is read from an opened file is what
the key held in the moment of opening, whatever is put or deleted later. A put that has ended leaves
no temporary file behind, unless the system refused to remove it (`names_accounted`).

## Who writes what

A put writes to the file that it has created, and nobody else does; it gives the file its target's
name when it has written the whole source, and then writes to it no more. So a file that is named by
a target never changes again (`Guarded`). Two puts draw different UUIDs, so they do not meet at a
temporary file.
-/

namespace SupportFlow

open Service Move LocalDocumentStorage
open Program (Safe)
open InMemoryDocumentStorage (Objects)

/-! ### The system -/

/-- What answers the calls. Directories come and go for other reasons. -/
def fileService (usable : String → Bool) : Service FileSystem FileCall.Answer where
  serve fs call reply fs' := fs.Serve usable call reply fs'
  disturb fs fs' := fs.Same fs'

/-- Calls of the storage port beside each other. -/
def storageCalls (storage : LocalDocumentStorage) (usable : String → Bool) (chunking : Chunking) :
    TransitionSystem
      (Threads FileSystem FileCall.Answer StorageFailure (Option (List UInt8)))
      (Move FileCall.Answer StorageJob) :=
  interleaved (fileService usable) (StorageJob.program storage chunking) fun _ ↦ True

/-- The steps of a run. -/
abbrev StorageMoves := List (Move FileCall.Answer StorageJob)

/-- What `uuid4` gives the puts of a run. -/
def drawn (moves : StorageMoves) : List UUID :=
  moves.filterMap fun
    | .start _ (.put _ _ draw) => some draw
    | .start .. | .serve .. | .disturb => none

/-- The contents of the files that the targets name. -/
def LocalDocumentStorage.stored (storage : LocalDocumentStorage) (fs : FileSystem) : Objects :=
  fun text ↦ (fs.tree.file? (storage.target text)).map fs.contents

/-- The calls of a run in the order in which they take effect. -/
def history (moves : StorageMoves) : List (ℕ × StorageJob) :=
  points StorageJob.point moves

/-- What a history makes of the objects. -/
def replayCalls (objects : Objects) (calls : List (ℕ × StorageJob)) : Objects :=
  replay (fun objects job ↦ (job.call.apply objects).2) objects calls

/-- A call has come to an end that tells of the store: it has not failed on the way. -/
def StorageJob.Completed : StorageJob → Except StorageFailure (Option (List UInt8)) → Prop
  | .put .., .ok _ | .read .., .ok _ | .delete _, .ok _ => True
  | .read .., .error e => e = .file (.os .fileNotFound)
  | .put .., .error _ | .delete _, .error _ => False

/-- The end of a call is what the store answers: of a content, as much as was read. -/
def StorageJob.Returns :
    StorageJob → StorageOutcome → Except StorageFailure (Option (List UInt8)) → Prop
  | .read _ sizes, .content content, result => result = .ok (some (content.take sizes.sum))
  | .read .., .missing, result => result = .error (.file (.os .fileNotFound))
  | .put .., .done, result | .delete _, .done, result => result = .ok none
  | _, _, _ => False

/-! ### Who writes what -/

variable {storage : LocalDocumentStorage} {usable : String → Bool} {chunking : Chunking}
  {moves : StorageMoves} {fs fs' : FileSystem} {thread thread' file : ℕ}

/-- The thread has created the file. -/
def Creates (moves : StorageMoves) (thread file : ℕ) : Prop :=
  ∃ name dir, .serve thread ⟨.createNew name dir, .ok file⟩ ∈ moves

/-- The thread has replaced its target. -/
def Replaces (moves : StorageMoves) (thread : ℕ) : Prop :=
  ∃ source target dir, .serve thread ⟨.replace source target dir, .ok ()⟩ ∈ moves

/-- Whoever created the file has given it its name. -/
def Published (moves : StorageMoves) (fs : FileSystem) (file : ℕ) : Prop :=
  file < fs.next ∧ ∀ thread, Creates moves thread file → Replaces moves thread

/-- The file that a put writes to. -/
def WritesTo (storage : LocalDocumentStorage) (key : StorageKey) (draw : UUID) :
    List FileAnswered → ℕ → List UInt8 → Prop :=
  Writing (temporaryName (storage.targetName key) draw.hex) (storage.targetDir key)

/-- **Every file has one writer, and a file that a target names has none.** -/
structure Guarded (storage : LocalDocumentStorage) (moves : StorageMoves) (fs : FileSystem) :
    Prop where
  created_lt : ∀ thread file, Creates moves thread file → file < fs.next
  created_once : ∀ thread thread' file, Creates moves thread file → Creates moves thread' file →
    thread = thread'
  writing : ∀ thread key source draw file written,
    jobsOf thread moves = [.put key source draw] →
      WritesTo storage key draw (callsOf thread moves) file written →
        fs.contents file = written ∧
          ∀ other, fs.tree.file? (storage.temporaryPath key draw) = some other → other = file
  published : ∀ (key : StorageKey) file, fs.tree.file? (storage.target key.text) = some file →
    Published moves fs file

theorem Creates.append (h : Creates moves thread file) (later : StorageMoves) :
    Creates (moves ++ later) thread file := by
  obtain ⟨name, dir, hmem⟩ := h
  exact ⟨name, dir, List.mem_append_left _ hmem⟩

theorem Replaces.append (h : Replaces moves thread) (later : StorageMoves) :
    Replaces (moves ++ later) thread := by
  obtain ⟨source, target, dir, hmem⟩ := h
  exact ⟨source, target, dir, List.mem_append_left _ hmem⟩

/-- What a put writes to, it has created. -/
theorem WritesTo.creates {key : StorageKey} {draw : UUID} {written : List UInt8}
    (h : WritesTo storage key draw (callsOf thread moves) file written) :
    Creates moves thread file :=
  ⟨_, _, mem_callsOf.1 h.created_mem⟩

/-- While it writes, a put has not replaced its target. -/
theorem WritesTo.not_replaces {key : StorageKey} {draw : UUID} {written : List UInt8}
    (h : WritesTo storage key draw (callsOf thread moves) file written) :
    ¬Replaces moves thread := by
  rintro ⟨source, target, dir, hmem⟩
  exact h.not_replace (mem_callsOf.2 hmem) source target dir rfl

theorem creates_snoc {call : FileAnswered}
    (h : Creates (moves ++ [.serve thread call]) thread' file) :
    Creates moves thread' file ∨
      thread' = thread ∧ ∃ name dir, call = ⟨.createNew name dir, .ok file⟩ := by
  obtain ⟨name, dir, hmem⟩ := h
  rcases List.mem_append.1 hmem with hmem | hmem
  · exact Or.inl ⟨name, dir, hmem⟩
  · obtain ⟨rfl, hcall⟩ := Move.serve.inj (List.mem_singleton.1 hmem)
    exact Or.inr ⟨rfl, name, dir, hcall.symm⟩

theorem Creates.of_snoc {move : Move FileCall.Answer StorageJob}
    (h : Creates (moves ++ [move]) thread file) (hmove : ∀ thread call, move ≠ .serve thread call) :
    Creates moves thread file := by
  obtain ⟨name, dir, hmem⟩ := h
  rcases List.mem_append.1 hmem with hmem | hmem
  · exact ⟨name, dir, hmem⟩
  · exact absurd (List.mem_singleton.1 hmem).symm (hmove _ _)

/-- One call, from what it does to the files of the others. -/
theorem Guarded.step (h : Guarded storage moves fs) {call : FileAnswered}
    (hnext : fs.next ≤ fs'.next)
    (hcreate : ∀ name dir file, call = ⟨.createNew name dir, .ok file⟩ →
      fs.next ≤ file ∧ file < fs'.next)
    (hown : ∀ key source draw file written, jobsOf thread moves = [.put key source draw] →
      WritesTo storage key draw (callsOf thread moves ++ [call]) file written →
        fs'.contents file = written ∧
          ∀ other, fs'.tree.file? (storage.temporaryPath key draw) = some other → other = file)
    (hothers : ∀ other key source draw file, other ≠ thread →
      jobsOf other moves = [.put key source draw] → Creates moves other file →
        fs'.contents file = fs.contents file ∧
          ∀ there, fs'.tree.file? (storage.temporaryPath key draw) = some there →
            fs.tree.file? (storage.temporaryPath key draw) = some there)
    (hpublished : ∀ (key : StorageKey) file,
      fs'.tree.file? (storage.target key.text) = some file →
        fs.tree.file? (storage.target key.text) = some file ∨
          Creates moves thread file ∧
            ∃ source target dir, call = ⟨.replace source target dir, .ok ()⟩) :
    Guarded storage (moves ++ [.serve thread call]) fs' where
  created_lt other file hcreated := by
    rcases creates_snoc hcreated with hold | ⟨rfl, name, dir, rfl⟩
    · exact (h.created_lt other file hold).trans_le hnext
    · exact (hcreate name dir file rfl).2
  created_once first second file hfirst hsecond := by
    rcases creates_snoc hfirst with hold | ⟨rfl, name, dir, rfl⟩
    · rcases creates_snoc hsecond with hold' | ⟨rfl, name, dir, rfl⟩
      · exact h.created_once first second file hold hold'
      · exact absurd (h.created_lt first file hold) (hcreate name dir file rfl).1.not_gt
    · rcases creates_snoc hsecond with hold | ⟨rfl, -⟩
      · exact absurd (h.created_lt second file hold) (hcreate name dir file rfl).1.not_gt
      · rfl
  writing other key source draw file written hjob hwriting := by
    have hjobs : jobsOf other (moves ++ [.serve thread call]) = jobsOf other moves := by
      rw [jobsOf_snoc]
      exact List.append_nil _
    rw [hjobs] at hjob
    by_cases heq : other = thread
    · subst heq
      rw [callsOf_snoc, servedFor?, if_pos rfl] at hwriting
      exact hown key source draw file written hjob hwriting
    · rw [callsOf_snoc, servedFor?, if_neg (Ne.symm heq), Option.toList_none,
        List.append_nil] at hwriting
      obtain ⟨hcontents, htemporary⟩ := h.writing other key source draw file written hjob hwriting
      obtain ⟨hkept, hthere⟩ := hothers other key source draw file heq hjob hwriting.creates
      exact ⟨hkept.trans hcontents, fun there hfile ↦ htemporary there (hthere there hfile)⟩
  published key file hfile := by
    rcases hpublished key file hfile with hold | ⟨hcreated, source, target, dir, rfl⟩
    · obtain ⟨hlt, hreplaces⟩ := h.published key file hold
      refine ⟨hlt.trans_le hnext, fun other hother ↦ ?_⟩
      rcases creates_snoc hother with hother | ⟨rfl, name, dir, rfl⟩
      · exact (hreplaces other hother).append _
      · exact absurd hlt (hcreate name dir file rfl).1.not_gt
    · refine ⟨(h.created_lt thread file hcreated).trans_le hnext, fun other hother ↦ ?_⟩
      rcases creates_snoc hother with hother | ⟨-, name, dir, hcall⟩
      · rw [h.created_once other thread file hother hcreated]
        exact ⟨source, target, dir, List.mem_append_right _ (List.mem_singleton_self _)⟩
      · cases hcall

/-- No two puts were given the same UUID. -/
def DistinctDraws (moves : StorageMoves) : Prop :=
  ∀ thread thread' key key' source source' draw, jobsOf thread moves = [.put key source draw] →
    jobsOf thread' moves = [.put key' source' draw] → thread = thread'

/-- A call that neither creates a file nor goes on writing one. -/
def Quiet (call : FileAnswered) : Prop :=
  (∀ name dir file, call ≠ ⟨.createNew name dir, .ok file⟩) ∧
    ∀ file bytes, call ≠ ⟨.write file bytes, .ok ()⟩

theorem Quiet.not_writesTo {call : FileAnswered} (h : Quiet call) {key : StorageKey} {draw : UUID}
    {past : List FileAnswered} {written : List UInt8} :
    ¬WritesTo storage key draw (past ++ [call]) file written := by
  intro hwriting
  rcases hwriting.of_snoc with ⟨rfl, -⟩ | ⟨_, bytes, -, rfl, -⟩
  · exact h.1 _ _ _ rfl
  · exact h.2 _ _ rfl

/-- A call that takes names away at most. -/
theorem Guarded.quiet (h : Guarded storage moves fs) {call : FileAnswered} (hquiet : Quiet call)
    (hnames : ∀ path file, fs'.tree.file? path = some file → fs.tree.file? path = some file)
    (hcontents : fs'.contents = fs.contents) (hnext : fs'.next = fs.next) :
    Guarded storage (moves ++ [.serve thread call]) fs' := by
  refine h.step hnext.ge (fun name dir file hcall ↦ absurd hcall (hquiet.1 name dir file))
    (fun key source draw file written _ hwriting ↦ absurd hwriting hquiet.not_writesTo) ?_ ?_
  · exact fun other key source draw file _ _ _ ↦
      ⟨congrFun hcontents file, fun there ↦ hnames _ there⟩
  · exact fun key file hfile ↦ Or.inl (hnames _ file hfile)

theorem Guarded.same (h : Guarded storage moves fs) {call : FileAnswered} (hquiet : Quiet call)
    (hsame : fs.Same fs') : Guarded storage (moves ++ [.serve thread call]) fs' :=
  h.quiet hquiet (fun _ _ hfile ↦ hsame.names ▸ hfile) hsame.contents hsame.next

theorem Guarded.unlink (h : Guarded storage moves fs) {name : String} {dir : List String}
    {reply : FileCall.Answer (.unlink name dir)} (hdid : fs.Did fs' (.unlink name dir) reply) :
    Guarded storage (moves ++ [.serve thread ⟨.unlink name dir, reply⟩]) fs' := by
  have hquiet : Quiet ⟨.unlink name dir, reply⟩ := ⟨nofun, nofun⟩
  cases reply with
  | ok =>
    obtain ⟨hnames, hcontents, hnext⟩ := hdid
    refine h.quiet hquiet (fun path file hfile ↦ ?_) hcontents hnext
    rw [hnames, Function.update_apply] at hfile
    split at hfile
    · cases hfile
    · exact hfile
  | error e =>
    rcases e with (_ | _ | _ | _ | _) | _
    · exact h.same hquiet hdid.2
    all_goals exact h.same hquiet hdid

section Put

variable {key : StorageKey} {source : ByteFile} {draw : UUID}

theorem Guarded.createNew (h : Guarded storage moves fs) (hdraws : DistinctDraws moves)
    (hjob : jobsOf thread moves = [.put key source draw])
    {reply : FileCall.Answer (.createNew (temporaryName (storage.targetName key) draw.hex)
      (storage.targetDir key))} (hdid : fs.Did fs' (.createNew _ _) reply) :
    Guarded storage (moves ++ [.serve thread ⟨.createNew _ _, reply⟩]) fs' := by
  cases reply with
  | error e => exact h.same ⟨nofun, nofun⟩ hdid
  | ok file =>
    obtain ⟨rfl, hnames, hcontents, hnext⟩ := hdid
    have hnames' : ∀ path, path ≠ storage.temporaryPath key draw →
        fs'.tree.file? path = fs.tree.file? path := fun path hne ↦
      (congrFun hnames path).trans (Function.update_of_ne hne _ _)
    refine h.step (by omega) ?_ ?_ ?_ ?_
    · intro name dir other hcall
      cases hcall
      exact ⟨le_refl fs.next, hnext ▸ Nat.lt_succ_self fs.next⟩
    · intro key' source' draw' other written hjob' hwriting
      rw [hjob] at hjob'
      obtain ⟨rfl, -, rfl⟩ := StorageJob.put.inj (List.singleton_inj.1 hjob')
      rcases hwriting.of_snoc with ⟨hcall, rfl⟩ | ⟨_, _, -, hcall, -⟩
      · cases hcall
        refine ⟨by rw [hcontents, Function.update_self], fun there hthere ↦ ?_⟩
        rw [hnames] at hthere
        exact (Option.some.inj (hthere.symm.trans (Function.update_self ..))).symm ▸ rfl
      · cases hcall
    · intro other key' source' draw' file' hne hjob' hcreated
      have hlt := h.created_lt other file' hcreated
      refine ⟨by rw [hcontents, Function.update_of_ne (by omega)], fun there hthere ↦ ?_⟩
      rwa [hnames' _ fun hpath ↦ ?_] at hthere
      obtain rfl := draw_eq_of_temporaryPath hpath
      exact hne (hdraws _ _ _ _ _ _ _ hjob' hjob)
    · intro key' other hother
      rw [hnames' _ (temporaryPath_ne_target key').symm] at hother
      exact Or.inl hother

theorem Guarded.write (h : Guarded storage moves fs) {bytes written : List UInt8}
    (hjob : jobsOf thread moves = [.put key source draw])
    (hwriting : WritesTo storage key draw (callsOf thread moves) file written)
    {reply : FileCall.Answer (.write file bytes)} (hdid : fs.Did fs' (.write file bytes) reply) :
    Guarded storage (moves ++ [.serve thread ⟨.write file bytes, reply⟩]) fs' := by
  obtain ⟨done, hdone, hnames, hcontents, hnext⟩ := hdid
  refine h.step hnext.ge (fun _ _ _ ↦ nofun) ?_ ?_ fun key' other hother ↦ Or.inl (hnames ▸ hother)
  · intro key' source' draw' other written' hjob' hwriting'
    rw [hjob] at hjob'
    obtain ⟨rfl, -, rfl⟩ := StorageJob.put.inj (List.singleton_inj.1 hjob')
    rcases hwriting'.of_snoc with ⟨hcall, -⟩ | ⟨before, bytes', hbefore, hcall, rfl⟩
    · cases hcall
    · cases hcall
      obtain ⟨hfile, htemporary⟩ := h.writing thread key source draw file before hjob hbefore
      refine ⟨?_, hnames ▸ htemporary⟩
      rw [hcontents, Function.update_self, hfile, hdone rfl]
  · intro other key' source' draw' file' hne hjob' hcreated
    refine ⟨?_, fun there hthere ↦ hnames ▸ hthere⟩
    rw [hcontents, Function.update_of_ne]
    rintro rfl
    exact hne (h.created_once other thread file' hcreated hwriting.creates)

theorem Guarded.replace (h : Guarded storage moves fs)
    (hjob : jobsOf thread moves = [.put key source draw]) {written : List UInt8}
    (hwriting : WritesTo storage key draw (callsOf thread moves) file written)
    {reply : FileCall.Answer (.replace (temporaryName (storage.targetName key) draw.hex)
      (storage.targetName key) (storage.targetDir key))}
    (hdid : fs.Did fs' (.replace _ _ _) reply) :
    Guarded storage (moves ++ [.serve thread ⟨.replace _ _ _, reply⟩]) fs' := by
  have hquiet : Quiet ⟨.replace (temporaryName (storage.targetName key) draw.hex)
      (storage.targetName key) (storage.targetDir key), reply⟩ := ⟨nofun, nofun⟩
  cases reply with
  | error e => exact h.same hquiet hdid
  | ok =>
    obtain ⟨moved, hmoved, hnames, hcontents, hnext⟩ := hdid
    obtain rfl : moved = file :=
      (h.writing thread key source draw file written hjob hwriting).2 moved hmoved
    -- A name that is not the target's is the name of what it was, or of nothing.
    have hnames' : ∀ path there, path ≠ storage.target key.text →
        fs'.tree.file? path = some there → fs.tree.file? path = some there := by
      intro path there hne hthere
      rw [(storage.target_eq_cons key).1] at hne
      rw [hnames, Function.update_of_ne hne, Function.update_apply] at hthere
      split at hthere
      · cases hthere
      · exact hthere
    refine h.step hnext.ge (fun _ _ _ ↦ nofun)
      (fun _ _ _ _ _ _ hwriting ↦ absurd hwriting hquiet.not_writesTo) ?_ ?_
    · intro other key' source' draw' file' hne hjob' hcreated
      exact ⟨congrFun hcontents file', fun there ↦ hnames' _ there (temporaryPath_ne_target key)⟩
    · intro key' there hthere
      by_cases heq : storage.target key'.text = storage.target key.text
      · rw [hnames, heq, (storage.target_eq_cons key).1, Function.update_self] at hthere
        obtain rfl := Option.some.inj hthere
        exact Or.inr ⟨hwriting.creates, _, _, _, rfl⟩
      · exact Or.inl (hnames' _ there heq hthere)

end Put

/-- **Whatever a call does, every file keeps its one writer.** -/
theorem Guarded.serve (h : Guarded storage moves fs) (hdraws : DistinctDraws moves)
    {job : StorageJob} (hjob : jobsOf thread moves = [job]) {request : FileCall}
    (hallowed : job.Allowed storage (callsOf thread moves) request) {reply : request.Answer}
    (hdid : fs.Did fs' request reply) :
    Guarded storage (moves ++ [.serve thread ⟨request, reply⟩]) fs' := by
  cases job with
  | put key source draw =>
    cases request with
    | mkdir path | isDir path => exact h.same ⟨nofun, nofun⟩ hdid
    | createNew name dir =>
      obtain ⟨rfl, rfl, -⟩ := hallowed
      exact h.createNew hdraws hjob hdid
    | write file bytes =>
      obtain ⟨written, hwriting⟩ := hallowed
      exact h.write hjob hwriting hdid
    | replace name target dir =>
      obtain ⟨rfl, rfl, rfl, file, hwriting⟩ := hallowed
      exact h.replace hjob hwriting hdid
    | unlink name dir => exact h.unlink hdid
    | openRead | read => exact hallowed.elim
  | read key sizes =>
    have hquiet : Quiet ⟨request, reply⟩ := by
      cases request with
      | openRead | read => exact ⟨nofun, nofun⟩
      | mkdir | isDir | createNew | write | replace | unlink => exact hallowed.elim
    cases request with
    | openRead path => exact h.same hquiet hdid.same_of_openRead
    | read => exact h.same hquiet hdid.2
    | mkdir | isDir | createNew | write | replace | unlink => exact hallowed.elim
  | delete key =>
    cases request with
    | unlink name dir => exact h.unlink hdid
    | mkdir | isDir | createNew | write | replace | openRead | read => exact hallowed.elim

theorem Guarded.start (h : Guarded storage moves fs) {job : StorageJob}
    (hcalls : callsOf thread moves = []) : Guarded storage (moves ++ [.start thread job]) fs := by
  refine ⟨fun other file hfile ↦ h.created_lt other file (hfile.of_snoc nofun),
    fun first second file hfirst hsecond ↦
      h.created_once first second file (hfirst.of_snoc nofun) (hsecond.of_snoc nofun), ?_,
    fun key file hfile ↦ ?_⟩
  · intro other key source draw file written hjob hwriting
    rw [callsOf_snoc, servedFor?, Option.toList_none, List.append_nil] at hwriting
    by_cases heq : other = thread
    · rw [heq, hcalls] at hwriting
      exact absurd hwriting.created_mem List.not_mem_nil
    · rw [jobsOf_snoc, startedFor?, if_neg (Ne.symm heq), Option.toList_none,
        List.append_nil] at hjob
      exact h.writing other key source draw file written hjob hwriting
  · obtain ⟨hlt, hreplaces⟩ := h.published key file hfile
    exact ⟨hlt, fun other hother ↦ (hreplaces other (hother.of_snoc nofun)).append _⟩

theorem Guarded.disturb (h : Guarded storage moves fs) (hsame : fs.Same fs') :
    Guarded storage (moves ++ [.disturb]) fs' := by
  refine ⟨fun other file hfile ↦ hsame.next ▸ h.created_lt other file (hfile.of_snoc nofun),
    fun first second file hfirst hsecond ↦
      h.created_once first second file (hfirst.of_snoc nofun) (hsecond.of_snoc nofun), ?_,
    fun key file hfile ↦ ?_⟩
  · intro other key source draw file written hjob hwriting
    rw [callsOf_snoc, servedFor?, Option.toList_none, List.append_nil] at hwriting
    rw [jobsOf_snoc, startedFor?, Option.toList_none, List.append_nil] at hjob
    rw [hsame.contents, hsame.names]
    exact h.writing other key source draw file written hjob hwriting
  · obtain ⟨hlt, hreplaces⟩ := h.published key file (hsame.names ▸ hfile)
    exact ⟨hsame.next ▸ hlt, fun other hother ↦ (hreplaces other (hother.of_snoc nofun)).append _⟩

theorem Guarded.initial (fs : FileSystem) : Guarded storage [] fs where
  created_lt _ _ h := absurd h.choose_spec.choose_spec List.not_mem_nil
  created_once _ _ _ h := absurd h.choose_spec.choose_spec List.not_mem_nil
  writing _ _ _ _ _ _ h := nomatch h
  published _ file hfile :=
    ⟨fs.file_lt _ file hfile, fun _ h ↦ absurd h.choose_spec.choose_spec List.not_mem_nil⟩

section Runs

variable {s₀ s t : Threads FileSystem FileCall.Answer StorageFailure (Option (List UInt8))}

theorem distinctDraws (h : (drawn moves).Nodup) : DistinctDraws moves := by
  intro thread thread' key key' source source' draw hjob hjob'
  have hmem := mem_jobsOf.1 (hjob ▸ List.mem_singleton_self _)
  have hmem' := mem_jobsOf.1 (hjob' ▸ List.mem_singleton_self _)
  have heq := List.eq_of_nodup_filterMap h hmem hmem' rfl rfl
  exact (Move.start.inj heq).1

theorem nodup_drawn {before : StorageMoves} (hbegin : before <+: moves) (h : (drawn moves).Nodup) :
    (drawn before).Nodup :=
  h.sublist (hbegin.sublist.filterMap _)

theorem guarded_of_run (hrun : (storageCalls storage usable chunking).Run s₀ moves s)
    (hinit : (storageCalls storage usable chunking).init s₀) (hdraws : (drawn moves).Nodup) :
    Guarded storage moves s.shared := by
  refine allowed_tracked
    (I := fun moves fs ↦ (drawn moves).Nodup → Guarded storage moves fs)
    hinit (fun job ↦ job.safe) (fun _ ↦ Guarded.initial s₀.shared) ?_ ?_ ?_ hrun hdraws
  · exact fun moves fs thread job _ hcalls h hdraws ↦
      (h (nodup_drawn (List.prefix_append ..) hdraws)).start hcalls
  · intro moves t fs' thread job request reply _ hjob hallowed hserved h hdraws
    have hdraws' := nodup_drawn (List.prefix_append ..) hdraws
    exact (h hdraws').serve (distinctDraws hdraws') hjob hallowed hserved.did
  · exact fun moves fs fs' hsame h hdraws ↦
      (h (nodup_drawn (List.prefix_append ..) hdraws)).disturb hsame

end Runs

/-! ### What a target names -/

/-- A call does not change a file that has its name. -/
theorem Published.contents_eq (h : Published moves fs file) {job : StorageJob} {request : FileCall}
    (hallowed : job.Allowed storage (callsOf thread moves) request) {reply : request.Answer}
    (hdid : fs.Did fs' request reply) : fs'.contents file = fs.contents file := by
  refine hdid.contents_eq h.1 ?_
  rintro bytes rfl
  cases job with
  | put key source draw =>
    obtain ⟨written, hwriting⟩ := hallowed
    exact WritesTo.not_replaces hwriting (h.2 thread (WritesTo.creates hwriting))
  | read | delete => exact hallowed.elim

theorem Published.serve (h : Published moves fs file) {request : FileCall} {reply : request.Answer}
    (hdid : fs.Did fs' request reply) :
    Published (moves ++ [.serve thread ⟨request, reply⟩]) fs' file := by
  refine ⟨h.1.trans_le hdid.next_le, fun other hother ↦ ?_⟩
  rcases creates_snoc hother with hold | ⟨-, name, dir, hcall⟩
  · exact (h.2 other hold).append _
  · -- A file that is created now is another one.
    cases hcall
    exact absurd hdid.1 h.1.ne

/-- Where the target names the same file, it stores the same. -/
theorem Guarded.stored_eq (h : Guarded storage moves fs) {job : StorageJob} {request : FileCall}
    (hallowed : job.Allowed storage (callsOf thread moves) request) {reply : request.Answer}
    (hdid : fs.Did fs' request reply) {key : StorageKey}
    (hname : fs'.tree.file? (storage.target key.text) = fs.tree.file? (storage.target key.text)) :
    storage.stored fs' key.text = storage.stored fs key.text := by
  rw [stored, stored, hname]
  cases hfile : fs.tree.file? (storage.target key.text) with
  | none => rfl
  | some file => exact congrArg some ((h.published key file hfile).contents_eq hallowed hdid)

/-- **A call that is a point does its step to the store, and no other call does anything.** -/
theorem Guarded.stored_serve (h : Guarded storage moves fs) {job : StorageJob}
    (hjob : jobsOf thread moves = [job]) {request : FileCall}
    (hallowed : job.Allowed storage (callsOf thread moves) request) {reply : request.Answer}
    (hdid : fs.Did fs' request reply) {objects : Objects}
    (hstored : ∀ key : StorageKey, storage.stored fs key.text = objects key.text)
    (key : StorageKey) :
    storage.stored fs' key.text =
      (if job.point ⟨request, reply⟩ then (job.call.apply objects).2 else objects) key.text := by
  -- What names the same file in the end.
  have hsame : (∀ path, path = storage.target key.text →
      fs'.tree.file? path = fs.tree.file? path) → storage.stored fs' key.text = objects key.text :=
    fun hname ↦ (h.stored_eq hallowed hdid (hname _ rfl)).trans (hstored key)
  cases job with
  | put key' source draw =>
    cases request with
    | mkdir | isDir => exact hsame fun path _ ↦ congrFun hdid.names path
    | write file bytes =>
      obtain ⟨_, -, hnames, -⟩ := hdid
      exact hsame fun path _ ↦ congrFun hnames path
    | createNew name dir =>
      obtain ⟨rfl, rfl, -⟩ := hallowed
      refine hsame fun path hpath ↦ ?_
      cases reply with
      | error e => exact congrFun hdid.names path
      | ok file =>
        rw [hdid.2.1, Function.update_of_ne]
        exact hpath ▸ (temporaryPath_ne_target key).symm
    | unlink name dir =>
      obtain ⟨rfl, rfl⟩ := hallowed
      exact hsame fun path hpath ↦
        hdid.names_of_unlink (hpath ▸ (temporaryPath_ne_target key).symm)
    | replace name target dir =>
      obtain ⟨rfl, rfl, rfl, file, hwriting⟩ := hallowed
      cases reply with
      | error e => exact hsame fun path _ ↦ congrFun hdid.names path
      | ok =>
        obtain ⟨moved, hmoved, hnames, hcontents, -⟩ := hdid
        obtain ⟨hwhole, htemporary⟩ := h.writing thread key' source draw file _ hjob hwriting
        obtain rfl := htemporary moved hmoved
        show _ = Function.update objects key'.text (some source.content) key.text
        rw [Function.update_apply]
        split
        · next heq =>
          rw [stored, heq, (storage.target_eq_cons key').1, hnames, Function.update_self,
            hcontents, Option.map_some, hwhole]
        · next hne =>
          refine hsame fun path hpath ↦ ?_
          have htarget : path ≠ storage.targetName key' :: storage.targetDir key' := by
            rw [hpath, ← (storage.target_eq_cons key').1]
            exact fun heq ↦ hne (target_inj heq)
          rw [hnames, Function.update_of_ne htarget, Function.update_of_ne]
          exact hpath ▸ (temporaryPath_ne_target key).symm
    | openRead | read => exact hallowed.elim
  | read key' sizes =>
    have hobjects : (if (StorageJob.read key' sizes).point ⟨request, reply⟩ then
        ((StorageJob.read key' sizes).call.apply objects).2 else objects) = objects :=
      ite_self _
    rw [hobjects]
    cases request with
    | openRead path => exact hsame fun path _ ↦ congrFun hdid.same_of_openRead.names path
    | read => exact hsame fun path _ ↦ congrFun hdid.2.names path
    | mkdir | isDir | createNew | write | replace | unlink => exact hallowed.elim
  | delete key' =>
    cases request with
    | unlink name dir =>
      obtain ⟨htarget, -⟩ := hallowed
      by_cases heq : key.text = key'.text
      · -- When it is a point, the target names nothing afterwards.
        have hgone : fs'.tree.file? (name :: dir) = none → storage.stored fs' key.text =
            ((StorageJob.delete key').call.apply objects).2 key.text := by
          intro hnone
          rw [stored, heq, ← htarget, hnone]
          exact (Function.update_self key'.text none objects).symm
        rcases reply with ((_ | _ | _ | _ | _) | _) | _
        · exact hgone (hdid.2.names ▸ hdid.1)
        · exact hsame fun path _ ↦ congrFun hdid.names path
        · exact hsame fun path _ ↦ congrFun hdid.names path
        · exact hsame fun path _ ↦ congrFun hdid.names path
        · exact hsame fun path _ ↦ congrFun hdid.names path
        · exact hsame fun path _ ↦ congrFun hdid.names path
        · exact hgone (by rw [hdid.1, Function.update_self])
      · have hkept := hsame fun path hpath ↦ hdid.names_of_unlink (by
          rw [hpath, htarget]
          exact fun h ↦ heq (target_inj h))
        rw [hkept]
        split
        · exact (Function.update_of_ne heq none objects).symm
        · rfl
    | mkdir | isDir | createNew | write | replace | openRead | read => exact hallowed.elim

section Results

variable {s₀ s t : Threads FileSystem FileCall.Answer StorageFailure (Option (List UInt8))}
  {objects : Objects}

/-- The store is what the calls have made of it so far, in the order in which they took effect. -/
theorem stored_of_run (hinit : (storageCalls storage usable chunking).init s₀)
    (hrun : (storageCalls storage usable chunking).Run s₀ moves s) (hdraws : (drawn moves).Nodup)
    (hstored : ∀ key : StorageKey, storage.stored s₀.shared key.text = objects key.text)
    (key : StorageKey) :
    storage.stored s.shared key.text = replayCalls objects (history moves) key.text := by
  refine replayed (R := fun (fs : FileSystem) (objects : Objects) ↦
    ∀ key : StorageKey, storage.stored fs key.text = objects key.text)
    hinit (fun job ↦ job.safe) hstored ?_ ?_ hrun key
  · intro before t fs' thread job request reply y hbefore hbegin hjob hallowed hserved hR
    have hguarded := guarded_of_run hbefore hinit (nodup_drawn hbegin hdraws)
    exact hguarded.stored_serve hjob hallowed hserved.did hR
  · intro fs fs' y hsame hR key
    rw [stored, hsame.names, hsame.contents]
    exact hR key

/-- **A file that has its name never changes again.** -/
theorem published_kept (hinit : (storageCalls storage usable chunking).init s₀)
    {before after : StorageMoves} (hbefore : (storageCalls storage usable chunking).Run s₀ before t)
    (hafter : (storageCalls storage usable chunking).Run t after s)
    (hpublished : Published before t.shared file) :
    Published (before ++ after) s.shared file ∧
      s.shared.contents file = t.shared.contents file := by
  induction hafter with
  | nil => exact ⟨(List.append_nil before).symm ▸ hpublished, rfl⟩
  | @snoc u v after move hrun hstep ih =>
    obtain ⟨hkept, hcontents⟩ := ih
    have hsofar := hbefore.trans hrun
    rw [← List.append_assoc]
    cases hstep with
    | start free =>
      exact ⟨⟨hkept.1, fun other hother ↦ (hkept.2 other (hother.of_snoc nofun)).append _⟩,
        hcontents⟩
    | disturb hsame =>
      refine ⟨⟨hsame.next ▸ hkept.1, fun other hother ↦
        (hkept.2 other (hother.of_snoc nofun)).append _⟩, ?_⟩
      exact (congrFun hsame.contents file).trans hcontents
    | serve running served =>
      obtain ⟨job, hjob, hallowed⟩ := snoc_allowed hinit (fun job : StorageJob ↦ job.safe)
        (hsofar.snoc (.serve running served))
      exact ⟨hkept.serve served.did, (hkept.contents_eq hallowed served.did).trans hcontents⟩

/-- **What is read from a file that was opened is what the key held in that moment.** -/
theorem read_of_opened (hinit : (storageCalls storage usable chunking).init s₀)
    (hrun : (storageCalls storage usable chunking).Run s₀ moves s) (hdraws : (drawn moves).Nodup)
    {key : StorageKey} {sizes : List ℕ} (hjob : jobsOf thread moves = [.read key sizes])
    {rest : List FileAnswered}
    (hcalls : callsOf thread moves = ⟨.openRead (storage.target key.text), .ok file⟩ :: rest) :
    ∃ content before later, history moves = history before ++ (thread, .read key sizes) :: later ∧
      (∃ t, (storageCalls storage usable chunking).Run s₀ before t ∧
        (drawn before).Nodup ∧ storage.stored t.shared key.text = some content) ∧
      ∀ position size chunk, ⟨.read file position size, .ok chunk⟩ ∈ rest →
        chunk = (content.drop position).take size := by
  have hpoint : (StorageJob.read key sizes).point
      ⟨.openRead (storage.target key.text), .ok file⟩ = true := rfl
  obtain ⟨before, after, -, -, later, rfl, -, -, -, hplace⟩ :=
    exists_place hinit hrun hjob (hcalls ▸ List.mem_cons_self) hpoint
  obtain ⟨t, hbefore, hopening⟩ := hrun.exists_of_append
  obtain ⟨t', hserved, -⟩ := exists_served hopening
  have hdraws' := nodup_drawn (List.prefix_append before _) hdraws
  have hguarded := guarded_of_run hbefore hinit hdraws'
  have hopened : t.shared.tree.file? (storage.target key.text) = some file := hserved.did.1
  have hstored : storage.stored t.shared key.text = some (t.shared.contents file) := by
    rw [stored, hopened, Option.map_some]
  refine ⟨t.shared.contents file, before, later, hplace, ⟨t, hbefore, hdraws', hstored⟩,
    fun position size chunk hread ↦ ?_⟩
  -- The file was opened by the first call, so it is read in the rest of the run.
  obtain ⟨job, hjob', hallowed⟩ := served_allowed hinit (fun job : StorageJob ↦ job.safe) hrun
  have hfirst : callsOf thread before = [] := by
    cases job with
    | read => exact hallowed.2
    | put | delete => exact hallowed.elim
  have hrest : callsOf thread after = rest := by
    rw [callsOf_append, hfirst, List.nil_append, callsOf, List.filterMap_cons, servedFor?,
      if_pos rfl] at hcalls
    exact (List.cons.inj hcalls).2
  obtain ⟨between, last, rfl⟩ := List.append_of_mem (mem_callsOf.1 (hrest ▸ hread))
  have hreading : (storageCalls storage usable chunking).Run t
      ((.serve thread ⟨.openRead (storage.target key.text), .ok file⟩ :: between) ++
        .serve thread ⟨.read file position size, .ok chunk⟩ :: last) s := hopening
  obtain ⟨u, u', hbetween, hreadServed, -⟩ := exists_serve hreading
  obtain ⟨-, hcontents⟩ :=
    published_kept hinit hbefore hbetween (hguarded.published key file hopened)
  rcases hreadServed.did.1 with hfailed | hok
  · cases hfailed
  · rw [Except.ok.inj hok, hcontents]

/-- **The private directory is one store**, whatever runs beside each other, fails or stops: the
calls take effect one after the other, each at most once and while it runs; what the targets name is
what they have made of the objects; and a call that has not failed on the way has taken effect, and
ends as the store answers it at its place. -/
theorem local_storage_atomic (hinit : (storageCalls storage usable chunking).init s₀)
    (hrun : (storageCalls storage usable chunking).Run s₀ moves s) (hdraws : (drawn moves).Nodup)
    (hstored : ∀ key : StorageKey, storage.stored s₀.shared key.text = objects key.text) :
    ((history moves).map Prod.fst).Nodup ∧
    (∀ key : StorageKey,
      storage.stored s.shared key.text = replayCalls objects (history moves) key.text) ∧
    ∀ thread result, s.running thread = some (.done result) → ∃ job, jobsOf thread moves = [job] ∧
      (job.Completed result → ∃ before later, history moves = before ++ (thread, job) :: later ∧
        job.Returns (job.call.apply (replayCalls objects before)).1 result) := by
  refine ⟨nodup_points hinit (fun job ↦ job.safe) StorageJob.point_once hrun,
    stored_of_run hinit hrun hdraws hstored, fun thread result hdone ↦ ?_⟩
  obtain ⟨job, hjob, hended⟩ : ∃ job, jobsOf thread moves = [job] ∧
      job.Ended storage (callsOf thread moves) result :=
    ended_allowed hinit (fun job ↦ job.safe) hrun hdone
  refine ⟨job, hjob, fun hcompleted ↦ ?_⟩
  cases job with
  | put key source draw =>
    cases result with
    | error e => exact hcompleted.elim
    | ok bytes =>
      obtain ⟨rfl, call, hcall, hpoint⟩ := hended.1 bytes rfl
      obtain ⟨before, after, -, -, later, -, -, -, -, hplace⟩ :=
        exists_place hinit hrun hjob hcall hpoint
      exact ⟨history before, later, hplace, rfl⟩
  | delete key =>
    cases result with
    | error e => exact hcompleted.elim
    | ok bytes =>
      obtain ⟨rfl, call, hcall, hpoint⟩ := hended bytes rfl
      obtain ⟨before, after, -, -, later, -, -, -, -, hplace⟩ :=
        exists_place hinit hrun hjob hcall hpoint
      exact ⟨history before, later, hplace, rfl⟩
  | read key sizes =>
    cases result with
    | ok found =>
      obtain ⟨file, rest, bytes, rfl, hcalls, hread⟩ := hended.1 found rfl
      obtain ⟨content, before, later, hplace, ⟨t, hbefore, hdraws', hcontent⟩, hchunks⟩ :=
        read_of_opened hinit hrun hdraws hjob hcalls
      rw [stored_of_run hinit hbefore hdraws' hstored] at hcontent
      refine ⟨history before, later, hplace, ?_⟩
      have hanswer : ((StorageJob.read key sizes).call.apply
          (replayCalls objects (history before))).1 = .content content :=
        congrArg (Option.elim · StorageOutcome.missing StorageOutcome.content) hcontent
      rw [hanswer, hread content hchunks]
      rfl
    | error e =>
      obtain rfl : e = .file (.os .fileNotFound) := hcompleted
      rcases hended.2 rfl with hcall | ⟨file, position, size, hcall⟩
      · have hpoint : (StorageJob.read key sizes).point
            ⟨.openRead (storage.target key.text), .error (.os .fileNotFound)⟩ = true := rfl
        obtain ⟨before, after, t, t', later, rfl, hbefore, hserved, -, hplace⟩ :=
          exists_place hinit hrun hjob hcall hpoint
        have hdraws' := nodup_drawn (List.prefix_append before _) hdraws
        have hobject := stored_of_run hinit hbefore hdraws' hstored key
        rw [stored, hserved.did.1, Option.map_none] at hobject
        have hanswer : ((StorageJob.read key sizes).call.apply
            (replayCalls objects (history before))).1 = .missing :=
          congrArg (Option.elim · StorageOutcome.missing StorageOutcome.content) hobject.symm
        refine ⟨history before, later, hplace, ?_⟩
        rw [hanswer]
        rfl
      · -- Reading an open file does not fail like this.
        obtain ⟨before, after, rfl⟩ := List.append_of_mem (mem_callsOf.1 hcall)
        obtain ⟨t, t', -, hserved, -⟩ := exists_serve hrun
        rcases hserved.did.1 with h | h <;> cases h

/-! ### What is left behind -/

/-- The temporary file of a put was removed, or was not there to be removed. -/
def Removed (storage : LocalDocumentStorage) (key : StorageKey) (draw : UUID)
    (past : List FileAnswered) : Prop :=
  let temporary := temporaryName (storage.targetName key) draw.hex
  ⟨.unlink temporary (storage.targetDir key), .ok ()⟩ ∈ past ∨
    ⟨.unlink temporary (storage.targetDir key), .error (.os .fileNotFound)⟩ ∈ past

/-- A put has begun with its temporary file, and has not removed it. -/
def AtWork (storage : LocalDocumentStorage) (key : StorageKey) (draw : UUID)
    (past : List FileAnswered) : Prop :=
  ¬Preparing past ∧ ¬Removed storage key draw past

/-- A name is one of the beginning, a target, or the temporary file of a put at work. -/
def NameAccounted (storage : LocalDocumentStorage) (first : FileSystem) (moves : StorageMoves)
    (path : List String) : Prop :=
  first.tree.file? path ≠ none ∨ (∃ key : StorageKey, path = storage.target key.text) ∨
    ∃ thread key source draw, jobsOf thread moves = [.put key source draw] ∧
      path = storage.temporaryPath key draw ∧ AtWork storage key draw (callsOf thread moves)

theorem AtWork.snoc {key : StorageKey} {draw : UUID} {past : List FileAnswered}
    (h : AtWork storage key draw past) {request : FileCall} {reply : request.Answer}
    (hdid : fs.Did fs' request reply)
    (hbefore : fs.tree.file? (storage.temporaryPath key draw) ≠ none)
    (hafter : fs'.tree.file? (storage.temporaryPath key draw) ≠ none) :
    AtWork storage key draw (past ++ [⟨request, reply⟩]) := by
  refine ⟨fun hprepared ↦ h.1 fun call hcall ↦ hprepared call (List.mem_append_left _ hcall), ?_⟩
  rintro (hcall | hcall) <;> rcases List.mem_append.1 hcall with hcall | hcall
  · exact h.2 (Or.inl hcall)
  · cases List.mem_singleton.1 hcall
    rw [hdid.1] at hafter
    exact hafter (Function.update_self ..)
  · exact h.2 (Or.inr hcall)
  · cases List.mem_singleton.1 hcall
    exact hbefore hdid.1

theorem atWork_created {key : StorageKey} {draw : UUID} {past : List FileAnswered}
    (h : Preparing past) : AtWork storage key draw (past ++ [⟨.createNew
      (temporaryName (storage.targetName key) draw.hex) (storage.targetDir key), .ok file⟩]) := by
  constructor
  · intro hprepared
    rcases hprepared _ (List.mem_append_right _ (List.mem_singleton_self _)) with
      ⟨_, heq⟩ | ⟨_, heq⟩
    · cases heq
    · cases heq
  · rintro (hcall | hcall) <;> rcases List.mem_append.1 hcall with hcall | hcall
    · rcases h _ hcall with ⟨_, heq⟩ | ⟨_, heq⟩ <;> cases heq
    · cases List.mem_singleton.1 hcall
    · rcases h _ hcall with ⟨_, heq⟩ | ⟨_, heq⟩ <;> cases heq
    · cases List.mem_singleton.1 hcall

/-- **Nothing is left behind but what the system refused to remove**: every name is one of the
beginning, a target, or the temporary file of a put that has not ended, or whose end is the refusal
to remove it. -/
theorem names_accounted (hinit : (storageCalls storage usable chunking).init s₀)
    (hrun : (storageCalls storage usable chunking).Run s₀ moves s) {path : List String}
    (hnamed : s.shared.tree.file? path ≠ none) :
    s₀.shared.tree.file? path ≠ none ∨ (∃ key : StorageKey, path = storage.target key.text) ∨
      ∃ thread key source draw, jobsOf thread moves = [.put key source draw] ∧
        path = storage.temporaryPath key draw ∧
        ∀ result, s.running thread = some (.done result) → ∃ name dir e,
          name :: dir = path ∧ .serve thread ⟨.unlink name dir, .error e⟩ ∈ moves ∧
            result = .error (.file e) := by
  have hsafe : ∀ job : StorageJob, Safe (job.Allowed storage) (job.Ended storage) []
      (job.program storage chunking) := fun job ↦ job.safe
  have haccounted : ∀ path, s.shared.tree.file? path ≠ none →
      NameAccounted storage s₀.shared moves path := by
    refine allowed_tracked (I := fun moves fs ↦ ∀ path, fs.tree.file? path ≠ none →
      NameAccounted storage s₀.shared moves path)
      hinit hsafe (fun _ h ↦ Or.inl h) ?_ ?_ ?_ hrun
    · intro moves fs thread job hjobs _ h path hnamed
      refine (h path hnamed).imp_right (Or.imp_right ?_)
      rintro ⟨other, key, source, draw, hjob, hpath, hwork⟩
      have hne : other ≠ thread := by
        rintro rfl
        rw [hjobs] at hjob
        cases hjob
      refine ⟨other, key, source, draw, ?_, hpath, ?_⟩
      · rwa [jobsOf_snoc, startedFor?, if_neg hne.symm, Option.toList_none, List.append_nil]
      · rwa [callsOf_snoc, servedFor?, Option.toList_none, List.append_nil]
    · intro moves t fs' thread job request reply _ hjob hallowed hserved h path hnamed
      have hjobs : ∀ other, jobsOf other (moves ++ [.serve thread ⟨request, reply⟩]) =
          jobsOf other moves := fun other ↦ by
        rw [jobsOf_snoc, startedFor?, Option.toList_none, List.append_nil]
      have hcalls : callsOf thread (moves ++ [.serve thread ⟨request, reply⟩]) =
          callsOf thread moves ++ [⟨request, reply⟩] := by
        rw [callsOf_snoc, servedFor?, if_pos rfl]
        rfl
      rcases hserved.did.named hnamed with hold | ⟨name, dir, file, hcall, rfl⟩ |
        ⟨name, target, dir, hcall, rfl⟩
      · refine (h path hold).imp_right (Or.imp_right ?_)
        rintro ⟨other, key, source, draw, hjob', rfl, hwork⟩
        refine ⟨other, key, source, draw, (hjobs other).trans hjob', rfl, ?_⟩
        by_cases heq : other = thread
        · rw [heq] at hwork ⊢
          rw [hcalls]
          exact hwork.snoc hserved.did hold hnamed
        · rwa [callsOf_snoc, servedFor?, if_neg (Ne.symm heq), Option.toList_none,
            List.append_nil]
      · cases hcall
        cases job with
        | put key source draw =>
          obtain ⟨rfl, rfl, hprepared⟩ := hallowed
          refine Or.inr (Or.inr ⟨thread, key, source, draw, (hjobs thread).trans hjob, rfl, ?_⟩)
          rw [hcalls]
          exact atWork_created hprepared
        | read | delete => exact hallowed.elim
      · cases hcall
        cases job with
        | put key source draw =>
          obtain ⟨-, rfl, rfl, -⟩ := hallowed
          exact Or.inr (Or.inl ⟨key, (storage.target_eq_cons key).1.symm⟩)
        | read | delete => exact hallowed.elim
    · intro moves fs fs' hsame h path hnamed
      refine (h path (hsame.names ▸ hnamed)).imp_right (Or.imp_right ?_)
      rintro ⟨other, key, source, draw, hjob, hpath, hwork⟩
      refine ⟨other, key, source, draw, ?_, hpath, ?_⟩
      · rwa [jobsOf_snoc, startedFor?, Option.toList_none, List.append_nil]
      · rwa [callsOf_snoc, servedFor?, Option.toList_none, List.append_nil]
  refine (haccounted path hnamed).imp_right (Or.imp_right ?_)
  rintro ⟨thread, key, source, draw, hjob, rfl, hwork⟩
  refine ⟨thread, key, source, draw, hjob, rfl, fun result hdone ↦ ?_⟩
  obtain ⟨job, hjob', hended⟩ := ended_allowed hinit hsafe hrun hdone
  rw [hjob] at hjob'
  obtain rfl := List.singleton_inj.1 hjob'
  rcases hended.2 with hcall | hcall | ⟨e, hcall, hresult⟩ | hprepared
  · exact absurd (Or.inl hcall) hwork.2
  · exact absurd (Or.inr hcall) hwork.2
  · exact ⟨_, _, e, rfl, mem_callsOf.1 hcall, hresult⟩
  · exact absurd hprepared hwork.1

end Results

/-! ### A put and a read -/

namespace StorageSample

/-- An empty directory. -/
def emptied : FileSystem where
  tree :=
    { entry path := if path = [] ∨ path = ["documents"] then some .directory else none
      root_directory := rfl
      parent_directory name dir h := by
        by_cases heq : name :: dir = ["documents"]
        · rw [(List.cons.inj heq).2]
          rfl
        · exact absurd (if_neg (by simp [heq])) h }
  contents _ := []
  next := 0
  file_lt path file h := by
    rw [FileTree.file?_eq_some] at h
    simp only at h
    split at h <;> cases h
  file_once path path' file h := by
    rw [FileTree.file?_eq_some] at h
    simp only at h
    split at h <;> cases h

def key : StorageKey where
  text := "a"
  accepted := acceptedKey_iff.2 (by decide +kernel)
  plain := plainKey_iff.2 (by decide +kernel)
  nulFree := by rw [NulFree]; decide
  visible := by decide +kernel

def allUsable : String → Bool := fun _ ↦ true

/-- A writer that writes everything at once. -/
def atOnce : Chunking where
  chunks bytes := [bytes]
  flatten_chunks bytes := List.append_nil bytes

def storing : StorageJob := .put key ⟨[1, 2, 3], 3⟩ (uuid 7)

def fetching : StorageJob := .read key [2, 5]

def temporary : String := temporaryName "a" (UUID.hex (uuid 7))

def created : FileSystem := (emptied.createNew allUsable temporary ["documents"]).2

def written : FileSystem := created.write 0 [1, 2, 3]

def replaced : FileSystem := (written.replace allUsable temporary "a" ["documents"]).2

def storingCalls : List FileAnswered :=
  [⟨.mkdir ["documents"], .error (.os .fileExists)⟩, ⟨.isDir ["documents"], .ok true⟩,
    ⟨.createNew temporary ["documents"], .ok 0⟩, ⟨.write 0 [1, 2, 3], .ok ()⟩,
    ⟨.replace temporary "a" ["documents"], .ok ()⟩,
    ⟨.unlink temporary ["documents"], .error (.os .fileNotFound)⟩]

def fetchingCalls : List FileAnswered :=
  [⟨.openRead ["a", "documents"], .ok 0⟩, ⟨.read 0 0 2, .ok [1, 2]⟩, ⟨.read 0 2 5, .ok [3]⟩]

theorem target_key : documentsStorage.targetName key = "a" ∧
    documentsStorage.targetDir key = ["documents"] := by
  decide +kernel

theorem pathFor_key_sample : documentsStorage.pathFor key.text = .ok ["a", "documents"] := by
  rw [documentsStorage.pathFor_key key, target_key.1, target_key.2]

theorem serve_mkdir : emptied.Serve allUsable (.mkdir ["documents"])
    (.error (.os .fileExists)) emptied :=
  .performed _

theorem serve_isDir : emptied.Serve allUsable (.isDir ["documents"]) (.ok true) emptied :=
  .performed _

theorem serve_createNew : emptied.Serve allUsable (.createNew temporary ["documents"]) (.ok 0)
    created :=
  .performed _

theorem serve_write : created.Serve allUsable (.write 0 [1, 2, 3]) (.ok ()) written :=
  .performed _

theorem serve_replace : written.Serve allUsable (.replace temporary "a" ["documents"]) (.ok ())
    replaced :=
  .performed _

theorem serve_unlink : replaced.Serve allUsable (.unlink temporary ["documents"])
    (.error (.os .fileNotFound)) replaced :=
  .performed _

theorem serve_openRead : replaced.Serve allUsable (.openRead ["a", "documents"]) (.ok 0)
    replaced :=
  .performed _

theorem serve_read : replaced.Serve allUsable (.read 0 0 2) (.ok [1, 2]) replaced :=
  .performed _

theorem serve_rest : replaced.Serve allUsable (.read 0 2 5) (.ok [3]) replaced :=
  .performed _

theorem alone_storing : Alone (fileService allUsable) emptied
    (storing.program documentsStorage atOnce) storingCalls replaced (.ok none) := by
  show Alone _ _ (do
    documentsStorage.putProgram atOnce key.text ⟨[1, 2, 3], 3⟩ (uuid 7)
    return none) _ _ _
  rw [putProgram, pathFor_key_sample]
  exact .call serve_mkdir <| .call serve_isDir <| .call serve_createNew <| .call serve_write <|
    .call serve_replace <| .call serve_unlink .done

theorem alone_fetching : Alone (fileService allUsable) replaced
    (fetching.program documentsStorage atOnce) fetchingCalls replaced (.ok (some [1, 2, 3])) := by
  show Alone _ _ (do
    return some (← documentsStorage.readProgram key.text [2, 5])) _ _ _
  rw [readProgram, pathFor_key_sample]
  exact .call serve_openRead <| .call serve_read <| .call serve_rest .done

def started : Threads FileSystem FileCall.Answer StorageFailure (Option (List UInt8)) where
  shared := emptied
  running _ := none

/-- The steps of a call that runs alone. -/
def answered (thread : ℕ) (job : StorageJob) (calls : List FileAnswered) : StorageMoves :=
  .start thread job :: calls.map (.serve thread)

def bothMoves : StorageMoves :=
  answered 0 storing storingCalls ++ answered 1 fetching fetchingCalls

def left : ℕ → Option (Program FileCall.Answer StorageFailure (Option (List UInt8))) :=
  Function.update (Function.update started.running 0 (some (.done (.ok none))))
    1 (some (.done (.ok (some [1, 2, 3]))))

theorem init_started : (storageCalls documentsStorage allUsable atOnce).init started :=
  ⟨trivial, fun _ ↦ rfl⟩

theorem run_bothMoves : (storageCalls documentsStorage allUsable atOnce).Run started bothMoves
    ⟨replaced, left⟩ :=
  (alone_storing.run rfl).trans (alone_fetching.run rfl)

theorem local_storage_atomic_sample : ∃ before later,
    history bothMoves = before ++ (1, fetching) :: later ∧ fetching.Returns
      (fetching.call.apply (replayCalls (documentsStorage.stored emptied) before)).1
      (.ok (some [1, 2, 3])) := by
  have hdraws : (drawn bothMoves).Nodup := List.nodup_singleton (uuid 7)
  obtain ⟨job, hjob, hplace⟩ := (local_storage_atomic init_started run_bothMoves hdraws
    fun _ ↦ rfl).2.2 1 (.ok (some [1, 2, 3])) rfl
  obtain rfl : fetching = job := List.singleton_inj.1 hjob
  exact hplace trivial

theorem names_accounted_sample :
    emptied.tree.file? ["a", "documents"] ≠ none ∨
      (∃ key : StorageKey, ["a", "documents"] = documentsStorage.target key.text) ∨
        ∃ thread key source draw, jobsOf thread bothMoves = [.put key source draw] ∧
          ["a", "documents"] = documentsStorage.temporaryPath key draw ∧
          ∀ result, left thread = some (.done result) → ∃ name dir e,
            name :: dir = ["a", "documents"] ∧
              .serve thread ⟨.unlink name dir, .error e⟩ ∈ bothMoves ∧
                result = .error (.file e) := by
  have hnamed : replaced.tree.file? ["a", "documents"] ≠ none := by
    have hfile : replaced.tree.file? ["a", "documents"] = some 0 := rfl
    rw [hfile]
    exact Option.some_ne_none 0
  exact names_accounted init_started run_bothMoves hnamed

end StorageSample

end SupportFlow
