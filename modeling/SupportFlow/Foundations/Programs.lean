import SupportFlow.Foundations.TransitionSystem

/-!
# Programs that run beside each other

A program issues calls one at a time, continues with what each is answered, and ends with a value or
an exception. What its calls do is not part of it: a `Service` answers them over a state that all
programs share, and may change that state in between for reasons of its own. `interleaved` is the
system of any number of programs that run on one service, one call at a time, in any order. A
program that is never scheduled again has stopped in the middle, so nothing is said of programs that
die.

## Two levels of reasoning

* **One program**: `Safe A Q past x` says that `x`, continued after the answered calls `past`, only
  issues calls that `A` allows at that point, and only ends as `Q` allows. It is a predicate
  transformer, with one equation for each way of building a program, so that a handler's obligation
  is computed from its text.
* **All programs**: whatever the schedule, each program's own calls are a path of it
  (`Service.thread_path`). So what one program promises of its calls, it keeps in every interleaving
  (`Service.served_allowed`, `Service.ended_allowed`), and what it was answered it was answered
  earlier in the run, in a state that the run went through (`Service.Met`).

No program appears here.
-/

/-- A call with its answer. -/
abbrev Answered {ι : Type} (answer : ι → Type) := (request : ι) × answer request

/-- A program over an interface: `answer request` is the type of what a call is answered with. -/
inductive Program {ι : Type} (answer : ι → Type) (ε α : Type)
  | done (result : Except ε α)
  | call (request : ι) (next : answer request → Program answer ε α)

namespace Program

variable {ι : Type} {answer : ι → Type} {ε α β : Type}

/-- One program after another; an exception of the first is the end. -/
def andThen : Program answer ε α → (α → Program answer ε β) → Program answer ε β
  | done (.ok a), f => f a
  | done (.error e), _ => done (.error e)
  | call request next, f => call request fun reply ↦ (next reply).andThen f

/-- `try x except`: a handler for the exceptions of a program. -/
def handle : Program answer ε α → (ε → Program answer ε α) → Program answer ε α
  | done (.ok a), _ => done (.ok a)
  | done (.error e), f => f e
  | call request next, f => call request fun reply ↦ (next reply).handle f

instance : Monad (Program answer ε) where
  pure a := done (.ok a)
  bind := andThen

instance : MonadExceptOf ε (Program answer ε) where
  throw e := done (.error e)
  tryCatch := handle

/-- A call, and its answer. -/
def ask (request : ι) : Program answer ε (answer request) :=
  call request fun reply ↦ done (.ok reply)

/-- `try x finally cleanup`, with a cleanup that may raise itself. -/
def andFinally (x : Program answer ε α) (cleanup : Program answer ε Unit) : Program answer ε α := do
  let a ← tryCatch x fun e ↦ do
    cleanup
    throw e
  cleanup
  return a

/-! ### Paths -/

/-- The program goes this way: after these answered calls it has still that program to run. -/
inductive Path : Program answer ε α → List (Answered answer) → Program answer ε α → Prop
  | nil (x : Program answer ε α) : Path x [] x
  | snoc {x : Program answer ε α} {past : List (Answered answer)} {request : ι}
      {next : answer request → Program answer ε α} (h : Path x past (call request next))
      (reply : answer request) : Path x (past ++ [⟨request, reply⟩]) (next reply)

/-! ### Obligations -/

section Safe

variable (A : List (Answered answer) → ι → Prop)

/-- **Continued after the calls `past`, the program issues only what `A` allows, and ends only as
`Q` allows.** -/
def Safe (Q : List (Answered answer) → Except ε α → Prop) :
    List (Answered answer) → Program answer ε α → Prop
  | past, done result => Q past result
  | past, call request next =>
    A past request ∧ ∀ reply, Safe Q (past ++ [⟨request, reply⟩]) (next reply)

variable {A} {past : List (Answered answer)} {Q Q' : List (Answered answer) → Except ε α → Prop}

@[simp]
theorem safe_pure {a : α} : Safe A Q past (pure a : Program answer ε α) ↔ Q past (.ok a) :=
  Iff.rfl

@[simp]
theorem safe_throw {e : ε} : Safe A Q past (throw e : Program answer ε α) ↔ Q past (.error e) :=
  Iff.rfl

@[simp]
theorem safe_ofExcept {x : Except ε α} :
    Safe A Q past (MonadExcept.ofExcept x : Program answer ε α) ↔ Q past x := by
  cases x <;> rfl

@[simp]
theorem safe_ask {request : ι} {Q : List (Answered answer) → Except ε (answer request) → Prop} :
    Safe A Q past (ask request : Program answer ε (answer request)) ↔
      A past request ∧ ∀ reply, Q (past ++ [⟨request, reply⟩]) (.ok reply) :=
  Iff.rfl

theorem Safe.mono (hQ : ∀ past result, Q past result → Q' past result)
    {x : Program answer ε α} (h : Safe A Q past x) : Safe A Q' past x := by
  induction x generalizing past with
  | done result => exact hQ past result h
  | call request next ih => exact ⟨h.1, fun reply ↦ ih reply (h.2 reply)⟩

/-- What a sequence owes is what its first part owes, with the rest as its end. -/
@[simp]
theorem safe_bind {x : Program answer ε α} {f : α → Program answer ε β}
    {Q : List (Answered answer) → Except ε β → Prop} :
    Safe A Q past (x >>= f) ↔ Safe A (fun past result ↦
      match result with
      | .ok a => Safe A Q past (f a)
      | .error e => Q past (.error e)) past x := by
  induction x generalizing past with
  | done result => cases result <;> rfl
  | call request next ih => exact and_congr Iff.rfl (forall_congr' fun reply ↦ ih reply)

/-- And so with a handler. -/
@[simp]
theorem safe_tryCatch {x : Program answer ε α} {f : ε → Program answer ε α} :
    Safe A Q past (tryCatch x f) ↔ Safe A (fun past result ↦
      match result with
      | .ok a => Q past (.ok a)
      | .error e => Safe A Q past (f e)) past x := by
  induction x generalizing past with
  | done result => cases result <;> rfl
  | call request next ih => exact and_congr Iff.rfl (forall_congr' fun reply ↦ ih reply)

/-- The cleanup is owed on either way out, and what it raises is the end. -/
theorem safe_andFinally {x : Program answer ε α} {cleanup : Program answer ε Unit} :
    Safe A Q past (x.andFinally cleanup) ↔ Safe A (fun past result ↦
      Safe A (fun past cleaned ↦
        match cleaned with
        | .ok () => Q past result
        | .error e => Q past (.error e)) past cleanup) past x := by
  rw [andFinally, safe_bind, safe_tryCatch]
  constructor
  · refine Safe.mono fun past result h ↦ ?_
    cases result with
    | ok a => exact Safe.mono (fun _ cleaned h ↦ by cases cleaned <;> exact h) (safe_bind.1 h)
    | error e =>
      refine Safe.mono (fun _ cleaned h ↦ ?_) (safe_bind.1 h)
      cases cleaned <;> exact h
  · refine Safe.mono fun past result h ↦ ?_
    cases result with
    | ok a =>
      exact safe_bind.2 (Safe.mono (fun _ cleaned h ↦ by cases cleaned <;> exact h) h)
    | error e =>
      refine safe_bind.2 (Safe.mono (fun _ cleaned h ↦ ?_) h)
      cases cleaned <;> exact h

/-- A promise is kept along every path. -/
theorem Safe.path {x y : Program answer ε α} {calls : List (Answered answer)}
    (h : Safe A Q past x) (hpath : Path x calls y) : Safe A Q (past ++ calls) y := by
  induction hpath with
  | nil => rwa [List.append_nil]
  | snoc _ reply ih =>
    rw [← List.append_assoc]
    exact ih.2 reply

end Safe

end Program

/-! ### Interleavings -/

/-- What answers the calls of programs, over a state that they share. -/
structure Service (σ : Type) {ι : Type} (answer : ι → Type) where
  /-- A call is answered, and leaves a state. -/
  serve : σ → (request : ι) → answer request → σ → Prop
  /-- The state changes for other reasons. -/
  disturb : σ → σ → Prop

/-- The shared state, and the programs that were started. -/
structure Threads (σ : Type) {ι : Type} (answer : ι → Type) (ε α : Type) where
  shared : σ
  running : ℕ → Option (Program answer ε α)

/-- A step of the system: a thread is started with a job, a call of a thread is answered, or the
shared state changes. -/
inductive Move {ι : Type} (answer : ι → Type) (ρ : Type)
  | start (thread : ℕ) (job : ρ)
  | serve (thread : ℕ) (call : Answered answer)
  | disturb

namespace Service

variable {σ ι : Type} {answer : ι → Type} {ε α ρ : Type}

/-- The steps of programs that run beside each other: `program job` is what runs for a job. -/
inductive Step (service : Service σ answer) (program : ρ → Program answer ε α) :
    Threads σ answer ε α → Move answer ρ → Threads σ answer ε α → Prop
  | start {s : Threads σ answer ε α} {thread : ℕ} {job : ρ} (free : s.running thread = none) :
      Step service program s (.start thread job)
        { s with running := Function.update s.running thread (some (program job)) }
  | serve {s : Threads σ answer ε α} {thread : ℕ} {request : ι}
      {next : answer request → Program answer ε α} {reply : answer request} {shared : σ}
      (running : s.running thread = some (.call request next))
      (served : service.serve s.shared request reply shared) :
      Step service program s (.serve thread ⟨request, reply⟩)
        ⟨shared, Function.update s.running thread (some (next reply))⟩
  | disturb {s : Threads σ answer ε α} {shared : σ} (disturbed : service.disturb s.shared shared) :
      Step service program s .disturb { s with shared := shared }

/-- Programs beside each other, from a state in which none runs. -/
def interleaved (service : Service σ answer) (program : ρ → Program answer ε α)
    (init : σ → Prop) : TransitionSystem (Threads σ answer ε α) (Move answer ρ) where
  init s := init s.shared ∧ ∀ thread, s.running thread = none
  step := Step service program

end Service

namespace Move

variable {ι : Type} {answer : ι → Type} {ρ : Type}

/-- The job that a thread is started with, when the move does that. -/
def startedFor? (thread : ℕ) : Move answer ρ → Option ρ
  | .start other job => if other = thread then some job else none
  | .serve _ _ | .disturb => none

/-- The answered call of a thread, when the move is one. -/
def servedFor? (thread : ℕ) : Move answer ρ → Option (Answered answer)
  | .serve other call => if other = thread then some call else none
  | .start _ _ | .disturb => none

/-- The jobs that a thread was started with: one at most. -/
def jobsOf (thread : ℕ) (moves : List (Move answer ρ)) : List ρ :=
  moves.filterMap (startedFor? thread)

/-- The calls of a thread, in order. -/
def callsOf (thread : ℕ) (moves : List (Move answer ρ)) : List (Answered answer) :=
  moves.filterMap (servedFor? thread)

variable {thread : ℕ} {moves : List (Move answer ρ)}

theorem jobsOf_append (later : List (Move answer ρ)) :
    jobsOf thread (moves ++ later) = jobsOf thread moves ++ jobsOf thread later :=
  List.filterMap_append

theorem callsOf_append (later : List (Move answer ρ)) :
    callsOf thread (moves ++ later) = callsOf thread moves ++ callsOf thread later :=
  List.filterMap_append

theorem jobsOf_snoc (move : Move answer ρ) :
    jobsOf thread (moves ++ [move]) = jobsOf thread moves ++ (move.startedFor? thread).toList := by
  rw [jobsOf_append, jobsOf, jobsOf, List.filterMap_cons]
  cases move.startedFor? thread <;> rfl

theorem callsOf_snoc (move : Move answer ρ) :
    callsOf thread (moves ++ [move]) = callsOf thread moves ++ (move.servedFor? thread).toList := by
  rw [callsOf_append, callsOf, callsOf, List.filterMap_cons]
  cases move.servedFor? thread <;> rfl

/-- The jobs of a thread are those it was started with. -/
theorem mem_jobsOf {job : ρ} : job ∈ jobsOf thread moves ↔ .start thread job ∈ moves := by
  constructor
  · intro h
    obtain ⟨move, hmem, hjob⟩ := List.mem_filterMap.1 h
    cases move with
    | serve | disturb => cases hjob
    | start other job' =>
      rw [startedFor?] at hjob
      split at hjob
      · next heq =>
        cases hjob
        rwa [← heq]
      · cases hjob
  · exact fun h ↦ List.mem_filterMap.2 ⟨_, h, if_pos rfl⟩

/-- The calls of a thread are moves of the run. -/
theorem mem_callsOf {call : Answered answer} :
    call ∈ callsOf thread moves ↔ .serve thread call ∈ moves := by
  constructor
  · intro h
    obtain ⟨move, hmem, hcall⟩ := List.mem_filterMap.1 h
    cases move with
    | start | disturb => cases hcall
    | serve other call' =>
      rw [servedFor?] at hcall
      split at hcall
      · next heq =>
        cases hcall
        rwa [← heq]
      · cases hcall
  · exact fun h ↦ List.mem_filterMap.2 ⟨_, h, if_pos rfl⟩

end Move

namespace Service

open Move Program

variable {σ ι : Type} {answer : ι → Type} {ε α ρ : Type} {service : Service σ answer}
  {program : ρ → Program answer ε α} {init : σ → Prop} {s₀ s : Threads σ answer ε α}
  {moves : List (Move answer ρ)}

/-- What a run has made of a thread: nothing, or a path of the program that it was started with. -/
def ThreadPath (program : ρ → Program answer ε α) (moves : List (Move answer ρ)) (thread : ℕ) :
    Option (Program answer ε α) → Prop
  | none => jobsOf thread moves = [] ∧ callsOf thread moves = []
  | some rest => ∃ job, jobsOf thread moves = [job] ∧
      Path (program job) (callsOf thread moves) rest

/-- **Each thread runs its own program**, whatever runs beside it. -/
theorem thread_path (hinit : (interleaved service program init).init s₀)
    (hrun : (interleaved service program init).Run s₀ moves s) (thread : ℕ) :
    ThreadPath program moves thread (s.running thread) := by
  refine TransitionSystem.Run.tracked
    (I := fun moves s ↦ ThreadPath program moves thread (s.running thread)) ?_ ?_ hrun
  · rw [hinit.2 thread]
    exact ⟨rfl, rfl⟩
  · intro moves s move t _ hI hstep
    -- A move that is not the thread's leaves its program alone.
    have hkept : move.startedFor? thread = none → move.servedFor? thread = none →
        t.running thread = s.running thread →
          ThreadPath program (moves ++ [move]) thread (t.running thread) := by
      intro hnoStart hnoCall hsame
      have hjobs : jobsOf thread (moves ++ [move]) = jobsOf thread moves := by
        rw [jobsOf_snoc, hnoStart, Option.toList_none, List.append_nil]
      have hcalls : callsOf thread (moves ++ [move]) = callsOf thread moves := by
        rw [callsOf_snoc, hnoCall, Option.toList_none, List.append_nil]
      rw [hsame]
      unfold ThreadPath at hI ⊢
      rwa [hjobs, hcalls]
    cases hstep with
    | @start other job free =>
      by_cases heq : thread = other
      · subst heq
        rw [free] at hI
        have hjobs : jobsOf thread (moves ++ [Move.start thread job]) = [job] := by
          rw [jobsOf_snoc, hI.1, startedFor?, if_pos rfl]
          rfl
        have hcalls : callsOf thread (moves ++ [Move.start thread job]) = [] := by
          rw [callsOf_snoc, hI.2]
          rfl
        show ThreadPath program _ thread (Function.update s.running thread _ thread)
        rw [Function.update_self]
        exact ⟨job, hjobs, hcalls ▸ Path.nil _⟩
      · exact hkept (if_neg (Ne.symm heq)) rfl (Function.update_of_ne heq _ _)
    | @serve other request next reply shared running served =>
      by_cases heq : thread = other
      · subst heq
        rw [running] at hI
        obtain ⟨job, hjob, hpath⟩ := hI
        have hjobs : jobsOf thread (moves ++ [Move.serve thread ⟨request, reply⟩]) = [job] := by
          rw [jobsOf_snoc, hjob]
          rfl
        have hcalls : callsOf thread (moves ++ [Move.serve thread ⟨request, reply⟩]) =
            callsOf thread moves ++ [⟨request, reply⟩] := by
          rw [callsOf_snoc, servedFor?, if_pos rfl]
          rfl
        show ThreadPath program _ thread (Function.update s.running thread _ thread)
        rw [Function.update_self]
        exact ⟨job, hjobs, hcalls ▸ hpath.snoc reply⟩
      · exact hkept rfl (if_neg (Ne.symm heq)) (Function.update_of_ne heq _ _)
    | disturb => exact hkept rfl rfl rfl

/-- A thread that was started was started with one job. -/
theorem jobsOf_eq (hinit : (interleaved service program init).init s₀)
    (hrun : (interleaved service program init).Run s₀ moves s) {thread : ℕ} {job : ρ}
    (hstart : .start thread job ∈ moves) : jobsOf thread moves = [job] := by
  have hmem : job ∈ jobsOf thread moves := mem_jobsOf.2 hstart
  have hpath := thread_path hinit hrun thread
  unfold ThreadPath at hpath
  split at hpath
  · rw [hpath.1] at hmem
    exact absurd hmem List.not_mem_nil
  · obtain ⟨only, hjobs, -⟩ := hpath
    rw [hjobs, List.mem_singleton] at hmem
    rw [hjobs, hmem]

/-- A thread that starts later has made no calls. -/
theorem callsOf_eq_nil (hinit : (interleaved service program init).init s₀)
    {before after : List (Move answer ρ)} {thread : ℕ} {job : ρ}
    (hrun : (interleaved service program init).Run s₀ (before ++ after) s)
    (hstart : .start thread job ∈ after) :
    jobsOf thread before = [] ∧ callsOf thread before = [] := by
  obtain ⟨t, hbefore, hafter⟩ := hrun.exists_of_append
  have hpath := thread_path hinit hbefore thread
  cases hrunning : t.running thread with
  | none => rwa [hrunning] at hpath
  | some rest =>
    -- It would be started twice.
    obtain ⟨earlier, hjob, -⟩ := hrunning ▸ hpath
    have hjobs := jobsOf_eq hinit hrun (List.mem_append_right before hstart)
    rw [jobsOf_append, hjob] at hjobs
    have hnil : jobsOf thread after = [] := (List.cons.inj hjobs).2
    exact absurd (hnil ▸ mem_jobsOf.2 hstart) List.not_mem_nil

variable {A : ρ → List (Answered answer) → ι → Prop}
  {Q : ρ → List (Answered answer) → Except ε α → Prop}

/-- **What a program promises of its calls holds in every interleaving**: a call that is answered
was allowed after the calls that its thread had been answered before, all of them earlier in the
run. -/
theorem served_allowed (hinit : (interleaved service program init).init s₀)
    (hsafe : ∀ job, Safe (A job) (Q job) [] (program job))
    {before after : List (Move answer ρ)} {thread : ℕ} {call : Answered answer}
    (hrun : (interleaved service program init).Run s₀
      (before ++ .serve thread call :: after) s) :
    ∃ job, jobsOf thread before = [job] ∧ A job (callsOf thread before) call.1 := by
  obtain ⟨t, hbefore, hrest⟩ := hrun.exists_of_append
  obtain ⟨t', hcall, -⟩ := TransitionSystem.Run.exists_of_append
    (show (interleaved service program init).Run t ([.serve thread call] ++ after) s from hrest)
  have hpath := thread_path hinit hbefore thread
  cases hcall.step_of_singleton with
  | @serve _ request next reply shared running served =>
    rw [running] at hpath
    obtain ⟨job, hjob, hpath⟩ := hpath
    exact ⟨job, hjob, ((hsafe job).path hpath).1⟩

/-- The last call of a run was allowed. -/
theorem snoc_allowed (hinit : (interleaved service program init).init s₀)
    (hsafe : ∀ job, Safe (A job) (Q job) [] (program job)) {thread : ℕ} {call : Answered answer}
    (hrun : (interleaved service program init).Run s₀ (moves ++ [.serve thread call]) s) :
    ∃ job, jobsOf thread moves = [job] ∧ A job (callsOf thread moves) call.1 :=
  served_allowed hinit hsafe hrun

/-- **And so does what it promises of its end.** -/
theorem ended_allowed (hinit : (interleaved service program init).init s₀)
    (hsafe : ∀ job, Safe (A job) (Q job) [] (program job))
    (hrun : (interleaved service program init).Run s₀ moves s) {thread : ℕ}
    {result : Except ε α} (hdone : s.running thread = some (.done result)) :
    ∃ job, jobsOf thread moves = [job] ∧ Q job (callsOf thread moves) result := by
  have hpath := thread_path hinit hrun thread
  rw [hdone] at hpath
  obtain ⟨job, hjob, hpath⟩ := hpath
  exact ⟨job, hjob, (hsafe job).path hpath⟩

/-- A run that begins with a call. -/
theorem exists_served {after : List (Move answer ρ)} {thread : ℕ} {call : Answered answer}
    (hrun : (interleaved service program init).Run s₀ (.serve thread call :: after) s) :
    ∃ t, service.serve s₀.shared call.1 call.2 t.shared ∧
      (interleaved service program init).Run t after s := by
  obtain ⟨t, hcall, hafter⟩ := TransitionSystem.Run.exists_of_append
    (show (interleaved service program init).Run s₀ ([.serve thread call] ++ after) s from hrun)
  refine ⟨t, ?_, hafter⟩
  cases hcall.step_of_singleton with
  | serve _ served => exact served

/-- The state in which a call was answered, and the run up to it. -/
theorem exists_serve {before after : List (Move answer ρ)} {thread : ℕ}
    {call : Answered answer}
    (hrun : (interleaved service program init).Run s₀
      (before ++ .serve thread call :: after) s) :
    ∃ t t', (interleaved service program init).Run s₀ before t ∧
      service.serve t.shared call.1 call.2 t'.shared ∧
      (interleaved service program init).Run t' after s := by
  obtain ⟨t, hbefore, hrest⟩ := hrun.exists_of_append
  obtain ⟨t', hserved, hafter⟩ := exists_served hrest
  exact ⟨t, t', hbefore, hserved, hafter⟩

/-- In a run, a thread's call was answered in a state with `P`. -/
def Met (service : Service σ answer) (program : ρ → Program answer ε α) (init : σ → Prop)
    (s₀ : Threads σ answer ε α) (moves : List (Move answer ρ)) (thread : ℕ)
    (call : Answered answer) (P : σ → Prop) : Prop :=
  ∃ before after t, moves = before ++ .serve thread call :: after ∧
    (interleaved service program init).Run s₀ before t ∧ P t.shared

theorem Met.append {thread : ℕ} {call : Answered answer} {P : σ → Prop}
    (h : Met service program init s₀ moves thread call P) (later : List (Move answer ρ)) :
    Met service program init s₀ (moves ++ later) thread call P := by
  obtain ⟨before, after, t, rfl, hbefore, hP⟩ := h
  exact ⟨before, after ++ later, t, by simp, hbefore, hP⟩

theorem Met.imp {thread : ℕ} {call : Answered answer} {P P' : σ → Prop}
    (h : Met service program init s₀ moves thread call P) (himp : ∀ shared, P shared → P' shared) :
    Met service program init s₀ moves thread call P' := by
  obtain ⟨before, after, t, hsplit, hbefore, hP⟩ := h
  exact ⟨before, after, t, hsplit, hbefore, himp _ hP⟩

/-- **An answer tells of the state it was given in.** -/
theorem met_of_mem {thread : ℕ} {call : Answered answer} {P : σ → Prop}
    (hrun : (interleaved service program init).Run s₀ moves s)
    (hmem : .serve thread call ∈ moves)
    (hserve : ∀ shared shared', service.serve shared call.1 call.2 shared' → P shared) :
    Met service program init s₀ moves thread call P := by
  obtain ⟨before, after, rfl⟩ := List.append_of_mem hmem
  obtain ⟨t, t', hbefore, hserved, -⟩ := exists_serve hrun
  exact ⟨before, after, t, rfl, hbefore, hserve _ _ hserved⟩

/-- **The invariant rule for the shared state**: what every answered call and every disturbance
keeps, with the moves so far. -/
theorem shared_tracked {I : List (Move answer ρ) → σ → Prop}
    (hinit : I [] s₀.shared)
    (hstart : ∀ moves shared thread job, I moves shared → I (moves ++ [.start thread job]) shared)
    (hserve : ∀ moves shared shared' thread call, I moves shared →
      service.serve shared call.1 call.2 shared' → I (moves ++ [.serve thread call]) shared')
    (hdisturb : ∀ moves shared shared', I moves shared → service.disturb shared shared' →
      I (moves ++ [.disturb]) shared')
    (hrun : (interleaved service program init).Run s₀ moves s) : I moves s.shared := by
  refine TransitionSystem.Run.tracked (I := fun moves s ↦ I moves s.shared) hinit ?_ hrun
  intro moves s move t _ hI hstep
  cases hstep with
  | start => exact hstart _ _ _ _ hI
  | serve _ served => exact hserve _ _ _ _ ⟨_, _⟩ hI served
  | disturb disturbed => exact hdisturb _ _ _ hI disturbed

/-- The same rule where every answered call was allowed: the step of a call may use what its
program has promised, after the calls that it was answered before. -/
theorem allowed_tracked {I : List (Move answer ρ) → σ → Prop}
    (hinit : (interleaved service program init).init s₀)
    (hsafe : ∀ job, Safe (A job) (Q job) [] (program job)) (hfirst : I [] s₀.shared)
    (hstart : ∀ moves shared thread job, jobsOf thread moves = [] → callsOf thread moves = [] →
      I moves shared → I (moves ++ [.start thread job]) shared)
    (hserve : ∀ moves t shared' thread job request reply,
      (interleaved service program init).Run s₀ moves t → jobsOf thread moves = [job] →
        A job (callsOf thread moves) request → service.serve t.shared request reply shared' →
          I moves t.shared → I (moves ++ [.serve thread ⟨request, reply⟩]) shared')
    (hdisturb : ∀ moves shared shared', service.disturb shared shared' → I moves shared →
      I (moves ++ [.disturb]) shared')
    (hrun : (interleaved service program init).Run s₀ moves s) : I moves s.shared := by
  refine TransitionSystem.Run.tracked (I := fun moves s ↦ I moves s.shared) hfirst ?_ hrun
  intro moves s move t hbefore hI hstep
  cases hstep with
  | start free =>
    have hpath := thread_path hinit hbefore
    obtain ⟨hjobs, hcalls⟩ := free ▸ hpath _
    exact hstart _ _ _ _ hjobs hcalls hI
  | serve running served =>
    obtain ⟨job, hjob, hallowed⟩ := snoc_allowed hinit hsafe
      (hbefore.snoc (.serve running served))
    exact hserve _ _ _ _ job _ _ hbefore hjob hallowed served hI
  | disturb disturbed => exact hdisturb _ _ _ disturbed hI

/-! ### One program after another -/

/-- A program runs alone: its calls are answered one after the other, to its end. -/
inductive Alone (service : Service σ answer) :
    σ → Program answer ε α → List (Answered answer) → σ → Except ε α → Prop
  | done {shared : σ} {result : Except ε α} : Alone service shared (.done result) [] shared result
  | call {shared shared' shared'' : σ} {request : ι} {next : answer request → Program answer ε α}
      {reply : answer request} {calls : List (Answered answer)} {result : Except ε α}
      (served : service.serve shared request reply shared')
      (rest : Alone service shared' (next reply) calls shared'' result) :
      Alone service shared (.call request next) (⟨request, reply⟩ :: calls) shared'' result

theorem Alone.run_of_running {thread : ℕ} {x : Program answer ε α} {calls : List (Answered answer)}
    {before shared : σ} {result : Except ε α} {running : ℕ → Option (Program answer ε α)}
    (h : Alone service before x calls shared result) (hrunning : running thread = some x) :
    (interleaved service program init).Run ⟨before, running⟩ (calls.map (.serve thread))
      ⟨shared, Function.update running thread (some (.done result))⟩ := by
  induction h generalizing running with
  | done =>
    rw [← hrunning, Function.update_eq_self]
    exact .nil _
  | call served rest ih =>
    have hlast := ih (Function.update_self thread _ running)
    rw [Function.update_idem] at hlast
    exact .cons (.serve hrunning served) hlast

/-- A sequence runs alone as its parts do. -/
theorem Alone.bind {β : Type} {x : Program answer ε α} {f : α → Program answer ε β} {a : α}
    {before between shared : σ} {calls later : List (Answered answer)} {result : Except ε β}
    (h : Alone service before x calls between (.ok a))
    (hrest : Alone service between (f a) later shared result) :
    Alone service before (x >>= f) (calls ++ later) shared result := by
  generalize hok : Except.ok a = first at h
  induction h with
  | done =>
    subst hok
    exact hrest
  | call served _ ih => exact .call served (ih hrest hok)

/-- A handler is not asked when nothing is raised. -/
theorem Alone.tryCatch {x : Program answer ε α} {f : ε → Program answer ε α} {a : α}
    {before shared : σ} {calls : List (Answered answer)}
    (h : Alone service before x calls shared (.ok a)) :
    Alone service before (MonadExcept.tryCatch x f) calls shared (.ok a) := by
  generalize hok : Except.ok a = result at h
  induction h with
  | done =>
    subst hok
    exact .done
  | call served _ ih => exact .call served (ih hok)

/-- What is asked first is answered first. -/
theorem Alone.ask {request : ι} {reply : answer request} {f : answer request → Program answer ε α}
    {before between shared : σ} {calls : List (Answered answer)} {result : Except ε α}
    (h : service.serve before request reply between)
    (hrest : Alone service between (f reply) calls shared result) :
    Alone service before (Program.ask request >>= f) (⟨request, reply⟩ :: calls) shared result :=
  .call h hrest

/-- A thread that is started and runs alone to its end. -/
theorem Alone.run {thread : ℕ} {job : ρ} {calls : List (Answered answer)} {shared : σ}
    {result : Except ε α} (h : Alone service s.shared (program job) calls shared result)
    (free : s.running thread = none) :
    (interleaved service program init).Run s (.start thread job :: calls.map (.serve thread))
      ⟨shared, Function.update s.running thread (some (.done result))⟩ := by
  have hlast : (interleaved service program init).Run _ (calls.map (.serve thread)) _ :=
    h.run_of_running (Function.update_self thread _ s.running)
  rw [Function.update_idem] at hlast
  exact .cons (.start free) hlast

end Service
