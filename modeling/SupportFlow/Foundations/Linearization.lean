import SupportFlow.Foundations.Programs

/-!
# Where a program takes effect

Programs that run beside each other make many calls each, and each of them is meant as one step of
some sequential object. `point job call` says at which answered call a program for `job` takes its
step. The points of a run, in order, are a sequential history of jobs (`points`), in which each is
at a moment when its program was running; `replay` is what the sequential object makes of it.

The rules ask of a single call what it does to the object that the shared state stands for: a point
does the step of its job, and every other call nothing (`replayed`). No program takes a second step
when none is allowed a point after its first (`nodup_points`). What the object was when a program
took its step is what the history before it has made of it (`exists_place`).
-/

namespace Service

open Move
open Program (Safe)

variable {σ ι : Type} {answer : ι → Type} {ε α ρ S : Type}

section Points

variable (point : ρ → Answered answer → Bool)

/-- The thread and the job whose point a move is. -/
def pointOf? (moves : List (Move answer ρ)) : Move answer ρ → Option (ℕ × ρ)
  | .serve thread call =>
    (jobsOf thread moves).head?.bind fun job ↦ if point job call then some (thread, job) else none
  | .start .. | .disturb => none

/-- The points of a run, in order. -/
def points (moves : List (Move answer ρ)) : List (ℕ × ρ) :=
  moves.filterMap (pointOf? point moves)

end Points

/-- What a history of jobs makes of an object. -/
def replay (apply : S → ρ → S) (s : S) (history : List (ℕ × ρ)) : S :=
  history.foldl (fun s entry ↦ apply s entry.2) s

variable {point : ρ → Answered answer → Bool} {service : Service σ answer}
  {program : ρ → Program answer ε α} {init : σ → Prop} {s₀ s t : Threads σ answer ε α}
  {moves all before after : List (Move answer ρ)} {thread : ℕ} {job : ρ}

theorem replay_append (apply : S → ρ → S) (s : S) (history : List (ℕ × ρ)) (entry : ℕ × ρ) :
    replay apply s (history ++ [entry]) = apply (replay apply s history) entry.2 := by
  rw [replay, List.foldl_append]
  rfl

/-- Later moves do not change what was a point. -/
theorem points_append (hinit : (interleaved service program init).init s₀)
    (hrun : (interleaved service program init).Run s₀ before t) :
    points point (before ++ after) =
      points point before ++ after.filterMap (pointOf? point (before ++ after)) := by
  rw [points, List.filterMap_append, points]
  refine congrArg (· ++ _) (List.filterMap_congr fun move hmove ↦ ?_)
  cases move with
  | start | disturb => rfl
  | serve thread call =>
    have hpath := thread_path hinit hrun thread
    cases hrunning : t.running thread with
    | none =>
      obtain ⟨-, hcalls⟩ := hrunning ▸ hpath
      exact absurd (hcalls ▸ mem_callsOf.2 hmove) List.not_mem_nil
    | some rest =>
      obtain ⟨job, hjob, -⟩ := hrunning ▸ hpath
      rw [pointOf?, pointOf?, jobsOf_append, hjob]
      rfl

theorem points_snoc (hinit : (interleaved service program init).init s₀)
    (hrun : (interleaved service program init).Run s₀ moves t) (hjob : jobsOf thread moves = [job])
    (call : Answered answer) :
    points point (moves ++ [.serve thread call]) =
      points point moves ++ if point job call then [(thread, job)] else [] := by
  have hhead : (jobsOf thread (moves ++ [.serve thread call])).head? = some job := by
    rw [jobsOf_append, hjob]
    rfl
  rw [points_append hinit hrun, List.filterMap_cons, pointOf?, hhead, Option.bind_some]
  cases point job call <;> rfl

theorem points_snoc_start (hinit : (interleaved service program init).init s₀)
    (hrun : (interleaved service program init).Run s₀ moves t) :
    points point (moves ++ [.start thread job]) = points point moves := by
  rw [points_append hinit hrun]
  exact List.append_nil _

theorem points_snoc_disturb (hinit : (interleaved service program init).init s₀)
    (hrun : (interleaved service program init).Run s₀ moves t) :
    points point (moves ++ [.disturb]) = points point moves := by
  rw [points_append hinit hrun]
  exact List.append_nil _

/-- A point is a call of the thread that it is told of. -/
theorem exists_call_of_mem_points (h : (thread, job) ∈ points point moves) :
    (jobsOf thread moves).head? = some job ∧
      ∃ call ∈ callsOf thread moves, point job call = true := by
  obtain ⟨move, hmove, hpoint⟩ := List.mem_filterMap.1 h
  cases move with
  | start | disturb => cases hpoint
  | serve other call =>
    rw [pointOf?, Option.bind_eq_some_iff] at hpoint
    obtain ⟨job', hjob, hpoint⟩ := hpoint
    split at hpoint
    · next hcall =>
      cases hpoint
      exact ⟨hjob, call, mem_callsOf.2 hmove, hcall⟩
    · cases hpoint

variable {A : ρ → List (Answered answer) → ι → Prop}
  {Q : ρ → List (Answered answer) → Except ε α → Prop}

/-- **No job is twice in the history**, where no program is allowed a second point. -/
theorem nodup_points (hinit : (interleaved service program init).init s₀)
    (hsafe : ∀ job, Safe (A job) (Q job) [] (program job))
    (honce : ∀ job past request reply, A job past request → point job ⟨request, reply⟩ = true →
      ∀ call ∈ past, point job call = false)
    (hrun : (interleaved service program init).Run s₀ moves s) :
    ((points point moves).map Prod.fst).Nodup := by
  refine TransitionSystem.Run.tracked
    (I := fun moves _ ↦ ((points point moves).map Prod.fst).Nodup) List.nodup_nil ?_ hrun
  intro moves s move t hbefore hI hstep
  cases hstep with
  | start => rwa [points_snoc_start hinit hbefore]
  | disturb => rwa [points_snoc_disturb hinit hbefore]
  | @serve thread request next reply shared running served =>
    obtain ⟨job, hjob, hallowed⟩ := snoc_allowed hinit hsafe
      (hbefore.snoc (.serve running served))
    rw [points_snoc hinit hbefore hjob]
    split
    · next hpoint =>
      rw [List.map_append, List.nodup_append]
      refine ⟨hI, List.pairwise_singleton _ _, ?_⟩
      rintro _ hmem other hother rfl
      obtain rfl : _ = thread := List.mem_singleton.1 hother
      obtain ⟨⟨_, job'⟩, hentry, rfl⟩ := List.mem_map.1 hmem
      obtain ⟨hjob', call, hcall, hfirst⟩ := exists_call_of_mem_points hentry
      rw [hjob] at hjob'
      obtain rfl := Option.some.inj hjob'
      rw [honce job _ request reply hallowed hpoint call hcall] at hfirst
      cases hfirst
    · rwa [List.append_nil]

variable {R : σ → S → Prop} {apply : S → ρ → S} {x : S}

/-- **The shared state is what the history makes of the object**, where a point takes the step of
its job and no other call changes what the state stands for. -/
theorem replayed (hinit : (interleaved service program init).init s₀)
    (hsafe : ∀ job, Safe (A job) (Q job) [] (program job)) (hfirst : R s₀.shared x)
    (hserve : ∀ moves t shared' thread job request reply y,
      (interleaved service program init).Run s₀ moves t → moves <+: all →
        jobsOf thread moves = [job] → A job (callsOf thread moves) request →
          service.serve t.shared request reply shared' → R t.shared y →
            R shared' (if point job ⟨request, reply⟩ then apply y job else y))
    (hdisturb : ∀ shared shared' y, service.disturb shared shared' → R shared y → R shared' y)
    (hrun : (interleaved service program init).Run s₀ all s) :
    R s.shared (replay apply x (points point all)) := by
  refine TransitionSystem.Run.tracked (I := fun moves s ↦ moves <+: all →
    R s.shared (replay apply x (points point moves))) (fun _ ↦ hfirst) ?_ hrun
    (List.prefix_refl all)
  intro moves s move t hbefore hI hstep hbegin
  have hmoves : moves <+: all := (List.prefix_append moves [move]).trans hbegin
  cases hstep with
  | start =>
    rw [points_snoc_start hinit hbefore]
    exact hI hmoves
  | disturb disturbed =>
    rw [points_snoc_disturb hinit hbefore]
    exact hdisturb _ _ _ disturbed (hI hmoves)
  | @serve thread request next reply shared running served =>
    obtain ⟨job, hjob, hallowed⟩ := snoc_allowed hinit hsafe
      (hbefore.snoc (.serve running served))
    have hafter := hserve _ _ _ _ _ _ _ _ hbefore hmoves hjob hallowed served (hI hmoves)
    rw [points_snoc hinit hbefore hjob]
    split
    · next hpoint =>
      rw [if_pos hpoint] at hafter
      rw [replay_append]
      exact hafter
    · next hpoint =>
      rw [if_neg hpoint] at hafter
      rw [List.append_nil]
      exact hafter

/-- **The place of a point**: it was a call of the run, and the history before it is that of the
moves before. -/
theorem exists_place (hinit : (interleaved service program init).init s₀)
    (hrun : (interleaved service program init).Run s₀ moves s) {call : Answered answer}
    (hjob : jobsOf thread moves = [job]) (hcall : call ∈ callsOf thread moves)
    (hpoint : point job call = true) :
    ∃ before after t t' rest, moves = before ++ .serve thread call :: after ∧
      (interleaved service program init).Run s₀ before t ∧
      service.serve t.shared call.1 call.2 t'.shared ∧
      (interleaved service program init).Run t' after s ∧
      points point moves = points point before ++ (thread, job) :: rest := by
  obtain ⟨before, after, rfl⟩ := List.append_of_mem (mem_callsOf.1 hcall)
  obtain ⟨t, t', hbefore, hserved, hafter⟩ := exists_serve hrun
  have hplace : points point (before ++ .serve thread call :: after) =
      points point before ++ (thread, job) ::
        after.filterMap (pointOf? point (before ++ .serve thread call :: after)) := by
    rw [points_append hinit hbefore, List.filterMap_cons, pointOf?, hjob, List.head?_cons,
      Option.bind_some, if_pos hpoint]
  exact ⟨before, after, t, t', _, rfl, hbefore, hserved, hafter, hplace⟩

end Service
