import SupportFlow.Foundations.Programs

/-!
# Locks that belong to a connection

A server grants a lock under a key to one connection at a time. The lock ends when the connection
releases it, and also when the server loses the connection; then it goes to whoever asks next, and
the program that held it may not know. So a lock excludes the others only for as long as its
connection lives, and a release that was acknowledged is what tells that it did
(`Service.holder_of_released`).

Programs take part that follow two rules: they only name a connection that they were given, and they
release a lock once. What else they do, and what else the server keeps, does not matter: a service
that has such a table somewhere (`KeepsLocks`) is enough.

No program appears here.
-/

/-- The server's locks: who holds which, and the connections that are lost. -/
structure LockTable (κ : Type) where
  holder : κ → Option ℕ
  lost : List ℕ
  /-- The number of the next connection. -/
  next : ℕ
  holder_live : ∀ key conn, holder key = some conn → conn ∉ lost

/-- What a program asks of the locks. -/
inductive LockCall (κ : Type)
  | connect
  | tryLock (conn : ℕ) (key : κ)
  | unlock (conn : ℕ) (key : κ)

/-- What it is answered, where anything may fail. -/
abbrev LockCall.Answer {κ : Type} : LockCall κ → Type
  | connect => Except Unit ℕ
  | tryLock _ _ => Except Unit Bool
  | unlock _ _ => Except Unit Unit

namespace LockTable

variable {κ : Type} [DecidableEq κ] (t : LockTable κ) {conn conn' : ℕ} {key key' : κ}

/-- No lock is held. -/
def unlocked : LockTable κ where
  holder _ := none
  lost := []
  next := 0
  holder_live _ conn h := absurd h.symm (Option.some_ne_none conn)

def connect : LockTable κ :=
  { t with next := t.next + 1 }

def grant (conn : ℕ) (key : κ) (live : conn ∉ t.lost) : LockTable κ where
  holder := Function.update t.holder key (some conn)
  lost := t.lost
  next := t.next
  holder_live other conn' h := by
    by_cases hkey : other = key
    · subst hkey
      rw [Function.update_self, Option.some.injEq] at h
      exact h ▸ live
    · rw [Function.update_of_ne hkey] at h
      exact t.holder_live other conn' h

/-- Take a lock from a connection, if it has it. -/
def release (conn : ℕ) (key : κ) : LockTable κ where
  holder other := if other = key ∧ t.holder other = some conn then none else t.holder other
  lost := t.lost
  next := t.next
  holder_live other conn' h := by
    split at h
    · cases h
    · exact t.holder_live other conn' h

/-- The server drops a connection, with all its locks. -/
def lose (conn : ℕ) : LockTable κ where
  holder key := if t.holder key = some conn then none else t.holder key
  lost := conn :: t.lost
  next := t.next
  holder_live key conn' h := by
    split at h
    · cases h
    · next hother =>
      rw [List.mem_cons, not_or]
      refine ⟨?_, t.holder_live key conn' h⟩
      rintro rfl
      exact hother h

/-- What the server answers. A lock that is free may be refused, since others take locks too. -/
inductive Serve : LockTable κ → (call : LockCall κ) → call.Answer → LockTable κ → Prop
  | connected {t : LockTable κ} : Serve t .connect (.ok t.next) t.connect
  | granted {t : LockTable κ} {conn : ℕ} {key : κ} (live : conn ∉ t.lost)
      (free : t.holder key = none) :
      Serve t (.tryLock conn key) (.ok true) (t.grant conn key live)
  | refused {t : LockTable κ} {conn : ℕ} {key : κ} : Serve t (.tryLock conn key) (.ok false) t
  | released {t : LockTable κ} {conn : ℕ} {key : κ} (live : conn ∉ t.lost) :
      Serve t (.unlock conn key) (.ok ()) (t.release conn key)
  | connectFailed {t : LockTable κ} : Serve t .connect (.error ()) t
  | tryLockFailed {t : LockTable κ} {conn : ℕ} {key : κ} :
      Serve t (.tryLock conn key) (.error ()) t
  /-- The lock is granted, and the answer does not arrive. -/
  | unacknowledged {t : LockTable κ} {conn : ℕ} {key : κ} (live : conn ∉ t.lost)
      (free : t.holder key = none) :
      Serve t (.tryLock conn key) (.error ()) (t.grant conn key live)
  | unlockFailed {t : LockTable κ} {conn : ℕ} {key : κ} : Serve t (.unlock conn key) (.error ()) t

/-- What happens to the locks for other reasons: a connection is lost, or nothing. -/
inductive Disturb (t : LockTable κ) : LockTable κ → Prop
  | same : Disturb t t
  | lost (conn : ℕ) : Disturb t (t.lose conn)

variable {t} {t' : LockTable κ} {call : LockCall κ} {reply : call.Answer}

/-- A lost connection stays lost. -/
theorem Serve.lost (h : t.Serve call reply t') : t'.lost = t.lost := by
  cases h <;> rfl

omit [DecidableEq κ] in
theorem Disturb.mem_lost (h : t.Disturb t') (hlost : conn ∈ t.lost) : conn ∈ t'.lost := by
  cases h with
  | same => exact hlost
  | lost => exact List.mem_cons_of_mem _ hlost

theorem Serve.next_le (h : t.Serve call reply t') : t.next ≤ t'.next := by
  cases h with
  | connected => exact Nat.le_succ _
  | _ => exact Nat.le_refl _

omit [DecidableEq κ] in
theorem Disturb.next_eq (h : t.Disturb t') : t'.next = t.next := by
  cases h <;> rfl

omit [DecidableEq κ] in
/-- A held lock stays with its connection, unless the connection is lost. -/
theorem Disturb.holder (h : t.Disturb t') (hheld : t.holder key = some conn) :
    t'.holder key = some conn ∨ conn ∈ t'.lost := by
  cases h with
  | same => exact Or.inl hheld
  | lost other =>
    by_cases heq : conn = other
    · exact Or.inr (heq ▸ List.mem_cons_self)
    · have hother : t.holder key ≠ some other := by
        rw [hheld, ne_eq, Option.some.injEq]
        exact heq
      exact Or.inl ((if_neg hother).trans hheld)

/-- And no call takes it, but its own release. -/
theorem Serve.holder (h : t.Serve call reply t') (hheld : t.holder key = some conn)
    (hcall : call ≠ .unlock conn key) : t'.holder key = some conn := by
  have hkept : ∀ {other : ℕ} {key' : κ} (live : other ∉ t.lost), t.holder key' = none →
      (t.grant other key' live).holder key = some conn := by
    intro other key' live free
    have hne : key ≠ key' := by
      rintro rfl
      rw [free] at hheld
      cases hheld
    exact (Function.update_of_ne hne ..).trans hheld
  cases h with
  | granted live free => exact hkept live free
  | unacknowledged live free => exact hkept live free
  | @released other key' live =>
    have hother : ¬(key = key' ∧ t.holder key = some other) := by
      rintro ⟨rfl, hother⟩
      rw [hheld, Option.some.injEq] at hother
      exact hcall (hother ▸ rfl)
    exact (if_neg hother).trans hheld
  | connected | refused | connectFailed | tryLockFailed | unlockFailed => exact hheld

/-- An acknowledged release tells that the connection was not lost. -/
theorem Serve.live (h : t.Serve (.unlock conn key) (.ok ()) t') : conn ∉ t.lost := by
  cases h with
  | released live => exact live

end LockTable

/-! ### Programs that take locks -/

/-- A lock call with its answer. -/
abbrev LockAnswered (κ : Type) := Answered (@LockCall.Answer κ)

/-- The program was given the connection. -/
def Connected {κ : Type} (locks : List (LockAnswered κ)) (conn : ℕ) : Prop :=
  ⟨.connect, .ok conn⟩ ∈ locks

/-- The program was granted the lock on the connection. -/
def Granted {κ : Type} (locks : List (LockAnswered κ)) (conn : ℕ) (key : κ) : Prop :=
  ⟨.tryLock conn key, .ok true⟩ ∈ locks

/-- The program has asked for the release of the lock. -/
def AskedRelease {κ : Type} (locks : List (LockAnswered κ)) (conn : ℕ) (key : κ) : Prop :=
  ∃ reply, ⟨.unlock conn key, reply⟩ ∈ locks

/-- The program holds the lock, as far as it knows. -/
def Holds {κ : Type} (locks : List (LockAnswered κ)) (conn : ℕ) (key : κ) : Prop :=
  Granted locks conn key ∧ ¬AskedRelease locks conn key

/-- A lock call that keeps to the rules: of a connection that the program was given, and a release
only once. -/
def LockCall.Fair {κ : Type} (locks : List (LockAnswered κ)) : LockCall κ → Prop
  | connect => True
  | tryLock conn _ => Connected locks conn
  | unlock conn key => Connected locks conn ∧ ¬AskedRelease locks conn key

namespace Service

open Move Program

variable {σ ι κ : Type} [DecidableEq κ] {answer : ι → Type} {ε α ρ : Type}
  {service : Service σ answer} {program : ρ → Program answer ε α} {init : σ → Prop}
  {s₀ s : Threads σ answer ε α} {moves : List (Move answer ρ)}

/-- Somewhere in its state the service keeps locks, which `asLock` calls are for. -/
structure KeepsLocks (service : Service σ answer) (table : σ → LockTable κ)
    (asLock : Answered answer → Option (LockAnswered κ)) : Prop where
  locks : ∀ {shared shared' : σ} (call : Answered answer) {lock : LockAnswered κ},
    service.serve shared call.1 call.2 shared' → asLock call = some lock →
      (table shared).Serve lock.1 lock.2 (table shared')
  others : ∀ {shared shared' : σ} (call : Answered answer),
    service.serve shared call.1 call.2 shared' → asLock call = none →
      table shared' = table shared
  disturb : ∀ {shared shared' : σ}, service.disturb shared shared' →
    (table shared).Disturb (table shared')

variable {table : σ → LockTable κ} {asLock : Answered answer → Option (LockAnswered κ)}

/-- The lock calls of a thread, in order. -/
def locksOf (asLock : Answered answer → Option (LockAnswered κ)) (thread : ℕ)
    (moves : List (Move answer ρ)) : List (LockAnswered κ) :=
  (callsOf thread moves).filterMap asLock

/-- What the promises `A` of programs say of their lock calls. -/
def FairLocks (asLock : Answered answer → Option (LockAnswered κ))
    (A : ρ → List (Answered answer) → ι → Prop) : Prop :=
  ∀ job past request reply lock, A job past request → asLock ⟨request, reply⟩ = some lock →
    lock.1.Fair (past.filterMap asLock)

omit [DecidableEq κ] in
theorem locksOf_serve (thread other : ℕ) (call : Answered answer) :
    locksOf asLock thread (moves ++ [.serve other call]) =
      locksOf asLock thread moves ++ if other = thread then (asLock call).toList else [] := by
  rw [locksOf, callsOf_snoc, List.filterMap_append, servedFor?]
  congr 1
  split
  · cases h : asLock call <;> simp [h]
  · rfl

omit [DecidableEq κ] in
theorem locksOf_of_not_serve {thread : ℕ} {move : Move answer ρ}
    (h : move.servedFor? thread = none) :
    locksOf asLock thread (moves ++ [move]) = locksOf asLock thread moves := by
  rw [locksOf, callsOf_snoc, h, Option.toList_none, List.append_nil]
  rfl

/-- **Who has which lock**: every connection was given to one thread, and what a thread holds as far
as it knows it does hold, unless its connection is lost. -/
structure LocksHold (asLock : Answered answer → Option (LockAnswered κ))
    (moves : List (Move answer ρ)) (t : LockTable κ) : Prop where
  connected_lt : ∀ thread conn, Connected (locksOf asLock thread moves) conn → conn < t.next
  connected_once : ∀ thread other conn, Connected (locksOf asLock thread moves) conn →
    Connected (locksOf asLock other moves) conn → thread = other
  holds_connected : ∀ thread conn key, Granted (locksOf asLock thread moves) conn key →
    Connected (locksOf asLock thread moves) conn
  holder : ∀ thread conn key, Holds (locksOf asLock thread moves) conn key →
    t.holder key = some conn ∨ conn ∈ t.lost

section Serve

variable {t t' : LockTable κ} {thread other : ℕ} {call : Answered answer} {lock : LockAnswered κ}

omit [DecidableEq κ] in
theorem mem_locksOf_serve (hcall : asLock call = some lock) {x : LockAnswered κ} :
    x ∈ locksOf asLock other (moves ++ [.serve thread call]) ↔
      x ∈ locksOf asLock other moves ∨ thread = other ∧ x = lock := by
  rw [locksOf_serve, List.mem_append, hcall]
  by_cases heq : thread = other
  · rw [if_pos heq, Option.toList_some, List.mem_singleton, and_iff_right heq]
  · rw [if_neg heq]
    exact or_congr_right ⟨fun h ↦ absurd h List.not_mem_nil, fun h ↦ absurd h.1 heq⟩

/-- A lock call keeps the table and the threads in step. -/
theorem LocksHold.serve (h : LocksHold asLock moves t) (hcall : asLock call = some lock)
    (hserve : t.Serve lock.1 lock.2 t') (hfair : lock.1.Fair (locksOf asLock thread moves)) :
    LocksHold asLock (moves ++ [.serve thread call]) t' where
  connected_lt other conn hconnected := by
    rcases (mem_locksOf_serve hcall).1 hconnected with hold | ⟨-, rfl⟩
    · exact Nat.lt_of_lt_of_le (h.connected_lt other conn hold) hserve.next_le
    · cases hserve
      exact Nat.lt_succ_self _
  connected_once first second conn hfirst hsecond := by
    have hnew : ⟨.connect, .ok conn⟩ = lock → ∀ other,
        ¬Connected (locksOf asLock other moves) conn := by
      rintro rfl other hconnected
      cases hserve
      exact Nat.lt_irrefl _ (h.connected_lt other _ hconnected)
    rcases (mem_locksOf_serve hcall).1 hfirst with hold | ⟨rfl, heq⟩
    · rcases (mem_locksOf_serve hcall).1 hsecond with hold' | ⟨-, heq⟩
      · exact h.connected_once first second conn hold hold'
      · exact absurd hold (hnew heq first)
    · rcases (mem_locksOf_serve hcall).1 hsecond with hold | ⟨rfl, -⟩
      · exact absurd hold (hnew heq second)
      · rfl
  holds_connected other conn key hgranted := by
    refine (mem_locksOf_serve hcall).2 (Or.inl ?_)
    rcases (mem_locksOf_serve hcall).1 hgranted with hold | ⟨rfl, rfl⟩
    · exact h.holds_connected other conn key hold
    · exact hfair
  holder other conn key hholds := by
    obtain ⟨hgranted, hnot⟩ := hholds
    rcases (mem_locksOf_serve hcall).1 hgranted with hold | ⟨rfl, rfl⟩
    · have hbefore : Holds (locksOf asLock other moves) conn key := by
        refine ⟨hold, ?_⟩
        rintro ⟨reply, hmem⟩
        exact hnot ⟨reply, (mem_locksOf_serve hcall).2 (Or.inl hmem)⟩
      rcases h.holder other conn key hbefore with hheld | hlost
      · refine Or.inl (hserve.holder hheld fun hunlock ↦ ?_)
        -- Only the thread that was given the connection releases its lock.
        obtain ⟨request, reply⟩ := lock
        obtain rfl : request = .unlock conn key := hunlock
        obtain rfl := h.connected_once thread other conn hfair.1
          (h.holds_connected other conn key hold)
        exact hnot ⟨reply, (mem_locksOf_serve hcall).2 (Or.inr ⟨rfl, rfl⟩)⟩
      · exact Or.inr (hserve.lost ▸ hlost)
    · cases hserve
      exact Or.inl (Function.update_self ..)

end Serve

omit [DecidableEq κ] in
theorem LocksHold.congr {later : List (Move answer ρ)} {t : LockTable κ}
    (h : LocksHold asLock moves t)
    (hlocks : ∀ thread, locksOf asLock thread later = locksOf asLock thread moves) :
    LocksHold asLock later t := by
  refine ⟨fun thread conn ↦ ?_, fun thread other conn ↦ ?_, fun thread conn key ↦ ?_,
    fun thread conn key ↦ ?_⟩
  · rw [hlocks]
    exact h.connected_lt thread conn
  · rw [hlocks, hlocks]
    exact h.connected_once thread other conn
  · rw [hlocks]
    exact h.holds_connected thread conn key
  · rw [hlocks]
    exact h.holder thread conn key

omit [DecidableEq κ] in
theorem LocksHold.disturb {t t' : LockTable κ} (h : LocksHold asLock moves t)
    (hdisturb : t.Disturb t') : LocksHold asLock moves t' where
  connected_lt thread conn hconnected := hdisturb.next_eq ▸ h.connected_lt thread conn hconnected
  connected_once := h.connected_once
  holds_connected := h.holds_connected
  holder thread conn key hholds := by
    rcases h.holder thread conn key hholds with hheld | hlost
    · exact hdisturb.holder hheld
    · exact Or.inr (hdisturb.mem_lost hlost)

section Runs

variable {A : ρ → List (Answered answer) → ι → Prop}
  {Q : ρ → List (Answered answer) → Except ε α → Prop}

/-- **What a thread holds as far as it knows, it holds**, in every interleaving, unless its
connection is lost. -/
theorem locksHold_of_run (hkeeps : KeepsLocks service table asLock) (hfair : FairLocks asLock A)
    (hinit : (interleaved service program init).init s₀)
    (hsafe : ∀ job, Safe (A job) (Q job) [] (program job))
    (hrun : (interleaved service program init).Run s₀ moves s) :
    LocksHold asLock moves (table s.shared) := by
  refine allowed_tracked (I := fun moves shared ↦ LocksHold asLock moves (table shared))
    hinit hsafe ?_ ?_ ?_ ?_ hrun
  · exact ⟨fun _ _ h ↦ absurd h List.not_mem_nil, fun _ _ _ h ↦ absurd h List.not_mem_nil,
      fun _ _ _ h ↦ absurd h List.not_mem_nil, fun _ _ _ h ↦ absurd h.1 List.not_mem_nil⟩
  · exact fun moves shared thread job _ _ h ↦
      h.congr fun other ↦ locksOf_of_not_serve rfl
  · intro moves t shared' thread job request reply _ _ hallowed hserved h
    cases hcall : asLock ⟨request, reply⟩ with
    | none =>
      rw [hkeeps.others ⟨request, reply⟩ hserved hcall]
      refine h.congr fun other ↦ ?_
      rw [locksOf_serve, hcall, Option.toList_none, ite_self, List.append_nil]
    | some lock =>
      exact h.serve hcall (hkeeps.locks ⟨request, reply⟩ hserved hcall)
        (hfair job _ request reply lock hallowed hcall)
  · exact fun moves shared shared' hdisturb h ↦
      (h.disturb (hkeeps.disturb hdisturb)).congr fun other ↦ locksOf_of_not_serve rfl

/-- A connection that is lost stays lost. -/
theorem lost_of_run (hkeeps : KeepsLocks service table asLock) {conn : ℕ}
    (hrun : (interleaved service program init).Run s₀ moves s)
    (hlost : conn ∈ (table s₀.shared).lost) : conn ∈ (table s.shared).lost := by
  refine shared_tracked (I := fun _ shared ↦ conn ∈ (table shared).lost) hlost
    (fun _ _ _ _ h ↦ h) ?_ (fun _ _ _ h hdisturb ↦ (hkeeps.disturb hdisturb).mem_lost h) hrun
  intro moves shared shared' thread call h hserved
  cases hcall : asLock call with
  | none => exact hkeeps.others call hserved hcall ▸ h
  | some lock => exact (hkeeps.locks call hserved hcall).lost ▸ h

omit [DecidableEq κ] in
/-- **Two threads that hold one lock, as far as they know**: one of the connections is lost. -/
theorem LocksHold.exclusive {t : LockTable κ} (h : LocksHold asLock moves t)
    {thread other conn conn' : ℕ} {key : κ}
    (hholds : Holds (locksOf asLock thread moves) conn key)
    (hholds' : Holds (locksOf asLock other moves) conn' key) :
    thread = other ∨ conn ∈ t.lost ∨ conn' ∈ t.lost := by
  rcases h.holder thread conn key hholds with hheld | hlost
  · rcases h.holder other conn' key hholds' with hheld' | hlost'
    · obtain rfl : conn = conn' := Option.some.inj (hheld.symm.trans hheld')
      exact Or.inl (h.connected_once thread other conn
        (h.holds_connected _ _ _ hholds.1) (h.holds_connected _ _ _ hholds'.1))
    · exact Or.inr (Or.inr hlost')
  · exact Or.inr (Or.inl hlost)

/-- **A lock whose release was acknowledged was held all the time**, from its grant on. -/
theorem holder_of_released (hkeeps : KeepsLocks service table asLock)
    (hfair : FairLocks asLock A) (hinit : (interleaved service program init).init s₀)
    (hsafe : ∀ job, Safe (A job) (Q job) [] (program job))
    {before between after : List (Move answer ρ)} {thread conn : ℕ} {key : κ}
    {unlock : Answered answer} {t : Threads σ answer ε α}
    (hunlock : asLock unlock = some ⟨.unlock conn key, .ok ()⟩)
    (hbefore : (interleaved service program init).Run s₀ before t)
    (hafter : (interleaved service program init).Run t
      (between ++ .serve thread unlock :: after) s)
    (hgranted : Granted (locksOf asLock thread before) conn key) :
    (table t.shared).holder key = some conn ∧ conn ∉ (table t.shared).lost ∧
      Holds (locksOf asLock thread before) conn key := by
  obtain ⟨u, u', hbetween, hserved, -⟩ := exists_serve hafter
  have hlive : conn ∉ (table u.shared).lost := (hkeeps.locks unlock hserved hunlock).live
  have hlive' : conn ∉ (table t.shared).lost := fun hlost ↦
    hlive (lost_of_run hkeeps hbetween hlost)
  -- The release was the thread's first.
  have hholds : Holds (locksOf asLock thread before) conn key := by
    have hwhole := hbefore.trans hafter
    rw [← List.append_assoc] at hwhole
    obtain ⟨job, -, hallowed⟩ := served_allowed hinit hsafe hwhole
    refine ⟨hgranted, ?_⟩
    rintro ⟨reply, hmem⟩
    refine (hfair job _ _ _ _ hallowed hunlock).2 ⟨reply, ?_⟩
    rw [callsOf_append, List.filterMap_append]
    exact List.mem_append_left _ hmem
  rcases (locksHold_of_run hkeeps hfair hinit hsafe hbefore).holder thread conn key hholds
    with hheld | hlost
  · exact ⟨hheld, hlive', hholds⟩
  · exact absurd hlost hlive'

end Runs

end Service
