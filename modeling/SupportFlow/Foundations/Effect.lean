import Mathlib.Control.Basic

/-!
# Computations with effects

A function that changes something outside itself and may raise: `Effect ε σ α` runs on a state of
type `σ` and leaves one whether it returns an `α` or raises an `ε`, so what was done before an
exception stays done. It is the exception transformer over the state monad; `throw`,
`try … catch` and `try … finally` are the standard ones, and `exec` runs it.

## Specifications

`Spec P x Q E` is a triple with two postconditions: from a state with `P`, the computation ends in
`Q` when it returns and in `E` when it raises. There is one rule for each way of building a
computation. `Spec.forM_` is the rule of a loop over a list: its invariant speaks of the items
already done.
-/

/-- A computation on states of type `σ` that returns an `α` or raises an `ε`. -/
abbrev Effect (ε σ α : Type) :=
  ExceptT ε (StateM σ) α

namespace Effect

variable {ε σ α β : Type}

/-- Run a computation. -/
def exec (x : Effect ε σ α) (s : σ) : Except ε α × σ :=
  x.run.run s

/-- Change the state. -/
def update (f : σ → σ) : Effect ε σ Unit :=
  modify f

/-- `if p: raise e`. -/
def raiseWhen (p : Prop) [Decidable p] (e : ε) : Effect ε σ Unit :=
  if p then throw e else pure ()

/-- `try x finally cleanup`, with a cleanup that raises nothing. -/
def ensuring (x : Effect ε σ α) (cleanup : σ → σ) : Effect ε σ α := do
  let a ← tryCatch x fun e ↦ do
    update cleanup
    throw e
  update cleanup
  return a

/-- `try x finally cleanup`, with a cleanup that may raise itself. -/
def andFinally (x : Effect ε σ α) (cleanup : Effect ε σ Unit) : Effect ε σ α := do
  let a ← tryCatch x fun e ↦ do
    cleanup
    throw e
  cleanup
  return a

/-- The same computation under another type of exceptions. -/
def mapError {ε' : Type} (f : ε → ε') (x : Effect ε σ α) : Effect ε' σ α :=
  ExceptT.adapt f x

/-- A computation on a part of the state. -/
def zoom {τ : Type} (part : σ → τ) (put : τ → σ → σ) (x : Effect ε τ α) : Effect ε σ α :=
  ExceptT.mk fun s ↦ ((x.exec (part s)).1, put (x.exec (part s)).2 s)

variable (s : σ)

@[simp]
theorem exec_pure (a : α) : (pure a : Effect ε σ α).exec s = (.ok a, s) := rfl

@[simp]
theorem exec_throw (e : ε) : (throw e : Effect ε σ α).exec s = (.error e, s) := rfl

@[simp]
theorem exec_get : (get : Effect ε σ σ).exec s = (.ok s, s) := rfl

@[simp]
theorem exec_update (f : σ → σ) : (update f : Effect ε σ Unit).exec s = (.ok (), f s) := rfl

theorem exec_raiseWhen (p : Prop) [Decidable p] (e : ε) :
    (raiseWhen p e : Effect ε σ Unit).exec s = if p then (.error e, s) else (.ok (), s) := by
  unfold raiseWhen
  split <;> rfl

/-- A computation without effects leaves the state as it is. -/
@[simp]
theorem exec_ofExcept (x : Except ε α) :
    (MonadExcept.ofExcept x : Effect ε σ α).exec s = (x, s) := by
  cases x <;> rfl

/-- A sequence runs the rest on the state the first part leaves, unless that part raises. -/
theorem exec_bind (x : Effect ε σ α) (f : α → Effect ε σ β) :
    (x >>= f).exec s =
      match x.exec s with
      | (.ok a, s') => (f a).exec s'
      | (.error e, s') => (.error e, s') := by
  simp only [exec, ExceptT.run_bind, StateT.run_bind]
  show (match x.run.run s with | (r, s') => _) = _
  rcases x.run.run s with ⟨e | a, s'⟩ <;> rfl

@[simp]
theorem exec_update_bind (g : σ → σ) (f : Unit → Effect ε σ β) :
    (update g >>= f).exec s = (f ()).exec (g s) := rfl

theorem exec_ofExcept_bind (x : Except ε α) (f : α → Effect ε σ β) :
    ((MonadExcept.ofExcept x : Effect ε σ α) >>= f).exec s =
      match x with
      | .ok a => (f a).exec s
      | .error e => (.error e, s) := by
  cases x <;> rfl

/-- A computation without effects is a part of the result alone. -/
theorem fst_exec_ofExcept_bind (x : Except ε α) (f : α → Effect ε σ β) :
    (((MonadExcept.ofExcept x : Effect ε σ α) >>= f).exec s).1 =
      x >>= fun a ↦ ((f a).exec s).1 := by
  cases x <;> rfl

/-- A check that raises ends the sequence. -/
theorem exec_raiseWhen_bind (p : Prop) [Decidable p] (e : ε) (f : Unit → Effect ε σ β) :
    (raiseWhen p e >>= f).exec s = if p then (.error e, s) else (f ()).exec s := by
  unfold raiseWhen
  split <;> rfl

@[simp]
theorem exec_map (f : α → β) (x : Effect ε σ α) :
    (f <$> x).exec s = ((x.exec s).1.map f, (x.exec s).2) := by
  rw [← bind_pure_comp, exec_bind]
  rcases x.exec s with ⟨e | a, s'⟩ <;> rfl

/-- A handler runs on the state the exception left. -/
theorem exec_tryCatch (x : Effect ε σ α) (handle : ε → Effect ε σ α) :
    (tryCatch x handle).exec s =
      match x.exec s with
      | (.ok a, s') => (.ok a, s')
      | (.error e, s') => (handle e).exec s' := by
  have hrun : (tryCatch x handle).run =
      x.run >>= fun
        | .ok a => pure (.ok a)
        | .error e => (handle e).run := rfl
  simp only [exec, hrun, StateT.run_bind]
  show (match x.run.run s with | (r, s') => _) = _
  rcases x.run.run s with ⟨e | a, s'⟩ <;> rfl

/-- The cleanup runs on either way out. -/
theorem exec_ensuring (x : Effect ε σ α) (cleanup : σ → σ) :
    (x.ensuring cleanup).exec s = ((x.exec s).1, cleanup (x.exec s).2) := by
  simp only [ensuring, exec_bind, exec_tryCatch]
  rcases x.exec s with ⟨e | a, s'⟩
  · simp only [exec_update, exec_throw]
  · simp only [exec_update, exec_pure]

@[simp]
theorem exec_zoom {τ : Type} (part : σ → τ) (put : τ → σ → σ) (x : Effect ε τ α) :
    (x.zoom part put).exec s = ((x.exec (part s)).1, put (x.exec (part s)).2 s) := rfl

/-! ### Specifications -/

/-- **A specification**: from a state with `P`, the computation ends in `Q` when it returns and in
`E` when it raises. -/
def Spec (P : σ → Prop) (x : Effect ε σ α) (Q : α → σ → Prop) (E : ε → σ → Prop) : Prop :=
  ∀ s, P s → match x.exec s with
    | (.ok a, s') => Q a s'
    | (.error e, s') => E e s'

namespace Spec

variable {P P' : σ → Prop} {x : Effect ε σ α} {Q Q' : α → σ → Prop} {E E' : ε → σ → Prop}
  {s s' : σ}

theorem of_ok (h : Spec P x Q E) (hs : P s) {a : α} (hx : x.exec s = (.ok a, s')) : Q a s' := by
  have hpost := h s hs
  rwa [hx] at hpost

theorem of_error (h : Spec P x Q E) (hs : P s) {e : ε} (hx : x.exec s = (.error e, s')) :
    E e s' := by
  have hpost := h s hs
  rwa [hx] at hpost

/-- The rule of consequence. -/
theorem mono (h : Spec P x Q E) (hP : ∀ s, P' s → P s) (hQ : ∀ a s, Q a s → Q' a s)
    (hE : ∀ e s, E e s → E' e s) : Spec P' x Q' E' := by
  intro s hs
  have hpost := h s (hP s hs)
  rcases hx : x.exec s with ⟨e | a, s'⟩
  · rw [hx] at hpost
    exact hE e s' hpost
  · rw [hx] at hpost
    exact hQ a s' hpost

/-- A fact that does not depend on the state may be assumed. -/
theorem assume {φ : Prop} (h : φ → Spec P x Q E) : Spec (fun s ↦ P s ∧ φ) x Q E :=
  fun s hs ↦ h hs.2 s hs.1

protected theorem pure {a : α} (h : ∀ s, P s → Q a s) : Spec P (pure a) Q E :=
  h

protected theorem throw {e : ε} (h : ∀ s, P s → E e s) : Spec P (throw e : Effect ε σ α) Q E :=
  h

protected theorem update {f : σ → σ} {Q : Unit → σ → Prop} (h : ∀ s, P s → Q () (f s)) :
    Spec P (update f) Q E :=
  h

protected theorem raiseWhen {p : Prop} [Decidable p] {e : ε} {Q : Unit → σ → Prop}
    (hraise : p → ∀ s, P s → E e s) (hpass : ¬p → ∀ s, P s → Q () s) :
    Spec P (raiseWhen p e) Q E := by
  unfold raiseWhen
  split
  · next hp => exact hraise hp
  · next hp => exact hpass hp

/-- Reading the state. -/
protected theorem get {Q : σ → σ → Prop} (h : ∀ s, P s → Q s s) :
    Spec P (get : Effect ε σ σ) Q E :=
  h

/-- On a part of the state: what holds of all the states that agree outside it stays so. -/
protected theorem zoom {τ : Type} {part : σ → τ} {put : τ → σ → σ} {x : Effect ε τ α}
    {P : σ → Prop} (h : ∀ s t, P s → P (put t s)) :
    Spec P (x.zoom part put) (fun _ ↦ P) fun _ ↦ P := by
  intro s hs
  rw [exec_zoom]
  rcases x.exec (part s) with ⟨e | a, t⟩
  · exact h s t hs
  · exact h s t hs

/-- A handler starts from what the exception left. -/
protected theorem tryCatch {handle : ε → Effect ε σ α} {E' : ε → σ → Prop} (hx : Spec P x Q E)
    (hhandle : ∀ e, Spec (E e) (handle e) Q E') : Spec P (tryCatch x handle) Q E' := by
  intro s hs
  rw [exec_tryCatch]
  rcases h : x.exec s with ⟨e | a, s'⟩
  · exact hhandle e s' (hx.of_error hs h)
  · exact hx.of_ok hs h

/-- The rule of sequences. -/
protected theorem bind {f : α → Effect ε σ β} {R : β → σ → Prop} (hx : Spec P x Q E)
    (hf : ∀ a, Spec (Q a) (f a) R E) : Spec P (x >>= f) R E := by
  intro s hs
  rw [exec_bind]
  rcases h : x.exec s with ⟨e | a, s'⟩
  · exact hx.of_error hs h
  · exact hf a s' (hx.of_ok hs h)

/-- The rule of loops over a list: `I done` holds once the items of `done` are done. -/
protected theorem forM_ {items : List β} {body : β → Effect ε σ PUnit} {I : List β → σ → Prop}
    (hbody : ∀ done item, (done ++ [item]) <+: items →
      Spec (I done) (body item) (fun _ ↦ I (done ++ [item])) E) :
    Spec (I []) (forM items body) (fun _ ↦ I items) E := by
  suffices h : ∀ done rest, done ++ rest = items →
      Spec (I done) (forM rest body) (fun _ ↦ I items) E from h [] items rfl
  intro done rest
  induction rest generalizing done with
  | nil =>
    intro hitems
    rw [List.append_nil] at hitems
    exact hitems ▸ Spec.pure fun _ hs ↦ hs
  | cons item rest ih =>
    intro hitems
    have hsplit : (done ++ [item]) ++ rest = items := by rw [List.append_assoc]; exact hitems
    exact (hbody done item ⟨rest, hsplit⟩).bind fun _ ↦ ih (done ++ [item]) hsplit

end Spec

end Effect
