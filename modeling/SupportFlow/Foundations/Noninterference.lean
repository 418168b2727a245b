import SupportFlow.Foundations.Python
import SupportFlow.Foundations.TransitionSystem

/-!
# Noninterference

A property of two runs at once, for programs over a state that several parties share.

For one call, two computations are compared (`Except.Related`): they raise the same, or return
values in a given relation. `Related.bind` is the rule of sequence, as for any relational program
logic. The relation used for calls that write is `Twin`: the two states afterwards still agree on
what the caller may see, and each differs from its own state before in nothing that belongs to
others.

For whole runs, a system whose labels carry an owner is `Separated` when a party's step does the
same in any two states that agree for it, and is invisible to everyone else. Then a party's labels,
with the answers in them, are the same in any two runs in which it asks for the same
(`Separated.labels_eq`), whatever the others do in each.
-/

universe u v w

/-! ### Two computations -/

section Related

variable {ε ε' α β γ δ : Type u} {R : α → β → Prop} {S : γ → δ → Prop}

/-- Two computations raise the same, or return related values. -/
def Except.Related (R : α → β → Prop) : Except ε α → Except ε β → Prop
  | .ok a, .ok b => R a b
  | .error e, .error e' => e = e'
  | .ok _, .error _ | .error _, .ok _ => False

namespace Except.Related

variable {x : Except ε α} {y : Except ε β}

theorem mono {R' : α → β → Prop} (h : Related R x y) (hR : ∀ a b, R a b → R' a b) :
    Related R' x y := by
  rcases x with e | a <;> rcases y with e' | b
  · exact h
  · exact h
  · exact h
  · exact hR a b h

/-- The rule of sequence. -/
theorem bind {f : α → Except ε γ} {g : β → Except ε δ} (h : Related R x y)
    (hfg : ∀ a b, R a b → Related S (f a) (g b)) : Related S (x >>= f) (y >>= g) := by
  rcases x with e | a <;> rcases y with e' | b
  · exact h
  · exact h.elim
  · exact h.elim
  · exact hfg a b h

/-- A computation that both begin with, when it writes nothing. -/
theorem bind_same {z : Except ε α} {f : α → Except ε γ} {g : α → Except ε δ}
    (hfg : ∀ a, z = .ok a → Related S (f a) (g a)) : Related S (z >>= f) (z >>= g) := by
  rcases z with e | a
  · exact rfl
  · exact hfg a rfl

end Except.Related

end Related

/-- Two steps next to each other, from `s` to `s'` and from `t` to `t'`: the states they end in
still agree (`own`), and neither touched what is not the caller's (`kept`). -/
structure Twin {σ : Type u} (own kept : σ → σ → Prop) (s t s' t' : σ) : Prop where
  own : own s' t'
  left : kept s s'
  right : kept t t'

theorem Twin.trans {σ : Type u} {own kept : σ → σ → Prop} {s t s' t' s'' t'' : σ}
    (hkept : ∀ a b c, kept a b → kept b c → kept a c) (h : Twin own kept s t s' t')
    (h' : Twin own kept s' t' s'' t'') : Twin own kept s t s'' t'' :=
  ⟨h'.own, hkept _ _ _ h.left h'.left, hkept _ _ _ h.right h'.right⟩

/-! ### Whole runs -/

/-- The last item that passes a test stands before items that do not. -/
theorem List.exists_of_filter_eq_snoc {ι : Type u} {p : ι → Bool} {ls ms : List ι} {l : ι}
    (h : ls.filter p = ms ++ [l]) :
    ∃ ls₁ ls₂, ls = ls₁ ++ l :: ls₂ ∧ ls₁.filter p = ms ∧ p l = true ∧ ∀ x ∈ ls₂, ¬p x := by
  obtain ⟨as, bs, rfl, has, hbs⟩ := List.filter_eq_append_iff.1 h
  obtain ⟨cs, ds, rfl, hcs, hl, hds⟩ := List.filter_eq_cons_iff.1 hbs
  refine ⟨as ++ cs, ds, (List.append_assoc _ _ _).symm, ?_, hl, List.filter_eq_nil_iff.1 hds⟩
  rw [List.filter_append, has, List.filter_eq_nil_iff.2 hcs, List.append_nil]

namespace TransitionSystem

variable {σ : Type u} {ι : Type v} {κ : Type w} {ρ : Type*}

/-- A system of parties. A label has an owner and, in it, what its owner asked for; `agree d` says
that two states agree on all that concerns `d`. -/
structure Separated (M : TransitionSystem σ ι) (owner : ι → κ) (request : ι → ρ)
    (agree : κ → σ → σ → Prop) : Prop where
  symm : ∀ {d s t}, agree d s t → agree d t s
  trans : ∀ {d s t u}, agree d s t → agree d t u → agree d s u
  /-- The same request has the same label in states that agree for its owner. -/
  own : ∀ {s t s' t' : σ} {l m : ι}, M.Reachable s → M.Reachable t → agree (owner l) s t →
    M.step s l s' → M.step t m t' → owner m = owner l → request m = request l →
      m = l ∧ agree (owner l) s' t'
  /-- What a party does is invisible to the others. -/
  hidden : ∀ {s s' : σ} {l : ι} {d : κ}, M.Reachable s → M.step s l s' → owner l ≠ d → agree d s s'

namespace Separated

variable {M : TransitionSystem σ ι} {owner : ι → κ} {request : ι → ρ}
  {agree : κ → σ → σ → Prop}

/-- A run of others is invisible. -/
theorem agree_of_others (h : Separated M owner request agree) {d : κ} {r s t : σ} {ls : List ι}
    (hrun : M.Run s ls t) (hs : M.Reachable s) (hr : agree d r s)
    (hothers : ∀ l ∈ ls, owner l ≠ d) : agree d r t := by
  induction hrun with
  | nil => exact hr
  | @snoc t u ls l hrun hstep ih =>
    have ht := ih fun x hx ↦ hothers x (List.mem_append_left [l] hx)
    exact h.trans ht (h.hidden (hs.run hrun) hstep
      (hothers l (List.mem_append_right ls (List.mem_singleton_self l))))

variable [DecidableEq κ]

/-- **Noninterference**: in two runs from states that agree for a party, in which it asks for the
same things in the same order, its labels are the same, and the last states agree for it. -/
theorem labels_eq (h : Separated M owner request agree) {d : κ} {s₀ s t₀ t : σ} {ls ms : List ι}
    (hrun : M.Run s₀ ls s) (hrun' : M.Run t₀ ms t) (hs : M.Reachable s₀) (ht : M.Reachable t₀)
    (hagree : agree d s₀ t₀)
    (hrequests : (ms.filter (owner · = d)).map request = (ls.filter (owner · = d)).map request) :
    ms.filter (owner · = d) = ls.filter (owner · = d) ∧ agree d s t := by
  induction hrun generalizing ms t with
  | nil =>
    have hothers : ∀ m ∈ ms, owner m ≠ d := by
      simpa [List.filter_eq_nil_iff] using hrequests
    have hnil : ms.filter (owner · = d) = [] := by
      simpa [List.filter_eq_nil_iff] using hothers
    exact ⟨hnil, h.agree_of_others hrun' ht hagree hothers⟩
  | @snoc s s' ls l hrun hstep ih =>
    have hreach := hs.run hrun
    by_cases hl : owner l = d
    · subst hl
      -- The other run has a step for the same request, and after it only steps of others.
      rw [List.filter_append, List.filter_singleton, decide_eq_true rfl, cond_true, List.map_append,
        List.map_singleton] at hrequests
      obtain ⟨ms', m', hms, hms', hm'⟩ := List.map_eq_append_iff.1 hrequests
      obtain ⟨m, rfl, hrequest⟩ : ∃ m, m' = [m] ∧ request m = request l := by
        rcases m' with - | ⟨m, - | ⟨m₂, m'⟩⟩
        · simp at hm'
        · exact ⟨m, rfl, by simpa using hm'⟩
        · simp at hm'
      obtain ⟨ms₁, ms₂, rfl, rfl, hm, hothers⟩ := List.exists_of_filter_eq_snoc hms
      obtain ⟨a, hfirst, hrest⟩ := hrun'.exists_of_append
      obtain ⟨b, hmid, hlast⟩ := Run.exists_of_append (show M.Run a ([m] ++ ms₂) t from hrest)
      obtain ⟨hlabels, hsa⟩ := ih hfirst hms'
      have ha := ht.run hfirst
      obtain ⟨rfl, hsb⟩ := h.own hreach ha hsa hstep hmid.step_of_singleton
        (of_decide_eq_true hm) hrequest
      refine ⟨?_, h.agree_of_others hlast (ha.run hmid) hsb fun x hx ↦ ?_⟩
      · rw [hms, hlabels, List.filter_append, List.filter_singleton, decide_eq_true rfl, cond_true]
      · simpa using hothers x hx
    · have hfilter : (ls ++ [l]).filter (owner · = d) = ls.filter (owner · = d) := by
        rw [List.filter_append, List.filter_singleton, decide_eq_false hl, cond_false,
          List.append_nil]
      rw [hfilter] at hrequests ⊢
      obtain ⟨hlabels, hst⟩ := ih hrun' hrequests
      exact ⟨hlabels, h.trans (h.symm (h.hidden hreach hstep hl)) hst⟩

end Separated

end TransitionSystem
