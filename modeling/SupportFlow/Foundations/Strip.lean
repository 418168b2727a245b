import Mathlib.Data.List.DropRight

/-!
# Stripping both ends

A list without the items at its ends that satisfy a predicate: what stripping a text does, whatever
is stripped. There is nothing to strip exactly where neither end satisfies it (`strip_eq_self_iff`),
which is so of what was stripped (`endsFree_strip`).
-/

namespace List

variable {α : Type*} {p : α → Bool} {l : List α}

/-- Neither end of a list satisfies a predicate. -/
def EndsFree (p : α → Bool) (l : List α) : Prop :=
  (∀ a ∈ l.head?, p a = false) ∧ ∀ a ∈ l.getLast?, p a = false

theorem strip_infix (p : α → Bool) (l : List α) : (l.dropWhile p).rdropWhile p <:+: l :=
  (List.rdropWhile_prefix p _).isInfix.trans (dropWhile_suffix p).isInfix

/-- What was stripped has nothing to strip at its ends. -/
theorem endsFree_strip (p : α → Bool) (l : List α) :
    ((l.dropWhile p).rdropWhile p).EndsFree p := by
  constructor
  · intro a ha
    -- A beginning of `l.dropWhile p` starts as it does.
    obtain ⟨tail, htail⟩ := head?_eq_some_iff.1 ha
    obtain ⟨rest, hrest⟩ := List.rdropWhile_prefix p (l.dropWhile p)
    have hnot := head?_dropWhile_not p l
    rw [← hrest, htail, cons_append, head?_cons] at hnot
    exact hnot
  · intro a ha
    obtain ⟨hne, rfl⟩ := mem_getLast?_eq_getLast ha
    exact eq_false_of_ne_true (rdropWhile_last_not p _ hne)

/-- **Nothing is stripped of a list whose ends are free**, and of no other. -/
theorem strip_eq_self_iff : (l.dropWhile p).rdropWhile p = l ↔ l.EndsFree p := by
  constructor
  · intro h
    rw [← h]
    exact endsFree_strip p l
  · rintro ⟨hhead, hlast⟩
    have hleft : l.dropWhile p = l := dropWhile_eq_self_iff.2 fun hpos ↦ by
      rw [hhead _ (head?_eq_getElem?.trans (getElem?_eq_getElem hpos))]
      exact Bool.false_ne_true
    have hright : l.rdropWhile p = l := rdropWhile_eq_self_iff.2 fun hne ↦ by
      rw [hlast _ (getLast?_eq_some_getLast hne)]
      exact Bool.false_ne_true
    rw [hleft, hright]

theorem EndsFree.mono {q : α → Bool} (h : l.EndsFree p) (hq : ∀ a, q a = true → p a = true) :
    l.EndsFree q := by
  have hfree : ∀ a, p a = false → q a = false := fun a ha ↦
    eq_false_of_ne_true fun htrue ↦ Bool.false_ne_true (ha.symm.trans (hq a htrue))
  exact ⟨fun a ha ↦ hfree a (h.1 a ha), fun a ha ↦ hfree a (h.2 a ha)⟩

/-- A list none of whose items are to be stripped. -/
theorem endsFree_of_forall (h : ∀ a ∈ l, p a = false) : l.EndsFree p :=
  ⟨fun a ha ↦ h a (mem_of_mem_head? ha), fun a ha ↦ h a (mem_of_getLast? ha)⟩

end List
