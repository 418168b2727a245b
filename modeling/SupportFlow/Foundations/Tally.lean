import Mathlib.Algebra.BigOperators.Group.List.Lemmas
import Mathlib.Algebra.Ring.Nat
import Mathlib.Data.List.Nodup

/-!
# Tallies

A tally counts the pairs of a list in a table, with a row for each first component and a column for
each second one. Its cells count the pairs (`tally_eq_countP`), so that **a count of items is
conserved when it is split over the values of a key** (`sum_countP_key`): the rows, the columns, the
diagonal and the whole of the table count what they should, whatever order the items come in.
-/

namespace Python

universe u v w

section Keys

variable {γ : Type u} {δ : Type v} [DecidableEq δ] {keys : List δ} {key : γ → δ} {items : List γ}

/-- **Items are counted once**, each at the value of its key. -/
theorem sum_countP_key (hnodup : keys.Nodup) (hkeys : ∀ item ∈ items, key item ∈ keys)
    (p : γ → Bool) :
    (keys.map fun k ↦ items.countP fun item ↦ p item && key item = k).sum = items.countP p := by
  induction items with
  | nil => simp
  | cons item items ih =>
    obtain ⟨hitem, hitems⟩ := List.forall_mem_cons.1 hkeys
    simp only [List.countP_cons, List.sum_map_add, ih hitems, Nat.add_left_cancel_iff]
    -- The item itself is counted at its own key, if at all.
    rw [List.sum_map_eq_nsmul_single (key item) _ fun k hk _ ↦ by simp [Ne.symm hk],
      List.count_eq_one_of_mem hnodup hitem, one_nsmul]
    simp

end Keys

section Tally

variable {α : Type u} {β : Type v} [DecidableEq α] [DecidableEq β]

/-- One more at a place. -/
def bump (table : α → β → ℕ) (a : α) (b : β) : α → β → ℕ :=
  fun a' b' ↦ if a' = a ∧ b' = b then table a' b' + 1 else table a' b'

/-- The table of the pairs of items, counted one after the other. -/
def tally {γ : Type w} (row : γ → α) (column : γ → β) (items : List γ) : α → β → ℕ :=
  items.foldl (fun table item ↦ bump table (row item) (column item)) fun _ _ ↦ 0

variable {γ : Type w} {row : γ → α} {column : γ → β} {items : List γ}

/-- **A cell counts the items of its row and column.** -/
theorem tally_eq_countP (row : γ → α) (column : γ → β) (items : List γ) (a : α) (b : β) :
    tally row column items a b = items.countP fun item ↦ row item = a && column item = b := by
  have hfold : ∀ (items : List γ) (table : α → β → ℕ),
      items.foldl (fun table item ↦ bump table (row item) (column item)) table a b =
        table a b + items.countP fun item ↦ row item = a && column item = b := by
    intro items
    induction items with
    | nil => simp
    | cons item items ih =>
      intro table
      rw [List.foldl_cons, ih, List.countP_cons, bump]
      by_cases h : row item = a ∧ column item = b
      · rw [if_pos ⟨h.1.symm, h.2.symm⟩, if_pos (by simpa using h)]
        omega
      · rw [if_neg fun h' ↦ h ⟨h'.1.symm, h'.2.symm⟩, if_neg (by simpa using h)]
        omega
  rw [tally, hfold, Nat.zero_add]

variable {rows : List α} {columns : List β}

/-- A row counts its items. -/
theorem sum_row (hcolumns : columns.Nodup) (h : ∀ item ∈ items, column item ∈ columns) (a : α) :
    (columns.map (tally row column items a)).sum = items.countP fun item ↦ row item = a := by
  rw [← sum_countP_key hcolumns h]
  simp only [← tally_eq_countP]

/-- A column counts its items. -/
theorem sum_column (hrows : rows.Nodup) (h : ∀ item ∈ items, row item ∈ rows) (b : β) :
    (rows.map fun a ↦ tally row column items a b).sum =
      items.countP fun item ↦ column item = b := by
  rw [← sum_countP_key hrows h]
  simp only [tally_eq_countP, Bool.and_comm]

/-- The table counts all items. -/
theorem sum_tally (hrows : rows.Nodup) (h : ∀ item ∈ items, row item ∈ rows)
    (hcolumns : columns.Nodup) (h' : ∀ item ∈ items, column item ∈ columns) :
    (rows.map fun a ↦ (columns.map (tally row column items a)).sum).sum = items.length := by
  have hall := sum_countP_key hrows h fun _ ↦ true
  rw [List.countP_true] at hall
  simp only [sum_row hcolumns h', ← hall, Bool.true_and]

/-- A diagonal counts the items whose column is that of their row. -/
theorem sum_diagonal (hrows : rows.Nodup) (h : ∀ item ∈ items, row item ∈ rows) (diagonal : α → β) :
    (rows.map fun a ↦ tally row column items a (diagonal a)).sum =
      items.countP fun item ↦ column item = diagonal (row item) := by
  rw [← sum_countP_key hrows h]
  refine congrArg List.sum (List.map_congr_left fun a _ ↦ ?_)
  rw [tally_eq_countP]
  refine List.countP_congr fun item _ ↦ ?_
  simp only [Bool.and_eq_true, decide_eq_true_eq]
  constructor
  · rintro ⟨rfl, hcolumn⟩
    exact ⟨hcolumn, rfl⟩
  · rintro ⟨hcolumn, rfl⟩
    exact ⟨rfl, hcolumn⟩

end Tally

end Python
