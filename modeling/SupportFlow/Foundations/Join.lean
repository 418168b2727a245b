import SupportFlow.Foundations.Selection

/-!
# Joins

`SELECT … FROM left JOIN right ON …` pairs the rows of its left side with those of its right side
(`joinOn`); a join of joins is a join. A pair is in it when its parts are and the condition holds
(`mem_joinOn`), and no pair is in it twice (`nodup_joinOn`).

A query whose condition fixes the key of every table it reads finds at most one row
(`length_le_one_of_nodup`), so that `one_or_none`, which raises on a second row, and `scalar`, which
ignores it, both return the row that there is (`oneOrNone_eq_head?`).
-/

universe u

section Joins

variable {α β : Type u}

/-- `left JOIN right ON on`. -/
def joinOn (left : List α) (right : List β) (on : α → β → Bool) : List (α × β) :=
  (left.product right).filter fun r ↦ on r.1 r.2

variable {left : List α} {right : List β} {on : α → β → Bool}

@[simp]
theorem mem_joinOn {r : α × β} :
    r ∈ joinOn left right on ↔ r.1 ∈ left ∧ r.2 ∈ right ∧ on r.1 r.2 = true := by
  rw [joinOn, List.mem_filter, ← and_assoc]
  exact and_congr_left' List.pair_mem_product

theorem nodup_joinOn (hleft : left.Nodup) (hright : right.Nodup) :
    (joinOn left right on).Nodup :=
  (hleft.product hright).filter _

/-- Different rows that are all the same are one row at most. -/
theorem length_le_one_of_nodup {rows : List α} (hnodup : rows.Nodup)
    (hsame : ∀ a ∈ rows, ∀ b ∈ rows, a = b) : rows.length ≤ 1 := by
  match rows, hnodup, hsame with
  | [], _, _ => exact Nat.zero_le 1
  | [_], _, _ => exact le_rfl
  | a :: b :: rows, hnodup, hsame =>
    have hne : a ≠ b := fun heq ↦ (List.nodup_cons.1 hnodup).1 (heq ▸ List.mem_cons_self)
    exact absurd (hsame a (by simp) b (by simp)) hne

/-- A query has a first row when it has a row. -/
theorem isSome_head?_iff_exists_mem {rows : List α} : rows.head?.isSome ↔ ∃ r, r ∈ rows := by
  rw [List.isSome_head?, Ne, List.eq_nil_iff_forall_not_mem, not_forall_not]

theorem head?_eq_some_of_mem {rows : List α} {r : α} (h : rows.length ≤ 1) (hr : r ∈ rows) :
    rows.head? = some r := by
  match rows, h with
  | [], _ => exact absurd hr List.not_mem_nil
  | [_], _ => exact congrArg some (List.mem_singleton.1 hr).symm
  | _ :: _ :: _, h => exact absurd h (by simp)

/-- `Result.one_or_none`; a second row raises. -/
def oneOrNone {ε : Type u} (multipleResultsFound : ε) : List α → Except ε (Option α)
  | [] => .ok none
  | [row] => .ok (some row)
  | _ :: _ :: _ => .error multipleResultsFound

/-- With one row at most, it is the first. -/
theorem oneOrNone_eq_head? {ε : Type u} {e : ε} {rows : List α} (h : rows.length ≤ 1) :
    oneOrNone e rows = .ok rows.head? := by
  match rows, h with
  | [], _ => rfl
  | [_], _ => rfl
  | _ :: _ :: _, h => exact absurd h (by simp)

/-- What it finds is a row. -/
theorem mem_of_oneOrNone {ε : Type u} {e : ε} {rows : List α} {row : α}
    (h : oneOrNone e rows = .ok (some row)) : row ∈ rows := by
  match rows, h with
  | [found], h =>
    obtain rfl := Option.some.inj (Except.ok.inj h)
    exact List.mem_singleton_self _

end Joins
