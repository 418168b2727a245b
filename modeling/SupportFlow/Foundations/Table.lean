import Mathlib.Data.List.Nodup
import Mathlib.Data.List.Sort

/-!
# Keyed tables

A relational table with a primary key: a list of rows in which no two rows share a key. The
uniqueness of the key is a field of the structure, so a table with a duplicate key cannot be built,
and every lookup lemma below may use it.

The operations are the ones a transaction issues: look a row up by its key (`get?`), write a row
back (`set`), change every row whose key is selected (`modify`), insert a row under an unused key
(`insert?`, which fails as the database does when the key is taken), delete the selected keys
(`delete`). Each comes with one lemma giving `get?` afterwards, and these are the only facts about
tables that the development uses to follow a row through a transaction.

`orderByLimit` is `ORDER BY … LIMIT n` over a list of selected rows.
-/

universe u v

/-- A row type with a primary key. -/
class PrimaryKey (α : Type u) (κ : outParam (Type v)) where
  /-- The key of a row. -/
  key : α → κ

open PrimaryKey (key)

/-- A table: rows with pairwise different primary keys. -/
structure Table (α : Type u) {κ : Type v} [PrimaryKey α κ] where
  /-- The rows, in insertion order. -/
  rows : List α
  /-- No two rows share a key. -/
  nodup : (rows.map key).Nodup

namespace Table

variable {α : Type u} {κ : Type v} [PrimaryKey α κ]

/-- The table with no rows. -/
def empty : Table α :=
  ⟨[], List.nodup_nil⟩

/-- The table with one row. -/
def singleton (r : α) : Table α :=
  ⟨[r], List.nodup_singleton _⟩

instance : Membership α (Table α) :=
  ⟨fun t r ↦ r ∈ t.rows⟩

theorem mem_rows {t : Table α} {r : α} : r ∈ t.rows ↔ r ∈ t :=
  Iff.rfl

/-- A table is its rows. -/
theorem ext_rows {s t : Table α} (h : s.rows = t.rows) : s = t := by
  cases s
  cases t
  cases h
  rfl

theorem eq_of_key_eq {t : Table α} {r s : α} (hr : r ∈ t) (hs : s ∈ t) (h : key r = key s) :
    r = s :=
  List.inj_on_of_nodup_map t.nodup hr hs h

variable [DecidableEq κ]

/-- The row stored under a key. -/
def get? (t : Table α) (k : κ) : Option α :=
  t.rows.find? fun r ↦ key r = k

/-- A lookup finds exactly the row that has the key. -/
theorem get?_eq_some_iff {t : Table α} {k : κ} {r : α} :
    t.get? k = some r ↔ r ∈ t ∧ key r = k := by
  constructor
  · intro h
    exact ⟨List.mem_of_find?_eq_some h, by simpa using List.find?_some h⟩
  · rintro ⟨hr, rfl⟩
    rcases hs : t.get? (key r) with - | s
    · exact absurd (List.find?_eq_none.1 hs r hr) (by simp)
    · have hkey : key s = key r := by simpa using List.find?_some hs
      rw [t.eq_of_key_eq (List.mem_of_find?_eq_some hs) hr hkey]

theorem get?_key {t : Table α} {r : α} (hr : r ∈ t) : t.get? (key r) = some r :=
  get?_eq_some_iff.2 ⟨hr, rfl⟩

theorem mem_of_get? {t : Table α} {k : κ} {r : α} (h : t.get? k = some r) : r ∈ t :=
  (get?_eq_some_iff.1 h).1

theorem key_of_get? {t : Table α} {k : κ} {r : α} (h : t.get? k = some r) : key r = k :=
  (get?_eq_some_iff.1 h).2

theorem get?_eq_none_iff {t : Table α} {k : κ} : t.get? k = none ↔ ∀ r ∈ t, key r ≠ k := by
  simp [get?, List.find?_eq_none, mem_rows]

/-! ### Writing rows -/

/-- Change every row whose key is selected by a function that keeps keys. -/
def modify (t : Table α) (p : κ → Bool) (f : α → α) (hf : ∀ r, key (f r) = key r) : Table α where
  rows := t.rows.map fun r ↦ if p (key r) then f r else r
  nodup := by
    have hkeys : (t.rows.map fun r ↦ if p (key r) then f r else r).map key = t.rows.map key := by
      rw [List.map_map]
      refine List.map_congr_left fun r _ ↦ ?_
      by_cases h : p (key r) <;> simp [h, hf]
    rw [hkeys]
    exact t.nodup

theorem get?_modify {t : Table α} {p : κ → Bool} {f : α → α} {hf : ∀ r, key (f r) = key r}
    (k : κ) : (t.modify p f hf).get? k = (t.get? k).map fun r ↦ if p k then f r else r := by
  have hkey : ∀ r, key (if p (key r) then f r else r) = key r := by
    intro r
    by_cases h : p (key r) <;> simp [h, hf]
  rcases h : t.get? k with - | r
  · rw [Option.map_none, get?_eq_none_iff]
    intro s hs
    obtain ⟨r, hr, rfl⟩ := List.mem_map.1 hs
    rw [hkey]
    exact get?_eq_none_iff.1 h r hr
  · obtain ⟨hr, rfl⟩ := get?_eq_some_iff.1 h
    exact get?_eq_some_iff.2 ⟨List.mem_map.2 ⟨r, hr, rfl⟩, hkey r⟩

/-- Write a row back over the row that has its key. -/
def set (t : Table α) (r : α) : Table α where
  rows := t.rows.map fun s ↦ if key s = key r then r else s
  nodup := by
    have hkeys : (t.rows.map fun s ↦ if key s = key r then r else s).map key =
        t.rows.map key := by
      rw [List.map_map]
      refine List.map_congr_left fun s _ ↦ ?_
      by_cases h : key s = key r <;> simp [h]
    rw [hkeys]
    exact t.nodup

theorem get?_set {t : Table α} {r : α} (k : κ) :
    (t.set r).get? k = if k = key r then (t.get? k).map fun _ ↦ r else t.get? k := by
  have hkey : ∀ s, key (if key s = key r then r else s) = key s := by
    intro s
    by_cases h : key s = key r <;> simp [h]
  rcases h : t.get? k with - | s
  · have hnone : (t.set r).get? k = none := by
      refine get?_eq_none_iff.2 fun x hx ↦ ?_
      obtain ⟨s, hs, rfl⟩ := List.mem_map.1 hx
      rw [hkey]
      exact get?_eq_none_iff.1 h s hs
    rw [hnone]
    split <;> rfl
  · obtain ⟨hs, rfl⟩ := get?_eq_some_iff.1 h
    have hset : (t.set r).get? (key s) = some (if key s = key r then r else s) :=
      get?_eq_some_iff.2 ⟨List.mem_map.2 ⟨s, hs, rfl⟩, hkey s⟩
    rw [hset]
    by_cases hk : key s = key r <;> simp [hk]

theorem get?_set_self {t : Table α} {r s : α} (h : t.get? (key r) = some s) :
    (t.set r).get? (key r) = some r := by
  rw [get?_set, if_pos rfl, h, Option.map_some]

theorem get?_set_of_ne {t : Table α} {r : α} {k : κ} (h : k ≠ key r) :
    (t.set r).get? k = t.get? k := by
  rw [get?_set, if_neg h]

/-- After a row was written back, the table has it in the place of the row with its key. -/
theorem mem_set {t : Table α} {r s x : α} (hs : s ∈ t) (hkey : key s = key r) :
    x ∈ t.set r ↔ x = r ∨ x ∈ t ∧ key x ≠ key r := by
  constructor
  · intro h
    obtain ⟨y, hy, rfl⟩ := List.mem_map.1 h
    by_cases hk : key y = key r
    · exact .inl (if_pos hk)
    · rw [if_neg hk]
      exact .inr ⟨hy, hk⟩
  · rintro (rfl | ⟨hx, hk⟩)
    · exact List.mem_map.2 ⟨s, hs, if_pos hkey⟩
    · exact List.mem_map.2 ⟨x, hx, if_neg hk⟩

/-- Insert a row under an unused key; fails when the key is taken. -/
def insert? (t : Table α) (r : α) : Option (Table α) :=
  if h : t.get? (key r) = none then
    some
      { rows := t.rows ++ [r]
        nodup := by
          rw [List.map_append, List.nodup_append]
          refine ⟨t.nodup, List.nodup_singleton _, ?_⟩
          rintro a ha b hb rfl
          obtain ⟨s, hs, hsa⟩ := List.mem_map.1 ha
          exact get?_eq_none_iff.1 h s hs (hsa.trans (by simpa using hb)) }
  else none

theorem insert?_eq_some_iff {t t' : Table α} {r : α} :
    t.insert? r = some t' ↔ t.get? (key r) = none ∧ t'.rows = t.rows ++ [r] := by
  unfold insert?
  split
  · next h =>
    rw [Option.some.injEq]
    constructor
    · rintro rfl
      exact ⟨h, rfl⟩
    · rintro ⟨-, hrows⟩
      cases t'
      simp_all
  · next h => simp [h]

theorem insert?_eq_none_iff {t : Table α} {r : α} :
    t.insert? r = none ↔ t.get? (key r) ≠ none := by
  unfold insert?
  split <;> simp_all

theorem get?_of_insert? {t t' : Table α} {r : α} (h : t.insert? r = some t') (k : κ) :
    t'.get? k = if k = key r then some r else t.get? k := by
  obtain ⟨hfresh, hrows⟩ := insert?_eq_some_iff.1 h
  rw [get?, hrows, List.find?_append]
  change (t.get? k).or _ = _
  by_cases hk : k = key r
  · subst hk
    simp [hfresh]
  · have hk' : ¬ key r = k := fun h ↦ hk h.symm
    simp [hk, hk']

theorem mem_insert? {t t' : Table α} {r x : α} (h : t.insert? r = some t') :
    x ∈ t' ↔ x ∈ t ∨ x = r := by
  rw [← mem_rows, (insert?_eq_some_iff.1 h).2, List.mem_append, List.mem_singleton, mem_rows]

/-- Insert several rows at once; fails when one of their keys is taken. -/
def append? (t : Table α) (rows : List α) : Option (Table α) :=
  if h : ((t.rows ++ rows).map key).Nodup then some ⟨t.rows ++ rows, h⟩ else none

theorem append?_eq_none_iff {t : Table α} {rows : List α} :
    t.append? rows = none ↔
      ¬((rows.map key).Nodup ∧ ∀ r ∈ rows, t.get? (key r) = none) := by
  have hnodup : ((t.rows ++ rows).map key).Nodup ↔
      (rows.map key).Nodup ∧ ∀ r ∈ rows, t.get? (key r) = none := by
    rw [List.map_append, List.nodup_append]
    simp only [t.nodup, true_and, get?_eq_none_iff, List.forall_mem_map, mem_rows]
    exact and_congr_right fun _ ↦ ⟨fun h r hr s hs ↦ h s hs r hr, fun h s hs r hr ↦ h r hr s hs⟩
  rw [← hnodup, append?]
  split
  · next h => exact iff_of_false (by simp) (not_not.2 h)
  · next h => exact iff_of_true rfl h

theorem mem_append? {t t' : Table α} {rows : List α} {x : α} (h : t.append? rows = some t') :
    x ∈ t' ↔ x ∈ t ∨ x ∈ rows := by
  unfold append? at h
  split at h
  · cases h
    exact List.mem_append
  · cases h

/-- Delete the rows whose key is selected. -/
def delete (t : Table α) (p : κ → Bool) : Table α where
  rows := t.rows.filter fun r ↦ !p (key r)
  nodup := t.nodup.sublist (List.filter_sublist.map key)

theorem get?_delete {t : Table α} {p : κ → Bool} (k : κ) :
    (t.delete p).get? k = if p k then none else t.get? k := by
  by_cases hp : p k = true
  · rw [if_pos hp, get?_eq_none_iff]
    intro r hr hk
    have := (List.mem_filter.1 hr).2
    simp [hk, hp] at this
  · rw [if_neg hp]
    rcases h : t.get? k with - | r
    · exact get?_eq_none_iff.2 fun r hr ↦ get?_eq_none_iff.1 h r (List.mem_filter.1 hr).1
    · obtain ⟨hr, rfl⟩ := get?_eq_some_iff.1 h
      exact get?_eq_some_iff.2 ⟨List.mem_filter.2 ⟨hr, by simpa using hp⟩, rfl⟩

end Table

/-! ### Ordered, limited selection -/

/-- `ORDER BY r LIMIT n` over selected rows. -/
def orderByLimit {α : Type u} (r : α → α → Prop) [DecidableRel r] (n : ℕ) (l : List α) : List α :=
  (l.insertionSort r).take n

theorem mem_of_mem_orderByLimit {α : Type u} {r : α → α → Prop} [DecidableRel r] {n : ℕ}
    {l : List α} {a : α} (h : a ∈ orderByLimit r n l) : a ∈ l :=
  (List.mem_insertionSort r).1 (List.mem_of_mem_take h)
