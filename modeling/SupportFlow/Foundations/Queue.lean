import SupportFlow.Foundations.Selection

/-!
# A table as a queue

The rows of a table that satisfy a condition, in an order that tells rows of different keys apart: a
queue whose elements are nowhere else than in the table. A worker takes from its head by writing
back a row that does not satisfy the condition any more (`queue_set_head`), or by making the
condition false some other way (`queue_of_taken`); what is left is the rest of the queue, in its
order.

Both rest on `queue_eq_of_mem`: a list in the order, with the rows of the queue and no others, is
the queue.
-/

universe u v

open PrimaryKey (key)

namespace Table

variable {α : Type u} {κ : Type v} [PrimaryKey α κ] {r : α → α → Prop} [DecidableRel r]
  {p q : α → Bool} {t : Table α} {x y : α} {taken rest : List α}

/-- The rows that satisfy `p`, in the order `r`. -/
def queue (r : α → α → Prop) [DecidableRel r] (p : α → Bool) (t : Table α) : List α :=
  (t.rows.filter p).insertionSort r

theorem mem_queue : x ∈ t.queue r p ↔ x ∈ t ∧ p x = true := by
  rw [queue, List.mem_insertionSort, List.mem_filter, mem_rows]

theorem nodup_queue : (t.queue r p).Nodup :=
  (List.perm_insertionSort r _).nodup_iff.2 (t.nodup_rows.filter p)

theorem pairwise_queue (hr : Orders r) : (t.queue r p).Pairwise r := by
  have : Std.Total r := ⟨hr.total⟩
  have : IsTrans α r := ⟨hr.trans⟩
  exact List.pairwise_insertionSort r _

/-- **The queue is the only list with its rows, in its order.** -/
theorem queue_eq_of_mem (hr : Orders r) (hsorted : rest.Pairwise r) (hnodup : rest.Nodup)
    (hmem : ∀ x, x ∈ rest ↔ x ∈ t ∧ p x = true) : t.queue r p = rest := by
  refine List.Perm.eq_of_pairwise (fun a b ha hb hab hba ↦ ?_) (pairwise_queue hr) hsorted ?_
  · exact t.eq_of_key_eq (mem_queue.1 ha).1 ((hmem b).1 hb).1 (hr.key_eq a b hab hba)
  · exact (List.perm_ext_iff_of_nodup nodup_queue hnodup).2 fun x ↦
      mem_queue.trans (hmem x).symm

/-- What was taken from the head leaves the rest. -/
theorem queue_of_taken (hr : Orders r) (h : t.queue r p = taken ++ rest)
    (hq : ∀ x ∈ t, q x = true ↔ p x = true ∧ x ∉ taken) : t.queue r q = rest := by
  have hsorted : (taken ++ rest).Pairwise r := h ▸ pairwise_queue hr
  have hnodup : (taken ++ rest).Nodup := h ▸ nodup_queue
  refine queue_eq_of_mem hr (List.pairwise_append.1 hsorted).2.1
    (List.nodup_append.1 hnodup).2.1 fun x ↦ ?_
  have hx : x ∈ t ∧ p x = true ↔ x ∈ taken ++ rest := h ▸ mem_queue.symm
  constructor
  · intro hrest
    obtain ⟨hmem, hp⟩ := hx.2 (List.mem_append_right taken hrest)
    exact ⟨hmem, (hq x hmem).2 ⟨hp, fun htaken ↦
      (List.nodup_append.1 hnodup).2.2 x htaken x hrest rfl⟩⟩
  · rintro ⟨hmem, hqx⟩
    obtain ⟨hp, htaken⟩ := (hq x hmem).1 hqx
    exact (List.mem_append.1 (hx.1 ⟨hmem, hp⟩)).resolve_left htaken

/-- **A row at the head that is written back out of the condition leaves the rest.** -/
theorem queue_set_head [DecidableEq κ] (hr : Orders r) (h : t.queue r p = x :: rest)
    (hkey : key y = key x) (hy : p y = false) : (t.set y).queue r p = rest := by
  have hsorted : (x :: rest).Pairwise r := h ▸ pairwise_queue hr
  have hnodup : (x :: rest).Nodup := h ▸ nodup_queue
  have hmem : ∀ {z}, z ∈ t ∧ p z = true ↔ z = x ∨ z ∈ rest := fun {z} ↦
    mem_queue.symm.trans (h ▸ List.mem_cons)
  have hx : x ∈ t := (hmem.2 (.inl rfl)).1
  refine queue_eq_of_mem hr (List.pairwise_cons.1 hsorted).2 (List.nodup_cons.1 hnodup).2
    fun z ↦ ?_
  rw [mem_set hx hkey.symm]
  constructor
  · intro hz
    obtain ⟨hzt, hpz⟩ := hmem.2 (.inr hz)
    refine ⟨.inr ⟨hzt, fun heq ↦ ?_⟩, hpz⟩
    -- A row of the rest with the key of the head would be the head.
    obtain rfl := t.eq_of_key_eq hzt hx (heq.trans hkey)
    exact (List.nodup_cons.1 hnodup).1 hz
  · rintro ⟨rfl | ⟨hzt, hne⟩, hpz⟩
    · exact absurd hpz (by rw [hy]; exact Bool.false_ne_true)
    · exact (hmem.1 ⟨hzt, hpz⟩).resolve_left fun heq ↦ hne (heq ▸ hkey.symm)

end Table
