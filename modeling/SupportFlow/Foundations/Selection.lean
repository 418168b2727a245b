import SupportFlow.Foundations.Table

/-!
# Queries that see some rows

Two tables agree on the rows of a predicate (`Table.AgreeOn`) when each such row is in both or in
neither. The order of a table's rows is not part of it.

A query whose condition implies the predicate then finds the same in both: a lookup by key
(`AgreeOn.get?_filter`), a count (`AgreeOn.length_filter`), a test that some row passes
(`AgreeOn.any`), the one row that a unique constraint leaves (`AgreeOn.find?`), and a selection in
an order that tells rows of different keys apart (`Orders.insertionSort`). A write agrees with the
table before it on every predicate that the written row and the row under it are outside of
(`agreeOn_insert?`, `agreeOn_set`), and the same write in two tables keeps their agreement
(`AgreeOn.insert?`, `AgreeOn.set`).

Both halves of noninterference are this relation: between two databases on the rows a caller may
read, and between a database and the next on all others.
-/

universe u v

open PrimaryKey (key)

/-- Sorting forgets the order of the items, when only one item stands in one place. -/
theorem List.Perm.insertionSort_eq {α : Type u} {r : α → α → Prop} [DecidableRel r] {l l' : List α}
    (h : l.Perm l') (htotal : ∀ a b, r a b ∨ r b a) (htrans : ∀ a b c, r a b → r b c → r a c)
    (hplace : ∀ a ∈ l, ∀ b ∈ l, r a b → r b a → a = b) :
    l.insertionSort r = l'.insertionSort r := by
  have : Std.Total r := ⟨htotal⟩
  have : IsTrans α r := ⟨htrans⟩
  refine List.Perm.eq_of_pairwise (fun a b ha hb ↦ ?_)
    (List.pairwise_insertionSort r _) (List.pairwise_insertionSort r _) ?_
  · exact hplace a ((List.mem_insertionSort r).1 ha) b
      (h.mem_iff.2 ((List.mem_insertionSort r).1 hb))
  · exact (List.perm_insertionSort r _).trans (h.trans (List.perm_insertionSort r _).symm)

namespace Table

variable {α : Type u} {κ : Type v} [PrimaryKey α κ]

/-- Two tables have the same rows among those that satisfy `p`. -/
def AgreeOn (p : α → Prop) (s t : Table α) : Prop :=
  ∀ r, p r → (r ∈ s ↔ r ∈ t)

variable {p : α → Prop} {s t : Table α}

theorem AgreeOn.refl (p : α → Prop) (t : Table α) : AgreeOn p t t := fun _ _ ↦ Iff.rfl

theorem AgreeOn.symm (h : AgreeOn p s t) : AgreeOn p t s := fun r hr ↦ (h r hr).symm

theorem AgreeOn.trans {u : Table α} (h : AgreeOn p s t) (h' : AgreeOn p t u) : AgreeOn p s u :=
  fun r hr ↦ (h r hr).trans (h' r hr)

theorem AgreeOn.mono {p' : α → Prop} (h : AgreeOn p s t) (hp : ∀ r, p' r → p r) : AgreeOn p' s t :=
  fun r hr ↦ h r (hp r hr)

instance [DecidableEq α] [DecidablePred p] : Decidable (AgreeOn p s t) :=
  decidable_of_iff ((∀ r ∈ s.rows, p r → r ∈ t.rows) ∧ ∀ r ∈ t.rows, p r → r ∈ s.rows)
    ⟨fun h r hr ↦ ⟨fun hs ↦ h.1 r hs hr, fun ht ↦ h.2 r ht hr⟩,
      fun h ↦ ⟨fun r hs hr ↦ (h r hr).1 hs, fun r ht hr ↦ (h r hr).2 ht⟩⟩

/-- A key that no row outside of the predicate has; a fresh key is one. -/
def OnlyFor (p : α → Prop) (t : Table α) (k : κ) : Prop :=
  ∀ r ∈ t, key r = k → p r

/-- It stays one while the rows outside of the predicate are left alone. -/
theorem OnlyFor.kept {k : κ} (h : OnlyFor p s k) (hkept : AgreeOn (¬p ·) s t) : OnlyFor p t k :=
  fun r hr hkey ↦ by_contra fun hp ↦ hp (h r ((hkept r hp).2 hr) hkey)

/-! ### Selections -/

section Selections

variable {q : α → Bool}

theorem nodup_rows (t : Table α) : t.rows.Nodup :=
  List.Nodup.of_map key t.nodup

/-- **A selection finds the same rows.** -/
theorem AgreeOn.perm_filter (h : AgreeOn p s t) (hq : ∀ r, q r = true → p r) :
    (s.rows.filter q).Perm (t.rows.filter q) := by
  refine (List.perm_ext_iff_of_nodup (s.nodup_rows.filter q) (t.nodup_rows.filter q)).2 fun r ↦ ?_
  rw [List.mem_filter, List.mem_filter]
  exact and_congr_left fun hr ↦ h r (hq r hr)

theorem AgreeOn.length_filter (h : AgreeOn p s t) (hq : ∀ r, q r = true → p r) :
    (s.rows.filter q).length = (t.rows.filter q).length :=
  (h.perm_filter hq).length_eq

theorem AgreeOn.any (h : AgreeOn p s t) (hq : ∀ r, q r = true → p r) :
    s.rows.any q = t.rows.any q := by
  rw [Bool.eq_iff_iff, List.any_eq_true, List.any_eq_true]
  constructor
  · rintro ⟨r, hr, hqr⟩
    exact ⟨r, (h r (hq r hqr)).1 hr, hqr⟩
  · rintro ⟨r, hr, hqr⟩
    exact ⟨r, (h r (hq r hqr)).2 hr, hqr⟩

/-- A search that a unique constraint answers with one row. -/
theorem AgreeOn.find? (h : AgreeOn p s t) (hq : ∀ r, q r = true → p r)
    (hunique : ∀ a ∈ s, ∀ b ∈ s, q a = true → q b = true → a = b) :
    s.rows.find? q = t.rows.find? q := by
  cases hs : s.rows.find? q with
  | none =>
    refine (List.find?_eq_none.2 fun r hr hqr ↦ ?_).symm
    exact List.find?_eq_none.1 hs r ((h r (hq r hqr)).2 hr) hqr
  | some a =>
    have haq : q a = true := List.find?_some hs
    have has : a ∈ s := List.mem_of_find?_eq_some hs
    cases ht : t.rows.find? q with
    | none => exact absurd haq (List.find?_eq_none.1 ht a ((h a (hq a haq)).1 has))
    | some b =>
      have hbq : q b = true := List.find?_some ht
      have hbs : b ∈ s := (h b (hq b hbq)).2 (List.mem_of_find?_eq_some ht)
      rw [hunique a has b hbs haq hbq]

/-- **A selection in an order is the same list**, when only one selected row stands in one place. -/
theorem AgreeOn.insertionSort {r : α → α → Prop} [DecidableRel r] (htotal : ∀ a b, r a b ∨ r b a)
    (htrans : ∀ a b c, r a b → r b c → r a c) (h : AgreeOn p s t) (hq : ∀ r, q r = true → p r)
    (hplace : ∀ a ∈ s, ∀ b ∈ s, q a = true → q b = true → r a b → r b a → a = b) :
    (s.rows.filter q).insertionSort r = (t.rows.filter q).insertionSort r := by
  refine (h.perm_filter hq).insertionSort_eq htotal htrans fun a ha b hb ↦ ?_
  obtain ⟨has, haq⟩ := List.mem_filter.1 ha
  obtain ⟨hbs, hbq⟩ := List.mem_filter.1 hb
  exact hplace a has b hbs haq hbq

/-- A selection from a join of two tables finds the same pairs. -/
theorem AgreeOn.perm_product {β : Type u} {κ' : Type v} [PrimaryKey β κ'] {p' : β → Prop}
    {s' t' : Table β} {q : α × β → Bool} (h : AgreeOn p s t) (h' : AgreeOn p' s' t')
    (hq : ∀ r, q r = true → p r.1 ∧ p' r.2) :
    ((s.rows.product s'.rows).filter q).Perm ((t.rows.product t'.rows).filter q) := by
  refine (List.perm_ext_iff_of_nodup ((s.nodup_rows.product s'.nodup_rows).filter q)
    ((t.nodup_rows.product t'.nodup_rows).filter q)).2 fun r ↦ ?_
  rw [List.mem_filter, List.mem_filter]
  refine and_congr_left fun hr ↦ ?_
  calc r ∈ s.rows.product s'.rows
      ↔ r.1 ∈ s ∧ r.2 ∈ s' := List.pair_mem_product
    _ ↔ r.1 ∈ t ∧ r.2 ∈ t' := and_congr (h r.1 (hq r hr).1) (h' r.2 (hq r hr).2)
    _ ↔ r ∈ t.rows.product t'.rows := List.pair_mem_product.symm

/-- An order of rows in which rows of different keys stand in different places. -/
structure Orders (r : α → α → Prop) : Prop where
  total : ∀ a b, r a b ∨ r b a
  trans : ∀ a b c, r a b → r b c → r a c
  key_eq : ∀ a b, r a b → r b a → key a = key b

theorem Orders.insertionSort {r : α → α → Prop} [DecidableRel r] (hr : Orders r)
    (h : AgreeOn p s t) (hq : ∀ r, q r = true → p r) :
    (s.rows.filter q).insertionSort r = (t.rows.filter q).insertionSort r :=
  AgreeOn.insertionSort hr.total hr.trans h hq fun a ha b hb _ _ hab hba ↦
    s.eq_of_key_eq ha hb (hr.key_eq a b hab hba)

end Selections

/-! ### Orders by time -/

section ByTime

variable {τ ι : Type*} [LinearOrder τ] [LinearOrder ι] (time : α → τ) (id : α → ι)

/-- `ORDER BY time ASC, id ASC`. -/
theorem orders_oldest (hid : ∀ a b, id a = id b → key a = key b) :
    Orders fun a b : α ↦ time a < time b ∨ time a = time b ∧ id a ≤ id b where
  total a b := by
    rcases lt_trichotomy (time a) (time b) with h | h | h
    · exact .inl (.inl h)
    · exact (le_total (id a) (id b)).imp (fun hid ↦ .inr ⟨h, hid⟩) fun hid ↦ .inr ⟨h.symm, hid⟩
    · exact .inr (.inl h)
  trans a b c hab hbc := by
    rcases hab with hab | ⟨hab, hid⟩
    · rcases hbc with hbc | ⟨hbc, -⟩
      · exact .inl (hab.trans hbc)
      · exact .inl (hbc ▸ hab)
    · rcases hbc with hbc | ⟨hbc, hid'⟩
      · exact .inl (hab ▸ hbc)
      · exact .inr ⟨hab.trans hbc, hid.trans hid'⟩
  key_eq a b hab hba := by
    rcases hab with hab | ⟨hab, hle⟩
    · rcases hba with hba | ⟨hba, -⟩
      · exact absurd (hab.trans hba) (lt_irrefl _)
      · exact absurd (hba ▸ hab) (lt_irrefl _)
    · rcases hba with hba | ⟨-, hle'⟩
      · exact absurd (hab ▸ hba) (lt_irrefl _)
      · exact hid a b (le_antisymm hle hle')

theorem Orders.flip {r : α → α → Prop} (h : Orders r) : Orders fun a b ↦ r b a where
  total a b := h.total b a
  trans a b c hab hbc := h.trans c b a hbc hab
  key_eq a b hab hba := h.key_eq a b hba hab

/-- `ORDER BY time DESC, id DESC`. -/
theorem orders_newest (hid : ∀ a b, id a = id b → key a = key b) :
    Orders fun a b : α ↦ time b < time a ∨ time a = time b ∧ id b ≤ id a := by
  have heq : (fun a b : α ↦ time b < time a ∨ time a = time b ∧ id b ≤ id a) =
      fun a b ↦ time b < time a ∨ time b = time a ∧ id b ≤ id a := by
    funext a b
    rw [eq_comm (a := time a)]
  rw [heq]
  exact (orders_oldest time id hid).flip

end ByTime

/-! ### Lookups and writes -/

section Writes

variable [DecidableEq κ]

/-- **A lookup under a condition finds the same row.** -/
theorem AgreeOn.get?_filter {q : α → Bool} (h : AgreeOn p s t) (hq : ∀ r, q r = true → p r)
    (k : κ) : (s.get? k).filter q = (t.get? k).filter q := by
  refine Option.ext fun r ↦ ?_
  simp only [Option.filter_eq_some_iff, get?_eq_some_iff]
  constructor
  · rintro ⟨⟨hmem, hkey⟩, hqr⟩
    exact ⟨⟨(h r (hq r hqr)).1 hmem, hkey⟩, hqr⟩
  · rintro ⟨⟨hmem, hkey⟩, hqr⟩
    exact ⟨⟨(h r (hq r hqr)).2 hmem, hkey⟩, hqr⟩

/-- An insert leaves every row that is not the new one. -/
theorem agreeOn_insert? {r : α} {t' : Table α} (h : t.insert? r = some t') (hr : ¬p r) :
    AgreeOn p t t' := by
  intro x hx
  rw [mem_insert? h]
  exact ⟨.inl, fun hmem ↦ hmem.resolve_right fun heq ↦ hr (heq ▸ hx)⟩

theorem onlyFor_of_get?_eq_none {k : κ} (h : t.get? k = none) : OnlyFor p t k :=
  fun r hr hkey ↦ absurd hkey (get?_eq_none_iff.1 h r hr)

/-- A lookup of such a key finds the same. -/
theorem AgreeOn.get?_eq {k : κ} (h : AgreeOn p s t) (hs : OnlyFor p s k) (ht : OnlyFor p t k) :
    s.get? k = t.get? k := by
  refine Option.ext fun r ↦ ?_
  rw [get?_eq_some_iff, get?_eq_some_iff]
  constructor
  · rintro ⟨hmem, hkey⟩
    exact ⟨(h r (hs r hmem hkey)).1 hmem, hkey⟩
  · rintro ⟨hmem, hkey⟩
    exact ⟨(h r (ht r hmem hkey)).2 hmem, hkey⟩

/-- The same insert in both. -/
theorem AgreeOn.insert? {r : α} {s' t' : Table α} (h : AgreeOn p s t)
    (hs : s.insert? r = some s') (ht : t.insert? r = some t') : AgreeOn p s' t' := by
  intro x hx
  rw [mem_insert? hs, mem_insert? ht]
  exact or_congr_left (h x hx)

/-- A row written back leaves every row but the one under it. -/
theorem agreeOn_set {r old : α} (hold : t.get? (key r) = some old) (hr : ¬p r) (hp : ¬p old) :
    AgreeOn p t (t.set r) := by
  intro x hx
  have hmem := mem_of_get? hold
  rw [mem_set hmem (key_of_get? hold)]
  constructor
  · intro h
    refine .inr ⟨h, fun hkey ↦ hp ?_⟩
    rwa [t.eq_of_key_eq hmem h ((key_of_get? hold).trans hkey.symm)]
  · rintro (rfl | ⟨h, -⟩)
    · exact absurd hx hr
    · exact h

/-- **The same insert, in two tables**, under a key that no row outside of the predicate has: it
fails in both, or it succeeds in both and leaves all other rows. -/
theorem AgreeOn.insert?_cases {r : α} (h : AgreeOn p s t) (hs : OnlyFor p s (key r))
    (ht : OnlyFor p t (key r)) (hr : p r) :
    (s.insert? r = none ∧ t.insert? r = none) ∨
      ∃ s' t', s.insert? r = some s' ∧ t.insert? r = some t' ∧ AgreeOn p s' t' ∧
        AgreeOn (¬p ·) s s' ∧ AgreeOn (¬p ·) t t' := by
  have hnone : s.insert? r = none ↔ t.insert? r = none := by
    rw [insert?_eq_none_iff, insert?_eq_none_iff, h.get?_eq hs ht]
  rcases hs' : s.insert? r with - | s' <;> rcases ht' : t.insert? r with - | t'
  · exact .inl ⟨rfl, rfl⟩
  · exact absurd (hnone.1 hs') (by simp [ht'])
  · exact absurd (hnone.2 ht') (by simp [hs'])
  · exact .inr ⟨s', t', rfl, rfl, h.insert? hs' ht', agreeOn_insert? hs' (not_not.2 hr),
      agreeOn_insert? ht' (not_not.2 hr)⟩

/-- Several inserts leave every row that is not new. -/
theorem agreeOn_append? {rows : List α} {t' : Table α} (h : t.append? rows = some t')
    (hrows : ∀ r ∈ rows, ¬p r) : AgreeOn p t t' := by
  intro x hx
  rw [mem_append? h]
  exact ⟨.inl, fun hmem ↦ hmem.resolve_right fun hrow ↦ hrows x hrow hx⟩

/-- The same inserts in both. -/
theorem AgreeOn.append? {rows : List α} {s' t' : Table α} (h : AgreeOn p s t)
    (hs : s.append? rows = some s') (ht : t.append? rows = some t') : AgreeOn p s' t' := by
  intro x hx
  rw [mem_append? hs, mem_append? ht]
  exact or_congr_left (h x hx)

/-- The same inserts, in two tables. -/
theorem AgreeOn.append?_cases {rows : List α} (h : AgreeOn p s t)
    (hs : ∀ r ∈ rows, OnlyFor p s (key r)) (ht : ∀ r ∈ rows, OnlyFor p t (key r))
    (hrows : ∀ r ∈ rows, p r) :
    (s.append? rows = none ∧ t.append? rows = none) ∨
      ∃ s' t', s.append? rows = some s' ∧ t.append? rows = some t' ∧ AgreeOn p s' t' ∧
        AgreeOn (¬p ·) s s' ∧ AgreeOn (¬p ·) t t' := by
  have hnone : s.append? rows = none ↔ t.append? rows = none := by
    rw [append?_eq_none_iff, append?_eq_none_iff]
    refine not_congr (and_congr_right fun _ ↦ forall₂_congr fun r hr ↦ ?_)
    rw [h.get?_eq (hs r hr) (ht r hr)]
  have hkept : ∀ {u u' : Table α}, u.append? rows = some u' → AgreeOn (¬p ·) u u' :=
    fun hu ↦ agreeOn_append? hu fun r hr ↦ not_not.2 (hrows r hr)
  rcases hs' : s.append? rows with - | s' <;> rcases ht' : t.append? rows with - | t'
  · exact .inl ⟨rfl, rfl⟩
  · exact absurd (hnone.1 hs') (by simp [ht'])
  · exact absurd (hnone.2 ht') (by simp [hs'])
  · exact .inr ⟨s', t', rfl, rfl, h.append? hs' ht', hkept hs', hkept ht'⟩

/-- The same row written back in both. -/
theorem AgreeOn.set {r old : α} (h : AgreeOn p s t) (hs : s.get? (key r) = some old)
    (ht : t.get? (key r) = some old) : AgreeOn p (s.set r) (t.set r) := by
  intro x hx
  rw [mem_set (mem_of_get? hs) (key_of_get? hs), mem_set (mem_of_get? ht) (key_of_get? ht)]
  exact or_congr_right (and_congr_left fun _ ↦ h x hx)

end Writes

end Table
