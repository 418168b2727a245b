import Mathlib.Data.List.Induction
import Mathlib.Data.List.Pairwise

/-!
# What has held since

A history is a list of events, oldest first. `Since p q` is the operator of temporal logic: some
event was a `p`, and every event after it was a `q`. A history grows at its end, and there the
operator unfolds by one event (`since_snoc`); an event that was no `q` has its `p` at it or after it
(`Since.exists_mem_of_not`).
-/

namespace List

variable {α : Type*} {p q : α → Prop} {events : List α} {event : α}

/-- Some event was a `p`, and every later one was a `q`. -/
def Since (p q : α → Prop) (events : List α) : Prop :=
  ∃ before event after, events = before ++ event :: after ∧ p event ∧ ∀ later ∈ after, q later

theorem not_since_nil : ¬Since p q ([] : List α) := by
  rintro ⟨before, event, after, h, -⟩
  exact absurd h (by simp)

/-- **One more event**: it is the one, or it keeps what the earlier events had. -/
theorem since_snoc : Since p q (events ++ [event]) ↔ p event ∨ Since p q events ∧ q event := by
  constructor
  · rintro ⟨before, first, after, hsplit, hfirst, hafter⟩
    rcases eq_nil_or_concat after with rfl | ⟨after, last, rfl⟩
    · obtain ⟨-, hlast⟩ := append_inj' hsplit rfl
      obtain rfl := singleton_inj.1 hlast
      exact Or.inl hfirst
    · rw [concat_eq_append, ← cons_append, ← append_assoc] at hsplit
      obtain ⟨hfront, hlast⟩ := append_inj' hsplit rfl
      obtain rfl := singleton_inj.1 hlast
      rw [concat_eq_append] at hafter
      refine Or.inr ⟨⟨before, first, after, hfront, hfirst, fun later hlater ↦ ?_⟩, ?_⟩
      · exact hafter later (mem_append_left _ hlater)
      · exact hafter event (mem_append_right _ (mem_singleton_self event))
  · rintro (hevent | ⟨⟨before, first, after, rfl, hfirst, hafter⟩, hlast⟩)
    · exact ⟨events, event, [], rfl, hevent, fun _ h ↦ absurd h not_mem_nil⟩
    · refine ⟨before, first, after ++ [event], by simp, hfirst, fun later hlater ↦ ?_⟩
      rcases mem_append.1 hlater with hold | hnew
      · exact hafter later hold
      · exact mem_singleton.1 hnew ▸ hlast

theorem Since.exists_mem (h : Since p q events) : ∃ event ∈ events, p event := by
  obtain ⟨before, event, after, rfl, hevent, -⟩ := h
  exact ⟨event, by simp, hevent⟩

theorem Since.imp {p' q' : α → Prop} (h : Since p q events) (hp : ∀ event, p event → p' event)
    (hq : ∀ event, q event → q' event) : Since p' q' events := by
  obtain ⟨before, event, after, hsplit, hevent, hafter⟩ := h
  exact ⟨before, event, after, hsplit, hp event hevent, fun later hlater ↦
    hq later (hafter later hlater)⟩

/-- What a part of the history has, the whole history has of the events that the part shows. -/
theorem since_filterMap {β : Type*} {f : α → Option β} {p q : β → Prop} :
    Since p q (events.filterMap f) ↔
      Since (fun event ↦ ∃ shown, f event = some shown ∧ p shown)
        (fun event ↦ ∀ shown, f event = some shown → q shown) events := by
  induction events using List.reverseRecOn with
  | nil => exact iff_of_false not_since_nil not_since_nil
  | append_singleton events event ih =>
    rw [filterMap_append, since_snoc, ← ih]
    cases h : f event with
    | none => simp [h]
    | some shown => simp [h, since_snoc]

/-- **An event that was not kept is overtaken**: what the history has, it has since that event or a
later one. -/
theorem Since.exists_mem_of_not {before after : List α} (h : Since p q (before ++ event :: after))
    (hnot : ¬q event) : ∃ later ∈ event :: after, p later := by
  obtain ⟨before', first, after', hsplit, hfirst, hlater⟩ := h
  refine ⟨first, ?_, hfirst⟩
  rcases append_eq_append_iff.1 hsplit with ⟨gap, -, hrest⟩ | ⟨gap, -, hrest⟩
  · rw [hrest]
    simp
  · cases gap with
    | nil =>
      rw [← show _ = event :: after from hrest]
      exact mem_cons_self
    | cons next gap =>
      -- The first event was before, so this one is among the later ones.
      have hmem : event ∈ after' := by
        rw [(cons.inj hrest).2]
        simp
      exact absurd (hlater event hmem) hnot

/-- When nothing is shown twice, an event is known by what it shows. -/
theorem eq_of_nodup_filterMap {β : Type*} {f : α → Option β} {other : α} {shown : β}
    (h : (events.filterMap f).Nodup) (hevent : event ∈ events) (hother : other ∈ events)
    (hshown : f event = some shown) (hsame : f other = some shown) : event = other := by
  by_contra hne
  have hpairs := pairwise_filterMap.1 h
  have : Std.Symm fun a b ↦ ∀ x, f a = some x → ∀ y, f b = some y → x ≠ y :=
    ⟨fun a b hab x hx y hy heq ↦ hab y hy x hx heq.symm⟩
  exact hpairs.forall hevent hother hne shown hshown shown hsame rfl

end List
