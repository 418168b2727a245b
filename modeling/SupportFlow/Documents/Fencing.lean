import SupportFlow.Documents.Reconciliation

/-!
# Lease fencing between relays

A relay may stall between its claim and its `finish` for as long as it likes and come back in any
state of the intent. What keeps it from recording its result over another relay's work is the token:
drawn fresh by each claim, written with the lease, and compared by `finish` together with the
expiry.

The invariants here relate the row's lease to the labels of the run. `Held` says which publication a
lease belongs to: the last one returned for the intent. `Spent` says that a publication finished
with success leaves nothing to finish. `Live` is the converse of `Held` as long as a lease is
unexpired: the row still holds it. Only the last needs the clock.
-/

namespace SupportFlow

variable {settings : Settings} {w w' : World} {e : Event} {id : UUID} {ls : List Event}

/-- The step finished the publication, with the lease still its own. -/
def Event.finishes (p : Publication) (e : Event) : Bool :=
  match e.action with
  | .finish q _ true => decide (q = p)
  | _ => false

theorem Event.finishes_eq_true_iff {p : Publication} :
    e.finishes p = true ↔ ∃ success, e.action = .finish p success true := by
  unfold finishes
  split
  · next q success haction =>
    simp [haction]
  · next hother => simpa using fun success ↦ hother p success

/-- The label of the claim that returned a publication. -/
def returned (t : Instant) (p : Publication) : Event :=
  ⟨t, .relayClaim (.published p)⟩

/-- **What a change does to the lease**: it is cleared, left alone with everything else, or granted
afresh with the publication returned. -/
theorem IntentChange.lease {intent intent' : DocumentIngestionIntent}
    (h : IntentChange settings w e w' id (some intent) (some intent')) :
    (intent'.lease = none ∧ ((∃ l, intent.lease = some l ∧ e.now < l.expiresAt ∧
        ∃ p success, e.action = .finish p success true ∧ p.token = l.token ∧ p ∈ w.issued) ∨
        intent.LeaseFree e.now ∧ ∀ p success, e.action ≠ .finish p success true)) ∨
      (intent' = intent ∧ ¬e.action.Touches id) ∨
      ∃ token version, e.action =
          .relayClaim (.published (IngestionRelay.publicationOf token intent version)) ∧
        token ∉ w.generated ∧ intent.Due e.now ∧
          intent' = intent.charge settings.policy e.now token := by
  cases h with
  | unchanged untouched => exact Or.inr (Or.inl ⟨rfl, untouched⟩)
  | @examined _ _ version token exit action fresh due stored examined =>
    have hno : ∀ p success, e.action ≠ .finish p success true := by
      intro p success hfinish
      exact absurd (action.symm.trans hfinish) (by simp)
    cases examined with
    | published recoverable within =>
      exact Or.inr (Or.inr ⟨token, version, action, fresh, due, rfl⟩)
    | settled => exact Or.inl ⟨rfl, Or.inr ⟨due.2.2.2, hno⟩⟩
    | ambiguous => exact Or.inl ⟨rfl, Or.inr ⟨due.2.2.2, hno⟩⟩
    | postponed => exact Or.inl ⟨rfl, Or.inr ⟨due.2.2.2, hno⟩⟩
    | exhausted => exact Or.inl ⟨rfl, Or.inr ⟨due.2.2.2, hno⟩⟩
  | @finished _ p success lease action issued intentId leased token unexpired =>
    exact Or.inl ⟨rfl, Or.inl ⟨lease, leased, unexpired, p, success, action, token.symm, issued⟩⟩
  | settled action unsettled free =>
    exact Or.inl ⟨rfl, Or.inr ⟨free, fun p success h ↦ absurd (action.symm.trans h) (by simp)⟩⟩
  | rearmed action unresolved exhausted unsettled free =>
    exact Or.inl ⟨rfl, Or.inr ⟨free, fun p success h ↦ absurd (action.symm.trans h) (by simp)⟩⟩

/-! ### Tokens -/

/-- **A token belongs to one publication.** -/
theorem reachable_tokens (hw : (ingestion settings).Reachable w) :
    ∀ p ∈ w.issued, ∀ q ∈ w.issued, p.token = q.token → p = q := by
  refine hw.invariant (I := fun w ↦ ∀ p ∈ w.issued, ∀ q ∈ w.issued, p.token = q.token → p = q)
    ?_ ?_
  · intro w₀ h₀ p hp
    exact absurd ((World.Initial.nothing_issued h₀).1 ▸ hp) List.not_mem_nil
  · intro a e b ha hI hstep p hp q hq htoken
    have hdrawn := (reachable_coherent ha).issued_drawn
    rcases Step.issued hstep hp with hp | ⟨hpa, hpt, -⟩ <;>
      rcases Step.issued hstep hq with hq | ⟨hqa, hqt, -⟩
    · exact hI p hp q hq htoken
    · exact absurd (htoken ▸ (hdrawn p hp).2.2) hqt
    · exact absurd (htoken ▸ (hdrawn q hq).2.2) hpt
    · simpa using hpa.symm.trans hqa

/-- What a claim's label returns is in the ledger. -/
theorem Step.issued_of_returned (h : Step settings w e w') {t : Instant} {p : Publication}
    (he : e = returned t p) : p ∈ w'.issued := by
  subst he
  cases h with
  | relayClaim fresh run => exact List.mem_append_right _ (by simp [ClaimExit.publication?])

theorem Step.issued_of_finish (h : Step settings w e w') {p : Publication} {success result : Bool}
    (haction : e.action = .finish p success result) : p ∈ w.issued := by
  cases h with
  | finish issued run =>
    obtain ⟨rfl, -, -⟩ := Action.finish.inj haction
    exact issued
  | _ => exact nomatch haction

/-! ### Which publication a lease belongs to -/

/-- **A lease belongs to the last publication returned for the intent**, which is neither settled
nor unresolved. -/
def Held (settings : Settings) (ls : List Event) (w : World) : Prop :=
  ∀ id i l, w.db.intents.get? id = some i → i.lease = some l →
    i.settledAt = none ∧ i.unresolvedAt = none ∧ ∃ before t p after,
      ls = before ++ returned t p :: after ∧ p.intentId = id ∧ p.token = l.token ∧
        l.expiresAt = t + seconds settings.policy.leaseSeconds ∧
          ∀ x ∈ after, x.returns id = false

theorem run_held {w₀ : World} (h₀ : (ingestion settings).init w₀)
    (hrun : (ingestion settings).Run w₀ ls w) : Held settings ls w := by
  refine TransitionSystem.Run.tracked (I := Held settings) ?_ ?_ hrun
  · intro id i l hi
    have hmem : i ∈ w₀.db.intents.rows := Table.mem_of_get? hi
    exact absurd (World.Initial.no_intents h₀ ▸ hmem) List.not_mem_nil
  · intro ls a e b _ hI hstep id i' l hi' hl
    have hchange := Step.intent_change hstep id
    rw [hi'] at hchange
    rcases hget : a.db.intents.get? id with - | i
    · rw [hget] at hchange
      cases hchange with
      | uploaded => exact nomatch hl
      | backfilled => exact nomatch hl
    · rw [hget] at hchange
      rcases hchange.lease with ⟨hnone, -⟩ | ⟨rfl, huntouched⟩ | ⟨token, version, haction, -, hdue,
        rfl⟩
      · exact absurd (hl.symm.trans hnone) (by simp)
      · obtain ⟨hsettled, hresolved, before, t, p, after, rfl, hid, htoken, hexpires, hafter⟩ :=
          hI id i' l hget hl
        refine ⟨hsettled, hresolved, before, t, p, after ++ [e], by simp, hid, htoken, hexpires,
          fun x hx ↦ ?_⟩
        rcases List.mem_append.1 hx with hx | hx
        · exact hafter x hx
        · rw [List.mem_singleton.1 hx]
          exact Event.returns_eq_false (Event.exitFor_eq_none huntouched)
      · obtain rfl := Option.some.inj hl
        refine ⟨hdue.1, hdue.2.1, ls, e.now, IngestionRelay.publicationOf token i version, [], ?_,
          Table.key_of_get? hget, rfl, rfl, fun x hx ↦ absurd hx List.not_mem_nil⟩
        rw [returned, ← haction]

/-- Every label that returned a publication, or finished one, is about an issued publication. -/
theorem run_issued {w₀ : World}
    (hrun : (ingestion settings).Run w₀ ls w) :
    (∀ t p, returned t p ∈ ls → p ∈ w.issued) ∧
      ∀ p, 0 < ls.countP (Event.finishes p) → p ∈ w.issued := by
  refine TransitionSystem.Run.tracked (I := fun ls w ↦
    (∀ t p, returned t p ∈ ls → p ∈ w.issued) ∧
      ∀ p, 0 < ls.countP (Event.finishes p) → p ∈ w.issued) ?_ ?_ hrun
  · exact ⟨fun t p hmem ↦ absurd hmem List.not_mem_nil, fun p hpos ↦ absurd hpos (lt_irrefl 0)⟩
  · intro ls a e b _ ⟨hreturned, hfinished⟩ hstep
    refine ⟨fun t p hmem ↦ ?_, fun p hpos ↦ ?_⟩
    · rcases List.mem_append.1 hmem with hmem | hmem
      · exact Step.issued_mono hstep (hreturned t p hmem)
      · exact Step.issued_of_returned hstep (List.mem_singleton.1 hmem).symm
    · rw [TransitionSystem.countP_snoc] at hpos
      by_cases hfin : e.finishes p = true
      · obtain ⟨success, haction⟩ := Event.finishes_eq_true_iff.1 hfin
        exact Step.issued_mono hstep (Step.issued_of_finish hstep haction)
      · rw [if_neg hfin, Nat.add_zero] at hpos
        exact Step.issued_mono hstep (hfinished p hpos)

/-! ### A publication is finished at most once -/

/-- **A finished publication holds no lease**, and was finished once. -/
def Spent (ls : List Event) (w : World) : Prop :=
  ∀ p, ls.countP (Event.finishes p) ≤ 1 ∧ (0 < ls.countP (Event.finishes p) →
    ∀ i l, w.db.intents.get? p.intentId = some i → i.lease = some l → l.token ≠ p.token)

/-- A step that reports a success finished the publication's own, unexpired lease. -/
theorem Step.finished (h : Step settings w e w') {p : Publication} {success : Bool}
    (haction : e.action = .finish p success true) :
    ∃ i l, w.db.intents.get? p.intentId = some i ∧ i.lease = some l ∧ l.token = p.token ∧
      e.now < l.expiresAt ∧
        w'.db.intents.get? p.intentId = some (i.finish settings.policy e.now success) := by
  have hchange := h.intent_change p.intentId
  generalize hrow : w.db.intents.get? p.intentId = row at hchange
  generalize hrow' : w'.db.intents.get? p.intentId = row' at hchange
  cases hchange with
  | unchanged untouched => exact absurd (by rw [haction]; exact ⟨rfl, rfl⟩) untouched
  | @finished i q success' l action issued intentId leased token unexpired =>
    obtain ⟨rfl, rfl, -⟩ := Action.finish.inj (action.symm.trans haction)
    exact ⟨i, l, rfl, leased, token, unexpired, rfl⟩
  | uploaded action => exact absurd (action.symm.trans haction) (by simp)
  | backfilled action => exact absurd (action.symm.trans haction) (by simp)
  | examined action => exact absurd (action.symm.trans haction) (by simp)
  | settled action => exact absurd (action.symm.trans haction) (by simp)
  | rearmed action => exact absurd (action.symm.trans haction) (by simp)
  | deleted action => exact absurd (action.symm.trans haction) (by simp)

theorem run_spent {w₀ : World} (h₀ : (ingestion settings).init w₀)
    (hrun : (ingestion settings).Run w₀ ls w) : Spent ls w := by
  refine TransitionSystem.Run.tracked (I := Spent) ?_ ?_ hrun
  · exact fun p ↦ ⟨Nat.zero_le _, fun hpos ↦ absurd hpos (lt_irrefl 0)⟩
  · intro ls a e b hbefore hI hstep p
    have hreach : (ingestion settings).Reachable a := ⟨w₀, ls, h₀, hbefore⟩
    have hissued := (run_issued hbefore).2 p
    obtain ⟨honce, hspent⟩ := hI p
    rw [TransitionSystem.countP_snoc]
    by_cases hfin : e.finishes p = true
    · -- The lease was still its own, so it was not finished before; now it has none.
      obtain ⟨success, haction⟩ := Event.finishes_eq_true_iff.1 hfin
      obtain ⟨i, l, hget, hlease, htoken, -, hget'⟩ := Step.finished hstep haction
      have hzero : ls.countP (Event.finishes p) = 0 :=
        Nat.eq_zero_of_not_pos fun hpos ↦ hspent hpos i l hget hlease htoken
      rw [hzero, if_pos hfin]
      refine ⟨le_rfl, fun _ i' l' hi' hl' ↦ ?_⟩
      obtain rfl := Option.some.inj (hget'.symm.trans hi')
      exact nomatch hl'
    · rw [if_neg hfin, Nat.add_zero]
      refine ⟨honce, fun hpos i' l' hi' hl' ↦ ?_⟩
      have hchange := Step.intent_change hstep p.intentId
      rw [hi'] at hchange
      rcases hget : a.db.intents.get? p.intentId with - | i
      · rw [hget] at hchange
        cases hchange with
        | uploaded => exact nomatch hl'
        | backfilled => exact nomatch hl'
      · rw [hget] at hchange
        rcases hchange.lease with ⟨hnone, -⟩ | ⟨rfl, -⟩ | ⟨token, version, -, hfresh, -, rfl⟩
        · exact absurd (hl'.symm.trans hnone) (by simp)
        · exact hspent hpos i' l' hget hl'
        · obtain rfl := Option.some.inj hl'
          rintro rfl
          exact hfresh ((reachable_coherent hreach).issued_drawn p (hissued hpos)).2.2

/-! ### Live leases -/

/-- **A live lease**: the publication was returned, its lease has not expired, and it was not
finished with success. -/
def Live (settings : Settings) (ls : List Event) (now : Instant) (p : Publication) : Prop :=
  ∃ t, returned t p ∈ ls ∧ now < t + seconds settings.policy.leaseSeconds ∧
    ls.countP (Event.finishes p) = 0

/-- The claim that returned a publication left the row with its lease. -/
theorem Step.returned_lease (h : Step settings w e w') {t : Instant} {p : Publication}
    (he : e = returned t p) : ∃ i, w'.db.intents.get? p.intentId = some i ∧
      i.lease = some ⟨p.token, t + seconds settings.policy.leaseSeconds⟩ := by
  have hexit : e.exitFor p.intentId = some (.published p) :=
    Event.exitFor_eq_some_iff.2 ⟨congrArg Event.action he, rfl⟩
  rcases (h.intent_change p.intentId).exit fun i hi ↦ Table.key_of_get? hi with hnone |
    ⟨i, i', version, token, exit, -, hi', hexit', -, -, hexamined⟩
  · exact absurd (hnone.symm.trans hexit) (by simp)
  · obtain rfl := Option.some.inj (hexit'.symm.trans hexit)
    refine ⟨i', hi', ?_⟩
    rw [← show e.now = t from congrArg Event.now he]
    cases hexamined with
    | published recoverable within => rfl

/-- A live lease in the row stays in the row until it is finished or expires. -/
theorem Step.lease_kept (hw : (ingestion settings).Reachable w) (h : Step settings w e w')
    {p : Publication} (hp : p ∈ w.issued) (hfin : e.finishes p = false) {expiresAt : Instant}
    (hnow : e.now < expiresAt) {i : DocumentIngestionIntent}
    (hget : w.db.intents.get? p.intentId = some i) (hlease : i.lease = some ⟨p.token, expiresAt⟩) :
    ∃ i', w'.db.intents.get? p.intentId = some i' ∧ i'.lease = some ⟨p.token, expiresAt⟩ := by
  have hchange := h.intent_change p.intentId
  have hleased : ¬i.LeaseFree e.now := fun hfree ↦
    absurd (hfree ⟨p.token, expiresAt⟩ hlease) (not_le.2 hnow)
  rw [hget] at hchange
  rcases hget' : w'.db.intents.get? p.intentId with - | i'
  · rw [hget'] at hchange
    cases hchange with
    | deleted action settled resolved free => exact absurd (hlease.symm.trans free) (by simp)
  · rw [hget'] at hchange
    refine ⟨i', rfl, ?_⟩
    rcases hchange.lease with ⟨-, ⟨l, hl, -, q, success, haction, htoken, hq⟩ | ⟨hfree, -⟩⟩ |
      ⟨rfl, -⟩ | ⟨token, version, -, -, hdue, -⟩
    · -- Only the publication's own finish clears an unexpired lease, and it did not happen.
      obtain rfl := Option.some.inj (hl.symm.trans hlease)
      obtain rfl := reachable_tokens hw q hq p hp htoken
      have hfin' := Event.finishes_eq_true_iff.2 ⟨success, haction⟩
      exact absurd (hfin'.symm.trans hfin) (by simp)
    · exact absurd hfree hleased
    · exact hlease
    · exact absurd hdue.2.2.2 hleased

/-- **The row holds every live lease.** -/
theorem run_live {w₀ : World} (h₀ : (clocked settings).init w₀)
    (hrun : (clocked settings).Run w₀ ls w) {t : Instant} {p : Publication}
    (hreturned : returned t p ∈ ls) (hnow : w.now < t + seconds settings.policy.leaseSeconds)
    (hunfinished : ls.countP (Event.finishes p) = 0) :
    ∃ i, w.db.intents.get? p.intentId = some i ∧
      i.lease = some ⟨p.token, t + seconds settings.policy.leaseSeconds⟩ := by
  refine TransitionSystem.Run.tracked (I := fun ls w ↦ returned t p ∈ ls →
    w.now < t + seconds settings.policy.leaseSeconds → ls.countP (Event.finishes p) = 0 →
      ∃ i, w.db.intents.get? p.intentId = some i ∧
        i.lease = some ⟨p.token, t + seconds settings.policy.leaseSeconds⟩)
    (fun hmem ↦ absurd hmem List.not_mem_nil) ?_ hrun hreturned hnow hunfinished
  intro ls a e b hbefore hI ⟨hclock, hstep⟩ hmem hnow hcount
  rw [TransitionSystem.countP_snoc] at hcount
  have hcount₀ : ls.countP (Event.finishes p) = 0 := by omega
  have hfin : e.finishes p = false := by
    by_contra htrue
    rw [if_pos (Bool.not_eq_false _ ▸ htrue)] at hcount
    omega
  rw [Step.clock hstep] at hnow
  rcases List.mem_append.1 hmem with hold | hnew
  · have hreach : (ingestion settings).Reachable a := ⟨w₀, ls, h₀, hbefore.of_restrict⟩
    obtain ⟨i, hget, hlease⟩ := hI hold (lt_of_le_of_lt hclock hnow) hcount₀
    exact Step.lease_kept hreach hstep ((run_issued hbefore.of_restrict).1 t p hold) hfin hnow hget
      hlease
  · exact Step.returned_lease hstep (List.mem_singleton.1 hnew).symm

/-- **Lease fencing between relays.** Along every run under a clock that does not go back: at most
one publication of an intent has a live lease; each publication is finished with success at most
once, and only while its lease is unexpired, no later claim has returned a publication of the
intent, and the intent is neither settled nor unresolved; and a `finish` that returns `False`
changes nothing. -/
theorem relay_lease_fencing {w₀ : World} (h₀ : (clocked settings).init w₀)
    (hrun : (clocked settings).Run w₀ ls w) :
    (∀ p q, Live settings ls w.now p → Live settings ls w.now q → p.intentId = q.intentId →
        p = q) ∧
      (∀ p, ls.countP (Event.finishes p) ≤ 1) ∧
      ∀ e w' p success, (clocked settings).step w e w' →
        (e.action = .finish p success true →
          (∃ before t after, ls = before ++ returned t p :: after ∧
            e.now < t + seconds settings.policy.leaseSeconds ∧
              ∀ x ∈ after, x.returns p.intentId = false) ∧
          ∃ i, w.db.intents.get? p.intentId = some i ∧ i.settledAt = none ∧
            i.unresolvedAt = none) ∧
        (e.action = .finish p success false → w'.db = w.db) := by
  have hopen := hrun.of_restrict
  have hreach : (ingestion settings).Reachable w := ⟨w₀, ls, h₀, hopen⟩
  have hissued := run_issued hopen
  refine ⟨fun p q hp hq hid ↦ ?_, fun p ↦ (run_spent h₀ hopen p).1,
    fun e w' p success hstep ↦ ⟨fun haction ↦ ?_, fun haction ↦ ?_⟩⟩
  · obtain ⟨t, hpret, hpnow, hpfin⟩ := hp
    obtain ⟨u, hqret, hqnow, hqfin⟩ := hq
    obtain ⟨i, hi, hpl⟩ := run_live h₀ hrun hpret hpnow hpfin
    obtain ⟨j, hj, hql⟩ := run_live h₀ hrun hqret hqnow hqfin
    rw [← hid, hi] at hj
    obtain rfl := Option.some.inj hj
    have htoken : p.token = q.token :=
      congrArg Lease.token (Option.some.inj (hpl.symm.trans hql))
    exact reachable_tokens hreach p (hissued.1 t p hpret) q (hissued.1 u q hqret) htoken
  · obtain ⟨i, l, hget, hlease, htoken, hnow, -⟩ := Step.finished hstep.2 haction
    obtain ⟨hsettled, hresolved, before, t, q, after, hls, hqid, hqtoken, hexpires, hafter⟩ :=
      run_held h₀ hopen p.intentId i l hget hlease
    have hq : returned t q ∈ ls := by rw [hls]; simp
    obtain rfl : q = p := reachable_tokens hreach q (hissued.1 t q hq) p
      (Step.issued_of_finish hstep.2 haction) (hqtoken.trans htoken)
    exact ⟨⟨before, t, after, hls, hexpires ▸ hnow, hafter⟩, i, hget, hsettled, hresolved⟩
  · cases hstep.2 with
    | finish issued run =>
      obtain ⟨-, -, rfl⟩ := Action.finish.inj haction
      rcases IngestionRelay.finish_spec run with ⟨-, hsame⟩ | ⟨htrue, -⟩
      · exact hsame
      · exact nomatch htrue
    | _ => exact nomatch haction

theorem relay_lease_fencing_sample :
    Live Sample.limits Sample.claiming 0 (Sample.publication (uuid 7)) ∧
      Sample.claiming.countP (Event.finishes (Sample.publication (uuid 7))) ≤ 1 := by
  have hrun : (clocked Sample.limits).Run Sample.installed Sample.claiming Sample.claimed :=
    Sample.run_claimed (le_refl (0 : ℤ)) (le_refl (0 : ℤ))
  refine ⟨⟨0, ?_, by decide, by decide⟩, (relay_lease_fencing Sample.initial_installed hrun).2.1 _⟩
  exact List.mem_cons_of_mem _ (List.mem_singleton_self _)

end SupportFlow
