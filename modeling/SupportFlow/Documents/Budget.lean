import SupportFlow.Documents.Changes

/-!
# The publication budget

The relay charges an intent before it talks to the broker, and compares two counters with two limits
that every operator grant raises by one. `Budgeted` is the invariant of the counters; `Exhausted`
is reached exactly when one of them meets its limit, and then only a grant lets another publication
out.

The counters live in the intent's row, which `cleanup` may delete. What survives it is the ledger:
the labels of a run. `publication_count` ties the two together, so that the bounds on the row are
bounds on the publications ever returned, and `publish_count` bounds the calls to the broker by
these.
-/

namespace SupportFlow

open PrimaryKey (key)
open IngestionRelay (versionOf Examined)

variable {settings : Settings} {policy : RelayPolicy} {w w' : World} {e : Event}

/-- **The counters of an intent**, against the limits and the grants. -/
structure DocumentIngestionIntent.Budgeted (policy : RelayPolicy)
    (intent : DocumentIngestionIntent) : Prop where
  publications : intent.publishAttempts ≤ policy.maxPublications + intent.recoveryGrants
  recoveries : intent.recoveryAttempts ≤ policy.maxRecoveries + intent.recoveryGrants
  grants : intent.recoveryGrants ≤ 3
  /-- Recoveries are charged only after a recorded publication. -/
  unpublished : intent.publishedAt = none → intent.recoveryAttempts = 0
  published : intent.publishedAt ≠ none → intent.recoveryAttempts < intent.publishAttempts
  leased : intent.lease ≠ none → 1 ≤ intent.publishAttempts
  /-- An intent is out of attempts only at one of its limits. -/
  exhausted : intent.lastError = some .attemptsExhausted → intent.Exhausted policy

/-- What later states of a row keep: no counter goes down, and a recorded publication stays. -/
structure DocumentIngestionIntent.Grows (i j : DocumentIngestionIntent) : Prop where
  publications : i.publishAttempts ≤ j.publishAttempts
  recoveries : i.recoveryAttempts ≤ j.recoveryAttempts
  grants : i.recoveryGrants ≤ j.recoveryGrants
  published : i.publishedAt ≠ none → j.publishedAt ≠ none

namespace DocumentIngestionIntent

/-- Rows with the same counters and the same recorded publication. -/
theorem Grows.of_eq {i j : DocumentIngestionIntent} (hp : j.publishAttempts = i.publishAttempts)
    (hr : j.recoveryAttempts = i.recoveryAttempts) (hg : j.recoveryGrants = i.recoveryGrants)
    (hpub : j.publishedAt = i.publishedAt) : i.Grows j :=
  ⟨hp.ge, hr.ge, hg.ge, fun h ↦ hpub ▸ h⟩

theorem Grows.trans {i j k : DocumentIngestionIntent} (h : i.Grows j) (h' : j.Grows k) :
    i.Grows k :=
  ⟨h.publications.trans h'.publications, h.recoveries.trans h'.recoveries,
    h.grants.trans h'.grants, fun hp ↦ h'.published (h.published hp)⟩

theorem budgeted_create (policy : RelayPolicy) (id organizationId versionId : UUID)
    (taskId : String) (now : Instant) :
    (create id organizationId versionId taskId now).Budgeted policy where
  publications := Nat.zero_le _
  recoveries := Nat.zero_le _
  grants := Nat.zero_le _
  unpublished _ := rfl
  published h := absurd rfl h
  leased h := absurd rfl h
  exhausted h := nomatch h

variable {intent : DocumentIngestionIntent}

/-- A charge within the budget stays within it. -/
theorem Budgeted.charge (h : intent.Budgeted policy) (hwithin : ¬intent.Exhausted policy)
    (now : Instant) (token : UUID) : (intent.charge policy now token).Budgeted policy := by
  have hlimits := not_or.1 hwithin
  refine ⟨?_, ?_, h.grants, fun hnone ↦ ?_, fun hsome ↦ ?_, fun _ ↦ Nat.le_add_left 1 _,
    fun herror ↦ absurd (h.exhausted herror) hwithin⟩
  · show intent.publishAttempts + 1 ≤ policy.maxPublications + intent.recoveryGrants
    omega
  · show (if intent.publishedAt ≠ none then intent.recoveryAttempts + 1
      else intent.recoveryAttempts) ≤ policy.maxRecoveries + intent.recoveryGrants
    split <;> omega
  · show (if intent.publishedAt ≠ none then _ else intent.recoveryAttempts) = 0
    have hnone' : intent.publishedAt = none := hnone
    rw [if_neg (not_not.2 hnone')]
    exact h.unpublished hnone'
  · show (if intent.publishedAt ≠ none then intent.recoveryAttempts + 1 else _) <
      intent.publishAttempts + 1
    have hsome' : intent.publishedAt ≠ none := hsome
    rw [if_pos hsome']
    exact Nat.succ_lt_succ (h.published hsome')

theorem Budgeted.finish (h : intent.Budgeted policy) (hleased : intent.lease ≠ none)
    (now : Instant) (success : Bool) : (intent.finish policy now success).Budgeted policy := by
  refine ⟨h.publications, h.recoveries, h.grants, fun hnone ↦ ?_, fun hsome ↦ ?_,
    fun hlease ↦ absurd rfl hlease, fun herror ↦ ?_⟩
  · cases success with
    | true => exact nomatch hnone
    | false => exact h.unpublished hnone
  · show intent.recoveryAttempts < intent.publishAttempts
    rcases hpublished : intent.publishedAt with - | t
    · -- The first recorded publication: nothing was charged as a recovery before it.
      rw [h.unpublished hpublished]
      exact h.leased hleased
    · exact h.published (by rw [hpublished]; simp)
  · cases success with
    | true => exact nomatch herror
    | false => exact nomatch herror

end DocumentIngestionIntent

/-- **Every change of an intent keeps its budget**, and its counters only grow. -/
theorem IntentChange.budgeted {id : UUID} {intent intent' : DocumentIngestionIntent}
    (h : IntentChange settings w e w' id (some intent) (some intent'))
    (hbudget : intent.Budgeted settings.policy) :
    intent'.Budgeted settings.policy ∧ intent.Grows intent' := by
  cases h with
  | unchanged untouched => exact ⟨hbudget, .of_eq rfl rfl rfl rfl⟩
  | examined action fresh due stored examined =>
    obtain ⟨hp, hr, hg, hu, hpub, hl, he⟩ := hbudget
    cases examined with
    | settled terminal =>
      exact ⟨⟨hp, hr, hg, hu, hpub, fun h ↦ absurd rfl h, he⟩, .of_eq rfl rfl rfl rfl⟩
    | ambiguous ambiguous =>
      exact ⟨⟨hp, hr, hg, hu, hpub, fun h ↦ absurd rfl h, fun h ↦ nomatch h⟩,
        .of_eq rfl rfl rfl rfl⟩
    | postponed status owner started fresh =>
      exact ⟨⟨hp, hr, hg, hu, hpub, fun h ↦ absurd rfl h, he⟩, .of_eq rfl rfl rfl rfl⟩
    | exhausted recoverable exhausted =>
      exact ⟨⟨hp, hr, hg, hu, hpub, fun h ↦ absurd rfl h, fun _ ↦ exhausted⟩,
        .of_eq rfl rfl rfl rfl⟩
    | published recoverable within =>
      refine ⟨DocumentIngestionIntent.Budgeted.charge ⟨hp, hr, hg, hu, hpub, hl, he⟩ within e.now _,
        ⟨Nat.le_succ _, ?_, le_rfl, fun h ↦ h⟩⟩
      show intent.recoveryAttempts ≤ if intent.publishedAt ≠ none then _ else _
      split <;> omega
  | @finished _ p success lease action issued intentId leased token unexpired =>
    refine ⟨hbudget.finish (by rw [leased]; simp) e.now success, ⟨le_rfl, le_rfl, le_rfl,
      fun h ↦ ?_⟩⟩
    cases success with
    | true => exact Option.some_ne_none _
    | false => exact h
  | settled action unsettled free stored terminal =>
    obtain ⟨hp, hr, hg, hu, hpub, hl, he⟩ := hbudget
    exact ⟨⟨hp, hr, hg, hu, hpub, fun h ↦ absurd rfl h, fun h ↦ nomatch h⟩, .of_eq rfl rfl rfl rfl⟩
  | rearmed action unresolved exhausted unsettled free grants stored rearmable =>
    obtain ⟨hp, hr, hg, hu, hpub, hl, he⟩ := hbudget
    exact ⟨⟨Nat.le_succ_of_le hp, Nat.le_succ_of_le hr, grants, hu, hpub, fun h ↦ absurd rfl h,
      fun h ↦ nomatch h⟩, ⟨le_rfl, le_rfl, Nat.le_succ _, fun h ↦ h⟩⟩

/-- **Every intent of a reachable world is within its budget.** -/
theorem reachable_budgeted (hw : (ingestion settings).Reachable w) {id : UUID}
    {intent : DocumentIngestionIntent} (hget : w.db.intents.get? id = some intent) :
    intent.Budgeted settings.policy := by
  exact intent_rule (P := fun _ i ↦ i.Budgeted settings.policy) (fun _ h ↦ h) (fun _ _ _ h ↦ h)
    (fun _ _ _ id organizationId versionId taskId _ _ ↦
      DocumentIngestionIntent.budgeted_create settings.policy id organizationId versionId taskId _)
    (fun _ _ _ _ _ _ _ _ _ hchange hbudget ↦ (hchange.budgeted hbudget).1) hw hget

/-- A deleted intent does not come back: its id was drawn before. -/
theorem IntentChange.none_of_drawn {id : UUID} {row : Option DocumentIngestionIntent}
    (hdrawn : id ∈ w.generated) (h : IntentChange settings w e w' id none row) : row = none := by
  cases h with
  | unchanged untouched => rfl
  | uploaded action intentId fresh drawn => exact absurd hdrawn fresh
  | backfilled action fresh drawn => exact absurd hdrawn fresh

/-- **The invariant rule of one row**: what every change of an intent keeps, it has over any run for
as long as it exists. -/
theorem intent_invariant {I : DocumentIngestionIntent → Prop} {w₀ : World} {ls : List Event}
    (hw : (ingestion settings).Reachable w₀) (hrun : (ingestion settings).Run w₀ ls w) {id : UUID}
    {intent : DocumentIngestionIntent} (hget : w₀.db.intents.get? id = some intent)
    (hI : I intent)
    (hstep : ∀ a l b i i', (ingestion settings).Reachable a → l ∈ ls →
      a.db.intents.get? id = some i → I i →
        IntentChange settings a l b id (some i) (some i') → I i') :
    id ∈ w.generated ∧ ∀ i, w.db.intents.get? id = some i → I i := by
  refine TransitionSystem.Run.invariant_from
    (I := fun w ↦ id ∈ w.generated ∧ ∀ i, w.db.intents.get? id = some i → I i)
    hw ⟨(reachable_coherent hw).intents_drawn id intent hget, fun i hi ↦ ?_⟩
    (fun a l b ha hl hold h ↦ ⟨Step.generated_mono h hold.1, fun i' hi' ↦ ?_⟩) hrun
  · exact Option.some.inj (hget.symm.trans hi) ▸ hI
  · have hchange := Step.intent_change h id
    rcases hrow : a.db.intents.get? id with - | i
    · -- The identifier was drawn, so no other row comes to have it.
      rw [hrow] at hchange
      rw [hchange.none_of_drawn hold.1] at hi'
      cases hi'
    · rw [hrow, hi'] at hchange
      exact hstep a l b i i' ha hl hrow (hold.2 i hrow) hchange

/-- Over any run, an intent's counters only grow as long as it exists, and its publication stays
recorded. -/
theorem run_grows {w₀ : World} {ls : List Event} (hw : (ingestion settings).Reachable w₀)
    (hrun : (ingestion settings).Run w₀ ls w) {id : UUID} {intent intent' : DocumentIngestionIntent}
    (hget : w₀.db.intents.get? id = some intent) (hget' : w.db.intents.get? id = some intent') :
    intent.Grows intent' := by
  refine (intent_invariant hw hrun hget (.of_eq rfl rfl rfl rfl)
    fun a l b i i' ha _ hrow hgrows hchange ↦ ?_).2 intent' hget'
  exact hgrows.trans (hchange.budgeted (reachable_budgeted ha hrow)).2

/-! ### Counting publications -/

/-- The step's claim returned a publication of the intent. -/
def Event.returns (id : UUID) (e : Event) : Bool :=
  (e.exitFor id).any fun exit ↦ exit.publication?.isSome

/-- The step hands a publication of the intent to the broker. -/
def Event.publishes (id : UUID) (e : Event) : Bool :=
  match e.action with
  | .publish p _ => decide (p.intentId = id)
  | _ => false

/-- A change charges the intent exactly when its label says a publication was returned. -/
theorem IntentChange.returns {id : UUID} {intent intent' : DocumentIngestionIntent}
    (h : IntentChange settings w e w' id (some intent) (some intent')) (hkey : intent.id = id) :
    intent'.publishAttempts = intent.publishAttempts + if e.returns id then 1 else 0 := by
  have hno : e.exitFor id = none → ((if e.returns id then 1 else 0) : ℕ) = 0 := by
    intro hnone
    simp [Event.returns, hnone]
  rcases h.exit (by rintro i ⟨⟩; exact hkey) with hnone | ⟨i, i', version, token, exit, hi, hi',
    hexit, -, -, hexamined⟩
  · rw [hno hnone]
    cases h with
    | examined action fresh due stored examined =>
      have hexit := Event.exitFor_eq_some_iff.2 ⟨action, hkey ▸ examined.intentId?⟩
      exact absurd (hnone.symm.trans hexit) (by simp)
    | _ => rfl
  · obtain rfl := Option.some.inj hi
    obtain rfl := Option.some.inj hi'
    cases hexamined <;> simp [Event.returns, hexit, ClaimExit.publication?,
      DocumentIngestionIntent.charge]

/-- What a claim's label returns, read off its exit. -/
theorem Event.returns_relayClaim (id : UUID) (t : Instant) (exit : ClaimExit) :
    Event.returns id ⟨t, .relayClaim exit⟩ =
      exit.publication?.any fun p ↦ decide (p.intentId = id) := by
  unfold returns exitFor
  cases exit with
  | published p =>
    by_cases hid : p.intentId = id <;> simp [ClaimExit.publication?, ClaimExit.intentId?, hid]
  | _ =>
    show Option.any _ (if _ then _ else _) = false
    split <;> rfl

theorem Event.returns_eq_false {id : UUID} (h : e.exitFor id = none) : e.returns id = false := by
  rw [Event.returns, h, Option.any_none]

/-- **The ledger of publications**: as long as the intent exists, its counter is the number of
publications returned; after its deletion the bound stays, and before its creation there are none.
-/
theorem publication_count {w₀ : World} {ls : List Event} (h₀ : (ingestion settings).init w₀)
    (hrun : (ingestion settings).Run w₀ ls w) (id : UUID) :
    (∀ i, w.db.intents.get? id = some i → ls.countP (Event.returns id) = i.publishAttempts) ∧
      (w.db.intents.get? id = none →
        ls.countP (Event.returns id) ≤ settings.policy.maxPublications + 3) ∧
      (id ∉ w.generated → ls.countP (Event.returns id) = 0) := by
  refine TransitionSystem.Run.tracked (I := fun ls w ↦
    (∀ i, w.db.intents.get? id = some i → ls.countP (Event.returns id) = i.publishAttempts) ∧
      (w.db.intents.get? id = none →
        ls.countP (Event.returns id) ≤ settings.policy.maxPublications + 3) ∧
      (id ∉ w.generated → ls.countP (Event.returns id) = 0)) ?_ ?_ hrun
  · refine ⟨fun i hi ↦ ?_, fun _ ↦ Nat.zero_le _, fun _ ↦ rfl⟩
    have hmem : i ∈ w₀.db.intents.rows := Table.mem_of_get? hi
    exact absurd (World.Initial.no_intents h₀ ▸ hmem) List.not_mem_nil
  · intro ls a e b hbefore ⟨hrow, hgone, hunborn⟩ hstep
    have ha : (ingestion settings).Reachable a := ⟨w₀, ls, h₀, hbefore⟩
    rw [TransitionSystem.countP_snoc]
    have hchange := Step.intent_change hstep id
    refine ⟨fun i' hi' ↦ ?_, fun hnone ↦ ?_, fun hid ↦ ?_⟩
    · rcases hget : a.db.intents.get? id with - | i
      · rw [Event.returns_eq_false (Step.exitFor_eq_none hstep (Or.inl hget))]
        rw [hget, hi'] at hchange
        cases hchange with
        | uploaded action intentId fresh drawn => exact hunborn fresh
        | backfilled action fresh drawn => exact hunborn fresh
      · rw [hget, hi'] at hchange
        rw [hrow i hget, hchange.returns (Table.key_of_get? hget)]
    · rw [Event.returns_eq_false (Step.exitFor_eq_none hstep (Or.inr hnone))]
      rcases hget : a.db.intents.get? id with - | i
      · exact hgone hget
      · have hbudget := reachable_budgeted ha hget
        have hcount := hrow i hget
        have hp := hbudget.publications
        have hg := hbudget.grants
        show ls.countP (Event.returns id) ≤ _
        omega
    · have hid₀ : id ∉ a.generated := fun h ↦ hid (Step.generated_mono hstep h)
      have hexit := Step.exitFor_unborn (reachable_coherent ha) hstep hid₀
      rw [hunborn hid₀, Event.returns_eq_false hexit]
      rfl

/-- **At most `maxPublications + 3` publications of an intent are ever returned.** -/
theorem publications_bounded {w₀ : World} {ls : List Event} (h₀ : (ingestion settings).init w₀)
    (hrun : (ingestion settings).Run w₀ ls w) (id : UUID) :
    ls.countP (Event.returns id) ≤ settings.policy.maxPublications + 3 := by
  obtain ⟨hrow, hgone, -⟩ := publication_count h₀ hrun id
  rcases hget : w.db.intents.get? id with - | i
  · exact hgone hget
  · have hbudget := reachable_budgeted ⟨w₀, ls, h₀, hrun⟩ hget
    have hp := hbudget.publications
    have hg := hbudget.grants
    rw [hrow i hget]
    omega

/-- **Every publication handed to the broker was returned by a claim**, and none is handed over
twice. -/
theorem publish_count {w₀ : World} {ls : List Event} (h₀ : (ingestion settings).init w₀)
    (hrun : (ingestion settings).Run w₀ ls w) (id : UUID) :
    ls.countP (Event.publishes id) + w.pending.countP (fun p ↦ decide (p.intentId = id)) =
      ls.countP (Event.returns id) := by
  refine TransitionSystem.Run.tracked (I := fun ls w ↦
    ls.countP (Event.publishes id) + w.pending.countP (fun p ↦ decide (p.intentId = id)) =
      ls.countP (Event.returns id)) ?_ ?_ hrun
  · rw [World.Initial.nothing_issued h₀ |>.2]
    rfl
  · intro ls a e b _ hI hstep
    rw [TransitionSystem.countP_snoc, TransitionSystem.countP_snoc]
    cases hstep with
    | @relayClaim t locked token exit db fresh run =>
      show ls.countP (Event.publishes id) + 0 +
        (a.pending ++ exit.publication?.toList).countP _ = _
      rw [List.countP_append, Nat.add_zero, ← Nat.add_assoc, hI]
      rw [Event.returns_relayClaim]
      cases exit.publication? <;> simp
    | @publish t p accepted pending =>
      have hperm := (List.perm_cons_erase pending).countP_eq fun p ↦ decide (p.intentId = id)
      rw [hperm, List.countP_cons] at hI
      show ls.countP (Event.publishes id) + (if decide (p.intentId = id) then 1 else 0) +
        (a.pending.erase p).countP _ = ls.countP (Event.returns id) + 0
      omega
    | _ => exact hI

/-- **The publication budgets of the relay.** In every reachable world the counters of every intent
respect the limits raised by the grants; along every run they never decrease and a recorded
publication stays recorded; and over the whole run at most `maxPublications + 3` publications of the
intent are returned, and at most as many are handed to the broker. -/
theorem relay_publication_budget {w₀ : World} {ls : List Event}
    (h₀ : (ingestion settings).init w₀) (hrun : (ingestion settings).Run w₀ ls w) (id : UUID) :
    (∀ i, w.db.intents.get? id = some i →
        i.publishAttempts ≤ settings.policy.maxPublications + i.recoveryGrants ∧
        i.recoveryAttempts ≤ settings.policy.maxRecoveries + i.recoveryGrants ∧
        i.recoveryGrants ≤ 3 ∧ (0 < i.recoveryAttempts → i.recoveryAttempts < i.publishAttempts)) ∧
      (∀ ms w' i i', (ingestion settings).Run w ms w' → w.db.intents.get? id = some i →
        w'.db.intents.get? id = some i' →
          (i.publishedAt ≠ none → i'.publishedAt ≠ none) ∧
            i.publishAttempts ≤ i'.publishAttempts ∧ i.recoveryAttempts ≤ i'.recoveryAttempts ∧
              i.recoveryGrants ≤ i'.recoveryGrants) ∧
      ls.countP (Event.returns id) ≤ settings.policy.maxPublications + 3 ∧
        ls.countP (Event.publishes id) ≤ settings.policy.maxPublications + 3 := by
  have hw : (ingestion settings).Reachable w := ⟨w₀, ls, h₀, hrun⟩
  have hreturned := publications_bounded h₀ hrun id
  refine ⟨fun i hi ↦ ?_, fun ms w' i i' hms hi hi' ↦ ?_, hreturned, ?_⟩
  · have hbudget := reachable_budgeted hw hi
    refine ⟨hbudget.publications, hbudget.recoveries, hbudget.grants, fun hpos ↦ ?_⟩
    refine hbudget.published fun hnone ↦ ?_
    rw [hbudget.unpublished hnone] at hpos
    exact absurd hpos (lt_irrefl 0)
  · have hgrows := run_grows hw hms hi hi'
    exact ⟨hgrows.published, hgrows.publications, hgrows.recoveries, hgrows.grants⟩
  · have hcount := publish_count h₀ hrun id
    omega

theorem relay_publication_budget_sample :
    Sample.claiming.countP (Event.returns (uuid 5)) = 1 ∧
      Sample.claiming.countP (Event.returns (uuid 5)) ≤ 1 + 3 := by
  have hrun : (ingestion Sample.limits).Run Sample.installed Sample.claiming Sample.claimed :=
    (Sample.run_claimed (A := fun _ _ ↦ True) trivial trivial).of_restrict
  exact ⟨by decide, (relay_publication_budget Sample.initial_installed hrun (uuid 5)).2.2.1⟩

/-! ### What a grant buys -/

/-- A rearm, as a step: the intent it grants, the version it checked, and nothing else changed. -/
theorem Step.rearmed (h : Step settings w e w') {id : UUID} {extractingSeconds : ℤ}
    {maxWorkerAttempts : ℕ} (haction : e.action = .rearm id extractingSeconds maxWorkerAttempts) :
    ∃ intent version, w.db.intents.get? id = some intent ∧
      w'.db.intents.get? id = some (intent.rearm e.now) ∧ w'.db.versions = w.db.versions ∧
        intent.lastError = some .attemptsExhausted ∧ versionOf w.db intent = some version ∧
          Rearmable e.now extractingSeconds maxWorkerAttempts intent version := by
  cases h with
  | @rearm t _ _ _ _ _ _ _ _ db run =>
    obtain ⟨rfl, rfl, rfl⟩ := Action.rearm.inj haction
    obtain ⟨intent, version, event, hget, -, -, hexhausted, -, -, -, hversion, hrearmable, -, -,
      rfl⟩ := rearmIntent_spec run
    refine ⟨intent, version, hget, ?_, rfl, hexhausted, hversion, hrearmable⟩
    have hid : intent.id = _ := Table.key_of_get? hget
    rw [← hid] at hget ⊢
    show ((w.db.setIntent (intent.rearm t)).intents).get? intent.id = _
    rw [get?_setIntent hget (intent.rearm_id t), if_pos rfl]
  | _ => exact nomatch haction

/-- A grant lifts an exhausted intent off both of its limits. -/
theorem DocumentIngestionIntent.Budgeted.rearm_within {intent : DocumentIngestionIntent}
    (h : intent.Budgeted policy) (now : Instant) : ¬(intent.rearm now).Exhausted policy := by
  have hp := h.publications
  have hr := h.recoveries
  refine not_or.2 ⟨?_, ?_⟩
  · show ¬policy.maxPublications + (intent.recoveryGrants + 1) ≤ intent.publishAttempts
    omega
  · show ¬policy.maxRecoveries + (intent.recoveryGrants + 1) ≤ intent.recoveryAttempts
    omega

/-- **One grant, one publication**: charging an intent that was exhausted before the grant exhausts
it again. At the recovery limit this needs the limit to be positive, since only then was a
publication recorded and the charge is a recovery. -/
theorem DocumentIngestionIntent.Budgeted.charge_exhausted {intent : DocumentIngestionIntent}
    (h : intent.Budgeted policy) (hrecoveries : 1 ≤ policy.maxRecoveries)
    (hexhausted : intent.Exhausted policy) (granted now : Instant) (token : UUID) :
    ((intent.rearm granted).charge policy now token).Exhausted policy := by
  rcases hexhausted with hp | hr
  · refine Or.inl ?_
    show policy.maxPublications + (intent.recoveryGrants + 1) ≤ intent.publishAttempts + 1
    omega
  · refine Or.inr ?_
    have hpublished : intent.publishedAt ≠ none := by
      intro hnone
      have := h.unpublished hnone
      omega
    show policy.maxRecoveries + (intent.recoveryGrants + 1) ≤
      if intent.publishedAt ≠ none then intent.recoveryAttempts + 1 else intent.recoveryAttempts
    rw [if_pos hpublished]
    omega

/-- **A rearmed intent, selected, is published**: its version is still recoverable, since the claim
comes no earlier than the grant, and the grant left room in the budget. -/
theorem IngestionRelay.Examined.of_rearmed {intent row : DocumentIngestionIntent}
    {version : DocumentVersion} {granted now : Instant} {maxWorkerAttempts : ℕ} {token : UUID}
    {exit : ClaimExit}
    (hbudget : intent.Budgeted policy)
    (hrearmable : Rearmable granted policy.extractingSeconds maxWorkerAttempts intent version)
    (hdue : (intent.rearm granted).Due now)
    (h : Examined policy now token (intent.rearm granted) version exit row) :
    exit = .published (IngestionRelay.publicationOf token (intent.rearm granted) version) ∧
      row = (intent.rearm granted).charge policy now token := by
  have hclock : granted ≤ now := hdue.2.2.1
  cases h with
  | published recoverable within => exact ⟨rfl, rfl⟩
  | exhausted recoverable exhausted => exact absurd exhausted (hbudget.rearm_within granted)
  | settled terminal =>
    rcases hrearmable with ⟨hqueued, -⟩ | ⟨hextracting, -⟩
    · exact absurd terminal (by rw [hqueued]; decide)
    · exact absurd terminal (by rw [hextracting]; decide)
  | ambiguous ambiguous =>
    rcases hrearmable with ⟨hqueued, -, howner⟩ | ⟨hextracting, howner, startedAt, hstarted, -⟩
    · rcases ambiguous with ⟨hstatus, -⟩ | ⟨-, hsome, hother⟩
      · exact absurd (hqueued.symm.trans hstatus) (by decide)
      · exact absurd (howner.resolve_left hsome) hother
    · rcases ambiguous with ⟨-, hother | hnone⟩ | ⟨hstatus, -⟩
      · exact absurd howner hother
      · exact absurd (hstarted.symm.trans hnone) (by simp)
      · exact absurd (hextracting.symm.trans hstatus) (by decide)
  | postponed status owner started fresh =>
    rcases hrearmable with ⟨hqueued, -⟩ | ⟨-, -, startedAt, hstarted, hpassed⟩
    · exact absurd (hqueued.symm.trans status) (by decide)
    · obtain rfl := Option.some.inj (started.symm.trans hstarted)
      exact absurd (hpassed.trans hclock) (not_le.2 fresh)

/-- From an exhausted intent on, without a grant, no claim returns a publication of it. -/
theorem exhausted_run {w₀ : World} {ls : List Event} (hw : (ingestion settings).Reachable w₀)
    (hrun : (ingestion settings).Run w₀ ls w) {id : UUID} {intent : DocumentIngestionIntent}
    (hget : w₀.db.intents.get? id = some intent) (hexhausted : intent.Exhausted settings.policy)
    (hgrant : ∀ e ∈ ls, ∀ x y, e.action ≠ .rearm id x y) :
    id ∈ w.generated ∧ ∀ i, w.db.intents.get? id = some i → i.Exhausted settings.policy := by
  refine intent_invariant hw hrun hget hexhausted fun a l b i i' _ hl _ hold hchange ↦ ?_
  cases hchange with
  | unchanged untouched => exact hold
  | examined action fresh due stored examined =>
    cases examined with
    | published recoverable within => exact absurd hold within
    | _ => exact hold
  | finished => exact hold
  | settled => exact hold
  | rearmed action => exact absurd action (hgrant l hl _ _)

/-- A claim that returns a publication found its intent within the budget. -/
theorem Step.returns_within (h : Step settings w e w') {id : UUID}
    (hreturns : e.returns id = true) :
    ∃ i, w.db.intents.get? id = some i ∧ ¬i.Exhausted settings.policy := by
  rcases (h.intent_change id).exit fun i hi ↦ Table.key_of_get? hi with hnone | ⟨i, i', version,
    token, exit, hi, -, hexit, -, -, hexamined⟩
  · exact absurd (hreturns.symm.trans (Event.returns_eq_false hnone)) (by simp)
  · refine ⟨i, hi, ?_⟩
    rw [Event.returns, hexit, Option.any_some] at hreturns
    cases hexamined with
    | published recoverable within => exact within
    | _ => exact absurd hreturns (by simp [ClaimExit.publication?])

/-- **Every operator grant buys exactly one useful publication.** Let a rearm succeed, with the
limits the relay and the worker use, and let the intent and its version be as it left them when a
claim selects the intent. Then the claim returns a publication; a worker that claims the version for
it, while it is still as it was, gets a record; and until another grant no further publication of
the intent is returned, whatever happens to this one. -/
theorem grant_buys_one_publication {w₀ w₁ w₂ w₃ : World} {granting claiming : Event}
    {ls : List Event} {id : UUID} {intent : DocumentIngestionIntent} {version : DocumentVersion}
    {exit : ClaimExit} (hrecoveries : 1 ≤ settings.policy.maxRecoveries)
    (hw : (ingestion settings).Reachable w₀)
    (hgrant : (ingestion settings).step w₀ granting w₁)
    (hgranting : granting.action =
      .rearm id settings.policy.extractingSeconds settings.maxAttempts)
    (hintent : w₁.db.intents.get? id = some intent)
    (hversion : w₁.db.versions.get? intent.documentVersionId = some version)
    (hrun : (ingestion settings).Run w₁ ls w₂)
    (hintent₂ : w₂.db.intents.get? id = some intent)
    (hversion₂ : w₂.db.versions.get? intent.documentVersionId = some version)
    (hclaim : (ingestion settings).step w₂ claiming w₃)
    (hclaiming : claiming.action = .relayClaim exit) (hselects : exit.intentId? = some id) :
    ∃ publication, exit = .published publication ∧
      (∀ ms w₄, (ingestion settings).Run w₃ ms w₄ →
        w₄.db.versions.get? publication.versionId = some version →
          ∀ startedAt, ∃ claimed db, DocumentIngestionService.claim settings.maxAttempts startedAt
            publication.versionId publication.taskId w₄.db = .ok (.claimed claimed, db)) ∧
      ∀ ms w₄, (ingestion settings).Run w₃ ms w₄ →
        (∀ e ∈ ms, ∀ x y, e.action ≠ .rearm id x y) → ∀ e ∈ ms, e.returns id = false := by
  obtain ⟨i, v, hget, hget', hversions, herror, hstored, hrearmable⟩ :=
    Step.rearmed hgrant hgranting
  obtain rfl := Option.some.inj (hget'.symm.trans hintent)
  obtain ⟨hv, -⟩ := IngestionRelay.versionOf_eq_some_iff.1 hstored
  have hv' : w₁.db.versions.get? i.documentVersionId = some v := by rw [hversions, hv]
  obtain rfl := Option.some.inj (hv'.symm.trans hversion)
  have hbudget := reachable_budgeted hw hget
  have hw₂ : (ingestion settings).Reachable w₂ := (hw.step hgrant).run hrun
  have hexit := Event.exitFor_eq_some_iff.2 ⟨hclaiming, hselects⟩
  rcases (Step.intent_change hclaim id).exit fun i hi ↦ Table.key_of_get? hi with hnone |
    ⟨j, j', version', token, exit', hj, hj', hexit', hdue, hstored', hexamined⟩
  · exact absurd (hnone.symm.trans hexit) (by simp)
  obtain rfl := Option.some.inj (hintent₂.symm.trans hj)
  obtain rfl := Option.some.inj (hexit'.symm.trans hexit)
  obtain rfl : v = version' := Option.some.inj
    (hversion₂.symm.trans (IngestionRelay.versionOf_eq_some_iff.1 hstored').1)
  obtain ⟨rfl, rfl⟩ := hexamined.of_rearmed hbudget hrearmable hdue
  have hw₃ : (ingestion settings).Reachable w₃ := hw₂.step hclaim
  refine ⟨_, rfl, fun ms w₄ hms hrow startedAt ↦ ?_, fun ms w₄ hms hnogrant e he ↦ ?_⟩
  · obtain ⟨document, hdocument, horg⟩ :=
      (reachable_coherent (hw₃.run hms)).consistent.document_of_version v (Table.mem_of_get? hrow)
    refine DocumentIngestionService.claim_claimed startedAt
      (DocumentIngestionService.loadLocked_eq_some_iff.2 ⟨hrow, hdocument, horg⟩) ?_
    rcases hrearmable with ⟨hqueued, hbelow, -⟩ | ⟨hextracting, howner, -⟩
    · exact Or.inl ⟨hqueued, hbelow⟩
    · exact Or.inr ⟨hextracting, howner⟩
  · have hexhausted := hbudget.charge_exhausted hrecoveries (hbudget.exhausted herror) granting.now
      claiming.now token
    obtain ⟨ns, a, b, rest, hbefore, hstep, -, rfl⟩ := hms.exists_step_of_mem he
    have hstill := exhausted_run hw₃ hbefore hj' hexhausted fun e he ↦
      hnogrant e (List.mem_append_left _ he)
    by_contra hreturns
    obtain ⟨k, hk, hwithin⟩ := Step.returns_within hstep (Bool.not_eq_false _ ▸ hreturns)
    exact hwithin (hstill.2 k hk)

/-! ### A grant -/

namespace Sample

/-- The intent after its publication was finished, after its budget ran out, and after the grant. -/
def finishedIntent : DocumentIngestionIntent :=
  (intent.charge limits.policy 0 (uuid 7)).finish limits.policy 0 true

def exhaustedIntent : DocumentIngestionIntent :=
  finishedIntent.unresolve 1000000 .attemptsExhausted

def grantedIntent : DocumentIngestionIntent :=
  exhaustedIntent.rearm 1000000

def finished : World :=
  { claimed with db := database finishedIntent [documentUploaded] }

def exhausted : World :=
  { finished with
    now := 1000000
    db := database exhaustedIntent [documentUploaded]
    generated := finished.generated ++ [uuid 8] }

def rearmed : AuditEvent :=
  ⟨uuid 1, some (uuid 2), .documentDispatchRearmed, .documentVersion, some (uuid 4),
    [("reason", .str "dependency_repaired"), ("grant_number", .int 1)]⟩

def granted : World :=
  { exhausted with db := database grantedIntent [documentUploaded, rearmed] }

/-- The relay has claimed the granted intent. -/
def reclaimed : World :=
  { granted with
    db := database (grantedIntent.charge limits.policy 1000000 (uuid 9)) [documentUploaded, rearmed]
    issued := [publication (uuid 7), publication (uuid 9)]
    pending := [publication (uuid 7), publication (uuid 9)]
    generated := granted.generated ++ [uuid 9] }

theorem step_finished :
    Step limits claimed ⟨0, .finish (publication (uuid 7)) true true⟩ finished :=
  @Step.finish limits claimed 0 (publication (uuid 7)) true true finished.db
    (List.mem_singleton_self _) rfl

theorem step_exhausted :
    Step limits finished ⟨1000000, .relayClaim (.exhausted (uuid 5))⟩ exhausted :=
  @Step.relayClaim limits finished 1000000 (fun _ ↦ false) (uuid 8) (.exhausted (uuid 5))
    exhausted.db (World.fresh_singleton (show uuid 8 ∉ ids.draws ++ [uuid 7] by decide)) rfl

theorem step_granted : Step limits exhausted ⟨1000000, .rearm (uuid 5) 1 3⟩ granted :=
  @Step.rearm limits exhausted 1000000 (uuid 1) (uuid 5) (uuid 2) true (fun _ ↦ false) 1 3 1
    granted.db rfl

theorem step_reclaimed :
    Step limits granted ⟨1000000, .relayClaim (.published (publication (uuid 9)))⟩ reclaimed :=
  @Step.relayClaim limits granted 1000000 (fun _ ↦ false) (uuid 9)
    (.published (publication (uuid 9))) reclaimed.db
    (World.fresh_singleton (show uuid 9 ∉ ids.draws ++ [uuid 7] ++ [uuid 8] by decide)) rfl

theorem reachable_exhausted : (ingestion limits).Reachable exhausted :=
  ((TransitionSystem.Reachable.of_init (M := ingestion limits) initial_installed).run
    (run_claimed (A := fun _ _ ↦ True) trivial trivial).of_restrict).step step_finished
      |>.step step_exhausted

end Sample

theorem grant_buys_one_publication_sample :
    ∃ publication, ClaimExit.published (Sample.publication (uuid 9)) = .published publication ∧
      ∀ ms w, (ingestion Sample.limits).Run Sample.reclaimed ms w →
        (∀ e ∈ ms, ∀ x y, e.action ≠ .rearm (uuid 5) x y) →
          ∀ e ∈ ms, e.returns (uuid 5) = false := by
  obtain ⟨publication, hexit, -, hlast⟩ :=
    grant_buys_one_publication (show 1 ≤ Sample.limits.policy.maxRecoveries by decide)
      Sample.reachable_exhausted Sample.step_granted rfl
      (show Sample.granted.db.intents.get? (uuid 5) = some Sample.grantedIntent from rfl)
      (show Sample.granted.db.versions.get? (uuid 4) = some Sample.version from rfl) (.nil _)
      rfl rfl Sample.step_reclaimed rfl rfl
  exact ⟨publication, hexit, hlast⟩

end SupportFlow
