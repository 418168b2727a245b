import SupportFlow.Documents.Lifecycle

/-!
# No accepted upload is lost

An upload commits a version and an intent together, and from then on they are written by different
transactions: workers end versions, relays settle intents. What ties them together again is that an
intent is settled, and later deleted, only under a terminal version, and that terminal is for good.
So a version still in progress always has its intent, unsettled; and an unsettled intent is either
shown to the operator or due again within a fixed time, which is the largest delay any transaction
sets.

The first half holds in any environment. The bound on the delay needs a database clock that does not
go back and start times that are not in its future, and only it does.
-/

namespace SupportFlow

open IngestionRelay (versionOf Examined)

variable {settings : Settings} {w w' : World} {e : Event}

/-! ### Settlement -/

/-- A settled intent is resolved and free, and its version has ended. -/
def SettledSoundly (db : Database) (intent : DocumentIngestionIntent) : Prop :=
  intent.settledAt ≠ none → intent.unresolvedAt = none ∧ intent.lease = none ∧
    ∃ version, versionOf db intent = some version ∧ version.status.Terminal

/-- An ended version stays the version of its intent. -/
theorem Step.versionOf_terminal (hw : w.Coherent) (h : Step settings w e w')
    {intent intent' : DocumentIngestionIntent} {version : DocumentVersion}
    (hsame : intent'.SameIdentity intent) (hstored : versionOf w.db intent = some version)
    (hterminal : version.status.Terminal) : versionOf w'.db intent' = some version := by
  obtain ⟨hget, horg⟩ := IngestionRelay.versionOf_eq_some_iff.1 hstored
  obtain ⟨added, hchange, -⟩ := h.version_change hw.claims_backed intent.documentVersionId
  rw [hget] at hchange
  refine IngestionRelay.versionOf_eq_some_iff.2 ⟨?_, ?_⟩
  · rw [hsame.2.2.1]
    exact (hchange.of_terminal hterminal).1
  · rw [hsame.2.1]
    exact horg

/-- **Settlement is sound in every reachable world.** -/
theorem reachable_settled (hw : (ingestion settings).Reachable w) {id : UUID}
    {intent : DocumentIngestionIntent} (hget : w.db.intents.get? id = some intent) :
    SettledSoundly w.db intent := by
  refine intent_rule (P := fun w i ↦ SettledSoundly w.db i) (fun _ h ↦ h) (fun _ _ _ h ↦ h) ?_ ?_
    hw hget
  · intro _ _ _ _ _ _ _ _ _ hsettled
    exact absurd rfl hsettled
  · intro a e b id i i' ha hstep hrow hchange hI hsettled
    have hcoherent := reachable_coherent ha
    -- A change that leaves the settlement alone passes the old state on.
    have hold : i.settledAt ≠ none → ∃ version, versionOf b.db i' = some version ∧
        version.status.Terminal := by
      intro h
      obtain ⟨-, -, version, hstored, hterminal⟩ := hI h
      exact ⟨version, Step.versionOf_terminal hcoherent hstep hchange.identity hstored hterminal,
        hterminal⟩
    have hnew : ∀ {version}, versionOf a.db i = some version → version.status.Terminal →
        ∃ version, versionOf b.db i' = some version ∧ version.status.Terminal :=
      fun hstored hterminal ↦ ⟨_, Step.versionOf_terminal hcoherent hstep hchange.identity hstored
        hterminal, hterminal⟩
    cases hchange with
    | unchanged untouched =>
      obtain ⟨hresolved, hfree, -⟩ := hI hsettled
      exact ⟨hresolved, hfree, hold hsettled⟩
    | examined action fresh due stored examined =>
      cases examined with
      | settled terminal => exact ⟨due.2.1, rfl, hnew stored terminal⟩
      | ambiguous ambiguous => exact absurd due.1 hsettled
      | postponed status owner started fresh => exact absurd due.1 hsettled
      | exhausted recoverable exhausted => exact absurd due.1 hsettled
      | published recoverable within => exact absurd due.1 hsettled
    | finished action issued intentId leased token unexpired =>
      have hfree := (hI hsettled).2.1
      exact absurd (leased.symm.trans hfree) (by simp)
    | settled action unsettled free stored terminal => exact ⟨rfl, rfl, hnew stored terminal⟩
    | rearmed action unresolved exhausted unsettled free grants stored rearmable =>
      exact absurd unsettled hsettled

/-- **An uploaded version keeps its intent until it has ended.** -/
theorem reachable_intent (hw : (ingestion settings).Reachable w) :
    ∀ ids ∈ w.uploads, ∃ version, w.db.versions.get? ids.versionId = some version ∧
      (version.status.Terminal ∨ ∃ intent, w.db.intents.get? ids.intentId = some intent ∧
        intent.documentVersionId = ids.versionId) := by
  refine hw.invariant (I := fun w ↦ ∀ ids ∈ w.uploads, ∃ version,
    w.db.versions.get? ids.versionId = some version ∧
      (version.status.Terminal ∨ ∃ intent, w.db.intents.get? ids.intentId = some intent ∧
        intent.documentVersionId = ids.versionId)) ?_ ?_
  · intro w₀ h₀ ids hids
    exact absurd (World.Initial.no_uploads h₀ ▸ hids) List.not_mem_nil
  · intro a e b ha hI hstep ids hids
    have hcoherent := reachable_coherent ha
    have hold : ids ∈ a.uploads → ∃ version, b.db.versions.get? ids.versionId = some version ∧
        (version.status.Terminal ∨ ∃ intent, b.db.intents.get? ids.intentId = some intent ∧
          intent.documentVersionId = ids.versionId) := by
      intro hmem
      obtain ⟨version, hget, hstate⟩ := hI ids hmem
      obtain ⟨added, hchange, -⟩ :=
        Step.version_change hcoherent.claims_backed hstep ids.versionId
      rw [hget] at hchange
      obtain ⟨version', hget', -⟩ := hchange.kept
      rcases hstate with hterminal | ⟨intent, hintent, hversion⟩
      · exact ⟨version, (hchange.of_terminal hterminal).1, Or.inl hterminal⟩
      · refine ⟨version', hget', ?_⟩
        have hrow := Step.intent_change hstep ids.intentId
        rw [hintent] at hrow
        rcases hintent' : b.db.intents.get? ids.intentId with - | intent'
        · -- The intent was deleted, so it was settled, so its version had ended.
          rw [hintent'] at hrow
          have hsettled : intent.settledAt ≠ none := by
            cases hrow with
            | deleted action settled resolved free => simp [settled]
          obtain ⟨-, -, v, hstored, hterminal⟩ := reachable_settled ha hintent hsettled
          have hv := (IngestionRelay.versionOf_eq_some_iff.1 hstored).1
          rw [hversion, hget] at hv
          obtain rfl := Option.some.inj hv
          rw [(hchange.of_terminal hterminal).1] at hget'
          exact Or.inl (Option.some.inj hget' ▸ hterminal)
        · rw [hintent'] at hrow
          exact Or.inr ⟨intent', rfl, hrow.identity.2.2.1.trans hversion⟩
    rcases Step.of_mem_uploads hstep hids with hmem | haction
    · exact hold hmem
    · obtain ⟨organizationId, staged, hversion, hintent, -⟩ := Step.uploaded hstep haction
      exact ⟨_, hversion, Or.inr ⟨_, hintent, rfl⟩⟩

/-! ### Delay -/

/-- The deployment under a sound clock. -/
def timely (settings : Settings) : TransitionSystem World Event :=
  (ingestion settings).restrict fun w e ↦ ClockMonotone w e ∧ StartsInPast e

/-- The largest delay a transaction of the relay sets. -/
def RelayPolicy.horizon (policy : RelayPolicy) : ℤ :=
  max (max policy.leaseSeconds policy.recoverySeconds) (max policy.extractingSeconds 60)

theorem RelayPolicy.seconds_le_horizon {policy : RelayPolicy} {n : ℤ} (h : n ≤ policy.horizon) :
    seconds n ≤ seconds policy.horizon :=
  Int.mul_le_mul_of_nonneg_right h (by decide)

/-- Every start time is in the past. -/
theorem timely_started (hw : (timely settings).Reachable w) {id : UUID} {version : DocumentVersion}
    (hget : w.db.versions.get? id = some version) {startedAt : Instant}
    (hstarted : version.processingStartedAt = some startedAt) : startedAt ≤ w.now := by
  refine hw.invariant (I := fun w ↦ ∀ v, w.db.versions.get? id = some v →
    ∀ s, v.processingStartedAt = some s → s ≤ w.now) ?_ ?_ version hget startedAt hstarted
  · intro w₀ h₀ v hv s hs
    exact World.Initial.started_in_past h₀ v (Table.mem_of_get? hv) s hs
  · intro a e b ha hI ⟨⟨hclock, hpast⟩, hstep⟩ v hv s hs
    have hcoherent := reachable_coherent (TransitionSystem.reachable_of_restrict ha)
    obtain ⟨added, hchange, -⟩ := Step.version_change hcoherent.claims_backed hstep id
    rw [hv] at hchange
    rw [Step.clock hstep]
    rcases hget : a.db.versions.get? id with - | v₀
    · rw [hget] at hchange
      cases hchange with
      | uploaded => exact nomatch hs
    · rw [hget] at hchange
      cases hchange with
      | unchanged => exact (hI v hget s hs).trans hclock
      | begun action delivery versionId queued below =>
        exact Option.some.inj hs ▸ hpast _ _ action
      | exhausted => exact nomatch hs
      | succeeded => exact nomatch hs
      | failed => exact nomatch hs
      | requeued => exact nomatch hs

/-- An intent that is due, and free of any lease, by the horizon. -/
def DocumentIngestionIntent.DueBy (intent : DocumentIngestionIntent) (deadline : Instant) : Prop :=
  intent.availableAt ≤ deadline ∧ ∀ l ∈ intent.lease, l.expiresAt ≤ deadline

theorem DocumentIngestionIntent.DueBy.mono {intent : DocumentIngestionIntent} {s t : Instant}
    (h : intent.DueBy s) (hst : s ≤ t) : intent.DueBy t :=
  ⟨h.1.trans hst, fun l hl ↦ (h.2 l hl).trans hst⟩

/-- The delay after a failed publication is at most a minute. -/
theorem backoff_le (n : ℕ) : ((min 60 (2 ^ min n 6) : ℕ) : ℤ) ≤ 60 :=
  Int.ofNat_le.2 (Nat.min_le_left _ _)

/-- **No intent is put off beyond the horizon.** -/
theorem timely_dueBy (hw : (timely settings).Reachable w) {id : UUID}
    {intent : DocumentIngestionIntent} (hget : w.db.intents.get? id = some intent) :
    intent.DueBy (w.now + seconds settings.policy.horizon) := by
  have hnonneg : 0 ≤ seconds settings.policy.horizon := by
    refine Int.mul_nonneg ?_ (by decide)
    exact le_trans (by decide) (le_max_of_le_right (le_max_right _ _))
  refine intent_rule (M := timely settings)
    (P := fun w i ↦ i.DueBy (w.now + seconds settings.policy.horizon)) (fun _ h ↦ h)
    (fun _ _ _ h ↦ h.2) ?_ ?_ hw hget
  · intro a e b id organizationId versionId taskId _ hstep
    rw [Step.clock hstep.2]
    exact ⟨le_add_of_nonneg_right hnonneg, fun l hl ↦ nomatch hl⟩
  · intro a e b id i i' ha ⟨hassume, hstep⟩ hrow hchange hI
    have hclock : a.now ≤ e.now := hassume.1
    have hmono : a.now + seconds settings.policy.horizon ≤
        e.now + seconds settings.policy.horizon := Int.add_le_add_right hclock _
    have hdelay : ∀ {n : ℤ}, n ≤ settings.policy.horizon →
        e.now + seconds n ≤ e.now + seconds settings.policy.horizon :=
      fun h ↦ Int.add_le_add_left (RelayPolicy.seconds_le_horizon h) _
    have hI' := hI.mono hmono
    rw [Step.clock hstep]
    cases hchange with
    | unchanged untouched => exact hI'
    | examined action fresh due stored examined =>
      cases examined with
      | @postponed startedAt status owner started fresh =>
        have hstarted := timely_started ha (IngestionRelay.versionOf_eq_some_iff.1 stored).1 started
        refine ⟨?_, fun l hl ↦ nomatch hl⟩
        calc startedAt + seconds settings.policy.extractingSeconds
            ≤ e.now + seconds settings.policy.extractingSeconds :=
              Int.add_le_add_right (hstarted.trans hclock) _
          _ ≤ e.now + seconds settings.policy.horizon :=
              hdelay (le_max_of_le_right (le_max_left _ _))
      | published recoverable within =>
        have hlease := hdelay (n := settings.policy.leaseSeconds)
          (le_max_of_le_left (le_max_left _ _))
        refine ⟨hlease, fun l hl ↦ ?_⟩
        obtain rfl := Option.some.inj hl
        exact hlease
      | settled terminal => exact ⟨hI'.1, fun l hl ↦ nomatch hl⟩
      | ambiguous ambiguous => exact ⟨hI'.1, fun l hl ↦ nomatch hl⟩
      | exhausted recoverable exhausted => exact ⟨hI'.1, fun l hl ↦ nomatch hl⟩
    | @finished _ p success lease action issued intentId leased token unexpired =>
      refine ⟨?_, fun l hl ↦ nomatch hl⟩
      cases success with
      | true => exact hdelay (le_max_of_le_left (le_max_right _ _))
      | false => exact hdelay ((backoff_le _).trans (le_max_of_le_right (le_max_right _ _)))
    | settled action unsettled free stored terminal => exact ⟨hI'.1, fun l hl ↦ nomatch hl⟩
    | rearmed => exact ⟨le_add_of_nonneg_right hnonneg, fun l hl ↦ nomatch hl⟩

/-! ### No accepted upload is lost -/

/-- **No accepted upload is lost.** In every reachable world of a deployment with a sound clock:
every uploaded version that has not ended has exactly one intent, and it is unsettled; every settled
intent is resolved, free, and has an ended version; and every unsettled intent is shown to the
operator or can be selected again within the horizon. -/
theorem accepted_upload_not_lost (hw : (timely settings).Reachable w) :
    (∀ ids ∈ w.uploads, ∃ version, w.db.versions.get? ids.versionId = some version ∧
        (¬version.status.Terminal → ∃ intent ∈ w.db.intents,
          intent.documentVersionId = ids.versionId ∧ intent.settledAt = none ∧
            ∀ other ∈ w.db.intents, other.documentVersionId = ids.versionId → other = intent)) ∧
      (∀ intent ∈ w.db.intents, intent.settledAt ≠ none →
        intent.unresolvedAt = none ∧ intent.lease = none ∧
          ∃ version, versionOf w.db intent = some version ∧ version.status.Terminal) ∧
      ∀ intent ∈ w.db.intents, intent.settledAt = none → intent.unresolvedAt ≠ none ∨
        intent.availableAt ≤ w.now + seconds settings.policy.horizon ∧
          ∀ l ∈ intent.lease, l.expiresAt ≤ w.now + seconds settings.policy.horizon := by
  have hopen := TransitionSystem.reachable_of_restrict hw
  have hcoherent := reachable_coherent hopen
  refine ⟨fun ids hids ↦ ?_, fun intent hmem ↦ ?_, fun intent hmem _ ↦ ?_⟩
  · obtain ⟨version, hget, hstate⟩ := reachable_intent hopen ids hids
    refine ⟨version, hget, fun hrunning ↦ ?_⟩
    obtain ⟨intent, hintent, hversion⟩ := hstate.resolve_left hrunning
    have hmem : intent ∈ w.db.intents := Table.mem_of_get? hintent
    -- By the foreign key, every intent of the version is in the version's organization.
    have horg : ∀ i ∈ w.db.intents, i.documentVersionId = ids.versionId →
        i.organizationId = version.organizationId := by
      intro i hi hid
      obtain ⟨v, hv⟩ := hcoherent.consistent.version_of_intent i hi
      obtain ⟨hvget, hvorg⟩ := IngestionRelay.versionOf_eq_some_iff.1 hv
      rw [hid, hget] at hvget
      obtain rfl := Option.some.inj hvget
      exact hvorg.symm
    refine ⟨intent, hmem, hversion, ?_, fun other hother hid ↦ ?_⟩
    · by_contra hsettled
      obtain ⟨-, -, v, hstored, hterminal⟩ := reachable_settled hopen hintent hsettled
      have hv := (IngestionRelay.versionOf_eq_some_iff.1 hstored).1
      rw [hversion, hget] at hv
      obtain rfl := Option.some.inj hv
      exact hrunning hterminal
    · exact hcoherent.consistent.intent_unique other hother intent hmem
        ⟨(horg other hother hid).trans (horg intent hmem hversion).symm, hid.trans hversion.symm⟩
  · exact reachable_settled hopen (Table.get?_key hmem)
  · exact Or.inr (timely_dueBy hw (Table.get?_key hmem))

theorem accepted_upload_not_lost_sample :
    ∃ intent ∈ Sample.uploaded.db.intents, intent.documentVersionId = uuid 4 ∧
      intent.settledAt = none := by
  have hw : (timely Sample.limits).Reachable Sample.uploaded :=
    Sample.reachable_uploaded Sample.limits ⟨le_refl (0 : ℤ), fun _ _ h ↦ (nomatch h)⟩
  obtain ⟨version, hget, hintent⟩ :=
    (accepted_upload_not_lost hw).1 Sample.ids (List.mem_singleton_self Sample.ids)
  obtain rfl : Sample.version = version := Option.some.inj hget
  obtain ⟨intent, hmem, hid, hsettled, -⟩ := hintent (by decide)
  exact ⟨intent, hmem, hid, hsettled⟩

end SupportFlow
