import SupportFlow.Documents.Budget
import SupportFlow.Documents.Lifecycle

/-!
# Reconciliation terminates

How often can claims select one intent over a whole run? A selection ends in one of four ways, and
each kind is paid for by something that only grows:

* a publication by the intent's publication counter, which the budget bounds;
* a marking as unresolved by the operator's grants, since only a grant makes a marked intent
  selectable again;
* a settlement by the settlement itself, which is final;
* a postponement by a worker's attempt. This is the one whose measure is not in the code: an intent
  is postponed to the deadline of the running extraction, and selected only when that deadline has
  passed, so the next postponement needs a *new* extraction, and every extraction charges an
  attempt.

The counts are over the labels of a run, so they survive the deletion of the row.
-/

namespace SupportFlow

open IngestionRelay (versionOf Examined)

variable {settings : Settings} {w w' : World} {e : Event} {id : UUID}

/-! ### Kinds of selections -/

/-- The claim put the intent off to the deadline of a running extraction. -/
def ClaimExit.isPostponed : ClaimExit → Bool
  | postponed _ => true
  | _ => false

/-- The claim marked the intent as unresolved. -/
def ClaimExit.isMarked : ClaimExit → Bool
  | ambiguous _ => true
  | exhausted _ => true
  | _ => false

/-- The claim settled the intent. -/
def ClaimExit.isSettled : ClaimExit → Bool
  | settled _ => true
  | _ => false

/-- The step's claim selected the intent. -/
def Event.selects (id : UUID) (e : Event) : Bool :=
  (e.exitFor id).isSome

def Event.postpones (id : UUID) (e : Event) : Bool :=
  (e.exitFor id).any ClaimExit.isPostponed

def Event.marks (id : UUID) (e : Event) : Bool :=
  (e.exitFor id).any ClaimExit.isMarked

def Event.settles (id : UUID) (e : Event) : Bool :=
  (e.exitFor id).any ClaimExit.isSettled

/-- **Every selection is of exactly one kind.** -/
theorem countP_selects (id : UUID) (ls : List Event) :
    ls.countP (Event.selects id) = ls.countP (Event.returns id) + ls.countP (Event.postpones id) +
      ls.countP (Event.marks id) + ls.countP (Event.settles id) := by
  induction ls with
  | nil => rfl
  | cons e ls ih =>
    have hkind : (if e.selects id then 1 else 0) = (if e.returns id then 1 else 0) +
        (if e.postpones id then 1 else 0) + (if e.marks id then 1 else 0) +
          if e.settles id then 1 else 0 := by
      rw [Event.selects, Event.returns, Event.postpones, Event.marks, Event.settles]
      rcases hexit : e.exitFor id with - | exit
      · rfl
      · cases exit with
        | idle => cases (Event.exitFor_eq_some_iff.1 hexit).2
        | _ => rfl
    simp only [List.countP_cons, ih]
    omega

/-! ### What the row remembers -/

/-- The row accounts for the markings and settlements so far. -/
structure Accounted (marked settled : ℕ) (intent : DocumentIngestionIntent) : Prop where
  /-- A marking is paid for by a grant, except the one in force or settled away. -/
  marks : marked ≤ intent.recoveryGrants +
    if intent.unresolvedAt ≠ none ∨ intent.settledAt ≠ none then 1 else 0
  settles : settled ≤ if intent.settledAt ≠ none then 1 else 0

/-- **The row and its version account for the postponements so far**: each was charged as an
attempt, and if the running extraction was already waited for, then its deadline has passed or the
intent is off until then. -/
structure Waited (policy : RelayPolicy) (now : Instant) (postponed : ℕ)
    (intent : DocumentIngestionIntent) (version : DocumentVersion) : Prop where
  charged : postponed ≤ version.attemptCount
  waited : version.status = .extracting → postponed = version.attemptCount →
    ∀ startedAt, version.processingStartedAt = some startedAt →
      startedAt + seconds policy.extractingSeconds ≤ now ∨
        startedAt + seconds policy.extractingSeconds ≤ intent.availableAt ∧
          intent.lease = none ∧ intent.unresolvedAt = none

/-- A change that is not a claim's adds to no count. -/
theorem Event.kinds_eq_false (h : e.exitFor id = none) :
    e.postpones id = false ∧ e.marks id = false ∧ e.settles id = false := by
  rw [Event.postpones, Event.marks, Event.settles, h]
  exact ⟨rfl, rfl, rfl⟩

/-- Markings and settlements stay accounted for. -/
theorem IntentChange.accounted {marked settled : ℕ} {intent intent' : DocumentIngestionIntent}
    (h : IntentChange settings w e w' id (some intent) (some intent')) (hkey : intent.id = id)
    (hI : Accounted marked settled intent) :
    Accounted (marked + if e.marks id then 1 else 0) (settled + if e.settles id then 1 else 0)
      intent' := by
  obtain ⟨hmarks, hsettles⟩ := hI
  have hnone : e.exitFor id = none →
      (marked + if e.marks id then 1 else 0) = marked ∧
        (settled + if e.settles id then 1 else 0) = settled := by
    intro hexit
    obtain ⟨-, hm, hs⟩ := Event.kinds_eq_false hexit
    rw [hm, hs]
    exact ⟨rfl, rfl⟩
  cases h with
  | unchanged untouched =>
    obtain ⟨hm, hs⟩ := hnone (Event.exitFor_eq_none untouched)
    rw [hm, hs]
    exact ⟨hmarks, hsettles⟩
  | @examined _ _ version token exit action fresh due stored examined =>
    have hexit := Event.exitFor_eq_some_iff.2 ⟨action, hkey ▸ examined.intentId?⟩
    -- A selected intent was neither settled nor marked.
    rw [due.1, due.2.1] at hmarks
    rw [due.1] at hsettles
    simp only [ne_eq, not_true_eq_false, or_self, if_false, Nat.add_zero] at hmarks hsettles
    rw [Event.marks, Event.settles, hexit, Option.any_some, Option.any_some]
    cases examined with
    | settled terminal =>
      refine ⟨?_, ?_⟩
      · simpa [ClaimExit.isMarked] using Nat.le_succ_of_le hmarks
      · simpa [ClaimExit.isSettled] using hsettles
    | ambiguous ambiguous =>
      refine ⟨?_, ?_⟩
      · simpa [ClaimExit.isMarked] using hmarks
      · simpa [ClaimExit.isSettled, due.1] using hsettles
    | exhausted recoverable exhausted =>
      refine ⟨?_, ?_⟩
      · simpa [ClaimExit.isMarked] using hmarks
      · simpa [ClaimExit.isSettled, due.1] using hsettles
    | postponed status owner started fresh =>
      refine ⟨?_, ?_⟩
      · simpa [ClaimExit.isMarked, due.1, due.2.1] using hmarks
      · simpa [ClaimExit.isSettled, due.1] using hsettles
    | published recoverable within =>
      refine ⟨?_, ?_⟩
      · simpa [ClaimExit.isMarked, DocumentIngestionIntent.charge, due.1, due.2.1] using hmarks
      · simpa [ClaimExit.isSettled, DocumentIngestionIntent.charge, due.1] using hsettles
  | finished action =>
    obtain ⟨hm, hs⟩ := hnone (Event.exitFor_eq_none_of_action action fun _ h ↦ by cases h)
    rw [hm, hs]
    exact ⟨hmarks, hsettles⟩
  | settled action unsettled free stored terminal =>
    obtain ⟨hm, hs⟩ := hnone (Event.exitFor_eq_none_of_action action fun _ h ↦ by cases h)
    rw [hm, hs]
    refine ⟨?_, ?_⟩
    · have hle : marked ≤ intent.recoveryGrants + 1 := by
        refine hmarks.trans (Nat.add_le_add_left ?_ _)
        split <;> omega
      simpa [DocumentIngestionIntent.settle] using hle
    · rw [unsettled] at hsettles
      simp only [ne_eq, not_true_eq_false, if_false] at hsettles
      omega
  | rearmed action unresolved exhausted unsettled =>
    obtain ⟨hm, hs⟩ := hnone (Event.exitFor_eq_none_of_action action fun _ h ↦ by cases h)
    rw [hm, hs]
    refine ⟨?_, hsettles⟩
    rw [if_pos (Or.inl unresolved)] at hmarks
    simpa [DocumentIngestionIntent.rearm, unsettled] using hmarks

/-- Whatever a worker does to the version, the postponements stay accounted for: a new extraction
charges an attempt that no postponement has used. -/
theorem Waited.version {policy : RelayPolicy} {now : Instant} {postponed : ℕ}
    {intent : DocumentIngestionIntent} {version : DocumentVersion} {row : Option DocumentVersion}
    {added : List AuditEvent} (hI : Waited policy now postponed intent version) {versionId : UUID}
    (h : VersionChange settings w e w' versionId (some version) row added) :
    ∃ version', row = some version' ∧ Waited policy now postponed intent version' := by
  cases h with
  | unchanged => exact ⟨version, rfl, hI⟩
  | begun action delivery ofVersion queued below =>
    refine ⟨_, rfl, Nat.le_succ_of_le hI.charged, fun _ hspent ↦ ?_⟩
    have hcharged : postponed ≤ version.attemptCount := hI.charged
    have hspent' : postponed = version.attemptCount + 1 := hspent
    omega
  | exhausted => exact ⟨_, rfl, hI.charged, fun hstatus ↦ nomatch hstatus⟩
  | succeeded => exact ⟨_, rfl, hI.charged, fun hstatus ↦ nomatch hstatus⟩
  | failed => exact ⟨_, rfl, hI.charged, fun hstatus ↦ nomatch hstatus⟩
  | requeued => exact ⟨_, rfl, hI.charged, fun hstatus ↦ nomatch hstatus⟩

/-- A selected intent that was already put off to the deadline of the running extraction finds it
passed. -/
theorem Waited.passed {policy : RelayPolicy} {before now : Instant} {postponed : ℕ}
    {intent : DocumentIngestionIntent} {version : DocumentVersion}
    (hI : Waited policy before postponed intent version) (hclock : before ≤ now)
    (hdue : intent.Due now) (hstatus : version.status = .extracting)
    (hspent : postponed = version.attemptCount) {startedAt : Instant}
    (hstarted : version.processingStartedAt = some startedAt) :
    startedAt + seconds policy.extractingSeconds ≤ now := by
  rcases hI.waited hstatus hspent startedAt hstarted with hpassed | ⟨havailable, -⟩
  · exact hpassed.trans hclock
  · exact havailable.trans hdue.2.2.1

/-- **Postponements stay accounted for**, under a clock that does not go back: a postponement needs
an extraction that was not waited for yet, and then waits for it. -/
theorem IntentChange.waited {postponed : ℕ} {intent intent' : DocumentIngestionIntent}
    {version : DocumentVersion}
    (h : IntentChange settings w e w' id (some intent) (some intent')) (hkey : intent.id = id)
    (hversion : w.db.versions.get? intent.documentVersionId = some version)
    (hclock : w.now ≤ e.now) (hI : Waited settings.policy w.now postponed intent version) :
    Waited settings.policy e.now (postponed + if e.postpones id then 1 else 0) intent' version := by
  -- A change that keeps the row's waiting state passes it on; the clock only helps.
  have hkeep : e.postpones id = false → (∀ deadline, deadline ≤ intent.availableAt →
      intent.lease = none → intent.unresolvedAt = none → deadline ≤ e.now ∨
        deadline ≤ intent'.availableAt ∧ intent'.lease = none ∧ intent'.unresolvedAt = none) →
      Waited settings.policy e.now (postponed + if e.postpones id then 1 else 0) intent'
        version := by
    intro hno hrow
    rw [hno]
    refine ⟨hI.charged, fun hstatus hspent startedAt hstarted ↦ ?_⟩
    rcases hI.waited hstatus hspent startedAt hstarted with hpassed | ⟨havailable, hfree, hresolved⟩
    · exact Or.inl (hpassed.trans hclock)
    · exact hrow _ havailable hfree hresolved
  have hnone : e.exitFor id = none → e.postpones id = false :=
    fun hexit ↦ (Event.kinds_eq_false hexit).1
  cases h with
  | unchanged untouched =>
    exact hkeep (hnone (Event.exitFor_eq_none untouched))
      fun _ havailable hfree hresolved ↦ Or.inr ⟨havailable, hfree, hresolved⟩
  | @examined _ _ version' token exit action fresh due stored examined =>
    have hexit := Event.exitFor_eq_some_iff.2 ⟨action, hkey ▸ examined.intentId?⟩
    have hpostpones : e.postpones id = exit.isPostponed := by
      rw [Event.postpones, hexit, Option.any_some]
    have hpassed := fun deadline (havailable : deadline ≤ intent.availableAt) ↦
      havailable.trans due.2.2.1
    cases examined with
    | @postponed startedAt status owner started fresh =>
      obtain rfl : version = version' := Option.some.inj
        (hversion.symm.trans (IngestionRelay.versionOf_eq_some_iff.1 stored).1)
      have hunspent : postponed ≠ version.attemptCount := fun hspent ↦
        absurd (hI.passed hclock due status hspent started) (not_le.2 fresh)
      rw [hpostpones]
      refine ⟨Nat.lt_of_le_of_ne hI.charged hunspent, fun _ _ s hs ↦ Or.inr ⟨?_, rfl, due.2.1⟩⟩
      rw [Option.some.inj (hs.symm.trans started)]
    | settled => exact hkeep hpostpones fun d hd _ _ ↦ Or.inl (hpassed d hd)
    | ambiguous => exact hkeep hpostpones fun d hd _ _ ↦ Or.inl (hpassed d hd)
    | exhausted => exact hkeep hpostpones fun d hd _ _ ↦ Or.inl (hpassed d hd)
    | published => exact hkeep hpostpones fun d hd _ _ ↦ Or.inl (hpassed d hd)
  | finished action issued intentId leased =>
    exact hkeep (hnone (Event.exitFor_eq_none_of_action action fun _ ↦ nofun))
      fun _ _ hfree _ ↦ absurd (leased.symm.trans hfree) (by simp)
  | settled action =>
    exact hkeep (hnone (Event.exitFor_eq_none_of_action action fun _ ↦ nofun))
      fun _ havailable _ _ ↦ Or.inr ⟨havailable, rfl, rfl⟩
  | rearmed action unresolved =>
    exact hkeep (hnone (Event.exitFor_eq_none_of_action action fun _ ↦ nofun))
      fun _ _ _ hresolved ↦ absurd hresolved unresolved

/-! ### The ledger of selections -/

/-- The system under a clock that does not go back. -/
def clocked (settings : Settings) : TransitionSystem World Event :=
  (ingestion settings).restrict ClockMonotone

/-- **What a run has spent on an intent so far**: while the row exists it accounts for every kind of
selection; before its id is drawn there was none; after its deletion the final bounds stand. -/
structure Ledger (settings : Settings) (ids : DocumentService.UploadIds) (ls : List Event)
    (w : World) : Prop where
  row : ∀ i, w.db.intents.get? ids.intentId = some i →
    Accounted (ls.countP (Event.marks ids.intentId)) (ls.countP (Event.settles ids.intentId)) i ∧
      ∀ v, w.db.versions.get? i.documentVersionId = some v →
        Waited settings.policy w.now (ls.countP (Event.postpones ids.intentId)) i v
  unborn : ids.intentId ∉ w.generated → ls.countP (Event.marks ids.intentId) = 0 ∧
    ls.countP (Event.settles ids.intentId) = 0 ∧ ls.countP (Event.postpones ids.intentId) = 0
  deleted : ids ∈ w.uploads → w.db.intents.get? ids.intentId = none →
    ls.countP (Event.marks ids.intentId) ≤ 4 ∧ ls.countP (Event.settles ids.intentId) ≤ 1 ∧
      ls.countP (Event.postpones ids.intentId) ≤ settings.maxAttempts
  /-- The intent of the upload belongs to its version. -/
  ofVersion : ids ∈ w.uploads → ∀ i, w.db.intents.get? ids.intentId = some i →
    i.documentVersionId = ids.versionId

/-- The row bounds what was spent. -/
theorem Ledger.bounds {ids : DocumentService.UploadIds} {ls : List Event}
    (hw : (ingestion settings).Reachable w) (h : Ledger settings ids ls w)
    (hids : ids ∈ w.uploads) :
    ls.countP (Event.marks ids.intentId) ≤ 4 ∧ ls.countP (Event.settles ids.intentId) ≤ 1 ∧
      ls.countP (Event.postpones ids.intentId) ≤ settings.maxAttempts := by
  rcases hget : w.db.intents.get? ids.intentId with - | i
  · exact h.deleted hids hget
  · obtain ⟨⟨hmarks, hsettles⟩, hwaited⟩ := h.row i hget
    obtain ⟨version, hversion, hlife⟩ := reachable_lifecycle hw ids hids
    have hgrants := (reachable_budgeted hw hget).grants
    have hcharged := (hwaited version (by rw [h.ofVersion hids i hget, hversion])).charged
    refine ⟨hmarks.trans ?_, hsettles.trans ?_, hcharged.trans hlife.capped⟩
    · split <;> omega
    · split <;> omega

/-- Adding a label that selects nothing changes no count. -/
theorem countP_snoc_none {ls : List Event} (h : e.exitFor id = none) :
    (ls ++ [e]).countP (Event.marks id) = ls.countP (Event.marks id) ∧
      (ls ++ [e]).countP (Event.settles id) = ls.countP (Event.settles id) ∧
        (ls ++ [e]).countP (Event.postpones id) = ls.countP (Event.postpones id) := by
  obtain ⟨hp, hm, hs⟩ := Event.kinds_eq_false h
  simp only [TransitionSystem.countP_snoc, hp, hm, hs]
  exact ⟨rfl, rfl, rfl⟩

/-- A new intent starts a new account. -/
theorem Ledger.row_created {ids : DocumentService.UploadIds} {ls : List Event}
    (hw : w.Coherent) (hstep : Step settings w e w') (hI : Ledger settings ids ls w)
    (hnone : w.db.intents.get? ids.intentId = none) {intent : DocumentIngestionIntent}
    (hintent : w'.db.intents.get? ids.intentId = some intent) :
    Accounted ((ls ++ [e]).countP (Event.marks ids.intentId))
        ((ls ++ [e]).countP (Event.settles ids.intentId)) intent ∧
      ∀ v, w'.db.versions.get? intent.documentVersionId = some v →
        Waited settings.policy w'.now ((ls ++ [e]).countP (Event.postpones ids.intentId)) intent
          v := by
  obtain ⟨hm, hs, hp⟩ := countP_snoc_none  (hstep.exitFor_eq_none (Or.inl hnone))
  rw [hm, hs, hp]
  have hchange := hstep.intent_change ids.intentId
  rw [hnone, hintent] at hchange
  -- The version of a new intent is queued, before and after the step.
  have hqueued : ∀ v, w'.db.versions.get? intent.documentVersionId = some v →
      v.status ≠ .extracting := by
    intro v hv hstatus
    cases hchange with
    | uploaded action intentId fresh drawn =>
      obtain ⟨organizationId, staged, hversion, -⟩ := hstep.uploaded action
      obtain rfl := Option.some.inj (hv.symm.trans hversion)
      exact nomatch hstatus
    | @backfilled version _ action fresh drawn stored queued free =>
      obtain ⟨added, hversion, -⟩ := hstep.version_change hw.claims_backed version.id
      have hget : w.db.versions.get? version.id = some version := Table.get?_key stored
      have hv' : w'.db.versions.get? version.id = some v := hv
      rw [hget, hv'] at hversion
      cases hversion with
      | unchanged => exact absurd (queued.symm.trans hstatus) (by decide)
      | begun claimed => exact absurd (action.symm.trans claimed) (by simp)
      | exhausted => exact nomatch hstatus
      | succeeded => exact nomatch hstatus
      | failed => exact nomatch hstatus
      | requeued => exact nomatch hstatus
  have hzero : ls.countP (Event.marks ids.intentId) = 0 ∧
      ls.countP (Event.settles ids.intentId) = 0 ∧
        ls.countP (Event.postpones ids.intentId) = 0 := by
    cases hchange with
    | uploaded action intentId fresh => exact hI.unborn fresh
    | backfilled action fresh => exact hI.unborn fresh
  obtain ⟨hm₀, hs₀, hp₀⟩ := hzero
  rw [hm₀, hs₀, hp₀]
  exact ⟨⟨Nat.zero_le _, Nat.zero_le _⟩, fun v hv ↦
    ⟨Nat.zero_le _, fun hstatus ↦ absurd hstatus (hqueued v hv)⟩⟩

/-- An existing intent goes on with its account. -/
theorem Ledger.row_changed {ids : DocumentService.UploadIds} {ls : List Event}
    (hw : w.Coherent) (hstep : Step settings w e w') (hclock : w.now ≤ e.now)
    (hI : Ledger settings ids ls w) {intent intent' : DocumentIngestionIntent}
    (hold : w.db.intents.get? ids.intentId = some intent)
    (hnew : w'.db.intents.get? ids.intentId = some intent') :
    Accounted ((ls ++ [e]).countP (Event.marks ids.intentId))
        ((ls ++ [e]).countP (Event.settles ids.intentId)) intent' ∧
      ∀ v, w'.db.versions.get? intent'.documentVersionId = some v →
        Waited settings.policy w'.now ((ls ++ [e]).countP (Event.postpones ids.intentId)) intent'
          v := by
  have hkey : intent.id = ids.intentId := Table.key_of_get? hold
  have hchange := hstep.intent_change ids.intentId
  rw [hold, hnew] at hchange
  obtain ⟨haccounted, hwaited⟩ := hI.row intent hold
  simp only [TransitionSystem.countP_snoc]
  refine ⟨hchange.accounted hkey haccounted, fun v' hv' ↦ ?_⟩
  obtain ⟨v, hv⟩ := hw.consistent.version_of_intent intent (Table.mem_of_get? hold)
  have hget := (IngestionRelay.versionOf_eq_some_iff.1 hv).1
  obtain ⟨added, hversion, -⟩ := hstep.version_change hw.claims_backed intent.documentVersionId
  rw [hget] at hversion
  have hnext := hchange.waited hkey hget hclock (hwaited v hget)
  obtain ⟨v'', hrow, hdone⟩ := hnext.version hversion
  rw [hchange.identity.2.2.1, hrow] at hv'
  rw [Option.some.inj hv'] at hdone
  rw [hstep.clock]
  exact hdone

/-- **The ledger is kept along every run.** -/
theorem clocked_ledger {w₀ : World} {ls : List Event} (h₀ : (clocked settings).init w₀)
    (hrun : (clocked settings).Run w₀ ls w) (ids : DocumentService.UploadIds) :
    Ledger settings ids ls w := by
  refine TransitionSystem.Run.tracked (I := Ledger settings ids) ?_ ?_ hrun
  · have hnone : w₀.uploads = [] := World.Initial.no_uploads h₀
    refine ⟨fun i hi ↦ ?_, fun _ ↦ ⟨rfl, rfl, rfl⟩, fun hids ↦ ?_, fun hids ↦ ?_⟩
    · have hmem : i ∈ w₀.db.intents.rows := Table.mem_of_get? hi
      exact absurd (World.Initial.no_intents h₀ ▸ hmem) List.not_mem_nil
    · exact absurd (hnone ▸ hids) List.not_mem_nil
    · exact absurd (hnone ▸ hids) List.not_mem_nil
  · intro ls a e b hbefore hI ⟨hclock, hstep⟩
    have hopen : (ingestion settings).Reachable a := ⟨w₀, ls, h₀, hbefore.of_restrict⟩
    have hcoherent := reachable_coherent hopen
    have hchange := Step.intent_change hstep ids.intentId
    refine ⟨fun i' hi' ↦ ?_, fun hid ↦ ?_, fun hids hnone ↦ ?_, fun hids i' hi' ↦ ?_⟩
    · rcases hget : a.db.intents.get? ids.intentId with - | i
      · exact hI.row_created hcoherent hstep hget hi'
      · exact hI.row_changed hcoherent hstep hclock hget hi'
    · have hid₀ : ids.intentId ∉ a.generated := fun h ↦ hid (Step.generated_mono hstep h)
      obtain ⟨hm, hs, hp⟩ := countP_snoc_none
        (Step.exitFor_unborn hcoherent hstep hid₀)
      rw [hm, hs, hp]
      exact hI.unborn hid₀
    · obtain ⟨hm, hs, hp⟩ := countP_snoc_none
        (Step.exitFor_eq_none hstep (Or.inr hnone))
      rw [hm, hs, hp]
      rcases Step.of_mem_uploads hstep hids with hmem | haction
      · exact hI.bounds hopen hmem
      · obtain ⟨organizationId, staged, -, hintent, -⟩ := Step.uploaded hstep haction
        exact absurd (hnone.symm.trans hintent) (by simp)
    · have hold : ids ∈ a.uploads → i'.documentVersionId = ids.versionId := by
        intro hmem
        rcases hget : a.db.intents.get? ids.intentId with - | i
        · -- The id was drawn when the intent was created, so no other row takes it.
          have hdrawn := hcoherent.uploads_drawn ids hmem ids.intentId
            (by simp [DocumentService.UploadIds.draws])
          rw [hget] at hchange
          exact absurd (hi'.symm.trans (hchange.none_of_drawn hdrawn)) (by simp)
        · rw [hget, hi'] at hchange
          exact hchange.identity.2.2.1.trans (hI.ofVersion hmem i hget)
      rcases Step.of_mem_uploads hstep hids with hmem | haction
      · exact hold hmem
      · obtain ⟨organizationId, staged, -, hintent, -⟩ := Step.uploaded hstep haction
        rw [Option.some.inj (hi'.symm.trans hintent)]
        rfl

/-- **Reconciliation terminates.** Over a whole run of any length, under a clock that does not go
back, claims select the intent of an upload at most `P + A + 8` times: at most `P + 3` of these
return a publication, at most `A` put it off, at most four mark it as unresolved and one settles it,
where `P` is the publication limit and `A` the worker's attempt cap. -/
theorem reconciliation_terminates {w₀ : World} {ls : List Event}
    (h₀ : (clocked settings).init w₀) (hrun : (clocked settings).Run w₀ ls w)
    {ids : DocumentService.UploadIds} (hids : ids ∈ w.uploads) :
    ls.countP (Event.returns ids.intentId) ≤ settings.policy.maxPublications + 3 ∧
      ls.countP (Event.postpones ids.intentId) ≤ settings.maxAttempts ∧
      ls.countP (Event.marks ids.intentId) ≤ 4 ∧ ls.countP (Event.settles ids.intentId) ≤ 1 ∧
        ls.countP (Event.selects ids.intentId) ≤
          settings.policy.maxPublications + settings.maxAttempts + 8 := by
  have hopen : (ingestion settings).Reachable w := ⟨w₀, ls, h₀, hrun.of_restrict⟩
  obtain ⟨hmarks, hsettles, hpostpones⟩ := (clocked_ledger h₀ hrun ids).bounds hopen hids
  have hreturns := publications_bounded h₀ hrun.of_restrict ids.intentId
  refine ⟨hreturns, hpostpones, hmarks, hsettles, ?_⟩
  rw [countP_selects]
  omega

theorem reconciliation_terminates_sample :
    Sample.claiming.countP (Event.selects (uuid 5)) = 1 ∧
      Sample.claiming.countP (Event.selects (uuid 5)) ≤ 1 + 3 + 8 := by
  have hrun : (clocked Sample.limits).Run Sample.installed Sample.claiming Sample.claimed :=
    Sample.run_claimed (le_refl (0 : ℤ)) (le_refl (0 : ℤ))
  exact ⟨by decide, (reconciliation_terminates Sample.initial_installed hrun
    (List.mem_singleton_self Sample.ids)).2.2.2.2⟩

end SupportFlow
