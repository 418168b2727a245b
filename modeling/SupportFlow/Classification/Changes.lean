import SupportFlow.Classification.System

/-!
# What a classification step changes

The inversion of the step relation, said once: which operation rows a step writes
(`ClassificationStep.change`), and which calls hold a claim afterwards
(`ClassificationStep.held`). From the two come the invariants every result needs
(`Classified`): the unique identities, the row behind every claim, and that no two calls work on one
row.
-/

namespace SupportFlow

open Python ClassificationApplication

variable {sha256 : String → String} {loads : String → Option Json}
  {w w' : ClassificationWorld} {e : ClassificationEvent}

/-- A call holds a claim. -/
def ClassificationWorld.Holds (w : ClassificationWorld) (c : ℕ) (claim : ClassificationClaim) :
    Prop :=
  ∃ call, w.calls c = some call ∧ call.stage.claim? = some claim

/-- What a step does to the operations. -/
inductive OperationChange (sha256 : String → String) (w : ClassificationWorld)
    (e : ClassificationEvent) (w' : ClassificationWorld) : Prop
  | frame (operations : w'.db.operations = w.db.operations)
  /-- A claim inserts the row of a new identity. -/
  | inserted {c : ℕ} {request : ClassifyRequest} {made : ClassificationClaim} {now : Instant}
      (event : e = .claim c request (.ok (.claimed made)))
      (computed : Computed sha256 made w.db)
      (insert : w.db.insertOperation? (made.operation now) = some w'.db)
  /-- A later POST writes an expired claim back. -/
  | materialized {c : ℕ} {request : ClassifyRequest} {view : ClassificationView}
      {operation : ClassificationOperation} {now : Instant}
      (event : e = .claim c request (.ok (.existing view)))
      (row : operation ∈ w.db.operations) (state : operation.state = .inProgress)
      (written : w'.db = settled (materialize operation now) w.db)
  /-- The second transaction settles the row of its claim. -/
  | completed {c elapsedMs : ℕ} {claim : ClassificationClaim} {completedAt checkedAt : Instant}
      {response : ClassificationResponse} {operation : ClassificationOperation}
      {checks : CompletionChecks} {outcome : ProviderOutcome}
      (event : e = .complete c claim checkedAt response) (held : w.Holds c claim)
      (row : w.db.operations.get? claim.operationId = some operation)
      (state : operation.state = .inProgress)
      (run : completionChecks sha256 claim w.db = .ok checks)
      (written : w'.db =
        settled (operation.settle checks outcome elapsedMs completedAt checkedAt) w.db)

/-! ### The calls -/

theorem setCall_calls_self (w : ClassificationWorld) (c : ℕ) (call : Option ClassifyCall) :
    (w.setCall c call).calls c = call := by
  simp only [ClassificationWorld.setCall, Function.update_self]

theorem setCall_calls_of_ne (w : ClassificationWorld) {c d : ℕ} (call : Option ClassifyCall)
    (h : d ≠ c) : (w.setCall c call).calls d = w.calls d := by
  simp only [ClassificationWorld.setCall, Function.update_of_ne h]

/-- Setting a call changes what that call holds, and nothing else. -/
theorem holds_setCall {c d : ℕ} {call : Option ClassifyCall} {claim : ClassificationClaim}
    (h : (w.setCall c call).Holds d claim) :
    d ≠ c ∧ w.Holds d claim ∨ d = c ∧ ∃ x, call = some x ∧ x.stage.claim? = some claim := by
  obtain ⟨x, hx, hclaim⟩ := h
  by_cases hd : d = c
  · subst hd
    rw [setCall_calls_self] at hx
    exact .inr ⟨rfl, x, hx, hclaim⟩
  · rw [setCall_calls_of_ne w call hd] at hx
    exact .inl ⟨hd, x, hx, hclaim⟩

/-- **A claim is held from the transaction that made it on**, by the call it was made in. -/
theorem ClassificationStep.held (h : ClassificationStep sha256 loads w e w') {c : ℕ}
    {claim : ClassificationClaim} (hw : w'.Holds c claim) :
    w.Holds c claim ∨ ∃ request, e = .claim c request (.ok (.claimed claim)) := by
  -- A call that keeps its claim, or loses it.
  have moved : ∀ {db : Database} {d : ℕ} {call : Option ClassifyCall},
      (∀ x, call = some x → ∀ made, x.stage.claim? = some made → w.Holds d made) →
        ({ w with db := db }.setCall d call : ClassificationWorld).Holds c claim →
          w.Holds c claim := by
    intro db d call hcall hholds
    rcases holds_setCall hholds with ⟨-, hold⟩ | ⟨rfl, x, hx, hclaim⟩
    · exact hold
    · exact hcall x hx claim hclaim
  cases h with
  | environment => exact .inl hw
  | read => exact .inl hw
  | arrive request free =>
    exact .inl (moved (fun x hx made hmade ↦ by cases hx; cases hmade) hw)
  | openClaim stage =>
    exact .inl (moved (fun x hx made hmade ↦ by cases hx; cases hmade) hw)
  | @claim d request operationId viewedAt writtenAt result db stage run =>
    rcases holds_setCall hw with ⟨-, hold⟩ | ⟨rfl, x, hx, hclaim⟩
    · exact .inl hold
    · cases result with
      | existing view => cases hx
      | claimed made =>
        cases hx
        cases hclaim
        exact .inr ⟨request, rfl⟩
  | claimRaised stage run => exact .inl (moved (fun x hx ↦ by cases hx) hw)
  | invoke stage sufficient =>
    exact .inl (moved (fun x hx made hmade ↦ by cases hx; exact ⟨_, stage, hmade⟩) hw)
  | answer stage =>
    exact .inl (moved (fun x hx made hmade ↦ by cases hx; exact ⟨_, stage, hmade⟩) hw)
  | shortcut stage insufficient =>
    exact .inl (moved (fun x hx made hmade ↦ by cases hx; exact ⟨_, stage, hmade⟩) hw)
  | openCompletion stage =>
    exact .inl (moved (fun x hx made hmade ↦ by cases hx; exact ⟨_, stage, hmade⟩) hw)
  | complete stage run => exact .inl (moved (fun x hx ↦ by cases hx) hw)
  | completeRaised stage run => exact .inl (moved (fun x hx ↦ by cases hx) hw)
  | die c => exact .inl (moved (fun x hx ↦ by cases hx) hw)

/-- A completion ends its call. -/
theorem ClassificationStep.completion_ends {c : ℕ} {claim : ClassificationClaim}
    {checkedAt : Instant} {response : ClassificationResponse}
    (h : ClassificationStep sha256 loads w (.complete c claim checkedAt response) w')
    (made : ClassificationClaim) : w.Holds c claim ∧ ¬w'.Holds c made := by
  cases h with
  | complete stage run =>
    refine ⟨⟨_, stage, rfl⟩, fun ⟨x, hx, _⟩ ↦ ?_⟩
    rw [setCall_calls_self] at hx
    cases hx
  | completeRaised stage run =>
    refine ⟨⟨_, stage, rfl⟩, fun ⟨x, hx, _⟩ ↦ ?_⟩
    rw [setCall_calls_self] at hx
    cases hx

/-! ### The invariants -/

/-- The row a claim works on: the one it inserted, which nobody but its own call may publish. -/
structure Backed (sha256 : String → String) (db : Database) (claim : ClassificationClaim)
    (operation : ClassificationOperation) : Prop where
  row : db.operations.get? claim.operationId = some operation
  identity : operation.identity = claim.identity
  actor : operation.requestingActorUserId = claim.actorId
  attempts : operation.attemptCount = if claim.prepared.insufficientContext then 0 else 1
  state : operation.state = .inProgress ∨ operation.state = .unknown
  digest : claim.digest = claim.runtime.digest sha256

namespace Backed

variable {db : Database} {claim : ClassificationClaim} {operation : ClassificationOperation}

theorem organizationId (h : Backed sha256 db claim operation) :
    operation.organizationId = claim.organizationId :=
  congrArg ClassificationIdentity.organizationId h.identity

theorem ticketId (h : Backed sha256 db claim operation) : operation.ticketId = claim.ticketId :=
  congrArg ClassificationIdentity.ticketId h.identity

theorem inputFingerprint (h : Backed sha256 db claim operation) :
    operation.inputFingerprint = claim.prepared.fingerprint :=
  congrArg ClassificationIdentity.inputFingerprint h.identity

theorem configDigest (h : Backed sha256 db claim operation) :
    operation.configDigest = claim.runtime.digest sha256 :=
  (congrArg ClassificationIdentity.configDigest h.identity).trans h.digest

theorem not_succeeded (h : Backed sha256 db claim operation) : operation.state ≠ .succeeded := by
  rcases h.state with hs | hs <;> rw [hs] <;> exact nofun

end Backed

/-- **What every reachable state keeps.** -/
structure Classified (sha256 : String → String) (w : ClassificationWorld) : Prop where
  identities : w.db.UniqueIdentities
  backed : ∀ c claim, w.Holds c claim → ∃ operation, Backed sha256 w.db claim operation
  distinct : ∀ c d a b, w.Holds c a → w.Holds d b → a.operationId = b.operationId → c = d

theorem ClassificationStep.change (h : ClassificationStep sha256 loads w e w')
    (hw : Classified sha256 w) : OperationChange sha256 w e w' := by
  cases h with
  | @claim c request operationId viewedAt writtenAt result db stage run =>
    obtain ⟨made, -, -, -, -, -, hcomputed, hresult⟩ := claim_spec run
    rcases hresult with ⟨operation, hfind, hresume⟩ | ⟨rfl, hinsert⟩
    · obtain ⟨view, rfl, -, rfl | ⟨hstate, rfl⟩⟩ := resume_spec hresume
      · exact .frame rfl
      · exact .materialized rfl (findOperation_eq_some hfind).1 hstate rfl
    · exact .inserted rfl hcomputed hinsert
  | @complete c elapsedMs request claim outcome completedAt checkedAt authorized view db stage
      run =>
    have hheld : w.Holds c claim := ⟨_, stage, rfl⟩
    obtain ⟨operation, hbacked⟩ := hw.backed c claim hheld
    obtain ⟨left, v, db', hrun, -, hcompletion⟩ := complete_spec sha256 claim outcome elapsedMs
      completedAt checkedAt hbacked.row hbacked.organizationId hbacked.not_succeeded
    rw [run] at hrun
    cases hrun
    cases hcompletion with
    | late state => exact .frame rfl
    | settle state checks => exact .completed rfl hheld hbacked.row state checks rfl
  | environment | arrive | openClaim | claimRaised | invoke | answer | shortcut | openCompletion
  | completeRaised | read | die => exact .frame rfl

/-! ### The rows -/

theorem settled_operations (operation : ClassificationOperation) (db : Database) :
    (settled operation db).operations = db.operations.set operation :=
  rfl

/-- A row written over an older version of itself. -/
theorem mem_settled {operation written x : ClassificationOperation} {db : Database}
    (hrow : operation ∈ db.operations) (hsame : SameWork operation written) :
    x ∈ (settled written db).operations ↔
      x = written ∨ x ∈ db.operations ∧ x.id ≠ operation.id := by
  rw [settled_operations, Table.mem_set hrow hsame.id.symm]
  simp only [PrimaryKey.key, hsame.id]

/-- Rewriting rows as the same work keeps their identities apart. -/
theorem uniqueIdentities_of_sameWork {db db' : Database} (h : db.UniqueIdentities)
    (hback : ∀ x ∈ db'.operations, ∃ y ∈ db.operations, SameWork y x) :
    db'.UniqueIdentities := by
  intro a ha b hb hidentity
  obtain ⟨a₀, ha₀, hsa⟩ := hback a ha
  obtain ⟨b₀, hb₀, hsb⟩ := hback b hb
  obtain rfl := h a₀ ha₀ b₀ hb₀ (hsa.identity.symm.trans (hidentity.trans hsb.identity))
  exact Table.eq_of_key_eq ha hb (hsa.id.trans hsb.id.symm)

theorem uniqueIdentities_settled {operation written : ClassificationOperation} {db : Database}
    (h : db.UniqueIdentities) (hrow : operation ∈ db.operations)
    (hsame : SameWork operation written) : (settled written db).UniqueIdentities := by
  refine uniqueIdentities_of_sameWork h fun x hx ↦ ?_
  rcases (mem_settled hrow hsame).1 hx with rfl | ⟨hx, -⟩
  · exact ⟨operation, hrow, hsame⟩
  · exact ⟨x, hx, .refl x⟩

/-- An inserted row has an identity of its own. -/
theorem uniqueIdentities_insert {operation : ClassificationOperation} {db db' : Database}
    (h : db.UniqueIdentities) (insert : db.insertOperation? operation = some db') :
    db'.UniqueIdentities := by
  obtain ⟨hnew, -, operations, hinsert, rfl⟩ := insertOperation?_eq_some insert
  intro a ha b hb hidentity
  rcases (Table.mem_insert? hinsert).1 ha with ha | rfl <;>
    rcases (Table.mem_insert? hinsert).1 hb with hb | rfl
  · exact h a ha b hb hidentity
  · exact absurd hidentity (hnew a ha)
  · exact absurd hidentity.symm (hnew b hb)
  · rfl

/-- **A row stays, as the same work**, and leaves its state only to become `unknown` or by the
completion of its own call. -/
theorem ClassificationStep.row_after (h : ClassificationStep sha256 loads w e w')
    (hw : Classified sha256 w) {operation : ClassificationOperation}
    (hrow : operation ∈ w.db.operations) :
    ∃ operation' ∈ w'.db.operations, SameWork operation operation' ∧
      (operation'.state = operation.state ∨
        operation'.state = .unknown ∨
          ∃ c claim checkedAt response, e = .complete c claim checkedAt response ∧
            claim.operationId = operation.id) := by
  cases h.change hw with
  | frame operations => exact ⟨operation, operations ▸ hrow, .refl _, .inl rfl⟩
  | inserted event computed insert =>
    obtain ⟨-, -, operations, hinsert, hdb⟩ := insertOperation?_eq_some insert
    refine ⟨operation, ?_, .refl _, .inl rfl⟩
    rw [hdb]
    exact (Table.mem_insert? hinsert).2 (.inl hrow)
  | @materialized c request view found now event row state hdb =>
    have hsame := materialize_sameWork found now
    by_cases hid : operation.id = found.id
    · obtain rfl := Table.eq_of_key_eq hrow row hid
      exact ⟨_, hdb ▸ (mem_settled row hsame).2 (.inl rfl), hsame, .inr (.inl rfl)⟩
    · exact ⟨operation, hdb ▸ (mem_settled row hsame).2 (.inr ⟨hrow, hid⟩), .refl _, .inl rfl⟩
  | @completed c elapsedMs claim completedAt checkedAt response found checks outcome event held row
      state run hdb =>
    have hfound := Table.mem_of_get? row
    have hsame := settle_sameWork found checks outcome elapsedMs completedAt checkedAt
    by_cases hid : operation.id = found.id
    · obtain rfl := Table.eq_of_key_eq hrow hfound hid
      refine ⟨_, hdb ▸ (mem_settled hfound hsame).2 (.inl rfl), hsame, .inr (.inr ?_)⟩
      exact ⟨c, claim, checkedAt, response, event, (Table.key_of_get? row).symm⟩
    · exact ⟨operation, hdb ▸ (mem_settled hfound hsame).2 (.inr ⟨hrow, hid⟩), .refl _, .inl rfl⟩

/-! ### The invariants hold -/

theorem Backed.sameWork {db db' : Database} {claim : ClassificationClaim}
    {operation operation' : ClassificationOperation} (h : Backed sha256 db claim operation)
    (hsame : SameWork operation operation') (hrow : operation' ∈ db'.operations)
    (hstate : operation'.state = .inProgress ∨ operation'.state = .unknown) :
    Backed sha256 db' claim operation' where
  row := Table.get?_eq_some_iff.2 ⟨hrow, hsame.id.trans (Table.key_of_get? h.row)⟩
  identity := hsame.identity.trans h.identity
  actor := hsame.requestingActorUserId.trans h.actor
  attempts := hsame.attemptCount.trans h.attempts
  state := hstate
  digest := h.digest

/-- The row a claim inserts is its own. -/
theorem Backed.of_insert {db db' : Database} {made : ClassificationClaim} {now : Instant}
    (hdigest : made.digest = made.runtime.digest sha256)
    (insert : db.insertOperation? (made.operation now) = some db') :
    Backed sha256 db' made (made.operation now) := by
  obtain ⟨-, -, operations, hinsert, rfl⟩ := insertOperation?_eq_some insert
  have hrow : made.operation now ∈ operations := (Table.mem_insert? hinsert).2 (.inr rfl)
  exact ⟨Table.get?_eq_some_iff.2 ⟨hrow, rfl⟩, rfl, rfl, rfl, .inl rfl, hdigest⟩

/-- A claim is made by inserting its row, under an id no row had. -/
theorem ClassificationStep.claimed {c : ℕ} {request : ClassifyRequest} {made : ClassificationClaim}
    (h : ClassificationStep sha256 loads w (.claim c request (.ok (.claimed made))) w') :
    w.db.operations.get? made.operationId = none ∧ made.request = request ∧
      ∃ now, Computed sha256 made w.db ∧
        w.db.insertOperation? (made.operation now) = some w'.db := by
  cases h with
  | claim stage run =>
    obtain ⟨made', -, horg, hactor, hticket, hruntime, hcomputed, hresult⟩ := claim_spec run
    rcases hresult with ⟨operation, -, hresume⟩ | ⟨hmade, hinsert⟩
    · obtain ⟨view, hview, -⟩ := resume_spec hresume
      cases hview
    · cases hmade
      refine ⟨(insertOperation?_eq_some hinsert).2.1, ?_, _, hcomputed, hinsert⟩
      rw [ClassificationClaim.request, horg, hactor, hticket, ← hruntime]

theorem ClassificationStep.classified (h : ClassificationStep sha256 loads w e w')
    (hw : Classified sha256 w) : Classified sha256 w' := by
  -- A claim just made is under an id no other claim has.
  have fresh : ∀ {c d : ℕ} {made other : ClassificationClaim} {request : ClassifyRequest},
      e = .claim c request (.ok (.claimed made)) → w.Holds d other →
        made.operationId ≠ other.operationId := by
    rintro c d made other request rfl hother hid
    obtain ⟨operation, hbacked⟩ := hw.backed d other hother
    have hrow := hbacked.row
    rw [← hid, h.claimed.1] at hrow
    cases hrow
  refine ⟨?_, ?_, ?_⟩
  · cases h.change hw with
    | frame operations =>
      intro a ha b hb
      exact hw.identities a (operations ▸ ha) b (operations ▸ hb)
    | inserted event computed insert => exact uniqueIdentities_insert hw.identities insert
    | materialized event row state hdb =>
      exact hdb ▸ uniqueIdentities_settled hw.identities row (materialize_sameWork _ _)
    | completed event held row state run hdb =>
      exact hdb ▸ uniqueIdentities_settled hw.identities (Table.mem_of_get? row)
        (settle_sameWork _ _ _ _ _ _)
  · intro c claim hheld
    rcases h.held hheld with hold | ⟨request, rfl⟩
    · obtain ⟨operation, hbacked⟩ := hw.backed c claim hold
      obtain ⟨operation', hrow, hsame, hstate⟩ := h.row_after hw (Table.mem_of_get? hbacked.row)
      refine ⟨operation', hbacked.sameWork hsame hrow ?_⟩
      rcases hstate with hstate | hstate | ⟨d, other, checkedAt, response, rfl, hid⟩
      · rw [hstate]
        exact hbacked.state
      · exact .inr hstate
      · -- The completion of this row is the end of this call.
        obtain ⟨hother, hends⟩ := h.completion_ends claim
        have hkey : operation.id = claim.operationId := Table.key_of_get? hbacked.row
        obtain rfl := hw.distinct d c other claim hother hold (hid.trans hkey)
        exact absurd hheld hends
    · obtain ⟨-, -, now, hcomputed, hinsert⟩ := h.claimed
      exact ⟨_, .of_insert hcomputed.digest hinsert⟩
  · intro c d a b ha hb hid
    rcases h.held ha with ha | ⟨request, rfl⟩
    · rcases h.held hb with hb | ⟨request, rfl⟩
      · exact hw.distinct c d a b ha hb hid
      · exact absurd hid.symm (fresh rfl ha)
    · rcases h.held hb with hb | ⟨request', heq⟩
      · exact absurd hid (fresh rfl hb)
      · cases heq
        rfl

/-- **Every reachable state keeps the invariants.** -/
theorem reachable_classified (h : (classification sha256 loads).Reachable w) :
    Classified sha256 w := by
  refine TransitionSystem.Reachable.invariant (I := Classified sha256) (fun w₀ h₀ ↦ ?_)
    (fun _ _ _ _ hw (hs : ClassificationStep sha256 loads _ _ _) ↦ hs.classified hw) h
  have hnone : ∀ c claim, ¬w₀.Holds c claim := fun c claim ⟨x, hx, _⟩ ↦ by
    rw [h₀.1 c] at hx
    cases hx
  exact ⟨h₀.2, fun c claim hc ↦ absurd hc (hnone c claim),
    fun c _ a _ ha ↦ absurd ha (hnone c a)⟩

end SupportFlow
