import SupportFlow.Classification.Changes

/-!
# One provider call per identity

An operation's row is inserted once, under an identity no other row has, and the call that inserted
it is the only one that ever works on it. That call invokes the provider at most once, so the
identity is invoked at most once over a whole run: crashes lose invocations, expiry and later POSTs
settle rows, and none of them makes a second claim.
-/

namespace SupportFlow

open Python ClassificationApplication

variable {sha256 : String → String} {loads : String → Option Json}
  {w w' w₀ : ClassificationWorld} {e : ClassificationEvent}

/-- The claim a step calls the provider for. -/
def ClassificationEvent.invocation? : ClassificationEvent → Option ClassificationClaim
  | invoke _ claimed => some claimed
  | environment | arrive _ | openClaim _ | claim _ _ _ | answer _ | shortcut _ | openCompletion _
  | complete _ _ _ _ | read _ _ | die _ => none

/-- The provider calls of a run, in order. -/
def invocations (ls : List ClassificationEvent) : List ClassificationClaim :=
  ls.filterMap ClassificationEvent.invocation?

theorem invocations_snoc (ls : List ClassificationEvent) (e : ClassificationEvent) :
    invocations (ls ++ [e]) = invocations ls ++ e.invocation?.toList := by
  rw [invocations, invocations, List.filterMap_append]
  rfl

/-- What a provider call leaves behind: the row of its operation, charged with the attempt. -/
def Charged (db : Database) (claim : ClassificationClaim) : Prop :=
  ∃ operation ∈ db.operations, operation.id = claim.operationId ∧
    operation.identity = claim.identity ∧ operation.attemptCount = 1

/-- The invocations of a run, beside the state it reached. -/
structure Dispatched (ls : List ClassificationEvent) (w : ClassificationWorld) : Prop where
  once : ((invocations ls).map ClassificationClaim.operationId).Nodup
  charged : ∀ claim ∈ invocations ls,
    claim.prepared.insufficientContext = false ∧ Charged w.db claim
  /-- A call that has claimed and not invoked is not among the invocations. -/
  waiting : ∀ c request claim, w.calls c = some ⟨request, .claimed claim⟩ →
    claim.operationId ∉ (invocations ls).map ClassificationClaim.operationId

theorem Charged.step (h : ClassificationStep sha256 loads w e w') (hw : Classified sha256 w)
    {claim : ClassificationClaim} (hcharged : Charged w.db claim) : Charged w'.db claim := by
  obtain ⟨operation, hrow, hid, hidentity, hattempts⟩ := hcharged
  obtain ⟨operation', hrow', hsame, -⟩ := h.row_after hw hrow
  exact ⟨operation', hrow', hsame.id.trans hid, hsame.identity.trans hidentity,
    hsame.attemptCount.trans hattempts⟩

/-- A provider call is made outside any transaction, for a charged operation. -/
theorem ClassificationStep.invoked {c : ℕ} {claim : ClassificationClaim}
    (h : ClassificationStep sha256 loads w (.invoke c claim) w') (hw : Classified sha256 w) :
    ∃ request, w.calls c = some ⟨request, .claimed claim⟩ ∧
      w'.calls c = some ⟨request, .invoked claim⟩ ∧ w'.db = w.db ∧
      claim.prepared.insufficientContext = false ∧ Charged w.db claim := by
  cases h with
  | @invoke _ request _ stage sufficient =>
    obtain ⟨operation, hbacked⟩ := hw.backed c claim ⟨_, stage, rfl⟩
    refine ⟨request, stage, setCall_calls_self _ _ _, rfl, sufficient, operation,
      Table.mem_of_get? hbacked.row, Table.key_of_get? hbacked.row, hbacked.identity, ?_⟩
    rw [hbacked.attempts, sufficient]
    rfl

/-- A call waits to invoke from the transaction that made its claim on. -/
theorem ClassificationStep.waiting (h : ClassificationStep sha256 loads w e w') {c : ℕ}
    {request : ClassifyRequest} {claim : ClassificationClaim}
    (hw : w'.calls c = some ⟨request, .claimed claim⟩) :
    w.calls c = some ⟨request, .claimed claim⟩ ∨
      e = .claim c request (.ok (.claimed claim)) := by
  -- Every other step puts its call in another stage.
  have moved : ∀ {db : Database} {d : ℕ} {call : Option ClassifyCall},
      call ≠ some ⟨request, .claimed claim⟩ →
        ({ w with db := db }.setCall d call : ClassificationWorld).calls c =
          some ⟨request, .claimed claim⟩ → w.calls c = some ⟨request, .claimed claim⟩ := by
    intro db d call hcall hset
    by_cases hd : c = d
    · subst hd
      rw [setCall_calls_self] at hset
      exact absurd hset hcall
    · rwa [setCall_calls_of_ne _ _ hd] at hset
  cases h with
  | environment => exact .inl hw
  | read => exact .inl hw
  | @claim d request' operationId viewedAt writtenAt result db stage run =>
    by_cases hd : c = d
    · subst hd
      rw [setCall_calls_self] at hw
      cases result with
      | existing view => cases hw
      | claimed made =>
        cases hw
        exact .inr rfl
    · rw [setCall_calls_of_ne _ _ hd] at hw
      exact .inl hw
  | arrive | openClaim | claimRaised | invoke | answer | shortcut | openCompletion | complete
  | completeRaised | die => exact .inl (moved (by simp) hw)

theorem Dispatched.step {ls : List ClassificationEvent} (h : Dispatched ls w)
    (hw : Classified sha256 w) (hs : ClassificationStep sha256 loads w e w') :
    Dispatched (ls ++ [e]) w' := by
  by_cases hinvoke : ∃ c claim, e = .invoke c claim
  · obtain ⟨c, claim, rfl⟩ := hinvoke
    obtain ⟨request, hstage, hstage', hdb, hsufficient, hcharged⟩ := hs.invoked hw
    have hls : invocations (ls ++ [.invoke c claim]) = invocations ls ++ [claim] :=
      invocations_snoc ls _
    have hnew : claim.operationId ∉ (invocations ls).map ClassificationClaim.operationId :=
      h.waiting c request claim hstage
    refine ⟨?_, ?_, ?_⟩
    · rw [hls, List.map_append]
      exact h.once.append (List.nodup_singleton _) (by simpa using hnew)
    · intro made hmade
      rw [hls] at hmade
      rw [hdb]
      rcases List.mem_append.1 hmade with hmade | hmade
      · exact h.charged made hmade
      · obtain rfl := List.mem_singleton.1 hmade
        exact ⟨hsufficient, hcharged⟩
    · intro d request' made hcall hmem
      rw [hls, List.map_append, List.mem_append] at hmem
      rcases hs.waiting hcall with hold | hclaim
      · rcases hmem with hmem | hmem
        · exact h.waiting d request' made hold hmem
        · -- A second call on this operation would be the same call, which is now invoked.
          obtain rfl := hw.distinct d c made claim ⟨_, hold, rfl⟩ ⟨_, hstage, rfl⟩
            (List.mem_singleton.1 hmem)
          rw [hstage'] at hcall
          cases hcall
      · cases hclaim
  · have hls : invocations (ls ++ [e]) = invocations ls := by
      rw [invocations_snoc]
      cases e with
      | invoke c claim => exact absurd ⟨c, claim, rfl⟩ hinvoke
      | _ => exact List.append_nil _
    refine ⟨hls ▸ h.once, fun made hmade ↦ ?_, fun d request made hcall hmem ↦ ?_⟩
    · obtain ⟨hsufficient, hcharged⟩ := h.charged made (hls ▸ hmade)
      exact ⟨hsufficient, hcharged.step hs hw⟩
    · rw [hls] at hmem
      rcases hs.waiting hcall with hold | rfl
      · exact h.waiting d request made hold hmem
      · -- The operation of a new claim had no row, and an invoked one has.
        obtain ⟨claim, hclaim, hid⟩ := List.mem_map.1 hmem
        obtain ⟨-, operation, hrow, hkey, -⟩ := h.charged claim hclaim
        have hget := Table.get?_key hrow
        rw [show PrimaryKey.key operation = made.operationId from hkey.trans hid,
          hs.claimed.1] at hget
        cases hget

theorem run_dispatched {ls : List ClassificationEvent}
    (init : (classification sha256 loads).init w₀)
    (run : (classification sha256 loads).Run w₀ ls w) : Dispatched ls w := by
  refine TransitionSystem.Run.tracked (I := Dispatched) ⟨List.nodup_nil, ?_, ?_⟩ ?_ run
  · exact fun claim hclaim ↦ absurd hclaim List.not_mem_nil
  · exact fun _ _ _ _ hmem ↦ absurd hmem List.not_mem_nil
  · exact fun ls w e w' hrun h hs ↦ h.step (reachable_classified ⟨w₀, ls, init, hrun⟩) hs

/-- Two invocations of one identity are invocations of one operation. -/
theorem Dispatched.identities {ls : List ClassificationEvent} (h : Dispatched ls w)
    (hw : Classified sha256 w) :
    ((invocations ls).map ClassificationClaim.identity).Nodup := by
  have hinj : ∀ a ∈ invocations ls, ∀ b ∈ invocations ls, a.identity = b.identity → a = b := by
    intro a ha b hb hidentity
    obtain ⟨-, x, hx, hxid, hxa, -⟩ := h.charged a ha
    obtain ⟨-, y, hy, hyid, hyb, -⟩ := h.charged b hb
    obtain rfl := hw.identities x hx y hy (hxa.trans (hidentity.trans hyb.symm))
    exact List.inj_on_of_nodup_map h.once ha hb (hxid.symm.trans hyid)
  exact List.Nodup.map_on hinj h.once.of_map

/-- **The provider is called at most once for an identity**, over any run: never for an input
without context, never more often than the operation's attempts, and each time with the operation
committed and no transaction of the call open. -/
theorem provider_called_once {ls : List ClassificationEvent}
    (init : (classification sha256 loads).init w₀)
    (run : (classification sha256 loads).Run w₀ ls w) :
    ((invocations ls).map ClassificationClaim.identity).Nodup ∧
      (∀ claim ∈ invocations ls, claim.prepared.insufficientContext = false) ∧
      (∀ operation ∈ w.db.operations,
        ((invocations ls).map ClassificationClaim.operationId).count operation.id ≤
          operation.attemptCount) ∧
      ∀ ms c claim u v, (classification sha256 loads).Run w₀ ms u →
        ClassificationStep sha256 loads u (.invoke c claim) v →
          (∃ operation ∈ u.db.operations, operation.identity = claim.identity ∧
            operation.id = claim.operationId) ∧
            ∃ call, u.calls c = some call ∧ ¬call.stage.InTransaction := by
  have h := run_dispatched init run
  have hw := reachable_classified ⟨w₀, ls, init, run⟩
  refine ⟨h.identities hw, fun claim hclaim ↦ (h.charged claim hclaim).1, ?_, ?_⟩
  · intro operation hrow
    by_cases hmem : operation.id ∈ (invocations ls).map ClassificationClaim.operationId
    · obtain ⟨claim, hclaim, hid⟩ := List.mem_map.1 hmem
      obtain ⟨-, charged, hcharged, hkey, -, hattempts⟩ := h.charged claim hclaim
      obtain rfl := Table.eq_of_key_eq hcharged hrow (hkey.trans hid)
      rw [hattempts]
      exact List.nodup_iff_count_le_one.1 h.once _
    · rw [List.count_eq_zero_of_not_mem hmem]
      exact Nat.zero_le _
  · intro ms c claim u v hrun hs
    obtain ⟨request, hstage, -, -, -, operation, hrow, hid, hidentity, -⟩ :=
      hs.invoked (reachable_classified ⟨w₀, ms, init, hrun⟩)
    exact ⟨⟨operation, hrow, hidentity, hid⟩, _, hstage, id⟩

theorem provider_called_once_sample :
    invocations ClassificationSample.invoking = [ClassificationSample.claim] ∧
      ((invocations ClassificationSample.invoking).map
        ClassificationClaim.operationId).count (uuid 20) ≤ 1 := by
  obtain ⟨w, run, hdb, -⟩ := ClassificationSample.run_invoked
  have hattempts := (provider_called_once ClassificationSample.start_init run).2.2.1
    (ClassificationSample.claim.operation 0)
    (hdb ▸ List.mem_singleton_self (ClassificationSample.claim.operation 0))
  exact ⟨rfl, hattempts⟩

end SupportFlow
