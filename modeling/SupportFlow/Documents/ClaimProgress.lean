import SupportFlow.Documents.System
import SupportFlow.Foundations.Queue

/-!
# Every claim makes progress

The due intents are a queue (`dueIntents`): unsettled, resolved, due by now and not leased, in the
order of `(available_at, id)`. With nobody else at the table a claim looks at the head of the queue,
and whichever exit it takes, the row that it writes back is not due any more
(`IngestionRelay.Examined.not_due`): a settled intent has `settled_at`, an ambiguous and an
exhausted one `unresolved_at`, and a postponed and a published one an `available_at` in the future.

So one claim takes one intent off the queue (`claim_head`), and as many claims as there are due
intents handle them all, in their order (`claims_empty_queue`).
-/

namespace SupportFlow

namespace IngestionRelay

/-- The due intents, in the order in which they are claimed. -/
def dueIntents (now : Instant) (db : Database) : List DocumentIngestionIntent :=
  db.intents.queue DocumentIngestionIntent.DueBefore fun i ↦ decide (i.Due now)

/-- No row is locked by another transaction. -/
def unlocked : UUID → Bool :=
  fun _ ↦ false

/-- Claims one after the other, each with the token that it draws. -/
def claims (policy : RelayPolicy) (now : Instant) :
    List UUID → Database → Option (List ClaimExit × Database)
  | [], db => some ([], db)
  | token :: tokens, db => do
    let (exit, db) ← claim policy now unlocked token db
    let (exits, db) ← claims policy now tokens db
    some (exit :: exits, db)

theorem orders_dueBefore : Table.Orders DocumentIngestionIntent.DueBefore :=
  Table.orders_oldest DocumentIngestionIntent.availableAt DocumentIngestionIntent.id fun _ _ ↦ id

variable {policy : RelayPolicy} {now : Instant} {token : UUID} {db db' : Database}
  {intent intent' : DocumentIngestionIntent} {version : DocumentVersion} {exit : ClaimExit}
  {rest : List DocumentIngestionIntent}

theorem mem_dueIntents : intent ∈ dueIntents now db ↔ intent ∈ db.intents ∧ intent.Due now :=
  Table.mem_queue.trans (and_congr_right' decide_eq_true_iff)

/-! ### One claim -/

theorem select_unlocked : select now unlocked db = (dueIntents now db).head? := by
  have hcond : (fun i : DocumentIngestionIntent ↦ decide (i.Due now) && !unlocked i.id) =
      fun i ↦ decide (i.Due now) :=
    funext fun i ↦ Bool.and_true _
  rw [select, hcond, orderByLimit, List.head?_take, if_neg one_ne_zero]
  rfl

/-- **No exit leaves the intent due.** -/
theorem Examined.not_due (hlease : 1 ≤ policy.leaseSeconds)
    (h : Examined policy now token intent version exit intent') : ¬intent'.Due now := by
  rintro ⟨hsettled, hunresolved, havailable, -⟩
  cases h with
  | settled => cases hsettled
  | ambiguous => cases hunresolved
  | exhausted => cases hunresolved
  | postponed _ _ _ fresh => exact absurd fresh (not_lt.2 havailable)
  | published =>
    have hlater : 0 < seconds policy.leaseSeconds :=
      Int.mul_pos (Int.lt_of_lt_of_le one_pos hlease) (by decide)
    exact absurd havailable (not_le.2 (Int.lt_add_of_pos_right now hlater))

/-- **A claim takes the head off the queue**: it examines the least due intent, and writes that row
and nothing else. -/
theorem claim_head (hconsistent : db.Consistent) (hlease : 1 ≤ policy.leaseSeconds)
    (h : dueIntents now db = intent :: rest) (token : UUID) :
    ∃ exit version intent', claim policy now unlocked token db =
        some (exit, db.setIntent intent') ∧
      versionOf db intent = some version ∧
      Examined policy now token intent version exit intent' ∧
      dueIntents now (db.setIntent intent') = rest ∧ (db.setIntent intent').Consistent := by
  have hmem : intent ∈ db.intents := (mem_dueIntents.1 (h ▸ List.mem_cons_self)).1
  obtain ⟨version, hversion⟩ := hconsistent.version_of_intent intent hmem
  have hexamined := examine_spec policy now token intent version
  obtain ⟨hid, horg, hver, htask⟩ := hexamined.identity
  refine ⟨_, version, _, ?_, hversion, hexamined, ?_, ?_⟩
  · rw [claim, select_unlocked, h]
    dsimp only [List.head?_cons]
    rw [hversion]
    rfl
  · exact Table.queue_set_head orders_dueBefore h hid
      (decide_eq_false (hexamined.not_due hlease))
  · exact hconsistent.setIntent (Table.get?_key hmem) ⟨hid, horg, hver, htask⟩

/-- With nothing due, a claim returns `None`, and writes nothing. -/
theorem claim_of_nothing_due (h : dueIntents now db = []) (token : UUID) :
    claim policy now unlocked token db = some (.idle, db) := by
  rw [claim, select_unlocked, h]
  rfl

/-! ### Claims until nothing is due -/

/-- **As many claims as there are due intents handle them all, in their order.** -/
theorem claims_empty_queue (hlease : 1 ≤ policy.leaseSeconds) :
    ∀ {tokens : List UUID} {db : Database}, db.Consistent →
      tokens.length = (dueIntents now db).length →
        ∃ exits db', claims policy now tokens db = some (exits, db') ∧
          exits.map ClaimExit.intentId? = (dueIntents now db).map (some ·.id) ∧
          dueIntents now db' = []
  | [], db, _, hlength => by
    have hempty : dueIntents now db = [] := List.length_eq_zero_iff.1 hlength.symm
    exact ⟨[], db, rfl, by rw [hempty]; rfl, hempty⟩
  | token :: tokens, db, hconsistent, hlength => by
    obtain ⟨intent, rest, hqueue⟩ := List.exists_cons_of_length_eq_add_one hlength.symm
    obtain ⟨exit, version, intent', hclaim, -, hexamined, hrest, hkept⟩ :=
      claim_head hconsistent hlease hqueue token
    have hremaining : tokens.length = (dueIntents now (db.setIntent intent')).length := by
      rw [hqueue] at hlength
      rw [hrest]
      exact Nat.succ.inj hlength
    obtain ⟨exits, db', hclaims, hexits, hdone⟩ := claims_empty_queue hlease hkept hremaining
    refine ⟨exit :: exits, db', ?_, ?_, hdone⟩
    · rw [claims, hclaim]
      dsimp only [Option.bind_eq_bind, Option.bind_some]
      rw [hclaims]
      rfl
    · rw [List.map_cons, hexamined.intentId?, hexits, hrest, hqueue, List.map_cons]

/-- **Every claim makes progress, and none starves.** At a fixed time, with nobody else at the table
and a lease of at least a second, a claim takes the least due intent off the queue of due intents
and adds none to it, whichever exit it takes, and it writes no other row of any table. With nothing
due it returns `None` and writes nothing at all. So as many claims as there are due intents handle
them all, in their order, and the next one finds nothing. -/
theorem claims_make_progress {policy : RelayPolicy} (hlease : 1 ≤ policy.leaseSeconds)
    (now : Instant) {db : Database} (hconsistent : db.Consistent) :
    (∀ token,
      match dueIntents now db with
      | [] =>
        (claim policy now unlocked token db).map (fun r ↦ (r.1.publication?, r.2)) = some (none, db)
      | intent :: rest => ∃ exit db', claim policy now unlocked token db = some (exit, db') ∧
          exit.intentId? = some intent.id ∧
          (intent ∈ db.intents ∧ intent.Due now ∧
            ∀ i ∈ db.intents, i.Due now → intent.DueBefore i) ∧
          dueIntents now db' = rest ∧
          (∀ i, i ∈ db'.intents ∧ i.Due now ↔ (i ∈ db.intents ∧ i.Due now) ∧ i ≠ intent) ∧
          (∀ id, id ≠ intent.id → db'.intents.get? id = db.intents.get? id) ∧
          db' = { db with intents := db'.intents }) ∧
      ∀ tokens : List UUID, tokens.length = (dueIntents now db).length →
        ∃ exits db', claims policy now tokens db = some (exits, db') ∧
          exits.map ClaimExit.intentId? = (dueIntents now db).map (some ·.id) ∧
          dueIntents now db' = [] ∧
          ∀ token, claim policy now unlocked token db' = some (.idle, db') := by
  refine ⟨fun token ↦ ?_, fun tokens hlength ↦ ?_⟩
  · rcases hqueue : dueIntents now db with - | ⟨intent, rest⟩
    · show (claim policy now unlocked token db).map _ = _
      rw [claim_of_nothing_due hqueue]
      rfl
    · obtain ⟨exit, version, intent', hclaim, -, hexamined, hrest, -⟩ :=
        claim_head hconsistent hlease hqueue token
      have hdue : ∀ {i}, i ∈ db.intents ∧ i.Due now ↔ i ∈ intent :: rest := fun {i} ↦ by
        rw [← hqueue, mem_dueIntents]
      have hsorted : (intent :: rest).Pairwise DocumentIngestionIntent.DueBefore :=
        hqueue ▸ Table.pairwise_queue orders_dueBefore
      have hnodup : (intent :: rest).Nodup := hqueue ▸ Table.nodup_queue
      have hid : intent'.id = intent.id := hexamined.identity.1
      refine ⟨exit, _, hclaim, hexamined.intentId?, ?_, hrest, fun i ↦ ?_, fun id hne ↦ ?_, rfl⟩
      · obtain ⟨hmem, hnow⟩ := hdue.2 List.mem_cons_self
        refine ⟨hmem, hnow, fun i hi hidue ↦ ?_⟩
        rcases List.mem_cons.1 (hdue.1 ⟨hi, hidue⟩) with rfl | hlater
        · exact .inr ⟨rfl, le_rfl⟩
        · exact (List.pairwise_cons.1 hsorted).1 i hlater
      · rw [← mem_dueIntents, hrest, hdue, List.mem_cons, or_and_right, and_not_self_iff, false_or]
        exact ⟨fun h ↦ ⟨h, fun heq ↦ (List.nodup_cons.1 hnodup).1 (heq ▸ h)⟩, And.left⟩
      · exact Table.get?_set_of_ne (show id ≠ intent'.id from hid.symm ▸ hne)
  · obtain ⟨exits, db', hclaims, hexits, hdone⟩ :=
      claims_empty_queue hlease hconsistent hlength
    exact ⟨exits, db', hclaims, hexits, hdone, fun token ↦ claim_of_nothing_due hdone token⟩

end IngestionRelay

namespace Sample

theorem consistent_uploaded : uploaded.db.Consistent where
  document_of_version v hv := by
    obtain rfl := List.mem_singleton.1 hv
    exact ⟨document, rfl, rfl⟩
  version_of_intent i hi := by
    obtain rfl := List.mem_singleton.1 hi
    exact ⟨version, rfl⟩
  intent_unique i hi j hj _ := by
    obtain rfl := List.mem_singleton.1 hi
    exact (List.mem_singleton.1 hj).symm

end Sample

open IngestionRelay in
/-- The intent of the sample upload is due, one claim handles it, and the next finds nothing. -/
theorem claims_make_progress_sample :
    dueIntents 0 Sample.uploaded.db = [Sample.intent] ∧
      ∃ exits db', claims Sample.limits.policy 0 [uuid 7] Sample.uploaded.db = some (exits, db') ∧
        exits.map ClaimExit.intentId? = [some (uuid 5)] ∧ dueIntents 0 db' = [] ∧
        ∀ token, claim Sample.limits.policy 0 unlocked token db' = some (.idle, db') := by
  have hqueue : dueIntents 0 Sample.uploaded.db = [Sample.intent] := rfl
  obtain ⟨exits, db', hclaims, hexits, hdone, hidle⟩ :=
    (claims_make_progress (show 1 ≤ Sample.limits.policy.leaseSeconds by decide) 0
      Sample.consistent_uploaded).2 [uuid 7] (by rw [hqueue]; rfl)
  exact ⟨hqueue, exits, db', hclaims, by rw [hexits, hqueue]; rfl, hdone, hidle⟩

end SupportFlow
