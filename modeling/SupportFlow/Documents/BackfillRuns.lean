import SupportFlow.Documents.ClaimProgress
import SupportFlow.Foundations.Sql
import SupportFlow.Identity.Uuid

/-!
# Repeated backfills

The queued versions that were created by the cutoff and have no intent are a queue
(`pendingVersions`), and a backfill takes its head: as many versions as its limit admits, each of
which gets one intent. What is left of the queue is the queue of the next call, so repeated calls
with one cutoff work it off, whatever their limits are, and then find nothing.

A call is the transaction of `Relay` under the `CHECK` that the outbox puts on a task id
(`checkedBackfill`). It succeeds when the known task ids of the queue can be stored (`Storable`) and
what `uuid4` returns is new (`NewDraws`); a call leaves the first true of what remains
(`Storable.kept`), which is why it needs to be assumed only once.
-/

namespace SupportFlow

namespace Backfill

open IngestionRelay (unlocked)

/-! ### The queue -/

/-- `ORDER BY created_at, id`. -/
def CreatedBefore (v w : DocumentVersion) : Prop :=
  v.createdAt < w.createdAt ∨ v.createdAt = w.createdAt ∧ v.id ≤ w.id

instance : DecidableRel CreatedBefore :=
  fun _ _ ↦ inferInstanceAs (Decidable (_ ∨ _))

/-- A version to be backfilled: queued, created by the cutoff, without an intent. -/
def Pending (cutoff : Instant) (db : Database) (v : DocumentVersion) : Prop :=
  v.createdAt ≤ cutoff ∧ v.status = .queued ∧
    ∀ i ∈ db.intents.rows, ¬(i.documentVersionId = v.id ∧ i.organizationId = v.organizationId)

instance (cutoff : Instant) (db : Database) : DecidablePred (Pending cutoff db) :=
  fun _ ↦ inferInstanceAs (Decidable (_ ∧ _ ∧ _))

/-- The versions to be backfilled, in the order in which they are. -/
def pendingVersions (cutoff : Instant) (db : Database) : List DocumentVersion :=
  db.versions.queue CreatedBefore fun v ↦ decide (Pending cutoff db v)

/-- The task id of a legacy version; an empty one counts as none. -/
def knownTaskId (v : DocumentVersion) : Option String :=
  v.processingTaskId.filter (· ≠ "")

/-- `backfill`, with nobody else at the tables, under the `CHECK` of the outbox on a task id. -/
def checkedBackfill (cutoff : Instant) (limit : ℕ) (now : Instant) (draw : UUID → UUID × UUID)
    (db : Database) : Except BackfillError (ℕ × Database) := do
  let returned ← backfill cutoff limit now unlocked draw db
  if ∀ v ∈ candidates cutoff limit unlocked db, Sql.Trimmed (intentFor now draw v).taskId then
    .ok returned
  else .error .integrityError

/-- The known task ids of the pending versions can be stored: they are distinct, trimmed and
unused. -/
structure Storable (cutoff : Instant) (db : Database) : Prop where
  distinct : ∀ v ∈ pendingVersions cutoff db, ∀ w ∈ pendingVersions cutoff db,
    ∀ t, knownTaskId v = some t → knownTaskId w = some t → v = w
  trimmed : ∀ v ∈ pendingVersions cutoff db, ∀ t ∈ knownTaskId v, t = Sql.trim t
  unused : ∀ v ∈ pendingVersions cutoff db, ∀ t ∈ knownTaskId v, ∀ i ∈ db.intents, i.taskId ≠ t

/-- What `uuid4` returns for the pending versions of a call: keys and task ids that nothing else
has. -/
structure NewDraws (cutoff : Instant) (db : Database) (draw : UUID → UUID × UUID) : Prop where
  keys_distinct : ∀ v ∈ pendingVersions cutoff db, ∀ w ∈ pendingVersions cutoff db,
    (draw v.id).1 = (draw w.id).1 → v = w
  tasks_distinct : ∀ v ∈ pendingVersions cutoff db, ∀ w ∈ pendingVersions cutoff db,
    (draw v.id).2 = (draw w.id).2 → v = w
  key_new : ∀ v ∈ pendingVersions cutoff db, ∀ i ∈ db.intents, i.id ≠ (draw v.id).1
  task_new : ∀ v ∈ pendingVersions cutoff db, ∀ i ∈ db.intents, i.taskId ≠ (draw v.id).2.str
  task_unknown : ∀ v ∈ pendingVersions cutoff db, ∀ w ∈ pendingVersions cutoff db,
    knownTaskId w ≠ some (draw v.id).2.str

/-- Calls one after the other, all with the same cutoff, with what they return. -/
inductive Calls (cutoff : Instant) : Database → List ℕ → Database → Prop
  | nil (db : Database) : Calls cutoff db [] db
  | cons {db db₁ db₂ : Database} {limit n : ℕ} {ns : List ℕ} {now : Instant}
      {draw : UUID → UUID × UUID} (new : NewDraws cutoff db draw)
      (call : checkedBackfill cutoff limit now draw db = .ok (n, db₁))
      (rest : Calls cutoff db₁ ns db₂) : Calls cutoff db (n :: ns) db₂

variable {cutoff now : Instant} {limit n : ℕ} {draw : UUID → UUID × UUID} {db db' : Database}
  {v w : DocumentVersion} {vs : List DocumentVersion}

theorem orders_createdBefore : Table.Orders CreatedBefore :=
  Table.orders_oldest DocumentVersion.createdAt DocumentVersion.id fun _ _ ↦ id

theorem mem_pendingVersions :
    v ∈ pendingVersions cutoff db ↔ v ∈ db.versions ∧ Pending cutoff db v :=
  Table.mem_queue.trans (and_congr_right' decide_eq_true_iff)

/-- **A batch is the head of the queue.** -/
theorem candidates_unlocked :
    candidates cutoff limit unlocked db = (pendingVersions cutoff db).take limit := by
  have hcond : (fun v : DocumentVersion ↦
      decide (v.createdAt ≤ cutoff) && decide (v.status = .queued) &&
        !(db.intents.rows.any fun i ↦
          decide (i.documentVersionId = v.id) && decide (i.organizationId = v.organizationId)) &&
        !unlocked v.id) = fun v ↦ decide (Pending cutoff db v) := by
    funext v
    rw [Bool.eq_iff_iff, decide_eq_true_iff]
    simp [Pending, unlocked, and_assoc]
  rw [candidates, hcond]
  rfl

/-! ### One insert, and a batch of them -/

/-- The intent's task id is the known one, or drawn. -/
theorem taskId_intentFor (now : Instant) (draw : UUID → UUID × UUID) (v : DocumentVersion) :
    (intentFor now draw v).taskId = (knownTaskId v).getD (draw v.id).2.str := by
  unfold intentFor knownTaskId
  rcases v.processingTaskId with - | t
  · rfl
  · by_cases h : t = ""
    · subst h
      rfl
    · simp [DocumentIngestionIntent.create, Option.filter, h]

/-- Every constraint admits the intent of a version. -/
structure Insertable (now : Instant) (draw : UUID → UUID × UUID) (db : Database)
    (v : DocumentVersion) : Prop where
  stored : v ∈ db.versions
  free : ∀ i ∈ db.intents.rows, ¬i.SameVersion (intentFor now draw v)
  task_unused : ∀ i ∈ db.intents.rows, i.taskId ≠ (intentFor now draw v).taskId
  key_unused : ∀ i ∈ db.intents.rows, i.id ≠ (intentFor now draw v).id

/-- The intents of two versions do not get in each other's way. -/
structure Apart (now : Instant) (draw : UUID → UUID × UUID) (v w : DocumentVersion) : Prop where
  version : v.id ≠ w.id
  task : (intentFor now draw v).taskId ≠ (intentFor now draw w).taskId
  key : (intentFor now draw v).id ≠ (intentFor now draw w).id

theorem insertOne_of_insertable (h : Insertable now draw db v) :
    ∃ db', insertOne now draw db v = some db' ∧
      db'.intents.rows = db.intents.rows ++ [intentFor now draw v] ∧
      db' = { db with intents := db'.intents } := by
  have hconflict : ¬∃ i ∈ db.intents.rows, i.SameVersion (intentFor now draw v) :=
    fun ⟨i, hi, hsame⟩ ↦ h.free i hi hsame
  have hkeys : (∃ version ∈ db.versions.get? (intentFor now draw v).documentVersionId,
      version.organizationId = (intentFor now draw v).organizationId) ∧
        ∀ i ∈ db.intents.rows, ¬i.SameVersion (intentFor now draw v) ∧
          i.taskId ≠ (intentFor now draw v).taskId :=
    ⟨⟨v, Table.get?_key h.stored, rfl⟩, fun i hi ↦ ⟨h.free i hi, h.task_unused i hi⟩⟩
  rcases hinsert : db.intents.insert? (intentFor now draw v) with - | intents
  · refine absurd (Table.get?_eq_none_iff.2 fun i hi ↦ ?_) (Table.insert?_eq_none_iff.1 hinsert)
    exact h.key_unused i hi
  · refine ⟨{ db with intents := intents }, ?_, (Table.insert?_eq_some_iff.1 hinsert).2, rfl⟩
    rw [insertOne, if_neg hconflict, Database.insertIntent?, if_pos hkeys, hinsert]
    rfl

/-- What was inserted leaves the rest of the batch insertable. -/
theorem Insertable.kept (h : Insertable now draw db w) (hapart : Apart now draw v w)
    (hrows : db'.intents.rows = db.intents.rows ++ [intentFor now draw v])
    (hversions : db'.versions = db.versions) : Insertable now draw db' w := by
  have hmem : ∀ i ∈ db'.intents.rows, i ∈ db.intents.rows ∨ i = intentFor now draw v := by
    intro i hi
    rwa [hrows, List.mem_append, List.mem_singleton] at hi
  refine ⟨hversions ▸ h.stored, fun i hi ↦ ?_, fun i hi ↦ ?_, fun i hi ↦ ?_⟩
  · rcases hmem i hi with hi | rfl
    · exact h.free i hi
    · exact fun hsame ↦ hapart.version hsame.2
  · rcases hmem i hi with hi | rfl
    · exact h.task_unused i hi
    · exact hapart.task
  · rcases hmem i hi with hi | rfl
    · exact h.key_unused i hi
    · exact hapart.key

/-- **A batch of insertable versions is inserted**, and nothing else is written. -/
theorem insert_batch (hpairwise : vs.Pairwise (Apart now draw)) :
    ∀ {db : Database}, (∀ v ∈ vs, Insertable now draw db v) →
      ∃ db', vs.foldlM (insertOne now draw) db = some db' ∧
        db'.intents.rows = db.intents.rows ++ vs.map (intentFor now draw) ∧
        db' = { db with intents := db'.intents } := by
  induction vs with
  | nil => exact fun _ ↦ ⟨_, rfl, (List.append_nil _).symm, rfl⟩
  | cons v vs ih =>
    intro db h
    obtain ⟨hapart, hrest⟩ := List.pairwise_cons.1 hpairwise
    obtain ⟨db₁, hinsert, hrows, hframe⟩ := insertOne_of_insertable (h v List.mem_cons_self)
    have hversions : db₁.versions = db.versions := by rw [hframe]
    obtain ⟨db', hfold, hrows', hframe'⟩ := ih hrest fun w hw ↦
      (h w (List.mem_cons_of_mem v hw)).kept (hapart w hw) hrows hversions
    refine ⟨db', ?_, ?_, ?_⟩
    · rw [List.foldlM_cons, hinsert]
      exact hfold
    · rw [hrows', hrows, List.append_assoc, List.singleton_append, List.map_cons]
    · rw [hframe', hframe]

/-! ### One call -/

theorem Pending.insertable (hstorable : Storable cutoff db) (hnew : NewDraws cutoff db draw)
    (now : Instant) (hv : v ∈ pendingVersions cutoff db) : Insertable now draw db v := by
  obtain ⟨hmem, -, -, hfree⟩ := mem_pendingVersions.1 hv
  refine ⟨hmem, fun i hi hsame ↦ hfree i hi ⟨hsame.2, hsame.1⟩, fun i hi ↦ ?_,
    fun i hi ↦ hnew.key_new v hv i hi⟩
  rw [taskId_intentFor]
  rcases hknown : knownTaskId v with - | t
  · exact hnew.task_new v hv i hi
  · exact hstorable.unused v hv t hknown i hi

theorem Pending.apart (hstorable : Storable cutoff db) (hnew : NewDraws cutoff db draw)
    (now : Instant) (hv : v ∈ pendingVersions cutoff db) (hw : w ∈ pendingVersions cutoff db)
    (hne : v ≠ w) : Apart now draw v w := by
  have hid : v.id ≠ w.id := fun heq ↦
    hne (db.versions.eq_of_key_eq (mem_pendingVersions.1 hv).1 (mem_pendingVersions.1 hw).1 heq)
  refine ⟨hid, ?_, fun heq ↦ hne (hnew.keys_distinct v hv w hw heq)⟩
  rw [taskId_intentFor, taskId_intentFor]
  rcases hknownv : knownTaskId v with - | t <;> rcases hknownw : knownTaskId w with - | u
  · -- Two drawn ids; the text of a UUID tells which it is.
    intro heq
    have hparse := congrArg UUID.parse? heq
    rw [Option.getD_none, Option.getD_none, UUID.parse?_str, UUID.parse?_str] at hparse
    exact hne (hnew.tasks_distinct v hv w hw (Option.some.inj hparse))
  · exact fun heq ↦ hnew.task_unknown v hv w hw (hknownw.trans (congrArg some heq.symm))
  · exact fun heq ↦ hnew.task_unknown w hw v hv (hknownv.trans (congrArg some heq))
  · rintro rfl
    exact hne (hstorable.distinct v hv w hw t hknownv hknownw)

/-- The text of a UUID passes the `CHECK`. -/
theorem trimmed_str (u : UUID) : Sql.Trimmed u.str := by
  refine ⟨(Sql.trim_eq_self fun hspace ↦ ?_).symm, fun hempty ↦ ?_⟩
  · rcases UUID.mem_str hspace with h | ⟨n, h⟩
    · exact absurd h (by decide)
    · exact absurd (h ▸ isSpace_hexDigit n) (by decide)
  · exact absurd (u.length_str.symm.trans (congrArg String.length hempty)) (by decide)

/-- The drawn task ids are trimmed, and so are the known ones. -/
theorem Pending.trimmed (hstorable : Storable cutoff db) (now : Instant)
    (draw : UUID → UUID × UUID) (hv : v ∈ pendingVersions cutoff db) :
    Sql.Trimmed (intentFor now draw v).taskId := by
  rw [taskId_intentFor]
  rcases hknown : knownTaskId v with - | t
  · exact trimmed_str _
  · exact ⟨hstorable.trimmed v hv t hknown,
      of_decide_eq_true (Option.filter_eq_some_iff.1 hknown).2⟩

/-- What a call with this limit does: an intent for each of the first versions of the queue, and
nothing else. -/
structure Backfilled (cutoff : Instant) (limit : ℕ) (now : Instant) (draw : UUID → UUID × UUID)
    (db db' : Database) : Prop where
  rows : db'.intents.rows =
    db.intents.rows ++ ((pendingVersions cutoff db).take limit).map (intentFor now draw)
  frame : db' = { db with intents := db'.intents }

/-- **A call succeeds**, and returns the number of versions that it took. -/
theorem checkedBackfill_eq_ok (hlimit : 1 ≤ limit ∧ limit ≤ 1000) (hcutoff : cutoff ≤ now)
    (hstorable : Storable cutoff db) (hnew : NewDraws cutoff db draw) :
    ∃ db', checkedBackfill cutoff limit now draw db =
        .ok (min limit (pendingVersions cutoff db).length, db') ∧
      Backfilled cutoff limit now draw db db' := by
  have htaken : ∀ {v}, v ∈ (pendingVersions cutoff db).take limit → v ∈ pendingVersions cutoff db :=
    fun h ↦ List.mem_of_mem_take h
  have hpairwise : ((pendingVersions cutoff db).take limit).Pairwise (Apart now draw) := by
    have hnodup : ((pendingVersions cutoff db).take limit).Nodup :=
      (List.take_sublist _ _).nodup Table.nodup_queue
    exact hnodup.imp_of_mem fun hv hw hne ↦
      Pending.apart hstorable hnew now (htaken hv) (htaken hw) hne
  obtain ⟨db', hfold, hrows, hframe⟩ := insert_batch hpairwise
    fun v hv ↦ Pending.insertable hstorable hnew now (htaken hv)
  refine ⟨db', ?_, hrows, hframe⟩
  have hcall : backfill cutoff limit now unlocked draw db =
      .ok (min limit (pendingVersions cutoff db).length, db') := by
    rw [backfill, if_neg (not_not.2 hlimit), if_neg (not_lt.2 hcutoff), candidates_unlocked, hfold,
      List.length_take]
  have hchecks : ∀ v ∈ candidates cutoff limit unlocked db,
      Sql.Trimmed (intentFor now draw v).taskId := by
    rw [candidates_unlocked]
    exact fun v hv ↦ Pending.trimmed hstorable now draw (htaken hv)
  rw [checkedBackfill, hcall]
  exact if_pos hchecks

/-- Only a call within the limits, with a cutoff in the past, returns. -/
theorem within_of_checkedBackfill (h : checkedBackfill cutoff limit now draw db = .ok (n, db')) :
    (1 ≤ limit ∧ limit ≤ 1000) ∧ cutoff ≤ now := by
  obtain ⟨returned, hcall, -⟩ := Except.bind_eq_ok_iff.1 h
  unfold backfill at hcall
  split at hcall
  · cases hcall
  next hlimit =>
  split at hcall
  · cases hcall
  next hcutoff =>
  exact ⟨not_not.1 hlimit, not_lt.1 hcutoff⟩

theorem backfilled_of_checkedBackfill (hstorable : Storable cutoff db)
    (hnew : NewDraws cutoff db draw)
    (h : checkedBackfill cutoff limit now draw db = .ok (n, db')) :
    n = min limit (pendingVersions cutoff db).length ∧ Backfilled cutoff limit now draw db db' := by
  obtain ⟨hlimit, hcutoff⟩ := within_of_checkedBackfill h
  obtain ⟨db'', hcall, hdone⟩ := checkedBackfill_eq_ok hlimit hcutoff hstorable hnew
  obtain ⟨rfl, rfl⟩ := Prod.mk.inj (Except.ok.inj (h.symm.trans hcall))
  exact ⟨rfl, hdone⟩

namespace Backfilled

variable (h : Backfilled cutoff limit now draw db db')
include h

theorem versions_eq : db'.versions = db.versions := by
  rw [h.frame]

/-- The intents afterwards: those there were, and those of the versions taken. -/
theorem mem_intents {i : DocumentIngestionIntent} : i ∈ db'.intents ↔
    i ∈ db.intents ∨ ∃ v ∈ (pendingVersions cutoff db).take limit, intentFor now draw v = i := by
  rw [← Table.mem_rows, h.rows, List.mem_append, List.mem_map, Table.mem_rows]

theorem pending_iff (hv : v ∈ db.versions) : Pending cutoff db' v ↔
    Pending cutoff db v ∧ v ∉ (pendingVersions cutoff db).take limit := by
  have hmine : ∀ {w}, w ∈ (pendingVersions cutoff db).take limit →
      (intentFor now draw w).documentVersionId = v.id → w = v := fun hw heq ↦
    db.versions.eq_of_key_eq (mem_pendingVersions.1 (List.mem_of_mem_take hw)).1 hv heq
  constructor
  · rintro ⟨hcreated, hqueued, hfree⟩
    refine ⟨⟨hcreated, hqueued, fun i hi ↦ hfree i (h.mem_intents.2 (.inl hi))⟩, fun htaken ↦ ?_⟩
    exact hfree _ (h.mem_intents.2 (.inr ⟨v, htaken, rfl⟩)) ⟨rfl, rfl⟩
  · rintro ⟨⟨hcreated, hqueued, hfree⟩, huntaken⟩
    refine ⟨hcreated, hqueued, fun i hi hsame ↦ ?_⟩
    rcases h.mem_intents.1 hi with hi | ⟨w, hw, rfl⟩
    · exact hfree i hi hsame
    · exact huntaken (hmine hw hsame.1 ▸ hw)

/-- **What a call leaves of the queue is the queue of the next.** -/
theorem pendingVersions_eq :
    pendingVersions cutoff db' = (pendingVersions cutoff db).drop limit := by
  rw [pendingVersions, h.versions_eq]
  refine Table.queue_of_taken orders_createdBefore
    (List.take_append_drop limit (pendingVersions cutoff db)).symm fun v hv ↦ ?_
  rw [decide_eq_true_iff, decide_eq_true_iff]
  exact h.pending_iff hv

/-- **The known task ids of what remains can still be stored.** -/
theorem storable (hstorable : Storable cutoff db) (hnew : NewDraws cutoff db draw) :
    Storable cutoff db' := by
  have hkept : ∀ {v}, v ∈ pendingVersions cutoff db' → v ∈ pendingVersions cutoff db := fun hv ↦
    List.mem_of_mem_drop (h.pendingVersions_eq ▸ hv)
  refine ⟨fun v hv w hw ↦ hstorable.distinct v (hkept hv) w (hkept hw),
    fun v hv ↦ hstorable.trimmed v (hkept hv), fun v hv t ht i hi ↦ ?_⟩
  rcases h.mem_intents.1 hi with hi | ⟨w, hw, rfl⟩
  · exact hstorable.unused v (hkept hv) t ht i hi
  · rw [taskId_intentFor]
    rcases hknown : knownTaskId w with - | u
    · exact fun heq ↦ hnew.task_unknown w (List.mem_of_mem_take hw) v (hkept hv)
        (ht.trans (congrArg some heq.symm))
    · rintro rfl
      -- Two pending versions with one task id are the same, but one was taken and one was not.
      obtain rfl := hstorable.distinct v (hkept hv) w (List.mem_of_mem_take hw) u ht hknown
      obtain ⟨hmem, hpending⟩ := mem_pendingVersions.1 hv
      exact ((h.pending_iff (h.versions_eq ▸ hmem)).1 hpending).2 hw

end Backfilled

/-! ### Repeated calls -/

/-- The number of versions to be backfilled. -/
def pendingCount (cutoff : Instant) (db : Database) : ℕ :=
  db.versions.rows.countP fun v ↦ decide (Pending cutoff db v)

theorem length_pendingVersions : (pendingVersions cutoff db).length = pendingCount cutoff db := by
  rw [pendingVersions, Table.queue, List.length_insertionSort, pendingCount,
    List.countP_eq_length_filter]

/-- An intent of a version, under the task id that the version is known by, if there is one. -/
def IntentOf (i : DocumentIngestionIntent) (v : DocumentVersion) : Prop :=
  (i.documentVersionId = v.id ∧ i.organizationId = v.organizationId) ∧
    ∀ t, knownTaskId v = some t → i.taskId = t

/-- A version has exactly one intent, under its known task id. -/
def HasIntent (db : Database) (v : DocumentVersion) : Prop :=
  ∃ i ∈ db.intents, IntentOf i v ∧
    ∀ j ∈ db.intents, j.documentVersionId = v.id → j.organizationId = v.organizationId → j = i

/-- What calls have done, beginning with `db`: they only added intents, each for a version that was
pending, and a version that was pending still is, or has its intent. -/
structure Progress (cutoff : Instant) (db db' : Database) : Prop where
  frame : db' = { db with intents := db'.intents }
  kept : ∀ i ∈ db.intents, i ∈ db'.intents
  added : ∀ i ∈ db'.intents,
    i ∈ db.intents ∨ ∃ v ∈ db.versions, Pending cutoff db v ∧ IntentOf i v
  served : ∀ v ∈ db.versions, Pending cutoff db v → Pending cutoff db' v ∨ HasIntent db' v

theorem intentOf_intentFor (now : Instant) (draw : UUID → UUID × UUID) (v : DocumentVersion) :
    IntentOf (intentFor now draw v) v :=
  ⟨⟨rfl, rfl⟩, fun t ht ↦ by rw [taskId_intentFor, ht, Option.getD_some]⟩

theorem Backfilled.pendingCount_eq (h : Backfilled cutoff limit now draw db db') :
    pendingCount cutoff db' = pendingCount cutoff db - limit := by
  rw [← length_pendingVersions, h.pendingVersions_eq, List.length_drop, length_pendingVersions]

/-- One call makes progress. -/
theorem Backfilled.progress (h : Backfilled cutoff limit now draw db db') :
    Progress cutoff db db' := by
  refine ⟨h.frame, fun i hi ↦ h.mem_intents.2 (.inl hi), fun i hi ↦ ?_, fun v hv hpending ↦ ?_⟩
  · refine (h.mem_intents.1 hi).imp_right ?_
    rintro ⟨v, hv, rfl⟩
    obtain ⟨hmem, hpending⟩ := mem_pendingVersions.1 (List.mem_of_mem_take hv)
    exact ⟨v, hmem, hpending, intentOf_intentFor now draw v⟩
  · by_cases htaken : v ∈ (pendingVersions cutoff db).take limit
    · refine .inr ⟨intentFor now draw v, h.mem_intents.2 (.inr ⟨v, htaken, rfl⟩),
        intentOf_intentFor now draw v, fun j hj hversion horg ↦ ?_⟩
      rcases h.mem_intents.1 hj with hj | ⟨w, hw, rfl⟩
      · exact absurd ⟨hversion, horg⟩ (hpending.2.2 j hj)
      · obtain ⟨hwmem, -⟩ := mem_pendingVersions.1 (List.mem_of_mem_take hw)
        rw [db.versions.eq_of_key_eq hwmem hv hversion]
    · exact .inl ((h.pending_iff hv).2 ⟨hpending, htaken⟩)

theorem Progress.versions_eq (h : Progress cutoff db db') : db'.versions = db.versions := by
  rw [h.frame]

/-- A version that has its intent is left alone. -/
theorem Progress.hasIntent (h : Progress cutoff db db') (hv : HasIntent db v) :
    HasIntent db' v := by
  obtain ⟨i, hi, hof, hunique⟩ := hv
  refine ⟨i, h.kept i hi, hof, fun j hj hversion horg ↦ ?_⟩
  rcases h.added j hj with hj | ⟨w, -, hpending, ⟨hwversion, hworg⟩, -⟩
  · exact hunique j hj hversion horg
  · -- An added intent is for a version that had none.
    exact absurd ⟨hof.1.1.trans (hversion.symm.trans hwversion),
      hof.1.2.trans (horg.symm.trans hworg)⟩ (hpending.2.2 i hi)

theorem Progress.trans {db₁ db₂ : Database} (h : Progress cutoff db db₁)
    (h' : Progress cutoff db₁ db₂) : Progress cutoff db db₂ := by
  have hpending : ∀ {v}, v ∈ db.versions → Pending cutoff db₁ v → Pending cutoff db v :=
    fun _ ⟨hcreated, hqueued, hfree⟩ ↦ ⟨hcreated, hqueued, fun i hi ↦ hfree i (h.kept i hi)⟩
  refine ⟨by rw [h'.frame, h.frame], fun i hi ↦ h'.kept i (h.kept i hi), fun i hi ↦ ?_,
    fun v hv hstart ↦ ?_⟩
  · rcases h'.added i hi with hi | ⟨v, hv, hstill, hof⟩
    · exact h.added i hi
    · rw [h.versions_eq] at hv
      exact .inr ⟨v, hv, hpending hv hstill, hof⟩
  · rcases h.served v hv hstart with hstill | hserved
    · exact h'.served v (h.versions_eq ▸ hv) hstill
    · exact .inr (h'.hasIntent hserved)

/-- **A run of calls**: the known task ids stay storable, progress is made, and what the calls
returned is what the queue has lost. -/
theorem Calls.progress {ns : List ℕ} (h : Calls cutoff db ns db') (hstorable : Storable cutoff db) :
    Storable cutoff db' ∧ Progress cutoff db db' ∧
      ns.sum + pendingCount cutoff db' = pendingCount cutoff db := by
  induction h with
  | nil db =>
    exact ⟨hstorable, ⟨rfl, fun _ hi ↦ hi, fun _ hi ↦ .inl hi, fun _ _ hv ↦ .inl hv⟩,
      Nat.zero_add _⟩
  | @cons db db₁ db₂ limit n ns now draw new call rest ih =>
    obtain ⟨rfl, hdone⟩ := backfilled_of_checkedBackfill hstorable new call
    obtain ⟨hstorable₂, hprogress, hsum⟩ := ih (hdone.storable hstorable new)
    refine ⟨hstorable₂, hdone.progress.trans hprogress, ?_⟩
    rw [hdone.pendingCount_eq] at hsum
    rw [List.sum_cons, length_pendingVersions]
    omega

/-- A call that returns zero found nothing, and did nothing. -/
theorem eq_of_returned_zero (hstorable : Storable cutoff db) (hnew : NewDraws cutoff db draw)
    (h : checkedBackfill cutoff limit now draw db = .ok (0, db')) :
    db' = db ∧ pendingCount cutoff db = 0 := by
  obtain ⟨hzero, hdone⟩ := backfilled_of_checkedBackfill hstorable hnew h
  have hlimit := (within_of_checkedBackfill h).1
  have hnone : (pendingVersions cutoff db).length = 0 := by omega
  have hrows : db'.intents = db.intents := Table.ext_rows (by
    rw [hdone.rows, List.eq_nil_of_length_eq_zero hnone, List.take_nil, List.map_nil,
      List.append_nil])
  exact ⟨by rw [hdone.frame, hrows], length_pendingVersions ▸ hnone⟩

/-- With nothing pending, calls return zero and change nothing. -/
theorem Calls.eq_of_none_pending {ns : List ℕ} (h : Calls cutoff db ns db')
    (hstorable : Storable cutoff db) (hnone : pendingCount cutoff db = 0) :
    db' = db ∧ ∀ n ∈ ns, n = 0 := by
  induction h with
  | nil db => exact ⟨rfl, fun _ hn ↦ absurd hn List.not_mem_nil⟩
  | @cons db db₁ db₂ limit n ns now draw new call rest ih =>
    obtain ⟨hn, -⟩ := backfilled_of_checkedBackfill hstorable new call
    have hzero : n = 0 := by rw [hn, length_pendingVersions, hnone, Nat.min_zero]
    subst hzero
    obtain ⟨rfl, -⟩ := eq_of_returned_zero hstorable new call
    obtain ⟨hsame, hzeros⟩ := ih hstorable hnone
    exact ⟨hsame, List.forall_mem_cons.2 ⟨rfl, hzeros⟩⟩

/-- **Backfilling converges, and is idempotent.** Let the known task ids of the pending versions be
storable. After any calls with one cutoff, whatever their limits were:

* the next call returns as many as are pending, up to its limit, and as many fewer are pending;
* no row was written but new intents, each for a version that was pending at the start;
* once a call returns zero, it and all further calls change nothing, and exactly the versions that
  were pending at the start have a new intent: each has one intent, under its known task id. -/
theorem backfill_converges {cutoff : Instant} {db : Database} (hstorable : Storable cutoff db)
    {ns : List ℕ} {db₁ : Database} (hcalls : Calls cutoff db ns db₁) :
    (∀ limit now draw, 1 ≤ limit ∧ limit ≤ 1000 → cutoff ≤ now → NewDraws cutoff db₁ draw →
      ∃ db₂, checkedBackfill cutoff limit now draw db₁ =
          .ok (min limit (pendingCount cutoff db₁), db₂) ∧
        pendingCount cutoff db₂ = pendingCount cutoff db₁ - min limit (pendingCount cutoff db₁)) ∧
      (db₁ = { db with intents := db₁.intents } ∧ (∀ i ∈ db.intents, i ∈ db₁.intents) ∧
        ∀ i ∈ db₁.intents,
          i ∈ db.intents ∨ ∃ v ∈ db.versions, Pending cutoff db v ∧ IntentOf i v) ∧
      ∀ limit now draw db₂, NewDraws cutoff db₁ draw →
        checkedBackfill cutoff limit now draw db₁ = .ok (0, db₂) →
          db₂ = db₁ ∧
          (∀ ns db₃, Calls cutoff db₂ ns db₃ → db₃ = db₂ ∧ ∀ n ∈ ns, n = 0) ∧
          (∀ v ∈ db.versions, Pending cutoff db v → HasIntent db₂ v) ∧
          ∀ v ∈ db.versions,
            (∃ i ∈ db₂.intents, i ∉ db.intents ∧ IntentOf i v) ↔ Pending cutoff db v := by
  obtain ⟨hstorable₁, hprogress, -⟩ := hcalls.progress hstorable
  refine ⟨fun limit now draw hlimit hcutoff hnew ↦ ?_,
    ⟨hprogress.frame, hprogress.kept, hprogress.added⟩,
    fun limit now draw db₂ hnew hcall ↦ ?_⟩
  · obtain ⟨db₂, hcall, hdone⟩ := checkedBackfill_eq_ok hlimit hcutoff hstorable₁ hnew
    rw [length_pendingVersions] at hcall
    refine ⟨db₂, hcall, ?_⟩
    rw [hdone.pendingCount_eq]
    omega
  · obtain ⟨rfl, hnone⟩ := eq_of_returned_zero hstorable₁ hnew hcall
    have hserved : ∀ v ∈ db.versions, Pending cutoff db v → HasIntent db₂ v := by
      intro v hv hpending
      refine (hprogress.served v hv hpending).resolve_left fun hstill ↦ ?_
      exact List.countP_eq_zero.1 hnone v (hprogress.versions_eq ▸ hv) (decide_eq_true hstill)
    refine ⟨rfl, fun ns db₃ hmore ↦ hmore.eq_of_none_pending hstorable₁ hnone, hserved,
      fun v hv ↦ ⟨?_, fun hpending ↦ ?_⟩⟩
    · rintro ⟨i, hi, hnew, hof⟩
      obtain ⟨w, hw, hpending, hof'⟩ := (hprogress.added i hi).resolve_left hnew
      rwa [db.versions.eq_of_key_eq hv hw (hof.1.1.symm.trans hof'.1.1)]
    · obtain ⟨i, hi, hof, -⟩ := hserved v hv hpending
      exact ⟨i, hi, fun hold ↦ hpending.2.2 i hold hof.1, hof⟩

end Backfill

namespace Sample

/-- The sample version, as it was before there were intents: it knows its task. -/
def legacyVersion : DocumentVersion :=
  { version with processingTaskId := some "legacy-1" }

/-- An installation from before there were intents. -/
def legacy : Database :=
  { installed.db with
    documents := .singleton document
    versions := .singleton legacyVersion }

theorem pendingVersions_legacy : Backfill.pendingVersions 0 legacy = [legacyVersion] := rfl

theorem storable_legacy : Backfill.Storable 0 legacy where
  distinct v hv w hw _ _ _ := by
    rw [pendingVersions_legacy, List.mem_singleton] at hv hw
    rw [hv, hw]
  trimmed v hv t ht := by
    rw [pendingVersions_legacy, List.mem_singleton] at hv
    subst hv
    obtain rfl : "legacy-1" = t := Option.some.inj ht
    exact (Sql.trim_eq_self (by decide)).symm
  unused _ _ _ _ i hi := absurd hi List.not_mem_nil

/-- The identifiers drawn for the sample version. -/
def draws : UUID → UUID × UUID :=
  fun _ ↦ (uuid 5, uuid 6)

theorem newDraws_legacy : Backfill.NewDraws 0 legacy draws where
  keys_distinct v hv w hw _ := by
    rw [pendingVersions_legacy, List.mem_singleton] at hv hw
    rw [hv, hw]
  tasks_distinct v hv w hw _ := by
    rw [pendingVersions_legacy, List.mem_singleton] at hv hw
    rw [hv, hw]
  key_new _ _ i hi := absurd hi List.not_mem_nil
  task_new _ _ i hi := absurd hi List.not_mem_nil
  task_unknown v _ w hw hknown := by
    rw [pendingVersions_legacy, List.mem_singleton] at hw
    subst hw
    have hlength := congrArg String.length (Option.some.inj hknown)
    rw [UUID.length_str] at hlength
    exact absurd hlength (by decide)

end Sample

namespace Backfill

/-- A legacy installation with one version: the first call returns one, the next returns zero, and
the version has its intent. -/
theorem backfill_converges_sample : ∃ db₁,
    checkedBackfill 0 10 0 Sample.draws Sample.legacy = .ok (1, db₁) ∧
      checkedBackfill 0 10 0 Sample.draws db₁ = .ok (0, db₁) ∧
      HasIntent db₁ Sample.legacyVersion := by
  obtain ⟨db₁, hfirst, hdone⟩ := checkedBackfill_eq_ok
    (show 1 ≤ 10 ∧ 10 ≤ 1000 by decide) (le_refl (0 : ℤ))
    Sample.storable_legacy Sample.newDraws_legacy
  have hqueue : pendingVersions 0 db₁ = [] := hdone.pendingVersions_eq
  have hnew : NewDraws 0 db₁ Sample.draws := by
    constructor <;> simp [hqueue]
  have hcalls : Calls 0 Sample.legacy [1] db₁ :=
    .cons Sample.newDraws_legacy hfirst (.nil db₁)
  obtain ⟨hnext, -, hzero⟩ := backfill_converges Sample.storable_legacy hcalls
  obtain ⟨db₂, hsecond, -⟩ := hnext 10 0 Sample.draws (by decide) (le_refl (0 : ℤ)) hnew
  rw [← length_pendingVersions, hqueue] at hsecond
  obtain ⟨rfl, -, hserved, -⟩ := hzero 10 0 Sample.draws db₂ hnew hsecond
  exact ⟨db₂, hfirst, hsecond, hserved Sample.legacyVersion (List.mem_singleton_self _) (by decide)⟩

end Backfill

end SupportFlow
