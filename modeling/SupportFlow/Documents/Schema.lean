import SupportFlow.Documents.Recovery

/-!
# The schema's constraints

What the foreign keys and the unique constraint of the document tables guarantee of every committed
state: a version has its document, an intent has its version, and no version has two intents. The
inserts check these when a row enters a table; `Database.Consistent` is their consequence for whole
databases, and every transaction keeps it, because the only rows ever written back keep their
identity.
-/

namespace SupportFlow

open PrimaryKey (key)

/-- Two states of one version row: the columns no transaction writes. -/
def DocumentVersion.SameIdentity (v w : DocumentVersion) : Prop :=
  v.id = w.id ∧ v.organizationId = w.organizationId ∧ v.documentId = w.documentId ∧
    v.versionNumber = w.versionNumber

/-- Two states of one intent row: the columns no transaction writes. -/
def DocumentIngestionIntent.SameIdentity (i j : DocumentIngestionIntent) : Prop :=
  i.id = j.id ∧ i.organizationId = j.organizationId ∧
    i.documentVersionId = j.documentVersionId ∧ i.taskId = j.taskId

namespace Database

/-- **A consistent database**: the foreign keys and the unique constraint of the document tables. -/
structure Consistent (db : Database) : Prop where
  /-- A version has its document, in its organization. -/
  document_of_version : ∀ v ∈ db.versions, ∃ d,
    db.documents.get? v.documentId = some d ∧ d.organizationId = v.organizationId
  /-- An intent has its version, in its organization. -/
  version_of_intent : ∀ i ∈ db.intents, ∃ v, IngestionRelay.versionOf db i = some v
  /-- A version has at most one intent. -/
  intent_unique : ∀ i ∈ db.intents, ∀ j ∈ db.intents, i.SameVersion j → i = j

variable {db db' : Database}

/-! ### Writing rows back -/

/-- Writing a version back over itself keeps the constraints. -/
theorem Consistent.setVersion (h : db.Consistent) {v w : DocumentVersion}
    (hget : db.versions.get? v.id = some v) (hsame : w.SameIdentity v) :
    (db.setVersion w).Consistent := by
  obtain ⟨hid, horg, hdoc, -⟩ := hsame
  have hrow : ∀ k, (db.versions.set w).get? k =
      if k = v.id then some w else db.versions.get? k := by
    intro k
    have hkey : key w = v.id := hid
    rw [Table.get?_set, hkey]
    by_cases hk : k = v.id
    · rw [if_pos hk, if_pos hk, hk, hget, Option.map_some]
    · rw [if_neg hk, if_neg hk]
  refine ⟨fun x hx ↦ ?_, fun i hi ↦ ?_, h.intent_unique⟩
  · have hx' := Table.get?_key (t := db.versions.set w) hx
    rw [hrow] at hx'
    split at hx'
    · obtain rfl := Option.some.inj hx'
      rw [hdoc, horg]
      exact h.document_of_version v (Table.mem_of_get? hget)
    · exact h.document_of_version x (Table.mem_of_get? hx')
  · obtain ⟨x, hx⟩ := h.version_of_intent i hi
    obtain ⟨hxget, hxorg⟩ := IngestionRelay.versionOf_eq_some_iff.1 hx
    by_cases hk : i.documentVersionId = v.id
    · obtain rfl : v = x := by
        rw [hk, hget] at hxget
        exact Option.some.inj hxget
      refine ⟨w, IngestionRelay.versionOf_eq_some_iff.2 ⟨?_, horg.trans hxorg⟩⟩
      show (db.versions.set w).get? _ = _
      rw [hrow, if_pos hk]
    · refine ⟨x, IngestionRelay.versionOf_eq_some_iff.2 ⟨?_, hxorg⟩⟩
      show (db.versions.set w).get? _ = _
      rw [hrow, if_neg hk, hxget]

/-- Intents that all come from earlier ones with the same identity keep the constraints. -/
theorem Consistent.of_intents (h : db.Consistent) (hd : db'.documents = db.documents)
    (hv : db'.versions = db.versions)
    (hi : ∀ i ∈ db'.intents, ∃ j ∈ db.intents, i.SameIdentity j) : db'.Consistent := by
  refine ⟨fun v hvm ↦ ?_, fun i him ↦ ?_, fun i him j hjm hij ↦ ?_⟩
  · rw [hd]
    exact h.document_of_version v (hv ▸ hvm)
  · obtain ⟨j, hj, -, horg, hversion, -⟩ := hi i him
    obtain ⟨v, hget⟩ := h.version_of_intent j hj
    refine ⟨v, IngestionRelay.versionOf_eq_some_iff.2 ?_⟩
    rw [hv, hversion, horg]
    exact IngestionRelay.versionOf_eq_some_iff.1 hget
  · obtain ⟨x, hx, hxid, hxorg, hxversion, -⟩ := hi i him
    obtain ⟨y, hy, hyid, hyorg, hyversion, -⟩ := hi j hjm
    have hsame : x = y := h.intent_unique x hx y hy
      ⟨by rw [← hxorg, ← hyorg, hij.1], by rw [← hxversion, ← hyversion, hij.2]⟩
    exact Table.eq_of_key_eq him hjm (show i.id = j.id by rw [hxid, hyid, hsame])

/-- Only the document tables matter. -/
theorem Consistent.congr (h : db.Consistent) (hd : db'.documents = db.documents)
    (hv : db'.versions = db.versions) (hi : db'.intents = db.intents) : db'.Consistent :=
  h.of_intents hd hv fun i him ↦ ⟨i, hi ▸ him, rfl, rfl, rfl, rfl⟩

theorem Consistent.record (h : db.Consistent) (event : AuditEvent) :
    (db.record event).Consistent :=
  h.congr rfl rfl rfl

/-- Writing an intent back over itself keeps the constraints. -/
theorem Consistent.setIntent (h : db.Consistent) {i j : DocumentIngestionIntent}
    (hget : db.intents.get? i.id = some i) (hsame : j.SameIdentity i) :
    (db.setIntent j).Consistent := by
  refine h.of_intents rfl rfl fun x hx ↦ ?_
  have hx' := Table.get?_key (t := db.intents.set j) hx
  rw [Table.get?_set] at hx'
  split at hx'
  · obtain ⟨-, -, rfl⟩ := Option.map_eq_some_iff.1 hx'
    exact ⟨i, Table.mem_of_get? hget, hsame⟩
  · exact ⟨x, Table.mem_of_get? hx', rfl, rfl, rfl, rfl⟩

/-! ### Inserting rows -/

theorem Consistent.insertDocument? (h : db.Consistent) {document : Document}
    (hinsert : db.insertDocument? document = some db') : db'.Consistent := by
  obtain ⟨hdocuments, hv, hi, -⟩ := insertDocument?_spec hinsert
  refine ⟨fun v hvm ↦ ?_, fun i him ↦ ?_, fun i him j hjm ↦ ?_⟩
  · obtain ⟨d, hd, horg⟩ := h.document_of_version v (hv ▸ hvm)
    have hne : v.documentId ≠ key document := by
      intro heq
      rw [heq, (Table.insert?_eq_some_iff.1 hdocuments).1] at hd
      exact absurd hd (by simp)
    exact ⟨d, by rw [Table.get?_of_insert? hdocuments, if_neg hne, hd], horg⟩
  · obtain ⟨v, hget⟩ := h.version_of_intent i (hi ▸ him)
    refine ⟨v, IngestionRelay.versionOf_eq_some_iff.2 ?_⟩
    rw [hv]
    exact IngestionRelay.versionOf_eq_some_iff.1 hget
  · exact h.intent_unique i (hi ▸ him) j (hi ▸ hjm)

theorem Consistent.insertVersion? (h : db.Consistent) {version : DocumentVersion}
    (hinsert : db.insertVersion? version = some db') : db'.Consistent := by
  obtain ⟨hdocument, hversions, hd, hi, -⟩ := insertVersion?_spec hinsert
  refine ⟨fun v hvm ↦ ?_, fun i him ↦ ?_, fun i him j hjm ↦ ?_⟩
  · have hget := Table.get?_key hvm
    rw [Table.get?_of_insert? hversions] at hget
    rw [hd]
    split at hget
    · obtain rfl := Option.some.inj hget
      exact hdocument
    · exact h.document_of_version v (Table.mem_of_get? hget)
  · obtain ⟨v, hget⟩ := h.version_of_intent i (hi ▸ him)
    obtain ⟨hvget, horg⟩ := IngestionRelay.versionOf_eq_some_iff.1 hget
    have hne : i.documentVersionId ≠ key version := by
      intro heq
      rw [heq, (Table.insert?_eq_some_iff.1 hversions).1] at hvget
      exact absurd hvget (by simp)
    refine ⟨v, IngestionRelay.versionOf_eq_some_iff.2 ⟨?_, horg⟩⟩
    rw [Table.get?_of_insert? hversions, if_neg hne, hvget]
  · exact h.intent_unique i (hi ▸ him) j (hi ▸ hjm)

theorem Consistent.insertIntent? (h : db.Consistent) {intent : DocumentIngestionIntent}
    (hinsert : db.insertIntent? intent = some db') : db'.Consistent := by
  obtain ⟨⟨version, hversion, horg⟩, hfree, hintents, hd, hv, -⟩ := insertIntent?_spec hinsert
  have hrows : ∀ i ∈ db'.intents, i = intent ∨ i ∈ db.intents := by
    intro i hi
    have hget := Table.get?_key hi
    rw [Table.get?_of_insert? hintents] at hget
    split at hget
    · exact Or.inl (Option.some.inj hget).symm
    · exact Or.inr (Table.mem_of_get? hget)
  refine ⟨fun v hvm ↦ ?_, fun i him ↦ ?_, fun i him j hjm hij ↦ ?_⟩
  · rw [hd]
    exact h.document_of_version v (hv ▸ hvm)
  · rcases hrows i him with rfl | him
    · exact ⟨version, IngestionRelay.versionOf_eq_some_iff.2 ⟨hv ▸ hversion, horg⟩⟩
    · obtain ⟨v, hget⟩ := h.version_of_intent i him
      refine ⟨v, IngestionRelay.versionOf_eq_some_iff.2 ?_⟩
      rw [hv]
      exact IngestionRelay.versionOf_eq_some_iff.1 hget
  · rcases hrows i him with rfl | him <;> rcases hrows j hjm with rfl | hjm
    · rfl
    · exact absurd ⟨hij.1.symm, hij.2.symm⟩ (hfree j hjm).1
    · exact absurd hij (hfree i him).1
    · exact h.intent_unique i him j hjm hij

end Database

end SupportFlow
