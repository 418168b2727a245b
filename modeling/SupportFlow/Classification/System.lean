import Mathlib.Logic.Function.Basic
import SupportFlow.Classification.Application
import SupportFlow.Foundations.TransitionSystem

/-!
# Concurrent classifications

Any number of `classify` and `read` calls by any actors, each with the runtime its request found
configured, over one database. A transaction opens, and takes effect as a whole when it ends: it
holds the ticket's row lock and a share lock on the memberships it checked, so nothing it read
changes before it commits. Between its two transactions a call holds nothing; the provider's turn is
there, and so are crashes.

Tickets, messages, memberships, users and organizations change at any time, in any way: the
`environment` step leaves alone only the operations and the application's own audit rows. The clock
is read afresh by each transaction and nothing is assumed of it, so claims expire at any time.
-/

namespace SupportFlow

open Python ClassificationApplication

/-- The arguments of a `read` or `classify`, with the runtime of the request. -/
structure ClassifyRequest where
  organizationId : UUID
  actorId : UUID
  ticketId : UUID
  runtime : Option FakeClassificationRuntime
  deriving DecidableEq

/-- The request a claim was made for. -/
def ClassificationClaim.request (claim : ClassificationClaim) : ClassifyRequest :=
  ⟨claim.organizationId, claim.actorId, claim.ticketId, some claim.runtime⟩

/-- How far a `classify` call has come. -/
inductive ClassifyStage
  | requested
  /-- The first transaction is open. -/
  | claiming
  /-- The first transaction has committed an operation row. -/
  | claimed (claim : ClassificationClaim)
  /-- The provider has been called and has not answered. -/
  | invoked (claim : ClassificationClaim)
  | answered (claim : ClassificationClaim) (outcome : ProviderOutcome)
  /-- The second transaction is open. -/
  | completing (claim : ClassificationClaim) (outcome : ProviderOutcome)
  deriving DecidableEq

/-- A transaction of the call is open. -/
def ClassifyStage.InTransaction : ClassifyStage → Prop
  | claiming | completing _ _ => True
  | requested | claimed _ | invoked _ | answered _ _ => False

/-- The claim a call works on, once it has one. -/
def ClassifyStage.claim? : ClassifyStage → Option ClassificationClaim
  | requested | claiming => none
  | claimed claim | invoked claim | answered claim _ | completing claim _ => some claim

/-- A running `classify` call. -/
structure ClassifyCall where
  request : ClassifyRequest
  stage : ClassifyStage
  deriving DecidableEq

structure ClassificationWorld where
  db : Database
  calls : ℕ → Option ClassifyCall

/-- Put a call in a stage, or end it. -/
def ClassificationWorld.setCall (w : ClassificationWorld) (c : ℕ) (call : Option ClassifyCall) :
    ClassificationWorld :=
  { w with calls := Function.update w.calls c call }

/-- What a caller gets: a view, or an exception. -/
abbrev ClassificationResponse := Except ClassificationError ClassificationView

inductive ClassificationEvent
  | environment
  | arrive (call : ℕ)
  | openClaim (call : ℕ)
  | claim (call : ℕ) (request : ClassifyRequest) (result : Except ClassificationError ClassifyClaim)
  | invoke (call : ℕ) (claim : ClassificationClaim)
  | answer (call : ℕ)
  | shortcut (call : ℕ)
  | openCompletion (call : ℕ)
  | complete (call : ℕ) (claim : ClassificationClaim) (checkedAt : Instant)
      (response : ClassificationResponse)
  | read (request : ClassifyRequest) (response : ClassificationResponse)
  | die (call : ℕ)

/-- The response a step gives its caller. -/
def ClassificationEvent.response? :
    ClassificationEvent → Option (ClassifyRequest × ClassificationResponse)
  | claim _ request (.error error) => some (request, .error error)
  | claim _ request (.ok (.existing view)) => some (request, returnOrError view)
  | complete _ claimed _ response => some (claimed.request, response)
  | read request response => some (request, response)
  | claim _ _ (.ok (.claimed _)) | environment | arrive _ | openClaim _ | invoke _ _ | answer _
  | shortcut _ | openCompletion _ | die _ => none

/-- The stage a claim leaves its call in; a call that found a row is over. -/
def ClassifyClaim.call? (request : ClassifyRequest) : ClassifyClaim → Option ClassifyCall
  | existing _ => none
  | claimed claim => some ⟨request, .claimed claim⟩

/-- **The steps of concurrent classifications.** -/
inductive ClassificationStep (sha256 : String → String) (loads : String → Option Json) :
    ClassificationWorld → ClassificationEvent → ClassificationWorld → Prop
  | environment {w : ClassificationWorld} {events : List AuditEvent} (identity : IdentityTables)
      (tickets : Table Ticket) (ticketMessages : Table TicketMessage)
      (others : ∀ e ∈ events, e.action ≠ .classificationFinished) :
      ClassificationStep sha256 loads w .environment
        { w with
          db :=
            { w.db with
              identity := identity
              tickets := tickets
              ticketMessages := ticketMessages
              audit := w.db.audit ++ events } }
  | arrive {w : ClassificationWorld} {c : ℕ} (request : ClassifyRequest)
      (free : w.calls c = none) :
      ClassificationStep sha256 loads w (.arrive c) (w.setCall c (some ⟨request, .requested⟩))
  | openClaim {w : ClassificationWorld} {c : ℕ} {request : ClassifyRequest}
      (stage : w.calls c = some ⟨request, .requested⟩) :
      ClassificationStep sha256 loads w (.openClaim c) (w.setCall c (some ⟨request, .claiming⟩))
  | claim {w : ClassificationWorld} {c : ℕ} {request : ClassifyRequest} {operationId : UUID}
      {viewedAt writtenAt : Instant} {result : ClassifyClaim} {db : Database}
      (stage : w.calls c = some ⟨request, .claiming⟩)
      (run : ClassificationApplication.claim sha256 request.runtime request.organizationId
        request.actorId request.ticketId operationId viewedAt writtenAt w.db = .ok (result, db)) :
      ClassificationStep sha256 loads w (.claim c request (.ok result))
        ({ w with db := db }.setCall c (result.call? request))
  /-- The first transaction raises: it rolls back and the call is over. -/
  | claimRaised {w : ClassificationWorld} {c : ℕ} {request : ClassifyRequest} {operationId : UUID}
      {viewedAt writtenAt : Instant} {error : ClassificationError}
      (stage : w.calls c = some ⟨request, .claiming⟩)
      (run : ClassificationApplication.claim sha256 request.runtime request.organizationId
        request.actorId request.ticketId operationId viewedAt writtenAt w.db = .error error) :
      ClassificationStep sha256 loads w (.claim c request (.error error)) (w.setCall c none)
  | invoke {w : ClassificationWorld} {c : ℕ} {request : ClassifyRequest}
      {claim : ClassificationClaim} (stage : w.calls c = some ⟨request, .claimed claim⟩)
      (sufficient : claim.prepared.insufficientContext = false) :
      ClassificationStep sha256 loads w (.invoke c claim)
        (w.setCall c (some ⟨request, .invoked claim⟩))
  | answer {w : ClassificationWorld} {c : ℕ} {request : ClassifyRequest}
      {claim : ClassificationClaim} (stage : w.calls c = some ⟨request, .invoked claim⟩) :
      ClassificationStep sha256 loads w (.answer c)
        (w.setCall c (some ⟨request, .answered claim (.ofReply loads
          (claim.runtime.provider.classify claim.prepared.payload))⟩))
  /-- An input without context is abstained on locally. -/
  | shortcut {w : ClassificationWorld} {c : ℕ} {request : ClassifyRequest}
      {claim : ClassificationClaim} (stage : w.calls c = some ⟨request, .claimed claim⟩)
      (insufficient : claim.prepared.insufficientContext = true) :
      ClassificationStep sha256 loads w (.shortcut c)
        (w.setCall c (some ⟨request, .answered claim (.result .insufficientContext)⟩))
  | openCompletion {w : ClassificationWorld} {c : ℕ} {request : ClassifyRequest}
      {claim : ClassificationClaim} {outcome : ProviderOutcome}
      (stage : w.calls c = some ⟨request, .answered claim outcome⟩) :
      ClassificationStep sha256 loads w (.openCompletion c)
        (w.setCall c (some ⟨request, .completing claim outcome⟩))
  | complete {w : ClassificationWorld} {c elapsedMs : ℕ} {request : ClassifyRequest}
      {claim : ClassificationClaim} {outcome : ProviderOutcome} {completedAt checkedAt : Instant}
      {authorized : Bool} {view : ClassificationView} {db : Database}
      (stage : w.calls c = some ⟨request, .completing claim outcome⟩)
      (run : ClassificationApplication.complete sha256 claim outcome elapsedMs completedAt checkedAt
        w.db = .ok ((authorized, view), db)) :
      ClassificationStep sha256 loads w (.complete c claim checkedAt (respond authorized view))
        ({ w with db := db }.setCall c none)
  /-- The second transaction raises: it rolls back and the call is over. -/
  | completeRaised {w : ClassificationWorld} {c elapsedMs : ℕ} {request : ClassifyRequest}
      {claim : ClassificationClaim} {outcome : ProviderOutcome} {completedAt checkedAt : Instant}
      {error : ClassificationError} (stage : w.calls c = some ⟨request, .completing claim outcome⟩)
      (run : ClassificationApplication.complete sha256 claim outcome elapsedMs completedAt checkedAt
        w.db = .error error) :
      ClassificationStep sha256 loads w (.complete c claim checkedAt (.error error))
        (w.setCall c none)
  | read {w : ClassificationWorld} {request : ClassifyRequest} {viewedAt : Instant}
      {response : ClassificationResponse}
      (run : ClassificationApplication.read sha256 request.runtime request.organizationId
        request.actorId request.ticketId viewedAt w.db = response) :
      ClassificationStep sha256 loads w (.read request response) w
  /-- A call's process dies, or its connection is lost, at any stage. -/
  | die {w : ClassificationWorld} (c : ℕ) :
      ClassificationStep sha256 loads w (.die c) (w.setCall c none)

/-- No two operations have one identity: the unique constraint. -/
def Database.UniqueIdentities (db : Database) : Prop :=
  ∀ a ∈ db.operations, ∀ b ∈ db.operations, a.identity = b.identity → a = b

/-- Concurrent classifications, from any operations of earlier calls. -/
def classification (sha256 : String → String) (loads : String → Option Json) :
    TransitionSystem ClassificationWorld ClassificationEvent where
  init w := (∀ c, w.calls c = none) ∧ w.db.UniqueIdentities
  step := ClassificationStep sha256 loads

/-! ### A classification -/

namespace ClassificationSample

def response : String :=
  "\x7b\"outcome\":\"classified\",\"category\":\"account_access\"\x7d"

/-- The texts hashed below, with their digests. -/
def digests : List (String × String) :=
  [("\x7b\"script\":\x7b\"kind\":\"response\",\"value\":\"\x7b\\\"outcome\\\":" ++
      "\\\"classified\\\",\\\"category\\\":\\\"account_access\\\"\x7d\"\x7d," ++
      "\"version\":\"fake_script.v2\"\x7d",
    "cc4a53dd2e3bd4ec11a98bbc005ffc33f69f5e33a2b40e1dd19a928364108530"),
    ("[\"fake_application.v1\", " ++
      "\"cc4a53dd2e3bd4ec11a98bbc005ffc33f69f5e33a2b40e1dd19a928364108530\", " ++
      "\"opening_request.v1\", \"support_categories.v1\", \"ticket_classification.v1\", " ++
      "\"scripted.v1\", \"fake.v1\", \"fake\", \"scripted-no-model\"]",
    "8e8ba42bc77bb2673626f0863ad8ae9f4cd4e1eef1ff98dcb8d9ce87c125acfd"),
    ("\x7b\"body\":\"Please help\",\"input_policy_version\":\"opening_request.v1\"," ++
      "\"message_id\":\"00000000-0000-0000-0000-00000000000b\"," ++
      "\"schema_version\":\"ticket_classification.v1\",\"subject\":\"Cannot sign in\"," ++
      "\"taxonomy_version\":\"support_categories.v1\"\x7d",
    "befc6cecff36e46af1eb3948607748252e784a7902cf17af3d88673cded550e0")]

/-- SHA-256, on the texts of this classification. -/
def sha256 (text : String) : String :=
  (digests.lookup text).getD ""

/-- `json.loads`, on the scripted response. -/
def loads (text : String) : Option Json :=
  if text = response then
    some (.obj [("outcome", .str "classified"), ("category", .str "account_access")])
  else none

def runtime : FakeClassificationRuntime :=
  ⟨⟨.response response⟩, "fake_application.v1", by decide⟩

def request : ClassifyRequest :=
  ⟨uuid 1, uuid 2, uuid 10, some runtime⟩

def ticket : Ticket :=
  ⟨uuid 10, uuid 1, some (uuid 12), .manual, none, "Cannot sign in", .opened, 0⟩

def database : Database where
  identity :=
    { organizations := .singleton ⟨uuid 1, .active⟩
      users := .singleton ⟨uuid 2, "agent@example.test", .active⟩
      members := .singleton ⟨uuid 1, uuid 2, .agent, .active⟩ }
  customers := .singleton ⟨uuid 12, uuid 1, "Ada", none, none⟩
  tickets := .singleton ticket
  ticketMessages := .singleton
    ⟨uuid 11, uuid 1, uuid 10, .customer, none, some (uuid 12), "Please help", 0⟩
  documents := .empty
  versions := .empty
  intents := .empty
  operations := .empty
  audit := []

def prepared : PreparedInput where
  payload := ⟨"Cannot sign in", "Please help", schemaVersion, taxonomyVersion⟩
  messageId := some (uuid 11)
  fingerprint := "befc6cecff36e46af1eb3948607748252e784a7902cf17af3d88673cded550e0"
  insufficientContext := false

def claim : ClassificationClaim where
  operationId := uuid 20
  organizationId := uuid 1
  actorId := uuid 2
  ticketId := uuid 10
  runtime := runtime
  prepared := prepared
  digest := "8e8ba42bc77bb2673626f0863ad8ae9f4cd4e1eef1ff98dcb8d9ce87c125acfd"

def claimed : Database :=
  { database with operations := .singleton (claim.operation 0) }

theorem ticketInput_prepared : ticketInput sha256 ticket database = .ok prepared := by
  decide +kernel

theorem digest_runtime : runtime.digest sha256 = claim.digest := by
  decide +kernel

theorem claim_claimed :
    ClassificationApplication.claim sha256 (some runtime) (uuid 1) (uuid 2) (uuid 10)
      (uuid 20) 0 0 database =
      .ok (.claimed claim, claimed) := by
  unfold ClassificationApplication.claim
  rw [show ClassificationApplication.ticket (uuid 1) (uuid 2) (uuid 10) database = .ok ticket
    from rfl]
  simp only [Except.bind, bind, ticketInput_prepared, digest_runtime]
  rfl

def result : ClassificationResult :=
  ⟨.classified, some .accountAccess, by decide⟩

theorem ofReply_result :
    ProviderOutcome.ofReply loads (runtime.provider.classify prepared.payload) =
      .result result := by
  decide +kernel

def start : ClassificationWorld :=
  ⟨database, fun _ ↦ none⟩

theorem start_init : (classification sha256 loads).init start :=
  ⟨fun _ ↦ rfl, fun _ h ↦ absurd h List.not_mem_nil⟩

/-- One call, up to the provider's turn. -/
def invoking : List ClassificationEvent :=
  [.arrive 0, .openClaim 0, .claim 0 request (.ok (.claimed claim)), .invoke 0 claim]

theorem run_invoked :
    ∃ w, (classification sha256 loads).Run start invoking w ∧ w.db = claimed ∧
      w.calls 0 = some ⟨request, .invoked claim⟩ :=
  ⟨_, .cons (.arrive request rfl) <| .cons (.openClaim rfl) <| .cons (.claim rfl claim_claimed) <|
    .cons (.invoke rfl rfl) <| .nil _, rfl, rfl⟩

theorem run_completing :
    ∃ w ls, (classification sha256 loads).Run start ls w ∧ w.db = claimed ∧
      w.calls 0 = some ⟨request, .completing claim (.result result)⟩ := by
  obtain ⟨w, hrun, hdb, hcall⟩ := run_invoked
  have hanswer : ClassificationStep sha256 loads w (.answer 0)
      (w.setCall 0 (some ⟨request, .answered claim (.result result)⟩)) :=
    ofReply_result ▸ .answer hcall
  have hcompletion : ClassificationStep sha256 loads
      (w.setCall 0 (some ⟨request, .answered claim (.result result)⟩)) (.openCompletion 0) _ :=
    .openCompletion rfl
  exact ⟨_, _, (hrun.snoc hanswer).snoc hcompletion, hdb, rfl⟩

end ClassificationSample

end SupportFlow
