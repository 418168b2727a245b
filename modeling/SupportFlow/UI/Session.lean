import Mathlib.Logic.Function.Basic
import SupportFlow.Foundations.Base64
import SupportFlow.Foundations.TransitionSystem
import SupportFlow.Identity.Models

/-!
# Browser sessions

The sessions of the agent UI: what a cookie is, and the store that keeps the sessions in a
dictionary.

A cookie is a session id, a dot, and the HMAC of the id. HMAC-SHA-256 is a parameter: a function
from a key and a message to thirty-two bytes, of which nothing else is assumed. Session ids are
drawn as thirty-two random bytes, which are arguments of a call here, as the readings of the clock
are.

A store never looks into a time. It adds its lifetime to one and compares two, so times are any type
with these operations (`Clock`): UTC timestamps, naive ones, or the timestamps of one time zone.

`verifiedSessionId_eq_some_iff` is the contract of the signature check.
-/

namespace SupportFlow

open Python Function

/-- What a clock returns. -/
class Clock (τ : Type) where
  /-- `time + timedelta(microseconds=delta)`; `none` is an `OverflowError`. -/
  add? : τ → ℤ → Option τ

instance : Clock Instant :=
  ⟨fun time delta ↦ some (time + delta)⟩

/-- A digest, or the random bytes of a token. -/
abbrev Bytes32 := {bytes : List UInt8 // bytes.length = 32}

structure BrowserSession (τ : Type) where
  id : String
  userId : Option UUID
  organizationId : Option UUID
  csrfToken : String
  expiresAt : τ
  deriving DecidableEq

/-- `is_authenticated`. -/
def BrowserSession.isAuthenticated {τ : Type} (session : BrowserSession τ) : Bool :=
  session.userId.isSome && session.organizationId.isSome

/-- What a call to a store may raise. -/
inductive SessionError
  /-- `compare_digest` on a text with other characters than ASCII. -/
  | typeError
  /-- The session would expire after the last time there is. -/
  | overflow
  | unavailable
  deriving DecidableEq, Repr

/-- `secrets.token_urlsafe`, and how a signature is encoded: base64 without padding. -/
def tokenUrlsafe (bytes : Bytes32) : String :=
  String.ofList ((Base64.urlsafeB64encode bytes.val).rdropWhile (· = '='))

/-- `_SESSION_ID_PATTERN`: forty-three characters of the URL-safe alphabet. -/
def isSessionId (text : String) : Bool :=
  text.length = 43 && text.toList.all Base64.isUrlsafe

/-- `hmac.compare_digest` on two strings. -/
def compareDigest (a b : String) : Except SessionError Bool :=
  if isAscii a && isAscii b then .ok (a = b) else .error .typeError

/-! ### Tokens -/

theorem toList_tokenUrlsafe (bytes : Bytes32) :
    (tokenUrlsafe bytes).toList = Base64.unpadded bytes.val := by
  rw [tokenUrlsafe, String.toList_ofList, Base64.rdropWhile_urlsafeB64encode]

theorem isUrlsafe_of_mem_token (bytes : Bytes32) :
    ∀ c ∈ (tokenUrlsafe bytes).toList, Base64.isUrlsafe c = true := by
  rw [toList_tokenUrlsafe]
  exact Base64.isUrlsafe_of_mem_unpadded bytes.val

@[simp]
theorem length_tokenUrlsafe (bytes : Bytes32) : (tokenUrlsafe bytes).length = 43 := by
  rw [← String.length_toList, toList_tokenUrlsafe, Base64.length_unpadded, bytes.property]

/-- **A drawn session id matches the pattern.** -/
theorem isSessionId_tokenUrlsafe (bytes : Bytes32) : isSessionId (tokenUrlsafe bytes) = true := by
  unfold isSessionId
  rw [length_tokenUrlsafe, decide_eq_true rfl, Bool.true_and]
  exact List.all_eq_true.2 (isUrlsafe_of_mem_token bytes)

theorem isAscii_of_isUrlsafe {s : String} (h : ∀ c ∈ s.toList, Base64.isUrlsafe c = true) :
    isAscii s = true := by
  refine List.all_eq_true.2 fun c hc ↦ ?_
  have hclass := h c hc
  simp only [Base64.isUrlsafe, Bool.or_eq_true, Bool.and_eq_true, decide_eq_true_eq, beq_iff_eq]
    at hclass
  refine decide_eq_true ?_
  rcases hclass with (((⟨-, hle⟩ | ⟨-, hle⟩) | ⟨-, hle⟩) | rfl) | rfl
  · exact lt_of_le_of_lt (show c.toNat ≤ 'Z'.toNat from hle) (by decide)
  · exact lt_of_le_of_lt (show c.toNat ≤ 'z'.toNat from hle) (by decide)
  · exact lt_of_le_of_lt (show c.toNat ≤ '9'.toNat from hle) (by decide)
  · decide
  · decide

theorem dot_not_mem_token (bytes : Bytes32) : '.' ∉ (tokenUrlsafe bytes).toList := fun hmem ↦
  absurd (isUrlsafe_of_mem_token bytes _ hmem) (by decide)

/-! ### Cookies -/

/-- `_SignedBrowserSessionStore`: a secret and a lifetime, as the constructor admits them. -/
structure SignedBrowserSessionStore where
  secretKey : List UInt8
  /-- The lifetime of a session, in microseconds. -/
  lifetime : ℤ
  secret_length : 32 ≤ secretKey.length
  lifetime_seconds : 1 ≤ lifetime / 1000000

namespace SignedBrowserSessionStore

variable (hmac : List UInt8 → List UInt8 → Bytes32) (store : SignedBrowserSessionStore)

/-- `_signed_cookie`. -/
def signedCookie (sessionId : String) : String :=
  sessionId ++ "." ++ tokenUrlsafe (hmac store.secretKey (encode ("ui-session:" ++ sessionId)))

/-- The signature that a cookie with this session id must have. -/
def expectedSignature (sessionId : String) : String :=
  ((rsplitOnce '.' (signedCookie hmac store sessionId)).map Prod.snd).getD ""

/-- `_verified_session_id`. -/
def verifiedSessionId (cookie : Option String) : Except SessionError (Option String) :=
  match cookie with
  | none => .ok none
  | some cookie =>
    if cookie = "" ∨ 128 < cookie.length then .ok none
    else
      match rsplitOnce '.' cookie with
      | none => .ok none
      | some (sessionId, suppliedSignature) =>
        if ¬isSessionId sessionId then .ok none
        else do
          if ← compareDigest suppliedSignature (expectedSignature hmac store sessionId) then
            .ok (some sessionId)
          else .ok none

theorem toList_signedCookie (sessionId : String) :
    (signedCookie hmac store sessionId).toList = sessionId.toList ++ '.' ::
      (tokenUrlsafe (hmac store.secretKey (encode ("ui-session:" ++ sessionId)))).toList := by
  simp only [signedCookie, String.toList_append, List.append_assoc]
  rfl

/-- The signature of a cookie is what stands after its last dot. -/
theorem rsplitOnce_signedCookie (sessionId : String) :
    rsplitOnce '.' (signedCookie hmac store sessionId) =
      some (sessionId, expectedSignature hmac store sessionId) := by
  have hsplit := rsplitOnce_eq_some_iff.2
    ⟨toList_signedCookie hmac store sessionId, dot_not_mem_token _⟩
  rw [expectedSignature, hsplit]
  rfl

theorem expectedSignature_eq (sessionId : String) :
    expectedSignature hmac store sessionId =
      tokenUrlsafe (hmac store.secretKey (encode ("ui-session:" ++ sessionId))) := by
  rw [expectedSignature, rsplitOnce_eq_some_iff.2
    ⟨toList_signedCookie hmac store sessionId, dot_not_mem_token _⟩]
  rfl

variable {hmac store}

theorem compareDigest_expected {sessionId supplied : String} :
    compareDigest supplied (expectedSignature hmac store sessionId) = .ok true ↔
      supplied = expectedSignature hmac store sessionId := by
  have hascii : isAscii (expectedSignature hmac store sessionId) = true := by
    rw [expectedSignature_eq]
    exact isAscii_of_isUrlsafe (isUrlsafe_of_mem_token _)
  unfold compareDigest
  constructor
  · intro h
    split at h
    · exact of_decide_eq_true (Except.ok.inj h)
    · cases h
  · rintro rfl
    rw [hascii]
    simp

/-- **A cookie is verified exactly when it is the signed cookie of its session id**, and the id has
the form of one. -/
theorem verifiedSessionId_eq_some_iff {cookie sessionId : String} :
    verifiedSessionId hmac store (some cookie) = .ok (some sessionId) ↔
      isSessionId sessionId = true ∧ cookie = signedCookie hmac store sessionId := by
  constructor
  · intro h
    unfold verifiedSessionId at h
    dsimp only at h
    split at h
    · cases h
    · split at h
      · cases h
      · next id supplied hsplit =>
        split at h
        · cases h
        · next hpattern =>
          obtain ⟨matched, hcompare, h⟩ := Except.bind_eq_ok_iff.1 h
          cases matched with
          | false => cases h
          | true =>
            cases h
            refine ⟨by simpa using hpattern, String.toList_inj.1 ?_⟩
            rw [(rsplitOnce_eq_some_iff.1 hsplit).1, toList_signedCookie,
              compareDigest_expected.1 hcompare, expectedSignature_eq]
  · rintro ⟨hpattern, rfl⟩
    have hid : sessionId.length = 43 := by
      simp only [isSessionId, Bool.and_eq_true, decide_eq_true_eq] at hpattern
      exact hpattern.1
    have hlength : (signedCookie hmac store sessionId).length = 87 := by
      rw [← String.length_toList, toList_signedCookie, List.length_append, List.length_cons,
        String.length_toList, String.length_toList, length_tokenUrlsafe, hid]
    have hnonempty : signedCookie hmac store sessionId ≠ "" := fun hempty ↦ by
      rw [hempty] at hlength
      exact absurd hlength (by decide)
    unfold verifiedSessionId
    dsimp only
    rw [if_neg (by rw [hlength]; simp [hnonempty]), rsplitOnce_signedCookie]
    dsimp only
    rw [if_neg (not_not.2 hpattern), compareDigest_expected.2 rfl]
    rfl

theorem verifiedSessionId_signedCookie {sessionId : String} (h : isSessionId sessionId = true) :
    verifiedSessionId hmac store (some (signedCookie hmac store sessionId)) =
      .ok (some sessionId) :=
  verifiedSessionId_eq_some_iff.2 ⟨h, rfl⟩

end SignedBrowserSessionStore

/-! ### Calls -/

/-- What `_new_session` draws: the bytes of two tokens, and a reading of the clock. -/
structure Draw (τ : Type) where
  id : Bytes32
  csrfToken : Bytes32
  now : τ

/-- A call to a store, with the cookie it is given, what it draws and what it reads. -/
inductive SessionCall (τ : Type)
  | createAnonymous (previousCookie : Option String) (draw : Draw τ)
  | authenticate (previousCookie : Option String) (userId organizationId : UUID) (draw : Draw τ)
  | resolve (cookie : Option String) (now : τ)
  | invalidate (cookie : Option String)

inductive SessionResult (τ : Type)
  /-- A new session, with its cookie. -/
  | opened (cookie : String) (session : BrowserSession τ)
  | resolved (session : Option (BrowserSession τ))
  | invalidated
  | raised (error : SessionError)
  deriving DecidableEq

/-- What a call of a store returns or raises, and the store's next state; a call that raises leaves
the state as it was. -/
def SessionResult.of {τ σ α : Type} (state : σ) (result : α → SessionResult τ) :
    Except SessionError (α × σ) → SessionResult τ × σ
  | .ok (value, next) => (result value, next)
  | .error error => (.raised error, state)

section Stores

variable {τ : Type} (hmac : List UInt8 → List UInt8 → Bytes32)
  (store : SignedBrowserSessionStore)

/-- `_new_session`. -/
def SignedBrowserSessionStore.newSession [Clock τ] (userId organizationId : Option UUID)
    (draw : Draw τ) : Except SessionError (BrowserSession τ) :=
  match Clock.add? draw.now store.lifetime with
  | none => .error .overflow
  | some expiresAt =>
    .ok
      { id := tokenUrlsafe draw.id
        userId := userId
        organizationId := organizationId
        csrfToken := tokenUrlsafe draw.csrfToken
        expiresAt := expiresAt }

/-- The sessions of an in-memory store, by id. -/
abbrev Sessions (τ : Type) := String → Option (BrowserSession τ)

namespace InMemoryBrowserSessionStore

open SignedBrowserSessionStore

/-- `_sessions.pop(id, None)`, when there is an id. -/
def pop (id : Option String) (sessions : Sessions τ) : Sessions τ :=
  match id with
  | none => sessions
  | some id => update sessions id none

/-- `_rotate`. -/
def rotate [Clock τ] (previousCookie : Option String) (userId organizationId : Option UUID)
    (draw : Draw τ) (sessions : Sessions τ) :
    Except SessionError ((String × BrowserSession τ) × Sessions τ) := do
  let previousSessionId ← verifiedSessionId hmac store previousCookie
  let session ← store.newSession userId organizationId draw
  .ok ((signedCookie hmac store session.id, session),
    update (pop previousSessionId sessions) session.id (some session))

/-- `create_anonymous`. -/
def createAnonymous [Clock τ] (previousCookie : Option String) (draw : Draw τ)
    (sessions : Sessions τ) : Except SessionError ((String × BrowserSession τ) × Sessions τ) :=
  rotate hmac store previousCookie none none draw sessions

/-- `authenticate`. -/
def authenticate [Clock τ] (previousCookie : Option String) (userId organizationId : UUID)
    (draw : Draw τ) (sessions : Sessions τ) :
    Except SessionError ((String × BrowserSession τ) × Sessions τ) :=
  rotate hmac store previousCookie (some userId) (some organizationId) draw sessions

/-- `resolve`. -/
def resolve [LE τ] [DecidableLE τ] (cookie : Option String) (now : τ) (sessions : Sessions τ) :
    Except SessionError (Option (BrowserSession τ) × Sessions τ) := do
  match ← verifiedSessionId hmac store cookie with
  | none => .ok (none, sessions)
  | some sessionId =>
    match sessions sessionId with
    | none => .ok (none, sessions)
    | some session =>
      if session.expiresAt ≤ now then .ok (none, pop (some sessionId) sessions)
      else .ok (some session, sessions)

/-- `invalidate`. -/
def invalidate (cookie : Option String) (sessions : Sessions τ) :
    Except SessionError (Unit × Sessions τ) := do
  let sessionId ← verifiedSessionId hmac store cookie
  .ok ((), pop sessionId sessions)

/-- One call. -/
def perform [Clock τ] [LE τ] [DecidableLE τ] (call : SessionCall τ) (sessions : Sessions τ) :
    SessionResult τ × Sessions τ :=
  match call with
  | .createAnonymous previousCookie draw =>
    SessionResult.of sessions (fun (cookie, session) ↦ .opened cookie session)
      (createAnonymous hmac store previousCookie draw sessions)
  | .authenticate previousCookie userId organizationId draw =>
    SessionResult.of sessions (fun (cookie, session) ↦ .opened cookie session)
      (authenticate hmac store previousCookie userId organizationId draw sessions)
  | .resolve cookie now =>
    SessionResult.of sessions .resolved (resolve hmac store cookie now sessions)
  | .invalidate cookie =>
    SessionResult.of sessions (fun _ ↦ .invalidated) (invalidate hmac store cookie sessions)

end InMemoryBrowserSessionStore

/-- The histories of an in-memory store: calls with their results. -/
def inMemory [Clock τ] [LE τ] [DecidableLE τ] :
    TransitionSystem (Sessions τ) (SessionCall τ × SessionResult τ) where
  init sessions := sessions = fun _ ↦ none
  step sessions label sessions' :=
    InMemoryBrowserSessionStore.perform hmac store label.1 sessions = (label.2, sessions')

theorem inMemory_step [Clock τ] [LE τ] [DecidableLE τ] {sessions : Sessions τ}
    {l : SessionCall τ × SessionResult τ}
    (h : (InMemoryBrowserSessionStore.perform hmac store l.1 sessions).1 = l.2) :
    (inMemory hmac store).step sessions l
      (InMemoryBrowserSessionStore.perform hmac store l.1 sessions).2 :=
  Prod.ext h rfl

end Stores

/-! ### A login -/

namespace SessionSample

open SignedBrowserSessionStore

def anonymousId : String :=
  "AAAAAAAAAAAAAAAAAAAAAAAAAAAAAAAAAAAAAAAAAAA"

def sessionId : String :=
  "AQEBAQEBAQEBAQEBAQEBAQEBAQEBAQEBAQEBAQEBAQE"

/-- HMAC-SHA-256 under the key below, on the messages of these two ids. -/
def hmac (_key message : List UInt8) : Bytes32 :=
  if message = encode ("ui-session:" ++ anonymousId) then
    ⟨[171, 191, 117, 163, 9, 60, 157, 167, 60, 42, 130, 229, 47, 170, 244, 159, 83, 34, 176, 181,
      217, 104, 202, 34, 53, 62, 209, 178, 87, 51, 222, 253], rfl⟩
  else
    ⟨[12, 21, 191, 181, 81, 155, 166, 167, 251, 158, 57, 232, 219, 112, 60, 195, 97, 66, 59, 104,
      91, 188, 71, 217, 10, 200, 14, 79, 31, 104, 141, 79], rfl⟩

def store : SignedBrowserSessionStore where
  secretKey := encode "ui-session-test-secret-with-thirty-two-bytes"
  lifetime := seconds 1800
  secret_length := by decide +kernel
  lifetime_seconds := by decide

/-- A draw of one byte over and over. -/
def draw {τ : Type} (byte : UInt8) (now : τ) : Draw τ :=
  ⟨⟨List.replicate 32 byte, List.length_replicate⟩, ⟨List.replicate 32 7, List.length_replicate⟩,
    now⟩

def csrfToken : String :=
  "BwcHBwcHBwcHBwcHBwcHBwcHBwcHBwcHBwcHBwcHBwc"

def anonymousCookie : String :=
  "AAAAAAAAAAAAAAAAAAAAAAAAAAAAAAAAAAAAAAAAAAA.q791owk8nac8KoLlL6r0n1MisLXZaMoiNT7Rslcz3v0"

def cookie : String :=
  "AQEBAQEBAQEBAQEBAQEBAQEBAQEBAQEBAQEBAQEBAQE.DBW_tVGbpqf7njno23A8w2FCO2hbvEfZCsgOTx9ojU8"

def anonymousSession {τ : Type} (expiresAt : τ) : BrowserSession τ :=
  ⟨anonymousId, none, none, csrfToken, expiresAt⟩

def session {τ : Type} (expiresAt : τ) : BrowserSession τ :=
  ⟨sessionId, some (uuid 2), some (uuid 1), csrfToken, expiresAt⟩

/-- An anonymous session. -/
def opening : SessionCall Instant × SessionResult Instant :=
  (.createAnonymous none (draw 0 0), .opened anonymousCookie (anonymousSession (seconds 1800)))

/-- The login that ends it. -/
def loggingIn : SessionCall Instant × SessionResult Instant :=
  (.authenticate (some anonymousCookie) (uuid 2) (uuid 1) (draw 1 (seconds 5)),
    .opened cookie (session (seconds 1805)))

/-- The store before the login, and after it. -/
def opened : Sessions Instant :=
  (InMemoryBrowserSessionStore.perform hmac store opening.1 fun _ ↦ none).2

@[inherit_doc opened]
def authenticated : Sessions Instant :=
  (InMemoryBrowserSessionStore.perform hmac store loggingIn.1 opened).2

theorem step_opening : (inMemory hmac store).step (fun _ ↦ none) opening opened := by
  have hopened : (InMemoryBrowserSessionStore.perform hmac store opening.1 fun _ ↦ none).1 =
      opening.2 := by
    decide +kernel
  exact inMemory_step hmac store hopened

theorem step_loggingIn : (inMemory hmac store).step opened loggingIn authenticated := by
  have hauthenticated : (InMemoryBrowserSessionStore.perform hmac store loggingIn.1 opened).1 =
      loggingIn.2 := by
    decide +kernel
  exact inMemory_step hmac store hauthenticated

end SessionSample

end SupportFlow
