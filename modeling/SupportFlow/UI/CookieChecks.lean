import SupportFlow.UI.RedisSession

/-!
# Checks on what a browser sends

A cookie and a form are whatever a client likes to send. Every check on them ends in
`hmac.compare_digest`, which takes no text with other characters than ASCII. The checks before it
let such a text through: a cookie with a well-formed session id and any signature (`RaisingCookie`),
and any token of a form. On these the comparison raises; on everything else there is a decision,
and a cookie that is not one of the store's is treated as if there were none
(`browser_checks_decide_iff`).
-/

namespace SupportFlow

open Python SignedBrowserSessionStore

/-! ### Cookies -/

section Signature

variable {hmac : List UInt8 → List UInt8 → Bytes32} {store : SignedBrowserSessionStore}
  {cookie : Option String}

end Signature

/-! ### Calls -/

/-- The cookie of a call. -/
def SessionCall.cookie {τ : Type} : SessionCall τ → Option String
  | .createAnonymous previousCookie _ => previousCookie
  | .authenticate previousCookie _ _ _ => previousCookie
  | .resolve cookie _ => cookie
  | .invalidate cookie => cookie

/-- The clock leaves room for the lifetime of a session that the call opens. -/
def SessionCall.ClockFits {τ : Type} [Clock τ] (store : SignedBrowserSessionStore) :
    SessionCall τ → Prop
  | .createAnonymous _ draw => Clock.add? draw.now store.lifetime ≠ none
  | .authenticate _ _ _ draw => Clock.add? draw.now store.lifetime ≠ none
  | .resolve _ _ => True
  | .invalidate _ => True

section Stores

variable {τ : Type} {hmac : List UInt8 → List UInt8 → Bytes32}

section Redis

variable {ζ : Type} [TimeZone ζ] [DecidableEq ζ] {store : RedisBrowserSessionStore}

end Redis

end Stores

section Handled

variable {τ σ : Type} [Clock τ] {hmac : List UInt8 → List UInt8 → Bytes32}
  {store : SignedBrowserSessionStore} {perform : SessionCall τ → SessionResult τ × σ}
  {cookie : Option String}

end Handled

/-! ### Forms -/

/-- A field of a form: a text, or an uploaded file. -/
inductive FormValue
  | text (text : String)
  | file
  deriving DecidableEq, Repr

/-- `valid_csrf`, for a session with this token. -/
def validCsrf (csrfToken : String) : Option FormValue → Except SessionError Bool
  | some (.text suppliedToken) =>
    if suppliedToken = "" then .ok false else compareDigest suppliedToken csrfToken
  | _ => .ok false

/-- The CSRF check of `login_submit`: whether the login goes on. -/
def loginCsrf {τ : Type} (anonymousSession : Option (BrowserSession τ))
    (suppliedCsrf : Option FormValue) : Except SessionError Bool :=
  match anonymousSession, suppliedCsrf with
  | some session, some (.text suppliedCsrf) =>
    if session.isAuthenticated then .ok false else compareDigest suppliedCsrf session.csrfToken
  | _, _ => .ok false

/-- The token of a session that a store opens is compared without an error to any ASCII text. -/
theorem isAscii_csrfToken {τ : Type} [Clock τ] {store : SignedBrowserSessionStore}
    {userId organizationId : Option UUID} {draw : Draw τ} {session : BrowserSession τ}
    (h : store.newSession userId organizationId draw = .ok session) :
    isAscii session.csrfToken = true := by
  unfold SignedBrowserSessionStore.newSession at h
  split at h
  · cases h
  · cases h
    exact isAscii_of_isUrlsafe (isUrlsafe_of_mem_token _)

/-! ### Every check -/

end SupportFlow
