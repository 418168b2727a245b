import SupportFlow.Foundations.Datetime
import SupportFlow.Identity.Uuid
import SupportFlow.UI.Session

/-!
# Browser sessions in Redis

The store that production uses: sessions as JSON texts in Redis, under keys that Redis drops after
the lifetime.

A call of the store meets a server: a time at which its commands are served, and the commands that
fail. A command that fails does nothing. The server's time and the readings of the clock are times
of one history, in microseconds since the start of the year 1.

Two things end a session here, Redis by dropping its key and the store by comparing the stored
expiry with its clock, and neither compares what the in-memory store compares.
-/

namespace SupportFlow

open Python SignedBrowserSessionStore

instance {ζ : Type} : Clock (Timestamp ζ) :=
  ⟨Timestamp.add?⟩

/-! ### The server -/

/-- `redis.exceptions.RedisError`. -/
inductive RedisError
  | redisError
  deriving DecidableEq, Repr

/-- What a key holds, and when it is dropped. -/
structure StoredValue where
  value : String
  expiry : ℤ
  deriving DecidableEq

/-- The keys of a server. A key that was dropped may still be here, past its expiry. -/
abbrev Redis := String → Option StoredValue

/-- A reply of `get`: a text, or its bytes, as the client's `decode_responses` has it. -/
inductive Reply
  | text (text : String)
  | bytes (bytes : List UInt8)
  deriving DecidableEq

/-- What the commands of one call meet: when they are served, and which of them fail. -/
structure Exchange where
  time : ℤ
  getFails : Bool
  deleteFails : Bool
  executeFails : Bool
  deriving DecidableEq

/-- Some command fails. -/
def Exchange.fails (exchange : Exchange) : Bool :=
  exchange.getFails || exchange.deleteFails || exchange.executeFails

/-- A command of a pipeline. -/
inductive PipelineCommand
  | delete (name : String)
  | set (name value : String) (ex : ℤ)

namespace Redis

/-- `get`. -/
def get (decodeResponses : Bool) (exchange : Exchange) (redis : Redis) (name : String) :
    Except RedisError (Option Reply) :=
  if exchange.getFails then .error .redisError
  else
    .ok <| (redis name).bind fun stored ↦
      if exchange.time < stored.expiry then
        some (if decodeResponses then .text stored.value else .bytes (encode stored.value))
      else none

/-- `delete`. -/
def delete (exchange : Exchange) (redis : Redis) (name : String) : Except RedisError Redis :=
  if exchange.deleteFails then .error .redisError else .ok (Function.update redis name none)

/-- One command of a transaction, served at a time. -/
def run (time : ℤ) (redis : Redis) : PipelineCommand → Redis
  | .delete name => Function.update redis name none
  | .set name value ex => Function.update redis name (some ⟨value, time + seconds ex⟩)

/-- `pipeline(transaction=True)` and its `execute`: every command, or none. -/
def execute (exchange : Exchange) (redis : Redis) (commands : List PipelineCommand) :
    Except RedisError Redis :=
  if exchange.executeFails then .error .redisError
  else .ok (commands.foldl (run exchange.time) redis)

end Redis

/-- `except RedisError: raise BrowserSessionStoreUnavailableError`. -/
def orUnavailable {α : Type} : Except RedisError α → Except SessionError α
  | .ok value => .ok value
  | .error _ => .error .unavailable

/-! ### The store -/

/-- The store, as its constructor admits it. -/
structure RedisBrowserSessionStore extends SignedBrowserSessionStore where
  keyPrefix : String
  /-- The client's `decode_responses`. -/
  decodeResponses : Bool
  keyPrefix_colon : keyPrefix.toList.getLast? = some ':'

namespace RedisBrowserSessionStore

variable {ζ : Type}

/-- `_lifetime_seconds`. -/
def lifetimeSeconds (store : RedisBrowserSessionStore) : ℤ :=
  store.lifetime / 1000000

/-- `_key`. -/
def key (store : RedisBrowserSessionStore) (sessionId : String) : String :=
  store.keyPrefix ++ sessionId

/-- A UUID, or `null`. -/
def optionalUUID : Option UUID → Json
  | none => .null
  | some u => .str u.str

/-- The dictionary of `_serialize`. -/
def payload [TimeZone ζ] (session : BrowserSession (Timestamp ζ)) : List (String × Json) :=
  [("csrf_token", .str session.csrfToken), ("expires_at", .str session.expiresAt.isoformat),
    ("organization_id", optionalUUID session.organizationId),
    ("user_id", optionalUUID session.userId)]

/-- `_serialize`. -/
def serialize [TimeZone ζ] (session : BrowserSession (Timestamp ζ)) : String :=
  Json.dumps .compact (.obj (Json.sortKeys (payload session)))

/-- The text of a reply. -/
def replyText : Reply → Option String
  | .text text => some text
  | .bytes bytes => decode bytes

/-- The names of the stored fields. -/
def expectedKeys : List String :=
  ["csrf_token", "expires_at", "organization_id", "user_id"]

/-- `payload[name]`. -/
def item (items : List (String × Json)) (name : String) : Option Json :=
  (items.find? fun p ↦ p.1 = name).map Prod.snd

/-- A text or `null`; anything else is rejected. -/
def nullableText : Json → Option (Option String)
  | .null => some none
  | .str text => some (some text)
  | _ => none

/-- `UUID(value) if value is not None else None`. -/
def nullableUUID : Option String → Option (Option UUID)
  | none => some none
  | some text => (UUID.parse? text).map some

/-- `_deserialize`. -/
def deserialize (sessionId : String) (storedValue : Option Reply) :
    Option (BrowserSession (Timestamp ζ)) := do
  let text ← replyText (← storedValue)
  match ← Json.loads text with
  | .obj items =>
    if ¬((∀ p ∈ items, p.1 ∈ expectedKeys) ∧ ∀ name ∈ expectedKeys, name ∈ items.map Prod.fst) then
      none
    else
      match ← item items "csrf_token", ← item items "expires_at" with
      | .str csrfToken, .str expiresAtValue =>
        let userIdValue ← nullableText (← item items "user_id")
        let organizationIdValue ← nullableText (← item items "organization_id")
        if csrfToken = "" ∨ userIdValue.isNone ≠ organizationIdValue.isNone then none
        else
          let expiresAt ← fromisoformat expiresAtValue
          let userId ← nullableUUID userIdValue
          let organizationId ← nullableUUID organizationIdValue
          let offset ← expiresAt.utcoffset
          some
            { id := sessionId
              userId := userId
              organizationId := organizationId
              csrfToken := csrfToken
              expiresAt := ⟨.fixed offset, expiresAt.wall, false⟩ }
      | _, _ => none
  | _ => none

section Calls

variable [TimeZone ζ] [DecidableEq ζ] (hmac : List UInt8 → List UInt8 → Bytes32)
  (store : RedisBrowserSessionStore)

/-- `_delete`. -/
def delete (exchange : Exchange) (sessionId : String) (redis : Redis) : Except SessionError Redis :=
  orUnavailable (redis.delete exchange (store.key sessionId))

/-- The commands of `_rotate`. -/
def rotation (previousSessionId : Option String) (session : BrowserSession (Timestamp ζ)) :
    List PipelineCommand :=
  (previousSessionId.map fun id ↦ .delete (store.key id)).toList ++
    [.set (store.key session.id) (serialize session) store.lifetimeSeconds]

/-- `_rotate`. -/
def rotate (previousCookie : Option String) (userId organizationId : Option UUID)
    (draw : Draw (Timestamp ζ)) (exchange : Exchange) (redis : Redis) :
    Except SessionError ((String × BrowserSession (Timestamp ζ)) × Redis) := do
  let previousSessionId ← verifiedSessionId hmac store.toSignedBrowserSessionStore previousCookie
  let session ← store.newSession userId organizationId draw
  let redis ← orUnavailable (redis.execute exchange (store.rotation previousSessionId session))
  .ok ((signedCookie hmac store.toSignedBrowserSessionStore session.id, session), redis)

/-- `create_anonymous`. -/
def createAnonymous (previousCookie : Option String) (draw : Draw (Timestamp ζ))
    (exchange : Exchange) (redis : Redis) :
    Except SessionError ((String × BrowserSession (Timestamp ζ)) × Redis) :=
  rotate hmac store previousCookie none none draw exchange redis

/-- `authenticate`. -/
def authenticate (previousCookie : Option String) (userId organizationId : UUID)
    (draw : Draw (Timestamp ζ)) (exchange : Exchange) (redis : Redis) :
    Except SessionError ((String × BrowserSession (Timestamp ζ)) × Redis) :=
  rotate hmac store previousCookie (some userId) (some organizationId) draw exchange redis

/-- `resolve`. -/
def resolve (cookie : Option String) (now : Timestamp ζ) (exchange : Exchange) (redis : Redis) :
    Except SessionError (Option (BrowserSession (Timestamp ζ)) × Redis) := do
  match ← verifiedSessionId hmac store.toSignedBrowserSessionStore cookie with
  | none => .ok (none, redis)
  | some sessionId =>
    let storedValue ←
      orUnavailable (redis.get store.decodeResponses exchange (store.key sessionId))
    match deserialize sessionId storedValue with
    | none =>
      if storedValue.isSome then
        let redis ← store.delete exchange sessionId redis
        .ok (none, redis)
      else .ok (none, redis)
    | some session =>
      if session.expiresAt ≤ now then
        let redis ← store.delete exchange sessionId redis
        .ok (none, redis)
      else .ok (some session, redis)

/-- `invalidate`. -/
def invalidate (cookie : Option String) (exchange : Exchange) (redis : Redis) :
    Except SessionError (Unit × Redis) := do
  match ← verifiedSessionId hmac store.toSignedBrowserSessionStore cookie with
  | none => .ok ((), redis)
  | some sessionId =>
    let redis ← store.delete exchange sessionId redis
    .ok ((), redis)

/-- One call. -/
def perform (call : SessionCall (Timestamp ζ)) (exchange : Exchange) (redis : Redis) :
    SessionResult (Timestamp ζ) × Redis :=
  match call with
  | .createAnonymous previousCookie draw =>
    SessionResult.of redis (fun (cookie, session) ↦ .opened cookie session)
      (createAnonymous hmac store previousCookie draw exchange redis)
  | .authenticate previousCookie userId organizationId draw =>
    SessionResult.of redis (fun (cookie, session) ↦ .opened cookie session)
      (authenticate hmac store previousCookie userId organizationId draw exchange redis)
  | .resolve cookie now =>
    SessionResult.of redis .resolved (resolve hmac store cookie now exchange redis)
  | .invalidate cookie =>
    SessionResult.of redis (fun _ ↦ .invalidated) (invalidate hmac store cookie exchange redis)

end Calls

end RedisBrowserSessionStore

/-- A call of the store, with what it met and what it returned or raised. -/
structure RedisCall (ζ : Type) where
  call : SessionCall (Timestamp ζ)
  exchange : Exchange
  result : SessionResult (Timestamp ζ)

section System

variable {ζ : Type} [TimeZone ζ] [DecidableEq ζ] (hmac : List UInt8 → List UInt8 → Bytes32)
  (store : RedisBrowserSessionStore)

end System

end SupportFlow
