import SupportFlow.Foundations.History
import SupportFlow.UI.RedisHistory
import SupportFlow.UI.SessionHistory

/-!
# What a handler may rely on

The handlers know a session store by its calls alone. What they rely on is one half of what a store
does (`SoundStore`): a cookie resolves to a session only if some call handed it out with that
session, opened for its user and organization, and no call that returned was given the cookie since
(`Holds`). Whether a session is found for as long as it should be is the other half, which depends
on clocks and time zones; this one does not.

Both stores are sound: the dictionary (`inMemory_sound`), and Redis (`redisStore_sound`) whatever
its commands do, since a command that fails does nothing.
-/

namespace SupportFlow

open Python Function SignedBrowserSessionStore

section Contract

variable {τ σ : Type}

/-- The two are one session, up to how its expiry is written. -/
def BrowserSession.Same (session other : BrowserSession τ) : Prop :=
  session.id = other.id ∧ session.userId = other.userId ∧
    session.organizationId = other.organizationId ∧ session.csrfToken = other.csrfToken

namespace SessionHistory

/-- A call handed out a cookie with a session. -/
def Opening (cookie : String) (session : BrowserSession τ)
    (l : SessionCall τ × SessionResult τ) : Prop :=
  ∃ opened, l.2 = .opened cookie opened ∧ l.1.Opens opened ∧ opened.Same session

/-- A call did not end a cookie: it was not given it, or it raised. -/
def Spares (cookie : String) (l : SessionCall τ × SessionResult τ) : Prop :=
  l.1.Receives cookie → ∃ error, l.2 = .raised error

/-- **A cookie was handed out with a session, and no call has ended it since.** -/
def Holds (ls : SessionHistory τ) (cookie : String) (session : BrowserSession τ) : Prop :=
  ls.Since (Opening cookie session) (Spares cookie)

theorem Holds.same {ls : SessionHistory τ} {cookie : String} {session other : BrowserSession τ}
    (h : Holds ls cookie session) (hsame : session.Same other) : Holds ls cookie other := by
  refine h.imp (fun l ⟨opened, hresult, hopens, hopened⟩ ↦ ⟨opened, hresult, hopens, ?_⟩)
    fun _ hspares ↦ hspares
  exact ⟨hopened.1.trans hsame.1, hopened.2.1.trans hsame.2.1,
    hopened.2.2.1.trans hsame.2.2.1, hopened.2.2.2.trans hsame.2.2.2⟩

end SessionHistory

/-- **What the handlers rely on**: a cookie that resolves to a session holds it. -/
def SoundStore (store : TransitionSystem σ (SessionCall τ × SessionResult τ)) : Prop :=
  ∀ {s₀ s t : σ} {ls : SessionHistory τ} {cookie : Option String} {now : τ}
    {session : BrowserSession τ},
    store.init s₀ → store.Run s₀ ls s →
      store.step s (.resolve cookie now, .resolved (some session)) t →
        ∃ text, cookie = some text ∧ ls.Holds text session

end Contract

/-! ### The dictionary -/

section InMemory

variable {τ : Type} [Clock τ] [LE τ] [DecidableLE τ] {hmac : List UInt8 → List UInt8 → Bytes32}
  {store : SignedBrowserSessionStore}

omit [Clock τ] [DecidableLE τ] in
theorem Tracks.holds {ls : SessionHistory τ} {sessions : Sessions τ}
    (h : Tracks hmac store ls sessions) {id : String} {session : BrowserSession τ}
    (hid : isSessionId id = true) (hsession : sessions id = some session) :
    ls.Holds (signedCookie hmac store id) session := by
  obtain ⟨before, call, after, rfl, hafter⟩ := h.sound id session hid hsession
  have hopens : call.Opens session :=
    (h.handedOut call (signedCookie hmac store id) session (by simp)).2.2
  refine ⟨before, _, after, rfl, ⟨session, rfl, hopens, rfl, rfl, rfl, rfl⟩, ?_⟩
  exact fun l hl hgiven ↦ ⟨.overflow, hafter l hl hgiven⟩

omit [Clock τ] in
/-- A cookie that resolves to a session is the signed cookie of an id that has it, and resolving
changes nothing. -/
theorem resolve_eq_some {cookie : Option String} {now : τ} {session : BrowserSession τ}
    {s t : Sessions τ}
    (h : InMemoryBrowserSessionStore.resolve hmac store cookie now s = .ok (some session, t)) :
    ∃ id, isSessionId id = true ∧ cookie = some (signedCookie hmac store id) ∧
      s id = some session ∧ t = s := by
  rcases resolve_eq_ok h with ⟨hnone, -⟩ | ⟨id, found, hid, hcookie, hfound, ⟨-, hnone, -⟩ |
    ⟨-, hsome, hsame⟩⟩
  · cases hnone
  · cases hnone
  · obtain rfl := Option.some.inj hsome
    exact ⟨id, hid, hcookie, hfound, hsame⟩

/-- A call that resolves a cookie to a session. -/
theorem perform_resolved {cookie : Option String} {now : τ} {session : BrowserSession τ}
    {s t : Sessions τ}
    (h : InMemoryBrowserSessionStore.perform hmac store (.resolve cookie now) s =
      (.resolved (some session), t)) :
    ∃ id, isSessionId id = true ∧ cookie = some (signedCookie hmac store id) ∧
      s id = some session ∧ t = s := by
  simp only [InMemoryBrowserSessionStore.perform] at h
  rcases hresolve : InMemoryBrowserSessionStore.resolve hmac store cookie now s with
    error | ⟨answer, next⟩
  · rw [hresolve] at h
    cases h
  · rw [hresolve] at h
    cases h
    exact resolve_eq_some hresolve

/-- **The dictionary is sound.** -/
theorem inMemory_sound : SoundStore (inMemory (τ := τ) hmac store) := by
  intro s₀ s t ls cookie now session hinit hrun hstep
  obtain rfl : s₀ = fun _ ↦ none := hinit
  obtain ⟨id, hid, hcookie, hfound, -⟩ := perform_resolved hstep
  exact ⟨_, hcookie, (run_tracks hrun).holds hid hfound⟩

end InMemory

/-! ### Redis -/

namespace RedisBrowserSessionStore

variable {ζ : Type} [TimeZone ζ] [DecidableEq ζ]

/-- What `_rotate` makes is read back by `_deserialize`. -/
def Readable (session : BrowserSession (Timestamp ζ)) : Prop :=
  session.csrfToken ≠ "" ∧ session.userId.isNone = session.organizationId.isNone

/-- **What a call does to the key of one session.** -/
inductive KeyChange (hmac : List UInt8 → List UInt8 → Bytes32) (store : RedisBrowserSessionStore)
    (id : String) (redis : Redis) (call : SessionCall (Timestamp ζ))
    (result : SessionResult (Timestamp ζ)) (redis' : Redis) : Prop
  | opened {session : BrowserSession (Timestamp ζ)} {expiry : ℤ}
      (result_eq : result =
        .opened (signedCookie hmac store.toSignedBrowserSessionStore id) session)
      (id_eq : session.id = id) (opens : call.Opens session) (readable : Readable session)
      (now : redis' (store.key id) = some ⟨serialize session, expiry⟩)
  | gone (now : redis' (store.key id) = none)
  | kept (spares : call.Receives (signedCookie hmac store.toSignedBrowserSessionStore id) →
        ∃ error, result = .raised error)
      (now : redis' (store.key id) = redis (store.key id))

variable {hmac : List UInt8 → List UInt8 → Bytes32} {store : RedisBrowserSessionStore}
  {redis redis' : Redis} {exchange : Exchange}

omit [TimeZone ζ] [DecidableEq ζ] in
theorem readable_newSession {userId organizationId : Option UUID} {draw : Draw (Timestamp ζ)}
    {session : BrowserSession (Timestamp ζ)} (hboth : userId.isNone = organizationId.isNone)
    (h : store.newSession userId organizationId draw = .ok session) :
    Readable session ∧ session.id = tokenUrlsafe draw.id ∧ session.userId = userId ∧
      session.organizationId = organizationId := by
  unfold newSession at h
  split at h
  · cases h
  · cases h
    refine ⟨⟨fun hempty ↦ ?_, hboth⟩, rfl, rfl, rfl⟩
    have hlength := length_tokenUrlsafe draw.csrfToken
    rw [show tokenUrlsafe draw.csrfToken = "" from hempty] at hlength
    exact absurd hlength (by decide)

omit [TimeZone ζ] [DecidableEq ζ] in
theorem update_key_apply {a b : String} {value : Option StoredValue} :
    update redis (store.key b) value (store.key a) =
      if a = b then value else redis (store.key a) := by
  split
  · next heq => rw [heq, update_self]
  · next hne => exact update_key_ne value hne

omit [DecidableEq ζ] in
/-- The keys after the commands of a rotation. -/
theorem foldl_rotation {verified : Option String} {session : BrowserSession (Timestamp ζ)}
    {time : ℤ} {id : String} :
    (store.rotation verified session).foldl (Redis.run time) redis (store.key id) =
      if id = session.id then some ⟨serialize session, time + seconds store.lifetimeSeconds⟩
      else if verified = some id then none else redis (store.key id) := by
  cases verified with
  | none =>
    simp only [rotation, Option.map_none, Option.toList_none, List.nil_append, List.foldl_cons,
      List.foldl_nil, Redis.run, update_key_apply, reduceCtorEq, if_false]
  | some previous =>
    simp only [rotation, Option.map_some, Option.toList_some, List.singleton_append,
      List.foldl_cons, List.foldl_nil, Redis.run, update_key_apply, Option.some.injEq,
      eq_comm (a := previous)]

omit [DecidableEq ζ] in
theorem rotate_keyChange {call : SessionCall (Timestamp ζ)}
    {result : SessionResult (Timestamp ζ)} {previousCookie : Option String}
    {userId organizationId : Option UUID} {draw : Draw (Timestamp ζ)} {id : String}
    (hid : isSessionId id = true) (hboth : userId.isNone = organizationId.isNone)
    (hreceives : ∀ cookie, call.Receives cookie ↔ previousCookie = some cookie)
    (hopens : ∀ session : BrowserSession (Timestamp ζ), session.userId = userId →
      session.organizationId = organizationId → call.Opens session)
    (h : SessionResult.of redis (fun (cookie, session) ↦ .opened cookie session)
      (rotate hmac store previousCookie userId organizationId draw exchange redis) =
        (result, redis')) :
    KeyChange hmac store id redis call result redis' := by
  rcases hrotate : rotate hmac store previousCookie userId organizationId draw exchange redis with
    error | ⟨⟨cookie, session⟩, next⟩
  · rw [hrotate] at h
    cases h
    exact .kept (fun _ ↦ ⟨error, rfl⟩) rfl
  · rw [hrotate] at h
    cases h
    obtain ⟨verified, hverified, hrest⟩ := Except.bind_eq_ok_iff.1 hrotate
    obtain ⟨new, hnew, hrest⟩ := Except.bind_eq_ok_iff.1 hrest
    obtain ⟨redis₁, hexecute, hrest⟩ := Except.bind_eq_ok_iff.1 hrest
    cases hrest
    obtain ⟨hreadable, -, huser, horganization⟩ := readable_newSession hboth hnew
    have hexecuted : redis' = (store.rotation verified session).foldl
        (Redis.run exchange.time) redis := by
      rw [Redis.execute] at hexecute
      split at hexecute
      · cases hexecute
      · exact (Except.ok.inj hexecute).symm
    have hnow : redis' (store.key id) = _ := hexecuted ▸ foldl_rotation
    by_cases heq : id = session.id
    · subst heq
      rw [if_pos rfl] at hnow
      exact .opened rfl rfl (hopens session huser horganization) hreadable hnow
    · rw [if_neg heq] at hnow
      have hnamed := verified_iff hverified hid
      by_cases hsome : verified = some id
      · rw [if_pos hsome] at hnow
        exact .gone hnow
      · rw [if_neg hsome] at hnow
        exact .kept (fun hgiven ↦ absurd (hnamed.2 ((hreceives _).1 hgiven)) hsome) hnow

omit [TimeZone ζ] [DecidableEq ζ] in
/-- Deleting a session deletes its key, and no other. -/
theorem delete_eq_ok {sessionId : String} (h : store.delete exchange sessionId redis = .ok redis') :
    redis' = update redis (store.key sessionId) none := by
  unfold RedisBrowserSessionStore.delete Redis.delete at h
  split at h
  · cases h
  · exact (Except.ok.inj h).symm

omit [TimeZone ζ] [DecidableEq ζ] in
theorem update_none_apply (id sessionId : String) :
    update redis (store.key sessionId) none (store.key id) = none ∨
      update redis (store.key sessionId) none (store.key id) = redis (store.key id) := by
  rw [update_key_apply]
  split
  · exact Or.inl rfl
  · exact Or.inr rfl

omit [TimeZone ζ] [DecidableEq ζ] in
/-- A reply is the text of its key. -/
theorem get_eq_some {sessionId : String} {reply : Reply}
    (h : orUnavailable (redis.get store.decodeResponses exchange (store.key sessionId)) =
      .ok (some reply)) :
    ∃ value, redis (store.key sessionId) = some value ∧ replyText reply = some value.value := by
  unfold Redis.get at h
  split at h
  · cases h
  · obtain ⟨value, hvalue, hreply⟩ := Option.bind_eq_some_iff.1 (Except.ok.inj h)
    split at hreply
    · obtain rfl := Option.some.inj hreply
      exact ⟨value, hvalue, replyText_get _ _⟩
    · cases hreply

/-- What `resolve` does: it deletes a key, or answers what it has read and changes nothing. -/
theorem resolve_eq_ok {cookie : Option String} {now : Timestamp ζ}
    {answer : Option (BrowserSession (Timestamp ζ))}
    (h : resolve hmac store cookie now exchange redis = .ok (answer, redis')) :
    (answer = none ∧ ∀ id, redis' (store.key id) = none ∨
        redis' (store.key id) = redis (store.key id)) ∨
      ∃ id session value reply, isSessionId id = true ∧
        cookie = some (signedCookie hmac store.toSignedBrowserSessionStore id) ∧
        redis (store.key id) = some value ∧ replyText reply = some value.value ∧
        deserialize id (some reply) = some session ∧ answer = some session ∧ redis' = redis := by
  obtain ⟨verified, hverified, hbody⟩ := Except.bind_eq_ok_iff.1 h
  cases verified with
  | none =>
    cases hbody
    exact Or.inl ⟨rfl, fun _ ↦ Or.inr rfl⟩
  | some sessionId =>
    cases cookie with
    | none => cases hverified
    | some cookie =>
      obtain ⟨hid, rfl⟩ := verifiedSessionId_eq_some_iff.1 hverified
      obtain ⟨storedValue, hget, hbody⟩ := Except.bind_eq_ok_iff.1 hbody
      have hdeleted : ∀ {x : Except SessionError Redis}, x = store.delete exchange sessionId redis →
          (x >>= fun redis ↦ .ok ((none : Option (BrowserSession (Timestamp ζ))), redis)) =
            .ok (answer, redis') → answer = none ∧ ∀ id, redis' (store.key id) = none ∨
              redis' (store.key id) = redis (store.key id) := by
        rintro x rfl hx
        obtain ⟨redis₁, hdelete, hx⟩ := Except.bind_eq_ok_iff.1 hx
        cases hx
        exact ⟨rfl, fun id ↦ delete_eq_ok hdelete ▸ update_none_apply id sessionId⟩
      split at hbody
      · split at hbody
        · exact Or.inl (hdeleted rfl hbody)
        · cases hbody
          exact Or.inl ⟨rfl, fun _ ↦ Or.inr rfl⟩
      · next session hsession =>
        split at hbody
        · exact Or.inl (hdeleted rfl hbody)
        · cases hbody
          cases storedValue with
          | none => cases hsession
          | some reply =>
            obtain ⟨value, hvalue, hreply⟩ := get_eq_some hget
            exact Or.inr ⟨sessionId, session, value, reply, hid, rfl, hvalue, hreply, hsession, rfl,
              rfl⟩

theorem perform_keyChange {call : SessionCall (Timestamp ζ)} {result : SessionResult (Timestamp ζ)}
    {id : String} (hid : isSessionId id = true)
    (h : perform hmac store call exchange redis = (result, redis')) :
    KeyChange hmac store id redis call result redis' := by
  cases call with
  | createAnonymous previousCookie draw =>
    exact rotate_keyChange hid rfl (fun _ ↦ Iff.rfl) (fun _ huser horg ↦ ⟨huser, horg⟩) h
  | authenticate previousCookie userId organizationId draw =>
    have hboth : (some userId).isNone = (some organizationId).isNone := rfl
    exact rotate_keyChange hid hboth (fun _ ↦ Iff.rfl) (fun _ huser horg ↦ ⟨huser, horg⟩) h
  | resolve cookie now =>
    rcases hresolve : resolve hmac store cookie now exchange redis with error | ⟨answer, next⟩
    · simp only [perform, hresolve, SessionResult.of] at h
      cases h
      exact .kept (fun hgiven ↦ False.elim hgiven) rfl
    · simp only [perform, hresolve, SessionResult.of] at h
      cases h
      rcases resolve_eq_ok hresolve with ⟨-, hkeys⟩ | ⟨-, -, -, -, -, -, -, -, -, -, rfl⟩
      · rcases hkeys id with hgone | hsame
        · exact .gone hgone
        · exact .kept (fun hgiven ↦ False.elim hgiven) hsame
      · exact .kept (fun hgiven ↦ False.elim hgiven) rfl
  | invalidate cookie =>
    rcases hinvalidate : invalidate hmac store cookie exchange redis with error | ⟨⟨⟩, next⟩
    · simp only [perform, hinvalidate, SessionResult.of] at h
      cases h
      exact .kept (fun _ ↦ ⟨error, rfl⟩) rfl
    · simp only [perform, hinvalidate, SessionResult.of] at h
      cases h
      obtain ⟨verified, hverified, hbody⟩ := Except.bind_eq_ok_iff.1 hinvalidate
      have hnamed := verified_iff hverified hid
      cases verified with
      | none =>
        cases hbody
        exact .kept (fun hgiven ↦ nomatch hnamed.2 hgiven) rfl
      | some sessionId =>
        obtain ⟨redis₁, hdelete, hbody⟩ := Except.bind_eq_ok_iff.1 hbody
        cases hbody
        obtain rfl := delete_eq_ok hdelete
        by_cases heq : id = sessionId
        · exact .gone (by rw [update_key_apply, if_pos heq])
        · refine .kept (fun hgiven ↦ ?_) (by rw [update_key_apply, if_neg heq])
          exact absurd (Option.some.inj (hnamed.2 hgiven)).symm heq

/-- **What the server keeps for a session can be read back, and its cookie holds it.** -/
def Keeps (hmac : List UInt8 → List UInt8 → Bytes32) (store : RedisBrowserSessionStore)
    (ls : SessionHistory (Timestamp ζ)) (redis : Redis) : Prop :=
  ∀ id value, isSessionId id = true → redis (store.key id) = some value →
    ∃ session : BrowserSession (Timestamp ζ), value.value = serialize session ∧ session.id = id ∧
      Readable session ∧ ls.Holds (signedCookie hmac store.toSignedBrowserSessionStore id) session

theorem Keeps.step {ls : SessionHistory (Timestamp ζ)} {call : SessionCall (Timestamp ζ)}
    {result : SessionResult (Timestamp ζ)} (h : Keeps hmac store ls redis)
    (hperform : perform hmac store call exchange redis = (result, redis')) :
    Keeps hmac store (ls ++ [(call, result)]) redis' := by
  intro id value hid hvalue
  cases perform_keyChange hid hperform with
  | @opened session expiry result_eq id_eq opens readable now =>
    obtain rfl := Option.some.inj (now.symm.trans hvalue)
    refine ⟨session, rfl, id_eq, readable, List.since_snoc.2 (Or.inl ?_)⟩
    exact ⟨session, result_eq, opens, rfl, rfl, rfl, rfl⟩
  | gone now => cases now.symm.trans hvalue
  | kept spares now =>
    obtain ⟨session, htext, hsame, hreadable, hholds⟩ := h id value hid (now.symm.trans hvalue)
    exact ⟨session, htext, hsame, hreadable, List.since_snoc.2 (Or.inr ⟨hholds, spares⟩)⟩

end RedisBrowserSessionStore

section Redis

variable {ζ : Type} [TimeZone ζ] [DecidableEq ζ]

/-- The store over a server, whatever its commands meet. -/
def redisStore (hmac : List UInt8 → List UInt8 → Bytes32) (store : RedisBrowserSessionStore) :
    TransitionSystem Redis (SessionCall (Timestamp ζ) × SessionResult (Timestamp ζ)) where
  init redis := redis = fun _ ↦ none
  step redis l redis' := ∃ exchange,
    RedisBrowserSessionStore.perform hmac store l.1 exchange redis = (l.2, redis')

/-- **The Redis store is sound.** -/
theorem redisStore_sound {hmac : List UInt8 → List UInt8 → Bytes32}
    {store : RedisBrowserSessionStore} : SoundStore (redisStore (ζ := ζ) hmac store) := by
  intro s₀ s t ls cookie now session hinit hrun hstep
  obtain rfl : s₀ = fun _ ↦ none := hinit
  have hkeeps : RedisBrowserSessionStore.Keeps hmac store ls s := by
    refine TransitionSystem.Run.tracked (I := RedisBrowserSessionStore.Keeps hmac store) ?_ ?_ hrun
    · exact fun id value _ hvalue ↦ nomatch hvalue
    · exact fun ls s l t _ hkeeps ⟨_, hperform⟩ ↦ hkeeps.step hperform
  obtain ⟨exchange, hperform⟩ := hstep
  rcases hresolve : RedisBrowserSessionStore.resolve hmac store cookie now exchange s with
    error | ⟨answer, next⟩
  · simp only [RedisBrowserSessionStore.perform, hresolve, SessionResult.of] at hperform
    cases hperform
  · simp only [RedisBrowserSessionStore.perform, hresolve, SessionResult.of] at hperform
    cases hperform
    rcases RedisBrowserSessionStore.resolve_eq_ok hresolve with ⟨hnone, -⟩ |
      ⟨id, found, value, reply, hid, rfl, hvalue, hreply, hread, hanswer, -⟩
    · cases hnone
    · obtain rfl := Option.some.inj hanswer
      obtain ⟨opened, htext, rfl, ⟨hcsrf, hboth⟩, hholds⟩ := hkeeps id value hid hvalue
      rw [htext] at hreply
      have hsession := RedisBrowserSessionStore.deserialize_serialize hreply hcsrf hboth
      obtain rfl := Option.some.inj (hsession.symm.trans hread)
      exact ⟨_, rfl, hholds.same ⟨rfl, rfl, rfl, rfl⟩⟩

end Redis

end SupportFlow
