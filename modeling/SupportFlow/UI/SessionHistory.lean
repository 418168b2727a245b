import SupportFlow.UI.Session

/-!
# What a cookie resolves to

A store answers a cookie from its dictionary alone. `browser_session_semantics` says the same from
the history: a cookie resolves to a session exactly when some call handed it out with that session,
no later call was given it to end, and the session's time is not over.

The induction is on the history. For one id, a step does one of four things (`SessionChange`): open
a session under it, end the one that is there, drop one that has expired, or leave it alone.
-/

namespace SupportFlow

open Python Function SignedBrowserSessionStore InMemoryBrowserSessionStore

section Calls

variable {τ : Type}

/-- A call is given a cookie to end: as the previous one of a rotation, or to invalidate. -/
def SessionCall.Receives (cookie : String) : SessionCall τ → Prop
  | createAnonymous previousCookie _ | authenticate previousCookie _ _ _ =>
    previousCookie = some cookie
  | invalidate given => given = some cookie
  | resolve _ _ => False

/-- A call opens sessions of this user and organization. -/
def SessionCall.Opens (session : BrowserSession τ) : SessionCall τ → Prop
  | createAnonymous _ _ => session.userId = none ∧ session.organizationId = none
  | authenticate _ userId organizationId _ =>
    session.userId = some userId ∧ session.organizationId = some organizationId
  | resolve _ _ | invalidate _ => False

/-- The readings of the clock that a call makes. -/
def SessionCall.readings : SessionCall τ → List τ
  | createAnonymous _ draw | authenticate _ _ _ draw => [draw.now]
  | resolve _ now => [now]
  | invalidate _ => []

/-- The id of the session that a call opened. -/
def SessionResult.openedId? : SessionResult τ → Option String
  | opened _ session => some session.id
  | resolved _ | invalidated | raised _ => none

/-- A history: calls with their results, oldest first. -/
abbrev SessionHistory (τ : Type) := List (SessionCall τ × SessionResult τ)

namespace SessionHistory

/-- The ids of the sessions that were opened. -/
def openedIds (ls : SessionHistory τ) : List String :=
  ls.filterMap fun l ↦ l.2.openedId?

/-- The readings of the clock. -/
def readings (ls : SessionHistory τ) : List τ :=
  ls.flatMap fun l ↦ l.1.readings

/-- A cookie was handed out with a session, and no later call was given it; a call that raised an
`OverflowError` has given no session and ended none. -/
def Stands (ls : SessionHistory τ) (cookie : String) (session : BrowserSession τ) : Prop :=
  ∃ before call after, ls = before ++ (call, .opened cookie session) :: after ∧
    ∀ l ∈ after, l.1.Receives cookie → l.2 = .raised .overflow

theorem stands_snoc {ls : SessionHistory τ} {l : SessionCall τ × SessionResult τ} {cookie : String}
    {session : BrowserSession τ} :
    Stands (ls ++ [l]) cookie session ↔ l.2 = .opened cookie session ∨
      Stands ls cookie session ∧ (l.1.Receives cookie → l.2 = .raised .overflow) := by
  constructor
  · rintro ⟨before, call, after, hls, hafter⟩
    rcases List.eq_nil_or_concat after with rfl | ⟨after', last, rfl⟩
    · obtain ⟨-, hl⟩ := List.append_inj' hls rfl
      exact Or.inl (by rw [(List.cons.inj hl).1])
    · have hsplit : ls ++ [l] =
          (before ++ (call, .opened cookie session) :: after') ++ [last] := by
        simpa using hls
      obtain ⟨hfront, hl⟩ := List.append_inj' hsplit rfl
      obtain rfl := (List.cons.inj hl).1
      exact Or.inr ⟨⟨before, call, after', hfront, fun l' hl' ↦
        hafter l' (by simp [hl'])⟩, hafter l (by simp)⟩
  · rintro (hl | ⟨⟨before, call, after, rfl, hafter⟩, hlast⟩)
    · exact ⟨ls, l.1, [], by rw [← hl], fun _ h ↦ absurd h List.not_mem_nil⟩
    · refine ⟨before, call, after ++ [l], by simp, fun l' hl' ↦ ?_⟩
      rcases List.mem_append.1 hl' with hold | hnew
      · exact hafter l' hold
      · rw [List.mem_singleton.1 hnew]
        exact hlast

theorem Stands.mem {ls : SessionHistory τ} {cookie : String} {session : BrowserSession τ}
    (h : Stands ls cookie session) : ∃ call, (call, .opened cookie session) ∈ ls := by
  obtain ⟨before, call, after, rfl, -⟩ := h
  exact ⟨call, by simp⟩

theorem openedIds_snoc (ls : SessionHistory τ) (l : SessionCall τ × SessionResult τ) :
    openedIds (ls ++ [l]) = openedIds ls ++ l.2.openedId?.toList := by
  rw [openedIds, openedIds, List.filterMap_append]
  rfl

theorem mem_openedIds {ls : SessionHistory τ} {call : SessionCall τ} {cookie : String}
    {session : BrowserSession τ} (h : (call, .opened cookie session) ∈ ls) :
    session.id ∈ openedIds ls :=
  List.mem_filterMap.2 ⟨_, h, rfl⟩

end SessionHistory

end Calls

section Histories

variable {τ : Type} {hmac : List UInt8 → List UInt8 → Bytes32}
  {store : SignedBrowserSessionStore} {sessions sessions' : Sessions τ}

/-! ### One id, one step -/

/-- Two session ids with one cookie are one. -/
theorem signedCookie_inj {a b : String}
    (h : signedCookie hmac store a = signedCookie hmac store b) : a = b := by
  have hsplit := (rsplitOnce_signedCookie hmac store a).symm.trans
    (h ▸ rsplitOnce_signedCookie hmac store b)
  exact congrArg Prod.fst (Option.some.inj hsplit)

/-- The session that a verified cookie names. -/
theorem verified_iff {cookie verified : Option String} {id : String}
    (h : verifiedSessionId hmac store cookie = .ok verified) (hid : isSessionId id = true) :
    verified = some id ↔ cookie = some (signedCookie hmac store id) := by
  constructor
  · rintro rfl
    cases cookie with
    | none => cases h
    | some cookie => rw [(verifiedSessionId_eq_some_iff.1 h).2]
  · rintro rfl
    exact Except.ok.inj (h.symm.trans (verifiedSessionId_signedCookie hid))

/-- A cookie that does not verify, because the check raises, is no signed cookie. -/
theorem not_signed_of_error {cookie : Option String} {error : SessionError} {id : String}
    (h : verifiedSessionId hmac store cookie = .error error) (hid : isSessionId id = true) :
    cookie ≠ some (signedCookie hmac store id) := by
  rintro rfl
  rw [verifiedSessionId_signedCookie hid] at h
  cases h

theorem pop_apply {verified : Option String} {id : String} :
    pop verified sessions id = if verified = some id then none else sessions id := by
  cases verified with
  | none => rfl
  | some other =>
    rw [pop, update_apply]
    simp only [Option.some.injEq, eq_comm]

/-- **What a call does to one session id.** -/
inductive SessionChange (hmac : List UInt8 → List UInt8 → Bytes32)
    (store : SignedBrowserSessionStore) [LE τ] (id : String) (sessions : Sessions τ)
    (call : SessionCall τ) (result : SessionResult τ) (sessions' : Sessions τ) : Prop
  | opened {session : BrowserSession τ}
      (result_eq : result = .opened (signedCookie hmac store id) session)
      (id_eq : session.id = id) (opens : call.Opens session) (now : sessions' id = some session)
  | ended (receives : call.Receives (signedCookie hmac store id))
      (returned : ∀ error, result ≠ .raised error) (other : result.openedId? ≠ some id)
      (now : sessions' id = none)
  | expired {session : BrowserSession τ} {time : τ} (reading : time ∈ call.readings)
      (before : sessions id = some session) (ended : session.expiresAt ≤ time)
      (other : result.openedId? = none)
      (keeps : ¬call.Receives (signedCookie hmac store id)) (now : sessions' id = none)
  | kept (receives : call.Receives (signedCookie hmac store id) → result = .raised .overflow)
      (other : result.openedId? ≠ some id) (now : sessions' id = sessions id)

variable [Clock τ] {call : SessionCall τ} {result : SessionResult τ}

/-- What a rotation that returns has done. -/
theorem rotate_eq_ok {previousCookie : Option String} {userId organizationId : Option UUID}
    {draw : Draw τ} {cookie : String} {session : BrowserSession τ}
    (h : rotate hmac store previousCookie userId organizationId draw sessions =
      .ok ((cookie, session), sessions')) :
    ∃ verified, verifiedSessionId hmac store previousCookie = .ok verified ∧
      session.id = tokenUrlsafe draw.id ∧ session.userId = userId ∧
      session.organizationId = organizationId ∧ cookie = signedCookie hmac store session.id ∧
      sessions' = update (pop verified sessions) session.id (some session) := by
  obtain ⟨verified, hverified, h⟩ := Except.bind_eq_ok_iff.1 h
  obtain ⟨new, hnew, h⟩ := Except.bind_eq_ok_iff.1 h
  obtain ⟨hpair, rfl⟩ := Prod.mk.inj (Except.ok.inj h)
  obtain ⟨rfl, rfl⟩ := Prod.mk.inj hpair
  unfold newSession at hnew
  split at hnew
  · cases hnew
  · cases hnew
    exact ⟨verified, hverified, rfl, rfl, rfl, rfl, rfl⟩

/-- A rotation that is given a signed cookie raises only an `OverflowError`. -/
theorem rotate_eq_error {previousCookie : Option String} {userId organizationId : Option UUID}
    {draw : Draw τ} {error : SessionError} {id : String}
    (h : rotate hmac store previousCookie userId organizationId draw sessions = .error error)
    (hid : isSessionId id = true)
    (hprevious : previousCookie = some (signedCookie hmac store id)) : error = .overflow := by
  rcases Except.bind_eq_error_iff.1 h with hverified | ⟨verified, -, h⟩
  · exact absurd hprevious (not_signed_of_error hverified hid)
  · rcases Except.bind_eq_error_iff.1 h with hnew | ⟨session, -, h⟩
    · unfold newSession at hnew
      split at hnew
      · exact (Except.error.inj hnew).symm
      · cases hnew
    · cases h

/-- A rotation, for one id. -/
theorem rotate_change [LE τ] {previousCookie : Option String} {userId organizationId : Option UUID}
    {draw : Draw τ} {id : String} (hid : isSessionId id = true)
    (hreceives : ∀ cookie, call.Receives cookie ↔ previousCookie = some cookie)
    (hopens : ∀ session : BrowserSession τ, session.userId = userId →
      session.organizationId = organizationId → call.Opens session)
    (h : SessionResult.of sessions (fun (cookie, session) ↦ .opened cookie session)
      (rotate hmac store previousCookie userId organizationId draw sessions) =
        (result, sessions')) :
    SessionChange hmac store id sessions call result sessions' := by
  rcases hrotate : rotate hmac store previousCookie userId organizationId draw sessions with
    error | ⟨⟨cookie, session⟩, next⟩
  · rw [hrotate] at h
    cases h
    refine .kept (fun hgiven ↦ ?_) nofun rfl
    rw [rotate_eq_error hrotate hid ((hreceives _).1 hgiven)]
  · rw [hrotate] at h
    cases h
    obtain ⟨verified, hverified, hdrawn, huser, horganization, rfl, rfl⟩ := rotate_eq_ok hrotate
    by_cases hnew : session.id = id
    · subst hnew
      exact .opened rfl rfl (hopens session huser horganization) (update_self _ _ _)
    · have hother : (SessionResult.opened (signedCookie hmac store session.id) session).openedId? ≠
          some id := fun heq ↦ hnew (Option.some.inj heq)
      have happly : update (pop verified sessions) session.id (some session) id =
          if verified = some id then none else sessions id := by
        rw [update_of_ne (Ne.symm hnew), pop_apply]
      have hnamed := verified_iff hverified hid
      by_cases hgiven : call.Receives (signedCookie hmac store id)
      · have hsome : verified = some id := hnamed.2 ((hreceives _).1 hgiven)
        exact .ended hgiven nofun hother (by rw [happly, if_pos hsome])
      · have hsome : verified ≠ some id := fun heq ↦
          hgiven ((hreceives _).2 (hnamed.1 heq))
        exact .kept (fun h ↦ absurd h hgiven) hother (by rw [happly, if_neg hsome])

omit [Clock τ] in
/-- What `resolve` does: it answers a live session, drops one that has expired, or finds none. -/
theorem resolve_eq_ok [LE τ] [DecidableLE τ] {cookie : Option String} {now : τ}
    {answer : Option (BrowserSession τ)}
    (h : resolve hmac store cookie now sessions = .ok (answer, sessions')) :
    (answer = none ∧ sessions' = sessions) ∨
      ∃ id session, isSessionId id = true ∧ cookie = some (signedCookie hmac store id) ∧
        sessions id = some session ∧
        ((session.expiresAt ≤ now ∧ answer = none ∧ sessions' = update sessions id none) ∨
          (¬session.expiresAt ≤ now ∧ answer = some session ∧ sessions' = sessions)) := by
  obtain ⟨verified, hverified, hbody⟩ := Except.bind_eq_ok_iff.1 h
  cases verified with
  | none =>
    cases hbody
    exact Or.inl ⟨rfl, rfl⟩
  | some id =>
    cases cookie with
    | none => cases hverified
    | some cookie =>
      obtain ⟨hid, rfl⟩ := verifiedSessionId_eq_some_iff.1 hverified
      dsimp only at hbody
      rcases hsession : sessions id with - | session
      · rw [hsession] at hbody
        cases hbody
        exact Or.inl ⟨rfl, rfl⟩
      · rw [hsession] at hbody
        dsimp only at hbody
        refine Or.inr ⟨id, session, hid, rfl, hsession, ?_⟩
        split at hbody
        · next hover =>
          cases hbody
          exact Or.inl ⟨hover, rfl, rfl⟩
        · next hlive =>
          cases hbody
          exact Or.inr ⟨hlive, rfl, rfl⟩

theorem perform_change [LE τ] [DecidableLE τ] {id : String} (hid : isSessionId id = true)
    (h : perform hmac store call sessions = (result, sessions')) :
    SessionChange hmac store id sessions call result sessions' := by
  cases call with
  | createAnonymous previousCookie draw =>
    exact rotate_change hid (fun _ ↦ Iff.rfl) (fun _ huser horg ↦ ⟨huser, horg⟩) h
  | authenticate previousCookie userId organizationId draw =>
    exact rotate_change hid (fun _ ↦ Iff.rfl) (fun _ huser horg ↦ ⟨huser, horg⟩) h
  | resolve cookie now =>
    rcases hresolve : resolve hmac store cookie now sessions with error | ⟨answer, next⟩
    · simp only [perform, hresolve] at h
      cases h
      exact .kept (fun hgiven ↦ False.elim hgiven) nofun rfl
    · simp only [perform, hresolve] at h
      cases h
      rcases resolve_eq_ok hresolve with ⟨-, rfl⟩ | ⟨named, session, -, -, hsession,
        ⟨hover, rfl, rfl⟩ | ⟨-, -, rfl⟩⟩
      · exact .kept (fun hgiven ↦ False.elim hgiven) nofun rfl
      · by_cases hnamed : id = named
        · subst hnamed
          exact .expired (List.mem_singleton_self now) hsession hover rfl
            (fun hgiven ↦ False.elim hgiven) (update_self _ _ _)
        · exact .kept (fun hgiven ↦ False.elim hgiven) nofun (update_of_ne hnamed _ _)
      · exact .kept (fun hgiven ↦ False.elim hgiven) nofun rfl
  | invalidate cookie =>
    rcases hverified : verifiedSessionId hmac store cookie with error | verified
    · simp only [perform, InMemoryBrowserSessionStore.invalidate, hverified] at h
      cases h
      exact .kept (fun hgiven ↦ absurd hgiven (not_signed_of_error hverified hid)) nofun rfl
    · simp only [perform, InMemoryBrowserSessionStore.invalidate, hverified] at h
      cases h
      have hnamed := verified_iff hverified hid
      by_cases hsome : verified = some id
      · exact .ended (hnamed.1 hsome) nofun nofun (by rw [pop_apply, if_pos hsome])
      · exact .kept (fun hgiven ↦ absurd (hnamed.2 hgiven) hsome) nofun
          (by rw [pop_apply, if_neg hsome])

/-- A call that opens a session hands out its signed cookie. -/
theorem perform_opened [LE τ] [DecidableLE τ] {cookie : String} {session : BrowserSession τ}
    (h : perform hmac store call sessions = (.opened cookie session, sessions')) :
    cookie = signedCookie hmac store session.id ∧ isSessionId session.id = true ∧
      call.Opens session := by
  have hid : isSessionId session.id = true ∧ cookie = signedCookie hmac store session.id := by
    have hrotated : ∀ {previousCookie : Option String} {userId organizationId : Option UUID}
        {draw : Draw τ},
        SessionResult.of sessions (fun (cookie, session) ↦ .opened cookie session)
          (rotate hmac store previousCookie userId organizationId draw sessions) =
            (.opened cookie session, sessions') →
          isSessionId session.id = true ∧ cookie = signedCookie hmac store session.id := by
      intro previousCookie userId organizationId draw h
      rcases hrotate : rotate hmac store previousCookie userId organizationId draw sessions with
        error | ⟨⟨handed, new⟩, next⟩
      · rw [hrotate] at h
        cases h
      · rw [hrotate] at h
        cases h
        obtain ⟨verified, -, hdrawn, -, -, hcookie, -⟩ := rotate_eq_ok hrotate
        exact ⟨hdrawn ▸ isSessionId_tokenUrlsafe draw.id, hcookie⟩
    cases call with
    | createAnonymous previousCookie draw => exact hrotated h
    | authenticate previousCookie userId organizationId draw => exact hrotated h
    | resolve cookie now =>
      simp only [perform] at h
      rcases hresolve : resolve hmac store cookie now sessions with error | ⟨answer, next⟩ <;>
        rw [hresolve] at h <;> cases h
    | invalidate cookie =>
      simp only [perform] at h
      rcases hended : InMemoryBrowserSessionStore.invalidate hmac store cookie sessions with
        error | ⟨value, next⟩ <;> rw [hended] at h <;> cases h
  refine ⟨hid.2, hid.1, ?_⟩
  cases perform_change hid.1 h with
  | opened result_eq id_eq opens now =>
    cases result_eq
    exact opens
  | ended receives returned other now => exact absurd rfl other
  | expired reading before ended other keeps now => cases other
  | kept receives other now => exact absurd rfl other

/-! ### The whole history -/

/-- **The dictionary and the history tell of the same sessions**, up to those whose time is
over. -/
structure Tracks (hmac : List UInt8 → List UInt8 → Bytes32) (store : SignedBrowserSessionStore)
    [LE τ] (ls : SessionHistory τ) (sessions : Sessions τ) : Prop where
  handedOut : ∀ call cookie session, (call, .opened cookie session) ∈ ls →
    cookie = signedCookie hmac store session.id ∧ isSessionId session.id = true ∧
      call.Opens session
  sound : ∀ id session, isSessionId id = true → sessions id = some session →
    ls.Stands (signedCookie hmac store id) session
  complete : ls.openedIds.Nodup → ∀ id session, isSessionId id = true →
    ls.Stands (signedCookie hmac store id) session →
      sessions id = some session ∨ ∃ time ∈ ls.readings, session.expiresAt ≤ time

variable {ls : SessionHistory τ}

omit [Clock τ] in
theorem Tracks.id_eq [LE τ] (h : Tracks hmac store ls sessions) {id : String}
    {session : BrowserSession τ} (hstands : ls.Stands (signedCookie hmac store id) session) :
    session.id = id := by
  obtain ⟨call, hmem⟩ := hstands.mem
  exact (signedCookie_inj (h.handedOut _ _ _ hmem).1).symm

theorem Tracks.step [LE τ] [DecidableLE τ] (h : Tracks hmac store ls sessions)
    (hstep : perform hmac store call sessions = (result, sessions')) :
    Tracks hmac store (ls ++ [(call, result)]) sessions' := by
  have hreadings : ∀ {time : τ}, time ∈ ls.readings →
      time ∈ SessionHistory.readings (ls ++ [(call, result)]) := fun htime ↦ by
    rw [SessionHistory.readings, List.flatMap_append]
    exact List.mem_append_left _ htime
  refine ⟨fun call' cookie session hmem ↦ ?_, fun id session hid hsession ↦ ?_,
    fun hfresh id session hid hstands ↦ ?_⟩
  · rcases List.mem_append.1 hmem with hold | hnew
    · exact h.handedOut call' cookie session hold
    · cases List.mem_singleton.1 hnew
      exact perform_opened hstep
  · rw [SessionHistory.stands_snoc]
    cases perform_change hid hstep with
    | opened result_eq id_eq opens now =>
      obtain rfl := Option.some.inj (now.symm.trans hsession)
      exact Or.inl result_eq
    | ended receives returned other now => cases now.symm.trans hsession
    | expired reading before ended other keeps now => cases now.symm.trans hsession
    | kept receives other now =>
      exact Or.inr ⟨h.sound id session hid (now.symm.trans hsession), receives⟩
  · rw [SessionHistory.openedIds_snoc] at hfresh
    have hfresh' : ls.openedIds.Nodup := hfresh.of_append_left
    rw [SessionHistory.stands_snoc] at hstands
    have hopened : result = .opened (signedCookie hmac store id) session →
        result.openedId? = some id := by
      rintro rfl
      exact congrArg some (signedCookie_inj (perform_opened hstep).1).symm
    cases perform_change hid hstep with
    | @opened new result_eq id_eq opens now =>
      rcases hstands with hresult | ⟨hstands, -⟩
      · have heq : SessionResult.opened _ session = .opened _ new := hresult.symm.trans result_eq
        cases heq
        exact Or.inl now
      · -- The id was drawn before, so this call cannot draw it.
        obtain ⟨call', hmem⟩ := hstands.mem
        have hold : id ∈ ls.openedIds := h.id_eq hstands ▸ SessionHistory.mem_openedIds hmem
        have hnew : id ∈ result.openedId?.toList := by
          rw [result_eq, ← id_eq]
          exact List.mem_singleton_self _
        exact absurd hnew (List.disjoint_of_nodup_append hfresh hold)
    | ended receives returned other now =>
      rcases hstands with hresult | ⟨-, hlast⟩
      · exact absurd (hopened hresult) other
      · exact absurd (hlast receives) (returned _)
    | @expired found time reading before ended other keeps now =>
      rcases hstands with hresult | ⟨hstands, -⟩
      · exact nomatch (hopened hresult).symm.trans other
      · refine Or.inr ?_
        rcases h.complete hfresh' id session hid hstands with hsession | ⟨time', htime', hover⟩
        · obtain rfl := Option.some.inj (before.symm.trans hsession)
          refine ⟨time, ?_, ended⟩
          rw [SessionHistory.readings, List.flatMap_append]
          exact List.mem_append_right _ (by simpa using reading)
        · exact ⟨time', hreadings htime', hover⟩
    | kept receives other now =>
      rcases hstands with hresult | ⟨hstands, -⟩
      · exact absurd (hopened hresult) other
      · rcases h.complete hfresh' id session hid hstands with hsession | ⟨time, htime, hover⟩
        · exact Or.inl (now.trans hsession)
        · exact Or.inr ⟨time, hreadings htime, hover⟩

theorem run_tracks [LE τ] [DecidableLE τ]
    (hrun : (inMemory hmac store).Run (fun _ ↦ none) ls sessions) :
    Tracks hmac store ls sessions := by
  refine TransitionSystem.Run.tracked (I := Tracks hmac store) ⟨?_, ?_, ?_⟩ ?_ hrun
  · exact fun call cookie session hmem ↦ absurd hmem List.not_mem_nil
  · exact fun id session hid hsession ↦ nomatch hsession
  · rintro - id session - hstands
    obtain ⟨call, hmem⟩ := hstands.mem
    exact absurd hmem List.not_mem_nil
  · exact fun ls sessions l sessions' _ htracks hstep ↦ htracks.step hstep

/-- A cookie resolves to a session at a time. -/
def Resolves (hmac : List UInt8 → List UInt8 → Bytes32) (store : SignedBrowserSessionStore) [LE τ]
    [DecidableLE τ] (sessions : Sessions τ) (cookie : String) (now : τ)
    (session : BrowserSession τ) : Prop :=
  ∃ sessions', resolve hmac store (some cookie) now sessions = .ok (some session, sessions')

omit [Clock τ] in
theorem resolves_iff [LE τ] [DecidableLE τ] {cookie : String} {now : τ}
    {session : BrowserSession τ} :
    Resolves hmac store sessions cookie now session ↔
      ∃ id, isSessionId id = true ∧ cookie = signedCookie hmac store id ∧
        sessions id = some session ∧ ¬session.expiresAt ≤ now := by
  constructor
  · rintro ⟨sessions', h⟩
    rcases resolve_eq_ok h with ⟨hnone, -⟩ | ⟨id, found, hid, hcookie, hfound, hanswer⟩
    · cases hnone
    · rcases hanswer with ⟨-, hnone, -⟩ | ⟨hlive, hsome, -⟩
      · cases hnone
      · obtain rfl := Option.some.inj hsome
        exact ⟨id, hid, Option.some.inj hcookie, hfound, hlive⟩
  · rintro ⟨id, hid, rfl, hsession, hlive⟩
    refine ⟨sessions, ?_⟩
    unfold resolve
    rw [verifiedSessionId_signedCookie hid]
    dsimp only [bind, Except.bind]
    rw [hsession]
    exact if_neg hlive

end Histories

end SupportFlow
