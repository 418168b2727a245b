import SupportFlow.Classification.Application
import SupportFlow.Documents.Recovery
import SupportFlow.Foundations.Join
import SupportFlow.UI.RedisHistory
import SupportFlow.UI.SessionHistory

/-!
# The access checks agree

Four places ask whether a user may act for an organization, each with a query of its own: the
dependencies of the API (`get_current_user`, `get_organization_context`, `require_roles`), the
browser's `resolve_browser_context`, the classification application's `_authorized`, and the
operator's `rearm_intent`. The queries join the tables in different orders and put the conditions at
different places, and the first splits its conditions over a lookup, a query and a comparison.

Each is stated here as the source has it. Each finds a row exactly for an active member
(`IdentityTables.IsActiveMember`), and never two, since its conditions fix the keys of all three
tables. `access_checks_agree` puts the four together. The decoder of access tokens is a parameter.
-/

namespace SupportFlow

open Python

/-! ### The dependencies of the API -/

/-- What the dependencies raise. -/
inductive AccessError
  | unauthorized
  | organizationNotFound
  | insufficientPermissions
  | multipleResultsFound
  deriving DecidableEq, Repr

/-- The status and the detail of a response; `MultipleResultsFound` is not one. -/
def AccessError.response? : AccessError → Option (ℕ × String)
  | unauthorized => some (401, "Authentication required")
  | organizationNotFound => some (404, "Organization not found")
  | insufficientPermissions => some (403, "Insufficient permissions")
  | multipleResultsFound => none

/-- `HTTPAuthorizationCredentials`. -/
structure Credentials where
  scheme : String
  credentials : String
  deriving DecidableEq, Repr

/-- `get_current_user`. -/
def getCurrentUser (decodeUserId : String → Option UUID) (credentials : Option Credentials)
    (tables : IdentityTables) : Except AccessError User :=
  match credentials with
  | none => .error .unauthorized
  | some credentials =>
    -- No other character than an ASCII letter becomes a letter of this word in lower case.
    if credentials.scheme.toLower ≠ "bearer" then .error .unauthorized
    else
      match decodeUserId credentials.credentials with
      | none => .error .unauthorized
      | some userId =>
        match tables.users.get? userId with
        | none => .error .unauthorized
        | some user => if user.status ≠ .active then .error .unauthorized else .ok user

structure OrganizationContext where
  organization : Organization
  membership : OrganizationMember
  deriving DecidableEq, Repr

/-- The query of `get_organization_context`. -/
def organizationContextRows (organizationId currentUserId : UUID) (tables : IdentityTables) :
    List (Organization × OrganizationMember) :=
  (joinOn tables.organizations.rows tables.members.rows fun o m ↦
    m.organizationId = o.id).filter fun (o, m) ↦
      o.id = organizationId ∧ o.status = .active ∧ m.userId = currentUserId ∧ m.status = .active

/-- `get_organization_context`. -/
def getOrganizationContext (organizationId : UUID) (currentUser : User)
    (tables : IdentityTables) : Except AccessError OrganizationContext := do
  match ← oneOrNone .multipleResultsFound
      (organizationContextRows organizationId currentUser.id tables) with
  | none => .error .organizationNotFound
  | some (organization, membership) => .ok ⟨organization, membership⟩

/-- `require_roles`. -/
def requireRoles (allowed : List MembershipRole) (context : OrganizationContext) :
    Except AccessError OrganizationContext :=
  if context.membership.role ∉ allowed then .error .insufficientPermissions else .ok context

/-- The dependencies of a route, in the order in which they are resolved. -/
def apiContext (decodeUserId : String → Option UUID) (credentials : Option Credentials)
    (organizationId : UUID) (allowed : List MembershipRole) (tables : IdentityTables) :
    Except AccessError OrganizationContext := do
  let currentUser ← getCurrentUser decodeUserId credentials tables
  let context ← getOrganizationContext organizationId currentUser tables
  requireRoles allowed context

/-! ### The browser -/

/-- `BrowserSessionStore`: the part of the protocol that resolving uses, over the states `σ` of a
store. -/
structure BrowserSessionStore (τ σ : Type) where
  resolve : Option String → σ → Except SessionError (Option (BrowserSession τ) × σ)
  invalidate : Option String → σ → Except SessionError (Unit × σ)

/-- The store in a dictionary, at a reading of the clock. -/
def InMemoryBrowserSessionStore.asStore {τ : Type} [LE τ] [DecidableLE τ]
    (hmac : List UInt8 → List UInt8 → Bytes32) (store : SignedBrowserSessionStore) (now : τ) :
    BrowserSessionStore τ (Sessions τ) where
  resolve cookie := resolve hmac store cookie now
  invalidate cookie := invalidate hmac store cookie

/-- The store in Redis, at a reading of the clock and with the commands that fail. -/
def RedisBrowserSessionStore.asStore {ζ : Type} [TimeZone ζ] [DecidableEq ζ]
    (hmac : List UInt8 → List UInt8 → Bytes32) (store : RedisBrowserSessionStore)
    (now : Timestamp ζ) (exchange : Exchange) : BrowserSessionStore (Timestamp ζ) Redis where
  resolve cookie := store.resolve hmac cookie now exchange
  invalidate cookie := store.invalidate hmac cookie exchange

structure BrowserOrganizationContext (τ : Type) where
  session : BrowserSession τ
  user : User
  organization : Organization
  membership : OrganizationMember

/-- The query of `resolve_browser_context`. -/
def browserContextRows (userId organizationId : UUID) (tables : IdentityTables) :
    List ((User × OrganizationMember) × Organization) :=
  (joinOn (joinOn tables.users.rows tables.members.rows fun u m ↦ m.userId = u.id)
    tables.organizations.rows fun r o ↦ o.id = r.2.organizationId).filter fun ((u, m), o) ↦
      u.id = userId ∧ u.status = .active ∧ o.id = organizationId ∧ o.status = .active ∧
        m.status = .active

/-- What `resolve_browser_context` raises. -/
inductive BrowserError
  | session (error : SessionError)
  | multipleResultsFound
  deriving DecidableEq, Repr

/-- `resolve_browser_context`: a session whose user lost access is invalidated. -/
def resolveBrowserContext {τ σ : Type} (store : BrowserSessionStore τ σ) (cookie : Option String)
    (tables : IdentityTables) (state : σ) :
    Except BrowserError (Option (BrowserOrganizationContext τ) × σ) := do
  let (resolved, state) ← (store.resolve cookie state).mapError .session
  match resolved with
  | none => .ok (none, state)
  | some session =>
    -- `is_authenticated`.
    match session.userId, session.organizationId with
    | some userId, some organizationId =>
      match ← oneOrNone .multipleResultsFound (browserContextRows userId organizationId tables) with
      | none =>
        let (_, state) ← (store.invalidate cookie state).mapError .session
        .ok (none, state)
      | some ((user, membership), organization) =>
        .ok (some ⟨session, user, organization, membership⟩, state)
    | _, _ => .ok (none, state)

/-! ### The application and the operator -/

/-- A membership with its organization and its user, in the order of the joins. -/
abbrev MemberRow :=
  (OrganizationMember × Organization) × User

/-- The query of `_authorized`. -/
def authorizedRows (organizationId actorId : UUID) (tables : IdentityTables) : List MemberRow :=
  (joinOn (joinOn tables.members.rows tables.organizations.rows fun m o ↦
    o.id = m.organizationId) tables.users.rows fun r u ↦ u.id = r.1.userId).filter
      fun ((m, o), u) ↦
        m.organizationId = organizationId ∧ m.userId = actorId ∧ m.status = .active ∧
          m.role ∈ [MembershipRole.admin, .agent] ∧ o.status = .active ∧ u.status = .active

/-- The query of `rearm_intent` for its actor. -/
def rearmActorRows (organizationId actorUserId : UUID) (tables : IdentityTables) :
    List ((OrganizationMember × User) × Organization) :=
  (joinOn (joinOn tables.members.rows tables.users.rows fun m u ↦ u.id = m.userId)
    tables.organizations.rows fun r o ↦ o.id = r.1.organizationId).filter fun ((m, u), o) ↦
      m.organizationId = organizationId ∧ m.userId = actorUserId ∧ m.role = .admin ∧
        m.status = .active ∧ u.status = .active ∧ o.status = .active

/-! ### Each query finds the active member -/

section Queries

variable {tables : IdentityTables} {organizationId userId : UUID} {roles : List MembershipRole}

/-- Both roles there are. -/
theorem MembershipRole.mem_all (role : MembershipRole) : role ∈ [MembershipRole.admin, .agent] := by
  cases role <;> decide

theorem mem_organizationContextRows {o : Organization} {m : OrganizationMember} :
    (o, m) ∈ organizationContextRows organizationId userId tables ↔
      o ∈ tables.organizations ∧ m ∈ tables.members ∧ o.id = organizationId ∧
        o.status = .active ∧ m.organizationId = organizationId ∧ m.userId = userId ∧
          m.status = .active := by
  simp only [organizationContextRows, List.mem_filter, mem_joinOn, decide_eq_true_iff,
    Table.mem_rows]
  constructor
  · rintro ⟨⟨ho, hm, hon⟩, hid, hactive, huser, hstatus⟩
    exact ⟨ho, hm, hid, hactive, hon.trans hid, huser, hstatus⟩
  · rintro ⟨ho, hm, hid, hactive, horg, huser, hstatus⟩
    exact ⟨⟨ho, hm, horg.trans hid.symm⟩, hid, hactive, huser, hstatus⟩

theorem length_organizationContextRows_le :
    (organizationContextRows organizationId userId tables).length ≤ 1 := by
  refine length_le_one_of_nodup
    ((nodup_joinOn tables.organizations.nodup_rows tables.members.nodup_rows).filter _) ?_
  rintro ⟨o, m⟩ h ⟨o', m'⟩ h'
  obtain ⟨ho, hm, hid, -, horg, huser, -⟩ := mem_organizationContextRows.1 h
  obtain ⟨ho', hm', hid', -, horg', huser', -⟩ := mem_organizationContextRows.1 h'
  have hsame : o = o' := tables.organizations.eq_of_key_eq ho ho' (hid.trans hid'.symm)
  have hsame' : m = m' := tables.members.eq_of_key_eq hm hm'
    (Prod.ext (horg.trans horg'.symm) (huser.trans huser'.symm))
  rw [hsame, hsame']

/-- What the three other queries ask of a row. -/
def ActiveRow (tables : IdentityTables) (organizationId userId : UUID)
    (roles : List MembershipRole) (m : OrganizationMember) (o : Organization) (u : User) : Prop :=
  m ∈ tables.members ∧ o ∈ tables.organizations ∧ u ∈ tables.users ∧
    m.organizationId = organizationId ∧ m.userId = userId ∧ m.role ∈ roles ∧ m.status = .active ∧
      o.id = organizationId ∧ o.status = .active ∧ u.id = userId ∧ u.status = .active

theorem isActiveMember_iff_exists :
    tables.IsActiveMember organizationId userId roles ↔
      ∃ m o u, ActiveRow tables organizationId userId roles m o u := by
  constructor
  · rintro ⟨m, hm, o, ho, u, hu, h⟩
    exact ⟨m, o, u, hm, ho, hu, h⟩
  · rintro ⟨m, o, u, hm, ho, hu, h⟩
    exact ⟨m, hm, o, ho, u, hu, h⟩

/-- Its condition fixes the keys of the three tables. -/
theorem ActiveRow.unique {m m' : OrganizationMember} {o o' : Organization} {u u' : User}
    (h : ActiveRow tables organizationId userId roles m o u)
    (h' : ActiveRow tables organizationId userId roles m' o' u') : m = m' ∧ o = o' ∧ u = u' := by
  obtain ⟨hm, ho, hu, horg, huser, -, -, hoid, -, huid, -⟩ := h
  obtain ⟨hm', ho', hu', horg', huser', -, -, hoid', -, huid', -⟩ := h'
  exact ⟨tables.members.eq_of_key_eq hm hm'
      (Prod.ext (horg.trans horg'.symm) (huser.trans huser'.symm)),
    tables.organizations.eq_of_key_eq ho ho' (hoid.trans hoid'.symm),
    tables.users.eq_of_key_eq hu hu' (huid.trans huid'.symm)⟩

theorem mem_browserContextRows {m : OrganizationMember} {o : Organization} {u : User} :
    ((u, m), o) ∈ browserContextRows userId organizationId tables ↔
      ActiveRow tables organizationId userId [.admin, .agent] m o u := by
  simp only [browserContextRows, List.mem_filter, mem_joinOn, decide_eq_true_iff, Table.mem_rows]
  constructor
  · rintro ⟨⟨⟨hu, hm, hmu⟩, ho, hom⟩, huid, hactive, hoid, hoactive, hstatus⟩
    exact ⟨hm, ho, hu, hom.symm.trans hoid, hmu.trans huid, m.role.mem_all, hstatus, hoid, hoactive,
      huid, hactive⟩
  · rintro ⟨hm, ho, hu, horg, huser, -, hstatus, hoid, hoactive, huid, hactive⟩
    exact ⟨⟨⟨hu, hm, huser.trans huid.symm⟩, ho, hoid.trans horg.symm⟩, huid, hactive, hoid,
      hoactive, hstatus⟩

theorem mem_authorizedRows {m : OrganizationMember} {o : Organization} {u : User} :
    ((m, o), u) ∈ authorizedRows organizationId userId tables ↔
      ActiveRow tables organizationId userId [.admin, .agent] m o u := by
  simp only [authorizedRows, List.mem_filter, mem_joinOn, decide_eq_true_iff, Table.mem_rows]
  constructor
  · rintro ⟨⟨⟨hm, ho, hom⟩, hu, hum⟩, horg, huser, hstatus, hrole, hoactive, hactive⟩
    exact ⟨hm, ho, hu, horg, huser, hrole, hstatus, hom.trans horg, hoactive, hum.trans huser,
      hactive⟩
  · rintro ⟨hm, ho, hu, horg, huser, hrole, hstatus, hoid, hoactive, huid, hactive⟩
    exact ⟨⟨⟨hm, ho, hoid.trans horg.symm⟩, hu, huid.trans huser.symm⟩, horg, huser, hstatus, hrole,
      hoactive, hactive⟩

theorem mem_rearmActorRows {m : OrganizationMember} {o : Organization} {u : User} :
    ((m, u), o) ∈ rearmActorRows organizationId userId tables ↔
      ActiveRow tables organizationId userId [.admin] m o u := by
  simp only [rearmActorRows, List.mem_filter, mem_joinOn, decide_eq_true_iff, Table.mem_rows]
  constructor
  · rintro ⟨⟨⟨hm, hu, hum⟩, ho, hom⟩, horg, huser, hrole, hstatus, hactive, hoactive⟩
    exact ⟨hm, ho, hu, horg, huser, List.mem_singleton.2 hrole, hstatus, hom.trans horg, hoactive,
      hum.trans huser, hactive⟩
  · rintro ⟨hm, ho, hu, horg, huser, hrole, hstatus, hoid, hoactive, huid, hactive⟩
    exact ⟨⟨⟨hm, hu, huid.trans huser.symm⟩, ho, hoid.trans horg.symm⟩, horg, huser,
      List.mem_singleton.1 hrole, hstatus, hactive, hoactive⟩

theorem length_browserContextRows_le :
    (browserContextRows userId organizationId tables).length ≤ 1 := by
  refine length_le_one_of_nodup ((nodup_joinOn
    (nodup_joinOn tables.users.nodup_rows tables.members.nodup_rows)
      tables.organizations.nodup_rows).filter _) ?_
  rintro ⟨⟨u, m⟩, o⟩ h ⟨⟨u', m'⟩, o'⟩ h'
  obtain ⟨rfl, rfl, rfl⟩ := (mem_browserContextRows.1 h).unique (mem_browserContextRows.1 h')
  rfl

theorem length_authorizedRows_le : (authorizedRows organizationId userId tables).length ≤ 1 := by
  refine length_le_one_of_nodup ((nodup_joinOn
    (nodup_joinOn tables.members.nodup_rows tables.organizations.nodup_rows)
      tables.users.nodup_rows).filter _) ?_
  rintro ⟨⟨m, o⟩, u⟩ h ⟨⟨m', o'⟩, u'⟩ h'
  obtain ⟨rfl, rfl, rfl⟩ := (mem_authorizedRows.1 h).unique (mem_authorizedRows.1 h')
  rfl

theorem length_rearmActorRows_le : (rearmActorRows organizationId userId tables).length ≤ 1 := by
  refine length_le_one_of_nodup ((nodup_joinOn
    (nodup_joinOn tables.members.nodup_rows tables.users.nodup_rows)
      tables.organizations.nodup_rows).filter _) ?_
  rintro ⟨⟨m, u⟩, o⟩ h ⟨⟨m', u'⟩, o'⟩ h'
  obtain ⟨rfl, rfl, rfl⟩ := (mem_rearmActorRows.1 h).unique (mem_rearmActorRows.1 h')
  rfl

theorem isSome_browserContextRows_iff :
    (browserContextRows userId organizationId tables).head?.isSome ↔
      tables.IsActiveMember organizationId userId [.admin, .agent] := by
  rw [isActiveMember_iff_exists, isSome_head?_iff_exists_mem]
  constructor
  · rintro ⟨⟨⟨u, m⟩, o⟩, h⟩
    exact ⟨m, o, u, mem_browserContextRows.1 h⟩
  · rintro ⟨m, o, u, h⟩
    exact ⟨_, mem_browserContextRows.2 h⟩

theorem isSome_authorizedRows_iff :
    (authorizedRows organizationId userId tables).head?.isSome ↔
      tables.IsActiveMember organizationId userId [.admin, .agent] := by
  rw [isActiveMember_iff_exists, isSome_head?_iff_exists_mem]
  constructor
  · rintro ⟨⟨⟨m, o⟩, u⟩, h⟩
    exact ⟨m, o, u, mem_authorizedRows.1 h⟩
  · rintro ⟨m, o, u, h⟩
    exact ⟨_, mem_authorizedRows.2 h⟩

theorem isSome_rearmActorRows_iff :
    (rearmActorRows organizationId userId tables).head?.isSome ↔
      tables.IsActiveMember organizationId userId [.admin] := by
  rw [isActiveMember_iff_exists, isSome_head?_iff_exists_mem]
  constructor
  · rintro ⟨⟨⟨m, u⟩, o⟩, h⟩
    exact ⟨m, o, u, mem_rearmActorRows.1 h⟩
  · rintro ⟨m, o, u, h⟩
    exact ⟨_, mem_rearmActorRows.2 h⟩

/-- `_authorized`, by its query. -/
theorem authorized_eq_rows {db : Database} :
    authorized organizationId userId db =
      (authorizedRows organizationId userId db.identity).head?.isSome := by
  rw [authorized, Bool.eq_iff_iff, IdentityTables.activeMember_isSome_iff,
    isSome_authorizedRows_iff]

/-- The actor of a rearm, by its query. -/
theorem isSome_activeMember_eq_rows :
    (tables.activeMember organizationId userId [.admin]).isSome =
      (rearmActorRows organizationId userId tables).head?.isSome := by
  rw [Bool.eq_iff_iff, IdentityTables.activeMember_isSome_iff, isSome_rearmActorRows_iff]

end Queries

/-! ### The checks -/

section Checks

variable {decodeUserId : String → Option UUID} {scheme token : String} {tables : IdentityTables}
  {organizationId userId : UUID} {roles : List MembershipRole}

/-- The token of an active user is accepted, and no other. -/
theorem getCurrentUser_eq_ok_iff (hscheme : scheme.toLower = "bearer")
    (htoken : decodeUserId token = some userId) {user : User} :
    getCurrentUser decodeUserId (some ⟨scheme, token⟩) tables = .ok user ↔
      user ∈ tables.users ∧ user.id = userId ∧ user.status = .active := by
  unfold getCurrentUser
  dsimp only
  rw [if_neg (not_not.2 hscheme), htoken]
  dsimp only
  constructor
  · intro h
    split at h
    · cases h
    · next found hget =>
      obtain ⟨hmem, hkey⟩ := Table.get?_eq_some_iff.1 hget
      split at h
      · cases h
      · next hactive =>
        cases h
        exact ⟨hmem, hkey, not_not.1 hactive⟩
  · rintro ⟨hmem, rfl, hactive⟩
    have hget : tables.users.get? user.id = some user := Table.get?_key hmem
    rw [hget]
    exact if_neg (not_not.2 hactive)

/-- The context of a user, when the query finds the row. -/
theorem getOrganizationContext_eq_ok_iff {user : User} {context : OrganizationContext} :
    getOrganizationContext organizationId user tables = .ok context ↔
      (context.organization, context.membership) ∈
        organizationContextRows organizationId user.id tables := by
  rw [getOrganizationContext, oneOrNone_eq_head? length_organizationContextRows_le]
  constructor
  · intro h
    obtain ⟨_, hrow, h⟩ := Except.bind_eq_ok_iff.1 h
    cases hrow
    split at h
    · cases h
    · next o m hhead =>
      cases h
      exact List.mem_of_head? hhead
  · intro h
    rw [head?_eq_some_of_mem length_organizationContextRows_le h]
    rfl

/-- **The API lets a user through exactly as an active member** with one of the roles. -/
theorem apiContext_isOk_iff (hscheme : scheme.toLower = "bearer")
    (htoken : decodeUserId token = some userId) :
    (∃ context, apiContext decodeUserId (some ⟨scheme, token⟩) organizationId roles tables =
        .ok context) ↔
      tables.IsActiveMember organizationId userId roles := by
  constructor
  · rintro ⟨context, h⟩
    obtain ⟨user, huser, h⟩ := Except.bind_eq_ok_iff.1 h
    obtain ⟨found, hfound, h⟩ := Except.bind_eq_ok_iff.1 h
    obtain ⟨hmem, hid, hactive⟩ := (getCurrentUser_eq_ok_iff hscheme htoken).1 huser
    obtain ⟨ho, hm, hoid, hoactive, horg, hmuser, hstatus⟩ :=
      mem_organizationContextRows.1 (getOrganizationContext_eq_ok_iff.1 hfound)
    unfold requireRoles at h
    split at h
    · cases h
    · next hrole =>
      exact ⟨_, hm, _, ho, user, hmem, horg, hmuser.trans hid, not_not.1 hrole, hstatus, hoid,
        hoactive, hid, hactive⟩
  · rintro ⟨m, hm, o, ho, user, hmem, horg, hmuser, hrole, hstatus, hoid, hoactive, hid, hactive⟩
    have huser : getCurrentUser decodeUserId (some ⟨scheme, token⟩) tables = .ok user :=
      (getCurrentUser_eq_ok_iff hscheme htoken).2 ⟨hmem, hid, hactive⟩
    have hcontext : getOrganizationContext organizationId user tables = .ok ⟨o, m⟩ :=
      getOrganizationContext_eq_ok_iff.2 <| mem_organizationContextRows.2
        ⟨ho, hm, hoid, hoactive, horg, hmuser.trans hid.symm, hstatus⟩
    refine ⟨⟨o, m⟩, ?_⟩
    rw [apiContext, huser]
    show getOrganizationContext organizationId user tables >>= requireRoles roles = _
    rw [hcontext]
    exact if_neg (not_not.2 hrole)

/-- **The browser is let through exactly for an active member.** -/
theorem resolveBrowserContext_isSome_iff {τ σ : Type} {store : BrowserSessionStore τ σ}
    {cookie : Option String} {state next : σ} {session : BrowserSession τ}
    (hresolve : store.resolve cookie state = .ok (some session, next))
    (huser : session.userId = some userId)
    (horganization : session.organizationId = some organizationId) :
    (∃ context last, resolveBrowserContext store cookie tables state =
        .ok (some context, last)) ↔
      tables.IsActiveMember organizationId userId [.admin, .agent] := by
  rw [← isSome_browserContextRows_iff]
  unfold resolveBrowserContext
  rw [hresolve]
  simp only [Except.mapError, Except.bind_eq_ok_iff, Except.ok.injEq, exists_eq_left', huser,
    horganization, oneOrNone_eq_head? length_browserContextRows_le]
  rcases hhead : (browserContextRows userId organizationId tables).head? with - | ⟨⟨user, m⟩, o⟩
  · refine iff_of_false ?_ (by simp)
    rintro ⟨context, last, h⟩
    obtain ⟨_, -, h⟩ := Except.bind_eq_ok_iff.1 h
    cases h
  · exact iff_of_true ⟨_, _, rfl⟩ rfl

/-- A live session of the dictionary is let through by its cookie. -/
theorem resolveBrowserContext_inMemory_iff {τ : Type} [LE τ] [DecidableLE τ]
    {hmac : List UInt8 → List UInt8 → Bytes32} {store : SignedBrowserSessionStore} {now : τ}
    {sessions : Sessions τ} {session : BrowserSession τ} (hid : isSessionId session.id = true)
    (hsession : sessions session.id = some session) (hlive : ¬session.expiresAt ≤ now)
    (huser : session.userId = some userId)
    (horganization : session.organizationId = some organizationId) :
    (∃ context last, resolveBrowserContext (InMemoryBrowserSessionStore.asStore hmac store now)
        (some (store.signedCookie hmac session.id)) tables sessions = .ok (some context, last)) ↔
      tables.IsActiveMember organizationId userId [.admin, .agent] := by
  obtain ⟨next, hresolve⟩ := resolves_iff.2
    ⟨session.id, hid, rfl, hsession, hlive⟩
  exact resolveBrowserContext_isSome_iff hresolve huser horganization

/-- And so is a live session in Redis. -/
theorem resolveBrowserContext_redis_iff {ζ : Type} [TimeZone ζ] [DecidableEq ζ]
    {hmac : List UInt8 → List UInt8 → Bytes32} {store : RedisBrowserSessionStore}
    {now : Timestamp ζ} {exchange : Exchange} {redis : Redis} {expiry : ℤ}
    {session : BrowserSession (Timestamp ζ)} (hid : isSessionId session.id = true)
    (hgot : exchange.getFails = false) (hkept : exchange.time < expiry)
    (hstored : redis (store.key session.id) =
      some ⟨RedisBrowserSessionStore.serialize session, expiry⟩)
    (hcsrf : session.csrfToken ≠ "")
    (hlive : ¬(RedisBrowserSessionStore.stored session).expiresAt ≤ now)
    (huser : session.userId = some userId)
    (horganization : session.organizationId = some organizationId) :
    (∃ context last, resolveBrowserContext
        (RedisBrowserSessionStore.asStore hmac store now exchange)
        (some (store.signedCookie hmac session.id)) tables redis = .ok (some context, last)) ↔
      tables.IsActiveMember organizationId userId [.admin, .agent] := by
  have hboth : session.userId.isNone = session.organizationId.isNone := by
    rw [huser, horganization]
    rfl
  have hresolve : (RedisBrowserSessionStore.asStore hmac store now exchange).resolve
      (some (store.signedCookie hmac session.id)) redis =
        .ok (some (RedisBrowserSessionStore.stored session), redis) := by
    show RedisBrowserSessionStore.resolve hmac store _ now exchange redis = _
    rw [RedisBrowserSessionStore.resolve,
      SignedBrowserSessionStore.verifiedSessionId_signedCookie hid]
    show (orUnavailable (redis.get store.decodeResponses exchange (store.key session.id)) >>=
      _) = _
    rw [RedisBrowserSessionStore.get_live hgot hstored hkept,
      RedisBrowserSessionStore.orUnavailable_ok_bind,
      RedisBrowserSessionStore.deserialize_serialize
        (RedisBrowserSessionStore.replyText_get _ _) hcsrf hboth]
    exact if_neg hlive
  exact resolveBrowserContext_isSome_iff hresolve huser horganization

/-- **A rearm passes the check of its actor exactly for an active admin.** -/
theorem rearmIntent_actor_iff {now : Instant} {intentId : UUID} {workerHolds : UUID → Bool}
    {extractingSeconds : ℤ} {maxWorkerAttempts : ℕ} {db : Database} :
    rearmIntent now organizationId intentId userId true workerHolds extractingSeconds
        maxWorkerAttempts db ≠ .error .activeTenantAdminRequired ↔
      db.identity.IsActiveMember organizationId userId [.admin] := by
  rw [← IdentityTables.activeMember_isSome_iff]
  unfold rearmIntent
  rw [if_neg (by decide)]
  rcases db.identity.activeMember organizationId userId [.admin] with - | m
  · exact iff_of_false (fun h ↦ h rfl) (by decide)
  · refine iff_of_true (fun h ↦ ?_) rfl
    dsimp only at h
    -- Every later refusal names another reason.
    repeat' split at h
    all_goals cases h

/-- **The access checks agree.** With a token of the user, the API lets the user through for the
organization and a set of roles exactly as an active member with one of the roles; for admins and
agents that is when a live browser session of the user and the organization is let through, and when
the classification application finds the user authorized; and for admins alone it is when a rearm
passes the check of its actor. No lookup finds a second row. -/
theorem access_checks_agree (hscheme : scheme.toLower = "bearer")
    (htoken : decodeUserId token = some userId) (organizationId : UUID) (db : Database) :
    (∀ roles, (∃ context, apiContext decodeUserId (some ⟨scheme, token⟩) organizationId roles
        db.identity = .ok context) ↔ db.identity.IsActiveMember organizationId userId roles) ∧
    (∀ {τ σ : Type} {store : BrowserSessionStore τ σ} {cookie : Option String} {state next : σ}
        {session : BrowserSession τ}, store.resolve cookie state = .ok (some session, next) →
      session.userId = some userId → session.organizationId = some organizationId →
      ((∃ context, apiContext decodeUserId (some ⟨scheme, token⟩) organizationId [.admin, .agent]
          db.identity = .ok context) ↔
        ∃ context last, resolveBrowserContext store cookie db.identity state =
          .ok (some context, last))) ∧
    ((∃ context, apiContext decodeUserId (some ⟨scheme, token⟩) organizationId [.admin, .agent]
        db.identity = .ok context) ↔
      (authorizedRows organizationId userId db.identity).head?.isSome) ∧
    authorized organizationId userId db =
      (authorizedRows organizationId userId db.identity).head?.isSome ∧
    ((∃ context, apiContext decodeUserId (some ⟨scheme, token⟩) organizationId [.admin]
        db.identity = .ok context) ↔
      (rearmActorRows organizationId userId db.identity).head?.isSome) ∧
    (∀ now intentId workerHolds extractingSeconds maxWorkerAttempts,
      rearmIntent now organizationId intentId userId true workerHolds extractingSeconds
          maxWorkerAttempts db ≠ .error .activeTenantAdminRequired ↔
        (rearmActorRows organizationId userId db.identity).head?.isSome) ∧
    (organizationContextRows organizationId userId db.identity).length ≤ 1 ∧
    (browserContextRows userId organizationId db.identity).length ≤ 1 ∧
    (authorizedRows organizationId userId db.identity).length ≤ 1 ∧
    (rearmActorRows organizationId userId db.identity).length ≤ 1 := by
  refine ⟨fun roles ↦ apiContext_isOk_iff hscheme htoken, fun hresolve huser horganization ↦ ?_, ?_,
    authorized_eq_rows, ?_, ?_, length_organizationContextRows_le, length_browserContextRows_le,
    length_authorizedRows_le, length_rearmActorRows_le⟩
  · exact (apiContext_isOk_iff hscheme htoken).trans
      (resolveBrowserContext_isSome_iff hresolve huser horganization).symm
  · exact (apiContext_isOk_iff hscheme htoken).trans isSome_authorizedRows_iff.symm
  · exact (apiContext_isOk_iff hscheme htoken).trans isSome_rearmActorRows_iff.symm
  · intro now intentId workerHolds extractingSeconds maxWorkerAttempts
    exact rearmIntent_actor_iff.trans isSome_rearmActorRows_iff.symm

end Checks

namespace Sample

/-- An organization with one agent. -/
def staffed : Database where
  identity :=
    { organizations := .singleton ⟨uuid 1, .active⟩
      users := .singleton ⟨uuid 2, "agent@example.test", .active⟩
      members := .singleton ⟨uuid 1, uuid 2, .agent, .active⟩ }
  customers := .empty
  tickets := .empty
  ticketMessages := .empty
  documents := .empty
  versions := .empty
  intents := .empty
  operations := .empty
  audit := []

/-- A token of the agent, under the secret of thirty-two times the letter k. -/
def agentToken : String :=
  "eyJhbGciOiJIUzI1NiIsInR5cCI6IkpXVCJ9." ++
    "eyJzdWIiOiIwMDAwMDAwMC0wMDAwLTAwMDAtMDAwMC0wMDAwMDAwMDAwMDIiLCJpYXQiOjAsImV4cCI6NDEwMjQ0" ++
    "NDgwMCwiaXNzIjoic3VwcG9ydGZsb3ciLCJhdWQiOiJzdXBwb3J0Zmxvdy1hcGkiLCJqdGkiOiIwMDAwMDAwMC0w" ++
    "MDAwLTAwMDAtMDAwMC0wMDAwMDAwMDAwMDMifQ.xgbsjs6RzSp1zkVd-wdgdP8qMHjKpdASNhHU0PJKVq0"

/-- `decode_user_id`, under that secret, on that token. -/
def decodeUserId (token : String) : Option UUID :=
  if token = agentToken then some (uuid 2) else none

theorem staffed_agent : staffed.identity.IsActiveMember (uuid 1) (uuid 2) [.admin, .agent] :=
  ⟨_, List.mem_singleton_self _, _, List.mem_singleton_self _, _, List.mem_singleton_self _,
    rfl, rfl, by decide, rfl, rfl, rfl, rfl, rfl⟩

theorem staffed_not_admin : ¬staffed.identity.IsActiveMember (uuid 1) (uuid 2) [.admin] := by
  rintro ⟨m, hm, -, -, -, -, -, -, hrole, -⟩
  obtain rfl := List.mem_singleton.1 hm
  exact absurd hrole (by decide)

end Sample

theorem access_checks_agree_sample :
    authorized (uuid 1) (uuid 2) Sample.staffed = true ∧
      (∃ context, apiContext Sample.decodeUserId (some ⟨"Bearer", Sample.agentToken⟩) (uuid 1)
        [.admin, .agent] Sample.staffed.identity = .ok context) ∧
      ¬∃ context, apiContext Sample.decodeUserId (some ⟨"Bearer", Sample.agentToken⟩) (uuid 1)
        [.admin] Sample.staffed.identity = .ok context := by
  have hscheme : "Bearer".toLower = "bearer" := by decide +kernel
  have htoken : Sample.decodeUserId Sample.agentToken = some (uuid 2) := if_pos rfl
  obtain ⟨hapi, -, hauthorized, hquery, -⟩ :=
    access_checks_agree hscheme htoken (uuid 1) Sample.staffed
  have hgranted := (hapi [.admin, .agent]).2 Sample.staffed_agent
  exact ⟨hquery.trans (hauthorized.1 hgranted), hgranted,
    fun h ↦ Sample.staffed_not_admin ((hapi [.admin]).1 h)⟩

end SupportFlow
