import SupportFlow.Identity.Routes

/-!
# Where accounts come from

Any number of requests to the account routes run beside each other, and statuses change at any time.
Whatever the order:

* no email and no slug is taken twice, and an organization has one administrator, who registered it
  (`accounts_consistent`);
* every other member is an agent whom a request added, and the caller of that request was an
  administrator of the organization when he was looked up (`members_accountable`);
* an account that was registered logs in with its password and no other
  (`login_decides`).

The state carries none of the history, so the invariant relates it to the calls so far
(`AccountsHold`).
-/

namespace SupportFlow

open Program Service Move AuthenticationService OrganizationMembershipService

section Accounts

variable {packages : Packages} {decodeUserId : String → Option UUID}

/-! ### What one request does -/

/-- What a request has been answered when it makes a call: only the commit of a new member is
guarded. -/
def AccountRequest.Allowed (request : AccountRequest)
    (past : List (Answered AccountCall.Answer)) : AccountCall → Prop
  | .commitAddAgent added userId => ∃ credentials organizationId currentUser context user,
    request = .addMember credentials organizationId added.normalizedEmail ∧
      ⟨.currentUser credentials, .ok (.ok currentUser)⟩ ∈ past ∧
      ⟨.organizationContext organizationId currentUser, .ok (.ok context)⟩ ∈ past ∧
      context.membership.role = .admin ∧ context.organization.id = added.organizationId ∧
      context.membership.userId = added.actorUserId ∧
      ⟨.checkAddAgent added, .ok user⟩ ∈ past ∧ user.id = userId
  | .register _ _ | .userByEmail _ | .currentUser _ | .organizationContext _ _
  | .checkAddAgent _ => True

/-- How a login ends: its one query decides. -/
def AccountRequest.Ended (packages : Packages) (request : AccountRequest)
    (past : List (Answered AccountCall.Answer))
    (result : Except RouteError AccountResponse) : Prop :=
  match request with
  | .login request => ∃ reply,
    past = [⟨.userByEmail (normalizeIdentifier packages request.email), reply⟩] ∧
      result = match reply with
        | .error error => .error (.raised error)
        | .ok found =>
          match checkCredentials packages request.password found with
          | none => .error (.http 401 "Invalid email or password")
          | some user => .ok (.loggedIn user.id)
  | .register _ _ | .addMember _ _ _ => True

theorem requireRoles_eq_ok {allowed : List MembershipRole} {context required : OrganizationContext}
    (h : requireRoles allowed context = .ok required) :
    required = context ∧ context.membership.role ∈ allowed := by
  unfold requireRoles at h
  split at h
  · cases h
  · next hrole =>
    obtain rfl := Except.ok.inj h
    exact ⟨rfl, not_not.1 hrole⟩

/-- **Each request keeps to it.** -/
theorem AccountRequest.safe (request : AccountRequest) :
    Safe request.Allowed (request.Ended packages) [] (request.program packages) := by
  cases request with
  | register request draw =>
    simp only [program, registerRoute, safe_bind, safe_ask]
    refine ⟨trivial, fun reply ↦ ?_⟩
    rcases reply with (- | error) | result <;> exact trivial
  | login request =>
    simp only [program, loginRoute, safe_bind, safe_ask]
    refine ⟨trivial, fun reply ↦ ?_⟩
    rcases reply with error | found
    · exact ⟨.error error, rfl, rfl⟩
    · dsimp only
      cases hcheck : checkCredentials packages request.password found with
      | none => exact ⟨.ok found, rfl, by simp only [hcheck]⟩
      | some user => exact ⟨.ok found, rfl, by simp only [hcheck]⟩
  | addMember credentials organizationId email =>
    simp only [program, addOrganizationMember, safe_bind, safe_ask]
    refine ⟨trivial, fun reply ↦ ?_⟩
    rcases reply with error | error | currentUser
    · exact trivial
    · exact trivial
    refine ⟨trivial, fun reply ↦ ?_⟩
    rcases reply with error | error | context
    · exact trivial
    · exact trivial
    simp only [dependency, safe_pure]
    rcases hrequire : requireRoles [.admin] context with error | required
    · exact trivial
    obtain ⟨rfl, hrole⟩ := requireRoles_eq_ok hrequire
    refine ⟨trivial, fun reply ↦ ?_⟩
    rcases reply with error | user
    · exact trivial
    simp only [safe_bind, safe_ask]
    refine ⟨⟨credentials, organizationId, currentUser, required, user, rfl, by simp, by simp,
      List.mem_singleton.1 hrole, rfl, rfl, by simp, rfl⟩, fun reply ↦ ?_⟩
    rcases reply with error | member <;> exact trivial

/-! ### What a question tells -/

section Answers

variable {tables : IdentityTables}

theorem getCurrentUser_sound {credentials : Option Credentials} {user : User}
    (h : getCurrentUser decodeUserId credentials tables = .ok user) :
    user ∈ tables.users ∧ user.status = .active := by
  unfold getCurrentUser at h
  repeat' split at h
  all_goals cases h
  next hget hactive => exact ⟨Table.mem_of_get? hget, not_not.1 hactive⟩

theorem checkAddAgent_sound {faults : Faults} {added : AddAgentRequest} {db : Database}
    {user : User} (h : checkAddAgent faults added db = .ok user) :
    user ∈ db.identity.users ∧ user.email = added.normalizedEmail ∧ user.status = .active := by
  obtain ⟨-, -, h⟩ := Except.bind_eq_ok_iff.1 h
  split at h
  · cases h
  · next found hfound =>
    obtain ⟨-, -, h⟩ := Except.bind_eq_ok_iff.1 h
    split at h
    · cases h
      rw [activeUser] at hfound
      have hcond := List.find?_some hfound
      obtain ⟨hemail, hactive⟩ := of_decide_eq_true hcond
      exact ⟨List.mem_of_find?_eq_some hfound, hemail, hactive⟩
    · cases h

end Answers

/-! ### What a commit stores -/

section Commits

variable {db db' : AccountDatabase} {faults : Faults}

/-- **A registration**: the user, the organization and its administrator are new. -/
theorem register_view {request : RegisterRequest} {draw : RegisterDraw}
    {result : RegistrationResult}
    (h : register packages faults request draw db = .ok (result, db')) :
    ∃ email hash slug, Sql.varchar 512 (packages.hash request.password draw.salt) = some hash ∧
      result.user = ⟨draw.userId, email, .active⟩ ∧ result.organization.id = draw.organizationId ∧
      email = packages.sqlLower email ∧ email ∉ db.view.users.map Prod.snd ∧
      draw.userId ∉ db.view.users.map Prod.fst ∧ slug = packages.sqlLower slug ∧
      slug ∉ db.view.organizations.map db.view.organizationSlug ∧
      draw.organizationId ∉ db.view.organizations ∧
      db'.view =
        { users := db.view.users ++ [(draw.userId, email)]
          organizations := db.view.organizations ++ [draw.organizationId]
          members := db.view.members ++ [(draw.organizationId, draw.userId, .admin)]
          passwordHash := Function.update db.view.passwordHash draw.userId hash
          organizationSlug :=
            Function.update db.view.organizationSlug draw.organizationId slug } := by
  rw [register, AuthenticationService.orConflict_eq_ok] at h
  obtain ⟨-, -, h⟩ := Except.bind_eq_ok_iff.1 h
  obtain ⟨⟨user, db₁⟩, huser, h⟩ := Except.bind_eq_ok_iff.1 h
  obtain ⟨db₂, horganization, h⟩ := Except.bind_eq_ok_iff.1 h
  obtain ⟨db₃, hmembership, h⟩ := Except.bind_eq_ok_iff.1 h
  obtain ⟨-, -, h⟩ := Except.bind_eq_ok_iff.1 h
  cases h
  obtain ⟨email, hash, users, -, hhash, rfl, hlower, hemail, husers, rfl⟩ :=
    AccountDatabase.insertUser_spec huser
  obtain ⟨name, slug, organizations, -, hslugLower, hslug, horganizations, rfl⟩ :=
    AccountDatabase.insertOrganization_spec horganization
  obtain ⟨members, hmembers, rfl⟩ := AccountDatabase.insertMembership_spec hmembership
  obtain ⟨hnewUser, hrows⟩ := Table.insert?_eq_some_iff.1 husers
  obtain ⟨hnewOrganization, horganizationRows⟩ := Table.insert?_eq_some_iff.1 horganizations
  obtain ⟨-, hmemberRows⟩ := Table.insert?_eq_some_iff.1 hmembers
  refine ⟨email, hash, slug, hhash, rfl, rfl, hlower, ?_, ?_, hslugLower, ?_, ?_, ?_⟩
  · simp only [AccountDatabase.view, List.map_map, List.mem_map, Function.comp_apply, not_exists,
      not_and]
    exact fun row hrow ↦ hemail row hrow
  · simp only [AccountDatabase.view, List.map_map, List.mem_map, Function.comp_apply, not_exists,
      not_and]
    exact fun row hrow ↦ Table.get?_eq_none_iff.1 hnewUser row hrow
  · simp only [AccountDatabase.view, List.map_map, List.mem_map, Function.comp_apply, not_exists,
      not_and]
    exact fun row hrow ↦ hslug row hrow
  · simp only [AccountDatabase.view, List.mem_map, not_exists, not_and]
    exact fun row hrow ↦ Table.get?_eq_none_iff.1 hnewOrganization row hrow
  · simp only [AccountDatabase.view, hrows, horganizationRows, hmemberRows, List.map_append,
      List.map_cons, List.map_nil]

/-- A membership refers to an organization. -/
theorem commitAddAgent_known {db db' : Database} {request : AddAgentRequest} {userId : UUID}
    {member : OrganizationMember}
    (h : commitAddAgent faults request userId db = .ok (member, db')) :
    request.organizationId ∈ db.identity.organizations.rows.map Organization.id := by
  rw [commitAddAgent, OrganizationMembershipService.orConflict_eq_ok] at h
  obtain ⟨-, -, h⟩ := Except.bind_eq_ok_iff.1 h
  obtain ⟨-, -, h⟩ := Except.bind_eq_ok_iff.1 h
  obtain ⟨db₁, hmember, -⟩ := Except.bind_eq_ok_iff.1 h
  unfold Database.insertMember at hmember
  split at hmember
  · cases hmember
  · next hknown =>
    obtain ⟨organization, horganization⟩ := Option.ne_none_iff_exists'.1 (not_or.1 hknown).1
    obtain ⟨hmem, hkey⟩ := Table.get?_eq_some_iff.1 horganization
    exact List.mem_map.2 ⟨organization, hmem, hkey⟩

/-- **A new member** is an agent of an organization that there is. -/
theorem commitAddAgent_view {request : AddAgentRequest} {userId : UUID}
    {member : OrganizationMember}
    (h : db.commitAddAgent faults request userId = .ok (member, db')) :
    request.organizationId ∈ db.view.organizations ∧
      db'.view = { db.view with
        members := db.view.members ++ [(request.organizationId, userId, .agent)] } := by
  obtain ⟨⟨member', next⟩, hcommit, heq⟩ := Except.map_eq_ok_iff.1 h
  cases heq
  refine ⟨commitAddAgent_known hcommit, ?_⟩
  obtain ⟨rfl, members, hmembers, rfl⟩ := commitAddAgent_spec hcommit
  obtain ⟨-, hrows⟩ := Table.insert?_eq_some_iff.1 hmembers
  simp only [AccountDatabase.view, hrows, List.map_append, List.map_cons, List.map_nil]
  rfl

end Commits

/-! ### The accounts and their history -/

/-- The calls of a run. -/
abbrev AccountMoves :=
  List (Move AccountCall.Answer AccountRequest)

/-- A request registered an organization, with this user. -/
def Founded (moves : AccountMoves) (organizationId userId : UUID) : Prop :=
  ∃ thread request draw result, .serve thread ⟨.register request draw, .ok result⟩ ∈ moves ∧
    result.organization.id = organizationId ∧ result.user.id = userId

theorem Founded.append {moves : AccountMoves} {organizationId userId : UUID}
    (h : Founded moves organizationId userId) (later : AccountMoves) :
    Founded (moves ++ later) organizationId userId := by
  obtain ⟨thread, request, draw, result, hserve, hfounded⟩ := h
  exact ⟨thread, request, draw, result, List.mem_append_left _ hserve, hfounded⟩

/-- A request added a user to an organization. -/
def Joined (moves : AccountMoves) (organizationId userId : UUID) : Prop :=
  ∃ thread added member, .serve thread ⟨.commitAddAgent added userId, .ok member⟩ ∈ moves ∧
    added.organizationId = organizationId

/-- **What the accounts say of their history.** -/
structure AccountsHold (packages : Packages) (moves : AccountMoves) (view : AccountDatabase.View) :
    Prop where
  emails : (view.users.map Prod.snd).Nodup
  emailsLower : ∀ user ∈ view.users, user.2 = packages.sqlLower user.2
  slugs : (view.organizations.map view.organizationSlug).Nodup
  slugsLower : ∀ organization ∈ view.organizations,
    view.organizationSlug organization = packages.sqlLower (view.organizationSlug organization)
  known : ∀ member ∈ view.members, member.1 ∈ view.organizations
  founder : ∀ organization ∈ view.organizations, ∃ user, (organization, user, .admin) ∈ view.members
  sole : ∀ organization user other, (organization, user, .admin) ∈ view.members →
    (organization, other, .admin) ∈ view.members → user = other
  origin : ∀ organization user role, (organization, user, role) ∈ view.members →
    role = .admin ∧ Founded moves organization user ∨
      role = .agent ∧ Joined moves organization user
  registered : ∀ thread request draw result,
    .serve thread ⟨.register request draw, .ok result⟩ ∈ moves →
      (result.user.id, result.user.email) ∈ view.users ∧
        Sql.varchar 512 (packages.hash request.password draw.salt) =
          some (view.passwordHash result.user.id)

namespace AccountsHold

variable {moves : AccountMoves} {view : AccountDatabase.View}

theorem initial {db : AccountDatabase} (h : db.NoAccounts) : AccountsHold packages [] db.view := by
  obtain ⟨husers, horganizations, hmembers⟩ := h
  constructor <;> simp [husers, horganizations, hmembers]

/-- A move that is no commit leaves the accounts as they were. -/
theorem step (h : AccountsHold packages moves view) {move : Move AccountCall.Answer AccountRequest}
    (hmove : ∀ thread request draw result,
      move ≠ .serve thread ⟨.register request draw, .ok result⟩) :
    AccountsHold packages (moves ++ [move]) view := by
  refine { h with origin := fun organization user role hmem ↦ ?_,
                  registered := fun thread request draw result hmem ↦ ?_ }
  · rcases h.origin organization user role hmem with
      ⟨hrole, thread, request, draw, result, hserve, hfounded⟩ |
      ⟨hrole, thread, added, member, hserve, hjoined⟩
    · exact Or.inl ⟨hrole, thread, request, draw, result, List.mem_append_left _ hserve, hfounded⟩
    · exact Or.inr ⟨hrole, thread, added, member, List.mem_append_left _ hserve, hjoined⟩
  · rcases List.mem_append.1 hmem with hold | hnew
    · exact h.registered thread request draw result hold
    · exact absurd (List.mem_singleton.1 hnew).symm (hmove thread request draw result)

/-- A registration, which takes nothing that is there. -/
theorem register {db db' : AccountDatabase} (h : AccountsHold packages moves db.view) {thread : ℕ}
    {faults : Faults} {request : RegisterRequest} {draw : RegisterDraw}
    {result : RegistrationResult}
    (hregister : AuthenticationService.register packages faults request draw db =
      .ok (result, db')) :
    AccountsHold packages (moves ++ [.serve thread ⟨.register request draw, .ok result⟩])
      db'.view := by
  obtain ⟨email, hash, slug, hhash, huser, horganization, hlower, hemail, hid, hslugLower, hslug,
    hnew, hview⟩ := register_view hregister
  have hmove : .serve thread ⟨.register request draw, .ok result⟩ ∈
      moves ++ [.serve thread ⟨.register request draw, .ok result⟩] :=
    List.mem_append_right _ (List.mem_singleton_self _)
  have hfounded : Founded (moves ++ [.serve thread ⟨.register request draw, .ok result⟩])
      draw.organizationId draw.userId :=
    ⟨thread, request, draw, result, hmove, horganization, by rw [huser]⟩
  -- The organization is new, so nobody is a member of it yet.
  have hnobody : ∀ user role, (draw.organizationId, user, role) ∉ db.view.members :=
    fun user role hmem ↦ hnew (h.known _ hmem)
  have hold : ∀ organization ∈ db.view.organizations,
      Function.update db.view.organizationSlug draw.organizationId slug organization =
        db.view.organizationSlug organization := fun organization hmem ↦
    Function.update_of_ne (ne_of_mem_of_not_mem hmem hnew) _ _
  rw [hview]
  refine ⟨?_, ?_, ?_, ?_, ?_, ?_, ?_, ?_, ?_⟩
  · rw [List.map_append, List.nodup_append]
    refine ⟨h.emails, List.nodup_singleton _, fun a ha b hb heq ↦ hemail ?_⟩
    obtain rfl : b = email := by simpa using hb
    exact heq ▸ ha
  · intro user hmem
    rcases List.mem_append.1 hmem with hmem | hmem
    · exact h.emailsLower user hmem
    · rw [List.mem_singleton.1 hmem]
      exact hlower
  · rw [List.map_append, List.map_congr_left hold, List.nodup_append]
    refine ⟨h.slugs, List.nodup_singleton _, fun a ha b hb heq ↦ hslug ?_⟩
    obtain rfl : b = slug := by simpa using hb
    rwa [← heq]
  · intro organization hmem
    dsimp only
    rcases List.mem_append.1 hmem with hmem | hmem
    · rw [hold organization hmem]
      exact h.slugsLower organization hmem
    · rw [List.mem_singleton.1 hmem, Function.update_self]
      exact hslugLower
  · intro member hmem
    rcases List.mem_append.1 hmem with hmem | hmem
    · exact List.mem_append_left _ (h.known member hmem)
    · rw [List.mem_singleton.1 hmem]
      exact List.mem_append_right _ (List.mem_singleton_self _)
  · intro organization hmem
    rcases List.mem_append.1 hmem with hmem | hmem
    · obtain ⟨user, huser⟩ := h.founder organization hmem
      exact ⟨user, List.mem_append_left _ huser⟩
    · rw [List.mem_singleton.1 hmem]
      exact ⟨draw.userId, List.mem_append_right _ (List.mem_singleton_self _)⟩
  · intro organization user other huser hother
    rcases List.mem_append.1 huser with huser | huser <;>
      rcases List.mem_append.1 hother with hother | hother
    · exact h.sole organization user other huser hother
    · cases List.mem_singleton.1 hother
      exact absurd huser (hnobody _ _)
    · cases List.mem_singleton.1 huser
      exact absurd hother (hnobody _ _)
    · cases List.mem_singleton.1 huser
      cases List.mem_singleton.1 hother
      rfl
  · intro organization user role hmem
    rcases List.mem_append.1 hmem with hmem | hmem
    · rcases h.origin organization user role hmem with
        ⟨hrole, thread', request', draw', result', hserve, hfounded'⟩ |
        ⟨hrole, thread', added, member, hserve, hjoined⟩
      · exact Or.inl ⟨hrole, thread', request', draw', result', List.mem_append_left _ hserve,
          hfounded'⟩
      · exact Or.inr ⟨hrole, thread', added, member, List.mem_append_left _ hserve, hjoined⟩
    · cases List.mem_singleton.1 hmem
      exact Or.inl ⟨rfl, hfounded⟩
  · intro thread' request' draw' result' hmem
    dsimp only
    rcases List.mem_append.1 hmem with hmem | hmem
    · obtain ⟨huser', hhash'⟩ := h.registered thread' request' draw' result' hmem
      have hne : result'.user.id ≠ draw.userId := fun heq ↦
        hid (heq ▸ List.mem_map.2 ⟨_, huser', rfl⟩)
      refine ⟨List.mem_append_left _ huser', ?_⟩
      rw [Function.update_of_ne hne]
      exact hhash'
    · cases List.mem_singleton.1 hmem
      rw [huser]
      refine ⟨List.mem_append_right _ (List.mem_singleton_self _), ?_⟩
      rw [Function.update_self]
      exact hhash

/-- A new member. -/
theorem commitAddAgent {db db' : AccountDatabase} (h : AccountsHold packages moves db.view)
    {thread : ℕ} {faults : Faults} {request : AddAgentRequest} {userId : UUID}
    {member : OrganizationMember}
    (hcommit : db.commitAddAgent faults request userId = .ok (member, db')) :
    AccountsHold packages (moves ++ [.serve thread ⟨.commitAddAgent request userId, .ok member⟩])
      db'.view := by
  obtain ⟨hknown, hview⟩ := commitAddAgent_view hcommit
  have hlater : AccountsHold packages
      (moves ++ [.serve thread ⟨.commitAddAgent request userId, .ok member⟩]) db.view :=
    h.step nofun
  have hagent : ∀ {organization user}, (organization, user, MembershipRole.admin) ∈
      db.view.members ++ [(request.organizationId, userId, .agent)] →
        (organization, user, .admin) ∈ db.view.members := fun hmem ↦
    (List.mem_append.1 hmem).resolve_right fun hnew ↦ nomatch List.mem_singleton.1 hnew
  rw [hview]
  refine { hlater with known := ?_, founder := ?_, sole := ?_, origin := ?_ }
  · intro member' hmem
    rcases List.mem_append.1 hmem with hmem | hmem
    · exact h.known member' hmem
    · rw [List.mem_singleton.1 hmem]
      exact hknown
  · intro organization hmem
    obtain ⟨user, huser⟩ := h.founder organization hmem
    exact ⟨user, List.mem_append_left _ huser⟩
  · intro organization user other huser hother
    exact h.sole organization user other (hagent huser) (hagent hother)
  · intro organization user role hmem
    rcases List.mem_append.1 hmem with hmem | hmem
    · exact hlater.origin organization user role hmem
    · cases List.mem_singleton.1 hmem
      exact Or.inr ⟨rfl, thread, request, member, List.mem_append_right _
        (List.mem_singleton_self _), rfl⟩

/-- What a question changes. -/
theorem serve {db db' : AccountDatabase} (h : AccountsHold packages moves db.view) {thread : ℕ}
    {call : Answered AccountCall.Answer}
    (hserves : AccountCall.Serves packages decodeUserId db call.1 call.2 db') :
    AccountsHold packages (moves ++ [.serve thread call]) db'.view := by
  obtain ⟨request, reply⟩ := call
  cases request with
  | register request draw =>
    obtain ⟨faults, htransacted⟩ := hserves
    cases hregister : AuthenticationService.register packages faults request draw db with
    | error error =>
      rw [hregister] at htransacted
      cases htransacted
      exact h.step nofun
    | ok value =>
      rw [hregister] at htransacted
      cases htransacted
      exact h.register hregister
  | commitAddAgent request userId =>
    obtain ⟨faults, htransacted⟩ := hserves
    cases hcommit : db.commitAddAgent faults request userId with
    | error error =>
      rw [hcommit] at htransacted
      cases htransacted
      exact h.step nofun
    | ok value =>
      rw [hcommit] at htransacted
      cases htransacted
      exact h.commitAddAgent hcommit
  | userByEmail | currentUser | organizationContext | checkAddAgent =>
    obtain ⟨rfl, -⟩ := hserves
    exact h.step nofun

end AccountsHold

/-! ### Every run -/

section Runs

variable {s₀ s : Threads AccountDatabase AccountCall.Answer RouteError AccountResponse}
  {moves : AccountMoves}

theorem accountsHold_of_run (hinit : (accounts packages decodeUserId).init s₀)
    (hrun : (accounts packages decodeUserId).Run s₀ moves s) :
    AccountsHold packages moves s.shared.view := by
  refine shared_tracked (I := fun moves db ↦ AccountsHold packages moves db.view)
    (AccountsHold.initial hinit.1) ?_ ?_ ?_ hrun
  · exact fun moves db thread job h ↦ h.step nofun
  · exact fun moves db db' thread call h hserves ↦ h.serve hserves
  · intro moves db db' h hsame
    rw [show db'.view = db.view from hsame]
    exact h.step nofun

/-- **Every agent was added by the administrator of the organization**: the request that stored the
membership had found its caller active, then administrator of the active organization, and then the
new member active. -/
theorem members_accountable (hinit : (accounts packages decodeUserId).init s₀)
    (hrun : (accounts packages decodeUserId).Run s₀ moves s) {m : OrganizationMember}
    (hm : m ∈ s.shared.identity.members) (hrole : m.role = .agent) :
    ∃ before after thread added member credentials caller context user,
      moves = before ++ .serve thread ⟨.commitAddAgent added m.userId, .ok member⟩ :: after ∧
      added.organizationId = m.organizationId ∧
      Founded before m.organizationId added.actorUserId ∧
      Met (accountService packages decodeUserId) (AccountRequest.program packages)
        AccountDatabase.NoAccounts s₀ before thread ⟨.currentUser credentials, .ok (.ok caller)⟩
        (fun db ↦ caller ∈ db.identity.users ∧ caller.id = added.actorUserId ∧
          caller.status = .active) ∧
      Met (accountService packages decodeUserId) (AccountRequest.program packages)
        AccountDatabase.NoAccounts s₀ before thread
        ⟨.organizationContext m.organizationId caller, .ok (.ok context)⟩
        (fun db ↦ context.organization ∈ db.identity.organizations ∧
          context.organization.id = m.organizationId ∧ context.organization.status = .active ∧
          context.membership ∈ db.identity.members ∧
          context.membership.organizationId = m.organizationId ∧
          context.membership.userId = added.actorUserId ∧ context.membership.role = .admin ∧
          context.membership.status = .active) ∧
      Met (accountService packages decodeUserId) (AccountRequest.program packages)
        AccountDatabase.NoAccounts s₀ before thread ⟨.checkAddAgent added, .ok user⟩
        (fun db ↦ user ∈ db.identity.users ∧ user.id = m.userId ∧
          user.email = added.normalizedEmail ∧ user.status = .active) := by
  have haccounted := accountsHold_of_run hinit hrun
  have hview : (m.organizationId, m.userId, m.role) ∈ s.shared.view.members :=
    List.mem_map_of_mem (f := fun m : OrganizationMember ↦ (m.organizationId, m.userId, m.role)) hm
  rcases haccounted.origin _ _ _ hview with ⟨hadmin, -⟩ |
    ⟨-, thread, added, member, hserve, horganization⟩
  · cases hrole.symm.trans hadmin
  obtain ⟨before, after, rfl⟩ := List.append_of_mem hserve
  obtain ⟨t, hbefore, -⟩ := hrun.exists_of_append
  obtain ⟨request, -, hallowed⟩ := served_allowed hinit (fun request ↦ request.safe) hrun
  obtain ⟨credentials, organizationId, caller, context, user, -, hcaller, hcontext, hcallerAdmin,
    hcontextOrganization, hactor, huser, hid⟩ := hallowed
  have hmetCaller := met_of_mem (P := fun db ↦ caller ∈ db.identity.users ∧ caller.status = .active)
    hbefore (mem_callsOf.1 hcaller) fun db db' ⟨_, hanswer⟩ ↦
      getCurrentUser_sound (hanswer _ rfl).symm
  have hmetContext := met_of_mem
    (P := fun db ↦ (context.organization, context.membership) ∈
      organizationContextRows organizationId caller.id db.identity)
    hbefore (mem_callsOf.1 hcontext) fun db db' ⟨_, hanswer⟩ ↦
      getOrganizationContext_eq_ok_iff.1 (hanswer _ rfl).symm
  have hmetUser := met_of_mem
    (P := fun db ↦ user ∈ db.identity.users ∧ user.email = added.normalizedEmail ∧
      user.status = .active)
    hbefore (mem_callsOf.1 huser) fun db db' ⟨_, faults, hcheck⟩ ↦ checkAddAgent_sound hcheck
  -- The context is the caller's, and of the organization that he was added to.
  obtain ⟨earlier, between, t₁, hsplit, hearlier, hrow⟩ := hmetContext
  obtain ⟨ho, ha, hoid, hoactive, haorganization, hauser, hastatus⟩ :=
    mem_organizationContextRows.1 hrow
  obtain rfl : organizationId = m.organizationId :=
    hoid.symm.trans (hcontextOrganization.trans horganization)
  have hcallerId : caller.id = added.actorUserId := hauser.symm.trans hactor
  have hfounded : Founded earlier m.organizationId added.actorUserId := by
    have hadmin : (m.organizationId, added.actorUserId, MembershipRole.admin) ∈
        t₁.shared.view.members :=
      List.mem_map.2 ⟨context.membership, ha, by rw [haorganization, hactor, hcallerAdmin]⟩
    rcases (accountsHold_of_run hinit hearlier).origin _ _ _ hadmin with ⟨-, hfounded⟩ | ⟨hagent, -⟩
    · exact hfounded
    · cases hagent
  refine ⟨before, after, thread, added, member, credentials, caller, context, user, rfl,
    horganization, ?_, ?_, ?_, ?_⟩
  · rw [hsplit]
    exact hfounded.append _
  · exact hmetCaller.imp fun db ⟨hmem, hactive⟩ ↦ ⟨hmem, hcallerId, hactive⟩
  · exact ⟨earlier, between, t₁, hsplit, hearlier, ho, hoid, hoactive, ha, haorganization, hactor,
      hcallerAdmin, hastatus⟩
  · exact hmetUser.imp fun db ⟨hmem, hemail, hactive⟩ ↦ ⟨hmem, hid, hemail, hactive⟩

/-- The credentials of an active user are accepted, and no others. -/
theorem checkCredentials_hash {password other : String} {salt : List UInt8} {user : User}
    (hverify : packages.verify other (packages.hash password salt) = true ↔ other = password) :
    checkCredentials packages other (some (user, packages.hash password salt)) =
      if other = password ∧ user.status = .active then some user else none := by
  unfold checkCredentials
  by_cases hpassword : other = password
  · subst hpassword
    have hverified := hverify.2 rfl
    by_cases hactive : user.status = .active <;> simp [hverified, hactive]
  · simp [mt hverify.1 hpassword, hpassword]

/-- In accounts that were registered, an email finds its account, with the hash of its password. -/
theorem AccountsHold.userByEmail {db : AccountDatabase} (h : AccountsHold packages moves db.view)
    {thread : ℕ} {request : RegisterRequest} {draw : RegisterDraw} {result : RegistrationResult}
    (hfits : Sql.varchar 512 (packages.hash request.password draw.salt) =
      some (packages.hash request.password draw.salt))
    (hserve : .serve thread ⟨.register request draw, .ok result⟩ ∈ moves) :
    ∃ u ∈ db.identity.users, u.id = result.user.id ∧
      userByEmail result.user.email db = some (u, packages.hash request.password draw.salt) := by
  obtain ⟨huser, hhash⟩ := h.registered thread request draw result hserve
  obtain ⟨u, hu, hrow⟩ := List.mem_map.1 huser
  simp only [Prod.mk.injEq] at hrow
  have hemails := h.emails
  rw [AccountDatabase.view, List.map_map] at hemails
  rw [hfits, Option.some.injEq] at hhash
  refine ⟨u, hu, hrow.1, Option.map_eq_some_iff.2 ⟨u, ?_, ?_⟩⟩
  · cases hfound : db.identity.users.rows.find? fun row ↦ row.email = result.user.email with
    | none => exact absurd (List.find?_eq_none.1 hfound u hu) (by simp [hrow.2])
    | some other =>
      have hemail : other.email = result.user.email := by simpa using List.find?_some hfound
      have hother := List.mem_of_find?_eq_some hfound
      rw [List.inj_on_of_nodup_map hemails hother hu (hemail.trans hrow.2.symm)]
  · rw [hhash, ← hrow.1]
    rfl

/-- **Who registered logs in with his password, and nobody with another.** A login for the email of
an account, begun after the account was registered, ends as its password and the status of the user
decide, whatever else goes on; or the database failed. Of the hash it is assumed that it fits its
column, and that it is verified for the password it was made from and not for another. -/
theorem login_decides {before after : AccountMoves} {thread₀ thread : ℕ} {request : RegisterRequest}
    {draw : RegisterDraw} {result : RegistrationResult} {login : LoginRequest}
    {outcome : Except RouteError AccountResponse}
    (hfits : Sql.varchar 512 (packages.hash request.password draw.salt) =
      some (packages.hash request.password draw.salt))
    (hverify : packages.verify login.password (packages.hash request.password draw.salt) = true ↔
      login.password = request.password)
    (hinit : (accounts packages decodeUserId).init s₀)
    (hrun : (accounts packages decodeUserId).Run s₀
      (before ++ .serve thread₀ ⟨.register request draw, .ok result⟩ :: after) s)
    (hstart : .start thread (.login login) ∈ after)
    (hemail : normalizeIdentifier packages login.email = result.user.email)
    (hdone : s.running thread = some (.done outcome)) :
    (∃ error, outcome = .error (.raised error)) ∨
      ∃ user found, user.id = result.user.id ∧
        Met (accountService packages decodeUserId) (AccountRequest.program packages)
          AccountDatabase.NoAccounts s₀
          (before ++ .serve thread₀ ⟨.register request draw, .ok result⟩ :: after) thread
          ⟨.userByEmail result.user.email, .ok found⟩ (fun db ↦ user ∈ db.identity.users) ∧
        outcome = if login.password = request.password ∧ user.status = .active then
            .ok (.loggedIn result.user.id)
          else .error (.http 401 "Invalid email or password") := by
  obtain ⟨registered, hregistered⟩ : ∃ move : Move AccountCall.Answer AccountRequest,
      move = .serve thread₀ ⟨.register request draw, .ok result⟩ := ⟨_, rfl⟩
  rw [← hregistered] at hrun ⊢
  have hsplit : before ++ registered :: after = (before ++ [registered]) ++ after := by simp
  rw [hsplit] at hrun
  obtain ⟨job, hjob, hended⟩ := ended_allowed hinit (fun request ↦ request.safe) hrun hdone
  have hlogin : AccountRequest.login login ∈ jobsOf thread ((before ++ [registered]) ++ after) :=
    mem_jobsOf.2 (List.mem_append_right _ hstart)
  rw [hjob, List.mem_singleton] at hlogin
  subst hlogin
  obtain ⟨reply, hcalls, rfl⟩ := hended
  rcases reply with error | found
  · exact Or.inl ⟨error, rfl⟩
  -- The login began later, so its query was answered later.
  obtain ⟨-, hnoCalls⟩ := callsOf_eq_nil hinit hrun hstart
  rw [callsOf_append, hnoCalls, List.nil_append, hemail] at hcalls
  have hquery : .serve thread ⟨.userByEmail result.user.email, .ok found⟩ ∈ after :=
    mem_callsOf.1 (hcalls ▸ List.mem_singleton_self _)
  obtain ⟨early, late, rfl⟩ := List.append_of_mem hquery
  rw [← List.append_assoc] at hrun
  obtain ⟨t, t', hearly, ⟨-, hanswer⟩, -⟩ := exists_serve hrun
  have hmem : .serve thread₀ ⟨.register request draw, .ok result⟩ ∈
      (before ++ [registered]) ++ early := by
    rw [← hregistered]
    simp
  obtain ⟨user, huser, hid, hfound⟩ :=
    (accountsHold_of_run hinit hearly).userByEmail hfits hmem
  have hrow : found = some (user, packages.hash request.password draw.salt) :=
    (hanswer found rfl).trans hfound
  refine Or.inr ⟨user, found, hid, ⟨_, late, t, by simp, hearly, huser⟩, ?_⟩
  · rw [hrow]
    dsimp only
    rw [checkCredentials_hash hverify]
    by_cases hcredentials : login.password = request.password ∧ user.status = .active
    · rw [if_pos hcredentials, if_pos hcredentials, ← hid]
    · rw [if_neg hcredentials, if_neg hcredentials]

end Runs

end Accounts

/-! ### Two registrations, a new member and a login -/

namespace AccountSample

/-- `str.lower`, on ASCII. -/
def lower (text : String) : String :=
  String.ofList (text.toList.map Char.toLower)

def password : String :=
  "correct horse battery staple"

/-- The hash of this password, with a salt of sixteen ones. -/
def passwordHash : String :=
  "$argon2id$v=19$m=65536,t=3,p=4$AQEBAQEBAQEBAQEBAQEBAQ$" ++
    "eMkxYR/J/syYvglTWvnI4+YEl1XLafJbJawP77YOI5A"

def packages : Packages where
  lower := lower
  sqlLower := lower
  emailStr := some
  hash _ _ := passwordHash
  verify other hash := other = password ∧ hash = passwordHash

def decodeUserId (_token : String) : Option UUID :=
  some (uuid 2)

def empty : AccountDatabase where
  identity := ⟨Table.empty, Table.empty, Table.empty⟩
  customers := Table.empty
  tickets := Table.empty
  ticketMessages := Table.empty
  documents := Table.empty
  versions := Table.empty
  intents := Table.empty
  operations := Table.empty
  audit := []
  passwordHash _ := ""
  organizationName _ := ""
  organizationSlug _ := ""

def ada : User :=
  ⟨uuid 2, "ada@acme.example", .active⟩

def bob : User :=
  ⟨uuid 3, "bob@bolt.example", .active⟩

def acme : Organization :=
  ⟨uuid 1, .active⟩

def bolt : Organization :=
  ⟨uuid 4, .active⟩

def admin : OrganizationMember :=
  ⟨uuid 1, uuid 2, .admin, .active⟩

def boltAdmin : OrganizationMember :=
  ⟨uuid 4, uuid 3, .admin, .active⟩

def adaRequest : RegisterRequest :=
  ⟨ada.email, password, "Acme", "acme"⟩

def adaDraw : RegisterDraw :=
  ⟨uuid 2, uuid 1, List.replicate 16 1⟩

def bobRequest : RegisterRequest :=
  ⟨bob.email, password, "Bolt", "bolt"⟩

def bobDraw : RegisterDraw :=
  ⟨uuid 3, uuid 4, List.replicate 16 1⟩

def credentials : Option Credentials :=
  some ⟨"Bearer", "token"⟩

def added : AddAgentRequest :=
  ⟨uuid 1, uuid 2, bob.email⟩

/-- The states after the two registrations, and after the new member. -/
def adaRegistered : AccountDatabase :=
  { empty with
    identity := ⟨.singleton acme, .singleton ada, .singleton admin⟩
    passwordHash := Function.update empty.passwordHash (uuid 2) passwordHash
    organizationName := Function.update empty.organizationName (uuid 1) "Acme"
    organizationSlug := Function.update empty.organizationSlug (uuid 1) "acme" }

@[inherit_doc adaRegistered]
def bobRegistered : AccountDatabase :=
  { adaRegistered with
    identity :=
      ⟨⟨[acme, bolt], by decide⟩, ⟨[ada, bob], by decide⟩, ⟨[admin, boltAdmin], by decide⟩⟩
    passwordHash := Function.update adaRegistered.passwordHash (uuid 3) passwordHash
    organizationName := Function.update adaRegistered.organizationName (uuid 4) "Bolt"
    organizationSlug := Function.update adaRegistered.organizationSlug (uuid 4) "bolt" }

@[inherit_doc adaRegistered]
def bobAdded : AccountDatabase :=
  (transacted bobRegistered (bobRegistered.commitAddAgent Faults.none added (uuid 3))).2

def adaResult : RegistrationResult :=
  ⟨ada, acme, admin⟩

def bobResult : RegistrationResult :=
  ⟨bob, bolt, boltAdmin⟩

/-- The calls of the four requests. -/
def adaCalls : List (Answered AccountCall.Answer) :=
  [⟨.register adaRequest adaDraw, .ok adaResult⟩]

@[inherit_doc adaCalls]
def bobCalls : List (Answered AccountCall.Answer) :=
  [⟨.register bobRequest bobDraw, .ok bobResult⟩]

@[inherit_doc adaCalls]
def addCalls : List (Answered AccountCall.Answer) :=
  [⟨.currentUser credentials, .ok (.ok ada)⟩,
    ⟨.organizationContext (uuid 1) ada, .ok (.ok ⟨acme, admin⟩)⟩, ⟨.checkAddAgent added, .ok bob⟩,
    ⟨.commitAddAgent added (uuid 3), .ok ⟨uuid 1, uuid 3, .agent, .active⟩⟩]

@[inherit_doc adaCalls]
def loginCalls : List (Answered AccountCall.Answer) :=
  [⟨.userByEmail ada.email, .ok (some (ada, passwordHash))⟩]

section Serves

variable {packages : Packages} {decodeUserId : String → Option UUID} {db : AccountDatabase}
  {faults : Faults}

theorem serves_commitAddAgent {request : AddAgentRequest} {userId : UUID}
    {reply : Except MembershipError OrganizationMember}
    (h : (transacted db (db.commitAddAgent faults request userId)).1 = reply) :
    (accountService packages decodeUserId).serve db (.commitAddAgent request userId) reply
      (transacted db (db.commitAddAgent faults request userId)).2 :=
  ⟨faults, Prod.ext h rfl⟩

end Serves

theorem varchar_passwordHash : Sql.varchar 512 passwordHash = some passwordHash := by
  decide +kernel

theorem register_ada :
    register packages Faults.none adaRequest adaDraw empty = .ok (adaResult, adaRegistered) :=
  register_of_free (by decide +kernel) varchar_passwordHash (by decide +kernel)
    (by decide +kernel) (by decide +kernel) ⟨nofun, nofun⟩
    (Table.insert?_eq_some_iff.2 ⟨rfl, rfl⟩) (Table.insert?_eq_some_iff.2 ⟨rfl, rfl⟩)
    (Table.insert?_eq_some_iff.2 ⟨rfl, rfl⟩)

theorem register_bob : register packages Faults.none bobRequest bobDraw adaRegistered =
    .ok (bobResult, bobRegistered) :=
  register_of_free (by decide +kernel) varchar_passwordHash (by decide +kernel)
    (by decide +kernel) (by decide +kernel)
    ⟨fun row hrow ↦ List.mem_singleton.1 hrow ▸ by decide +kernel, fun row hrow ↦
      List.mem_singleton.1 hrow ▸ by decide +kernel⟩
    (Table.insert?_eq_some_iff.2 ⟨rfl, rfl⟩) (Table.insert?_eq_some_iff.2 ⟨rfl, rfl⟩)
    (Table.insert?_eq_some_iff.2 ⟨rfl, rfl⟩)

theorem alone_ada : Alone (accountService packages decodeUserId) empty
    (registerRoute adaRequest adaDraw) adaCalls adaRegistered (.ok (.registered adaResult)) :=
  .call ⟨Faults.none, congrArg (transacted empty) register_ada⟩ .done

theorem alone_bob : Alone (accountService packages decodeUserId) adaRegistered
    (registerRoute bobRequest bobDraw) bobCalls bobRegistered (.ok (.registered bobResult)) :=
  .call ⟨Faults.none, congrArg (transacted adaRegistered) register_bob⟩ .done

theorem alone_add : Alone (accountService packages decodeUserId) bobRegistered
    (addOrganizationMember credentials (uuid 1) bob.email) addCalls bobAdded
    (.ok (.memberAdded ⟨uuid 1, uuid 3, .agent, .active⟩)) :=
  .call (queried_ok (by decide +kernel)) <| .call (queried_ok (by decide +kernel)) <|
    .call ⟨rfl, Faults.none, by decide +kernel⟩ <|
      .call (serves_commitAddAgent (by decide +kernel)) .done

theorem alone_login : Alone (accountService packages decodeUserId) bobAdded
    (loginRoute packages ⟨ada.email, password⟩) loginCalls bobAdded (.ok (.loggedIn (uuid 2))) :=
  .call (queried_ok (by decide +kernel)) .done

/-- No request runs, and there are no accounts. -/
def started : Threads AccountDatabase AccountCall.Answer RouteError AccountResponse :=
  ⟨empty, fun _ ↦ none⟩

/-- The calls of a request that is answered alone. -/
def answered (thread : ℕ) (request : AccountRequest) (calls : List (Answered AccountCall.Answer)) :
    AccountMoves :=
  .start thread request :: calls.map (.serve thread)

/-- After that registration another organization is registered, its administrator is added to the
first, and the administrator of the first logs in. -/
def laterMoves : AccountMoves :=
  answered 1 (.register bobRequest bobDraw) bobCalls ++
    (answered 2 (.addMember credentials (uuid 1) bob.email) addCalls ++
      answered 3 (.login ⟨ada.email, password⟩) loginCalls)

@[inherit_doc laterMoves]
def moves : AccountMoves :=
  answered 0 (.register adaRequest adaDraw) adaCalls ++ laterMoves

theorem init_started : (accounts packages decodeUserId).init started :=
  ⟨⟨rfl, rfl, rfl⟩, fun _ ↦ rfl⟩

theorem run_answered {db db' : AccountDatabase} {response : AccountResponse}
    {running : ℕ → Option (AccountProgram AccountResponse)} {request : AccountRequest}
    {calls : List (Answered AccountCall.Answer)} (thread : ℕ)
    (h : Alone (accountService packages decodeUserId) db (request.program packages) calls db'
      (.ok response)) (free : running thread = none) :
    (accounts packages decodeUserId).Run ⟨db, running⟩ (answered thread request calls)
      ⟨db', Function.update running thread (some (.done (.ok response)))⟩ :=
  h.run free

/-- The threads in the end. -/
def ended : ℕ → Option (AccountProgram AccountResponse) :=
  Function.update (Function.update (Function.update (Function.update started.running
    0 (some (.done (.ok (.registered adaResult)))))
    1 (some (.done (.ok (.registered bobResult)))))
    2 (some (.done (.ok (.memberAdded ⟨uuid 1, uuid 3, .agent, .active⟩)))))
    3 (some (.done (.ok (.loggedIn (uuid 2)))))

theorem run_moves : (accounts packages decodeUserId).Run started moves ⟨bobAdded, ended⟩ :=
  (run_answered 0 alone_ada rfl).trans <| (run_answered 1 alone_bob rfl).trans <|
    (run_answered 2 alone_add rfl).trans (run_answered 3 alone_login rfl)

/-- And Ada added him to the other. -/
theorem members_accountable_sample :
    ∃ before after thread added member,
      moves = before ++ .serve thread ⟨.commitAddAgent added bob.id, .ok member⟩ :: after ∧
        added.organizationId = acme.id ∧ Founded before acme.id added.actorUserId := by
  have hmem : ⟨acme.id, bob.id, .agent, .active⟩ ∈ bobAdded.identity.members := by
    show _ ∈ bobAdded.identity.members.rows
    decide +kernel
  obtain ⟨before, after, thread, added, member, _, _, _, _, hmoves, horganization, hfounded, -⟩ :=
    members_accountable init_started run_moves hmem rfl
  exact ⟨before, after, thread, added, member, hmoves, horganization, hfounded⟩

/-- Ada, who registered first, logs in last. -/
theorem login_decides_sample :
    ∃ user : User, user.id = ada.id ∧
      (.ok (.loggedIn ada.id) : Except RouteError AccountResponse) =
        if password = password ∧ user.status = .active then .ok (.loggedIn ada.id)
        else .error (.http 401 "Invalid email or password") := by
  have hverify : packages.verify password (packages.hash adaRequest.password adaDraw.salt) = true ↔
      password = adaRequest.password := by decide +kernel
  have hstart : .start 3 (.login ⟨ada.email, password⟩) ∈ laterMoves :=
    List.mem_append_right _ (List.mem_append_right _ (List.mem_cons_self ..))
  have hrun : (accounts packages decodeUserId).Run started
      ([.start 0 (.register adaRequest adaDraw)] ++
        .serve 0 ⟨.register adaRequest adaDraw, .ok adaResult⟩ :: laterMoves) ⟨bobAdded, ended⟩ :=
    run_moves
  rcases login_decides varchar_passwordHash hverify init_started hrun hstart (by decide +kernel) rfl
    with ⟨error, herror⟩ | ⟨user, -, hid, -, hdecided⟩
  · cases herror
  · exact ⟨user, hid, hdecided⟩

end AccountSample

end SupportFlow
