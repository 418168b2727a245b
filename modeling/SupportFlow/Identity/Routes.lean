import SupportFlow.Foundations.Programs
import SupportFlow.Identity.Accounts
import SupportFlow.Tenancy.Access

/-!
# The account routes

`register`, `login` and `add_organization_member`, with the dependencies of the last. A route asks
the database several times, and between two of its questions other requests commit; so a route is a
program, and the database answers its calls one at a time.

An administrator of the deployment may change the statuses of users, organizations and memberships
at any time; no route does, and none deletes a row. The rest of the accounts is what no change but a
route's makes different (`AccountDatabase.view`).
-/

namespace SupportFlow

open Program AuthenticationService OrganizationMembershipService

/-! ### Calls -/

/-- A question that a route asks the database. -/
inductive AccountCall
  | register (request : RegisterRequest) (draw : RegisterDraw)
  | userByEmail (normalizedEmail : String)
  | currentUser (credentials : Option Credentials)
  | organizationContext (organizationId : UUID) (currentUser : User)
  | checkAddAgent (request : AddAgentRequest)
  | commitAddAgent (request : AddAgentRequest) (userId : UUID)

/-- What a question is answered with. -/
abbrev AccountCall.Answer : AccountCall → Type
  | register _ _ => Except RegistrationError RegistrationResult
  | userByEmail _ => Except Raised (Option (User × String))
  | currentUser _ => Except Raised (Except AccessError User)
  | organizationContext _ _ => Except Raised (Except AccessError OrganizationContext)
  | checkAddAgent _ => Except MembershipError User
  | commitAddAgent _ _ => Except MembershipError OrganizationMember

/-! ### Routes -/

/-- What a route raises: an `HTTPException`, or something no clause handles. -/
inductive RouteError
  | http (statusCode : ℕ) (detail : String)
  | raised (error : Raised)
  | multipleResultsFound
  deriving DecidableEq, Repr

/-- An exception of a dependency. -/
def RouteError.ofAccess (error : AccessError) : RouteError :=
  match error.response? with
  | some (statusCode, detail) => .http statusCode detail
  | none => .multipleResultsFound

inductive AccountResponse
  | registered (result : RegistrationResult)
  /-- A token for this user. -/
  | loggedIn (userId : UUID)
  | memberAdded (member : OrganizationMember)
  deriving DecidableEq, Repr

/-- What the routes run as. -/
abbrev AccountProgram :=
  Program AccountCall.Answer RouteError

/-- The route `register`. -/
def registerRoute (request : RegisterRequest) (draw : RegisterDraw) :
    AccountProgram AccountResponse := do
  match ← ask (AccountCall.register request draw) with
  | .ok result => pure (.registered result)
  | .error .conflict => throw (.http 409 "Email or organization slug already exists")
  | .error (.raised error) => throw (.raised error)

/-- The route `login`. -/
def loginRoute (packages : Packages) (request : LoginRequest) : AccountProgram AccountResponse := do
  match ← ask (AccountCall.userByEmail (normalizeIdentifier packages request.email)) with
  | .error error => throw (.raised error)
  | .ok found =>
    match checkCredentials packages request.password found with
    | none => throw (.http 401 "Invalid email or password")
    | some user => pure (.loggedIn user.id)

/-- The answer of a dependency. -/
def dependency {α : Type} : Except Raised (Except AccessError α) → AccountProgram α
  | .error error => throw (.raised error)
  | .ok (.error error) => throw (RouteError.ofAccess error)
  | .ok (.ok value) => pure value

/-- What the route makes of the exceptions of `add_agent`. -/
def memberError : MembershipError → RouteError
  | .userNotFound => .http 404 "User not found"
  | .conflict => .http 409 "Organization membership already exists"
  | .raised error => .raised error

/-- The route `add_organization_member`. -/
def addOrganizationMember (credentials : Option Credentials) (organizationId : UUID)
    (email : String) : AccountProgram AccountResponse := do
  let currentUser ← dependency (← ask (AccountCall.currentUser credentials))
  let context ← dependency (← ask (AccountCall.organizationContext organizationId currentUser))
  let context ← dependency (.ok (requireRoles [.admin] context))
  let request : AddAgentRequest := ⟨context.organization.id, context.membership.userId, email⟩
  match ← ask (AccountCall.checkAddAgent request) with
  | .error error => throw (memberError error)
  | .ok user =>
    match ← ask (AccountCall.commitAddAgent request user.id) with
    | .error error => throw (memberError error)
    | .ok member => pure (.memberAdded member)

/-- A request for one of the routes, after its body was validated, with what its handling draws. -/
inductive AccountRequest
  | register (request : RegisterRequest) (draw : RegisterDraw)
  | login (request : LoginRequest)
  | addMember (credentials : Option Credentials) (organizationId : UUID) (email : String)

/-- The handling of a request. -/
def AccountRequest.program (packages : Packages) : AccountRequest → AccountProgram AccountResponse
  | register request draw => registerRoute request draw
  | login request => loginRoute packages request
  | addMember credentials organizationId email =>
    addOrganizationMember credentials organizationId email

/-! ### The database -/

/-- What a transaction returns, and what it leaves: one that raises is rolled back. -/
def transacted {ε α σ : Type} (state : σ) : Except ε (α × σ) → Except ε α × σ
  | .ok (value, next) => (.ok value, next)
  | .error error => (.error error, state)

/-- A query is answered from a state, or fails; it changes nothing. -/
def Queried {ε α σ : Type} (state : σ) (value : α) (reply : Except ε α) (next : σ) : Prop :=
  next = state ∧ ∀ answer, reply = .ok answer → answer = value

theorem queried_ok {ε α σ : Type} {state : σ} {value answer : α} (h : value = answer) :
    Queried state value (.ok answer : Except ε α) state :=
  ⟨rfl, fun _ hanswer ↦ (Except.ok.inj hanswer).symm.trans h.symm⟩

namespace AccountDatabase

/-- The commit of `add_agent`. -/
def commitAddAgent (faults : Faults) (request : AddAgentRequest) (userId : UUID)
    (db : AccountDatabase) : Except MembershipError (OrganizationMember × AccountDatabase) :=
  (OrganizationMembershipService.commitAddAgent faults request userId db.toDatabase).map
    fun (member, next) ↦ (member, { db with toDatabase := next })

/-- The accounts of a state: all but the statuses. -/
structure View where
  users : List (UUID × String)
  organizations : List UUID
  members : List (UUID × UUID × MembershipRole)
  passwordHash : UUID → String
  organizationSlug : UUID → String

/-- The accounts of a state. -/
def view (db : AccountDatabase) : View where
  users := db.identity.users.rows.map fun u ↦ (u.id, u.email)
  organizations := db.identity.organizations.rows.map Organization.id
  members := db.identity.members.rows.map fun m ↦ (m.organizationId, m.userId, m.role)
  passwordHash := db.passwordHash
  organizationSlug := db.organizationSlug

end AccountDatabase

section Serve

variable (packages : Packages) (decodeUserId : String → Option UUID)

/-- How the database answers a question. -/
def AccountCall.Serves (db : AccountDatabase) :
    (call : AccountCall) → call.Answer → AccountDatabase → Prop
  | .register request draw, reply, db' => ∃ faults,
    transacted db (AuthenticationService.register packages faults request draw db) = (reply, db')
  | .userByEmail normalizedEmail, reply, db' =>
    Queried db (AuthenticationService.userByEmail normalizedEmail db) reply db'
  | .currentUser credentials, reply, db' =>
    Queried db (getCurrentUser decodeUserId credentials db.identity) reply db'
  | .organizationContext organizationId user, reply, db' =>
    Queried db (getOrganizationContext organizationId user db.identity) reply db'
  | .checkAddAgent request, reply, db' => db' = db ∧ ∃ faults,
    OrganizationMembershipService.checkAddAgent faults request db.toDatabase = reply
  | .commitAddAgent request userId, reply, db' => ∃ faults,
    transacted db (db.commitAddAgent faults request userId) = (reply, db')

/-- The database that all routes share. -/
def accountService : Service AccountDatabase AccountCall.Answer where
  serve := AccountCall.Serves packages decodeUserId
  disturb db db' := db'.view = db.view

/-- No account was made yet. -/
def AccountDatabase.NoAccounts (db : AccountDatabase) : Prop :=
  db.view.users = [] ∧ db.view.organizations = [] ∧ db.view.members = []

/-- Any number of requests beside each other. -/
def accounts : TransitionSystem (Threads AccountDatabase AccountCall.Answer RouteError
    AccountResponse) (Move AccountCall.Answer AccountRequest) :=
  (accountService packages decodeUserId).interleaved (AccountRequest.program packages)
    AccountDatabase.NoAccounts

end Serve

end SupportFlow
