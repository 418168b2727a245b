import SupportFlow.Foundations.Programs
import SupportFlow.Identity.Routes
import SupportFlow.UI.CookieChecks
import SupportFlow.UI.TicketList

/-!
# The routes of the agent UI

Each route of `/ui` as a program: it asks the session store and the database one call at a time, and
ends with a response or an exception. `resolve_browser_context` is the program that the routes begin
with; of the store only its calls are known.

`TicketRepository.list_tickets` and `get_ticket_detail` ask twice, so what others commit may come
between the two answers. When nothing does, the list is the one of `ticketListPage`
(`ticketListPage_eq`).
-/

namespace SupportFlow

open Program AuthenticationService TicketService TicketRepository

variable {τ : Type}

/-! ### Calls -/

/-- What a call of a store returns. -/
abbrev SessionCall.Returned : SessionCall τ → Type
  | createAnonymous _ _ => String × BrowserSession τ
  | authenticate _ _ _ _ => String × BrowserSession τ
  | resolve _ _ => Option (BrowserSession τ)
  | invalidate _ => Unit

/-- What a call of a store returns, as its result. -/
def SessionCall.returned : (asked : SessionCall τ) → asked.Returned → SessionResult τ
  | createAnonymous _ _ => fun (cookie, session) ↦ .opened cookie session
  | authenticate _ _ _ _ => fun (cookie, session) ↦ .opened cookie session
  | resolve _ _ => fun session ↦ .resolved session
  | invalidate _ => fun _ ↦ .invalidated

/-- What a call of a store returns or raises, as its result. -/
def SessionCall.result (asked : SessionCall τ) :
    Except SessionError asked.Returned → SessionResult τ
  | .error error => .raised error
  | .ok value => asked.returned value

/-- A row of the query of `resolve_browser_context`. -/
abbrev BrowserContextRow :=
  (User × OrganizationMember) × Organization

/-- A question that a route asks the store or the database. -/
inductive UICall (τ : Type)
  | session (asked : SessionCall τ)
  | browserContext (userId organizationId : UUID)
  | userByEmail (normalizedEmail : String)
  | loginOrganization (organizationSlug : String) (userId : UUID)
  | ticketItems (organizationId : UUID) (params : TicketListParams)
  | ticketTotal (organizationId : UUID) (filters : TicketFilters)
  | getTicket (organizationId ticketId : UUID)
  | listTicketMessages (organizationId ticketId : UUID)
  | checkAppend (request : AppendRequest)
  | commitAppend (request : AppendRequest) (draw : MessageDraw)
  | checkTransition (request : TransitionRequest)
  | commitTransition (request : TransitionRequest) (previousStatus : TicketStatus)

/-- What a question is answered with. -/
abbrev UICall.Answer : UICall τ → Type
  | session asked => Except SessionError asked.Returned
  | browserContext _ _ => Except Raised (List BrowserContextRow)
  | userByEmail _ => Except Raised (Option (User × String))
  | loginOrganization _ _ => Except Raised (Option Organization)
  | ticketItems _ _ => Except Raised (List Ticket)
  | ticketTotal _ _ => Except Raised ℕ
  | getTicket _ _ => Except Raised (Option Ticket)
  | listTicketMessages _ _ => Except Raised (List TicketMessage)
  | checkAppend _ => Except TicketServiceError Unit
  | commitAppend _ _ => Except TicketServiceError TicketMessage
  | checkTransition _ => Except TicketServiceError TicketStatus
  | commitTransition _ _ => Except TicketServiceError Ticket

/-- An answered question. -/
abbrev UIAnswered (τ : Type) :=
  Answered (UICall.Answer (τ := τ))

/-! ### Requests and responses -/

/-- A form, as `form.get` reads it. -/
abbrev Form := String → Option FormValue

/-- A route with its arguments, after the framework has checked them; a form that cannot be parsed
is missing. -/
inductive UIRoute
  | root
  | loginPage
  | loginSubmit (form : Option Form)
  | logout (form : Option Form)
  | ticketList (params : TicketListParams)
  | ticketDetail (ticketId : UUID)
  | messageSubmit (ticketId : UUID) (form : Option Form) (draw : MessageDraw)
  | statusSubmit (ticketId : UUID) (form : Option Form)

/-- A request: its cookie, what the store reads and draws for it, and its route. -/
structure UIRequest (τ : Type) where
  cookie : Option String
  now : τ
  draw : Draw τ
  route : UIRoute

/-- What a template is given. -/
inductive UIPage (τ : Type)
  | login (csrfToken : String) (error : Option String)
  | error (message : String)
  | tickets (context : BrowserOrganizationContext τ) (page : TicketListPage)
  | ticketDetail (context : BrowserOrganizationContext τ) (ticket : Ticket)
      (messages : List TicketMessage) (nextStatus : Option TicketStatus)

/-- The arguments of `set_cookie`. -/
structure SetCookie where
  key : String
  value : String
  maxAge : ℤ
  httponly : Bool
  secure : Bool
  samesite : String
  path : String
  deriving DecidableEq, Repr

structure UIResponse (τ : Type) where
  statusCode : ℕ
  location : Option String
  page : Option (UIPage τ)
  setCookie : Option SetCookie

/-- What a route raises. -/
inductive UIError
  | session (error : SessionError)
  | multipleResultsFound
  | raised (error : Raised)
  | service (error : TicketServiceError)
  | malformedForm
  deriving DecidableEq, Repr

/-- The settings that the routes read. -/
structure UISettings where
  environment : String
  uiSessionTtlMinutes : ℤ
  deriving DecidableEq, Repr

/-- What the routes run as. -/
abbrev UIProgram (τ : Type) :=
  Program (UICall.Answer (τ := τ)) UIError

namespace UIRouter

/-- `UI_SESSION_COOKIE`. -/
def uiSessionCookie : String :=
  "supportflow_ui_session"

/-- `cookie_secure`. -/
def cookieSecure (settings : UISettings) : Bool :=
  settings.environment ∈ ["staging", "production"]

/-- `set_session_cookie`. -/
def setSessionCookie (settings : UISettings) (cookieValue : String) : SetCookie where
  key := uiSessionCookie
  value := cookieValue
  maxAge := settings.uiSessionTtlMinutes * 60
  httponly := true
  secure := cookieSecure settings
  samesite := "lax"
  path := "/"

/-- `delete_cookie`. -/
def deletedCookie : SetCookie where
  key := uiSessionCookie
  value := ""
  maxAge := 0
  httponly := false
  secure := false
  samesite := "lax"
  path := "/"

/-- `RedirectResponse`, with status 303. -/
def redirect (location : String) : UIResponse τ :=
  ⟨303, some location, none, none⟩

/-- `login_redirect`. -/
def loginRedirect : UIResponse τ :=
  redirect "/ui/login"

/-- `TemplateResponse`. -/
def templateResponse (page : UIPage τ) (statusCode : ℕ) : UIResponse τ :=
  ⟨statusCode, none, some page, none⟩

/-- `render_error`. -/
def renderError (message : String) (statusCode : ℕ) : UIResponse τ :=
  templateResponse (.error message) statusCode

/-- `form_text`. -/
def formText : Option FormValue → String
  | some (.text text) => text
  | some .file | none => ""

/-- `NEXT_STATUS`. -/
def nextStatus : TicketStatus → Option TicketStatus
  | .opened => some .processing
  | .processing => some .waitingForAgent
  | .waitingForAgent => some .resolved
  | .resolved => some .closed
  | .closed => none

/-! ### Asking -/

/-- A call of the store. -/
def askStore (asked : SessionCall τ) : UIProgram τ asked.Returned := do
  MonadExcept.ofExcept ((← ask (UICall.session asked)).mapError .session)

/-- `await request.form()`. -/
def readForm : Option Form → UIProgram τ Form
  | none => throw .malformedForm
  | some form => pure form

/-- A check on what a form holds. -/
def check (decision : Except SessionError Bool) : UIProgram τ Bool :=
  MonadExcept.ofExcept (decision.mapError .session)

/-- A value, or an exception of the database. -/
def answer {α : Type} (reply : Except Raised α) : UIProgram τ α :=
  MonadExcept.ofExcept (reply.mapError .raised)

/-- `resolve_browser_context`. -/
def resolveBrowserContext (request : UIRequest τ) :
    UIProgram τ (Option (BrowserOrganizationContext τ)) := do
  match ← askStore (.resolve request.cookie request.now) with
  | none => pure none
  | some session =>
    -- `is_authenticated`.
    match session.userId, session.organizationId with
    | some userId, some organizationId =>
      let rows ← answer (← ask (UICall.browserContext userId organizationId))
      match ← MonadExcept.ofExcept (oneOrNone UIError.multipleResultsFound rows) with
      | none =>
        askStore (.invalidate request.cookie)
        pure none
      | some ((user, membership), organization) =>
        pure (some ⟨session, user, organization, membership⟩)
    | _, _ => pure none

/-! ### Logging in and out -/

/-- `login_page`. -/
def loginPage (settings : UISettings) (request : UIRequest τ) : UIProgram τ (UIResponse τ) := do
  match ← resolveBrowserContext request with
  | some _ => pure (redirect "/ui/tickets")
  | none =>
    let (cookieValue, anonymousSession) ← askStore (.createAnonymous request.cookie request.draw)
    pure { templateResponse (.login anonymousSession.csrfToken none) 200 with
      setCookie := some (setSessionCookie settings cookieValue) }

/-- `BrowserLoginRequest`. -/
structure BrowserLoginRequest extends LoginRequest where
  organizationSlug : String
  deriving DecidableEq, Repr

/-- `BrowserLoginRequest.model_validate`, on what a form holds. -/
def browserLoginRequest (packages : Packages) (form : Form) : Option BrowserLoginRequest := do
  let login ← loginRequest packages (formText (form "email")) (formText (form "password"))
  let slug ← SupportFlow.organizationSlug (formText (form "organization_slug"))
  some ⟨login, slug⟩

/-- The query of `login_submit` for the organization, of which the first row is taken. -/
def loginOrganization (organizationSlug : String) (userId : UUID) (db : AccountDatabase) :
    Option Organization :=
  (((joinOn db.identity.organizations.rows db.identity.members.rows fun o m ↦
    m.organizationId = o.id).filter fun (o, m) ↦
      db.organizationSlug o.id = organizationSlug ∧ o.status = .active ∧ m.userId = userId ∧
        m.status = .active).map Prod.fst).head?

/-- The response to a login without its session or its token. -/
def loginForbidden : UIResponse τ :=
  renderError "Oturum doğrulaması başarısız. Giriş sayfasını yenileyin." 403

/-- The response to a login that is refused. -/
def invalidLogin (csrfToken : String) : UIResponse τ :=
  templateResponse (.login csrfToken (some "E-posta, parola veya organizasyon bilgisi geçersiz."))
    401

/-- `login_submit`. -/
def loginSubmit (settings : UISettings) (packages : Packages) (request : UIRequest τ)
    (form : Option Form) : UIProgram τ (UIResponse τ) := do
  let anonymousSession ← askStore (.resolve request.cookie request.now)
  let form ← readForm form
  match anonymousSession with
  | none => pure loginForbidden
  | some anonymousSession =>
    if ¬(← check (loginCsrf (some anonymousSession) (form "csrf_token"))) then
      return loginForbidden
    match browserLoginRequest packages form with
    | none => pure (invalidLogin anonymousSession.csrfToken)
    | some payload =>
      let found ← answer (← ask (UICall.userByEmail (normalizeIdentifier packages payload.email)))
      match checkCredentials packages payload.password found with
      | none => pure (invalidLogin anonymousSession.csrfToken)
      | some user =>
        match ← answer (← ask (UICall.loginOrganization payload.organizationSlug user.id)) with
        | none => pure (invalidLogin anonymousSession.csrfToken)
        | some organization =>
          let (authenticatedCookie, _) ←
            askStore (.authenticate request.cookie user.id organization.id request.draw)
          pure { redirect "/ui/tickets" with
            setCookie := some (setSessionCookie settings authenticatedCookie) }

/-- `logout`. -/
def logout (request : UIRequest τ) (form : Option Form) : UIProgram τ (UIResponse τ) := do
  match ← resolveBrowserContext request with
  | none => pure loginRedirect
  | some context =>
    let form ← readForm form
    if ¬(← check (validCsrf context.session.csrfToken (form "csrf_token"))) then
      return renderError "Oturum doğrulaması başarısız." 403
    askStore (.invalidate request.cookie)
    pure { loginRedirect with setCookie := some deletedCookie }

/-! ### Tickets -/

/-- What the template of the list is given, from the answers to the two queries. -/
def listPage (params : TicketListParams) (items : List Ticket) (total : ℕ) : TicketListPage where
  tickets := items
  limit := params.limit
  offset := params.offset
  total := total
  filters := params.filters
  previousUrl :=
    if 0 < params.offset then
      some (ticketListUrl { params with offset := params.offset - params.limit })
    else none
  nextUrl :=
    if params.offset + params.limit < total then
      some (ticketListUrl { params with offset := params.offset + params.limit })
    else none

/-- Two queries answered from one state give the page of that state. -/
theorem ticketListPage_eq (context : BrowserOrganizationContext τ) (params : TicketListParams)
    (db : Database) :
    SupportFlow.ticketListPage (some context) params db =
      .page (listPage params
        (listTickets context.organization.id params.limit.toNat params.offset.toNat params.filters
          db).items
        (listTickets context.organization.id params.limit.toNat params.offset.toNat params.filters
          db).total) :=
  rfl

/-- `ticket_list_page`. -/
def ticketListPage (request : UIRequest τ) (params : TicketListParams) :
    UIProgram τ (UIResponse τ) := do
  match ← resolveBrowserContext request with
  | none => pure loginRedirect
  | some context =>
    let items ← answer (← ask (UICall.ticketItems context.organization.id params))
    let total ← answer (← ask (UICall.ticketTotal context.organization.id params.filters))
    pure (templateResponse (.tickets context (listPage params items total)) 200)

/-- `ticket_detail_page`. -/
def ticketDetailPage (request : UIRequest τ) (ticketId : UUID) : UIProgram τ (UIResponse τ) := do
  match ← resolveBrowserContext request with
  | none => pure loginRedirect
  | some context =>
    match ← answer (← ask (UICall.getTicket context.organization.id ticketId)) with
    | none => pure (renderError "Ticket bulunamadı." 404)
    | some ticket =>
      let messages ← answer (← ask (UICall.listTicketMessages context.organization.id ticketId))
      pure (templateResponse (.ticketDetail context ticket messages (nextStatus ticket.status)) 200)

/-- The `except` clauses of `ticket_message_submit`, for what the service raises. -/
def messageError : TicketServiceError → UIProgram τ (UIResponse τ)
  | .ticket .ticketNotFound => pure (renderError "Ticket bulunamadı." 404)
  | .ticketPersistence => pure (renderError "Mesaj kaydedilemedi." 409)
  | error => throw (.service error)

/-- `ticket_message_submit`. -/
def ticketMessageSubmit (request : UIRequest τ) (ticketId : UUID) (form : Option Form)
    (draw : MessageDraw) : UIProgram τ (UIResponse τ) := do
  match ← resolveBrowserContext request with
  | none => pure loginRedirect
  | some context =>
    let form ← readForm form
    if ¬(← check (validCsrf context.session.csrfToken (form "csrf_token"))) then
      return renderError "CSRF doğrulaması başarısız." 403
    match strippedText 1 50000 (formText (form "body")) with
    | none => pure (renderError "Mesaj boş olamaz." 422)
    | some body =>
      let added : AppendRequest := ⟨context.organization.id, ticketId, body, context.user.id⟩
      match ← ask (UICall.checkAppend added) with
      | .error error => messageError error
      | .ok () =>
        match ← ask (UICall.commitAppend added draw) with
        | .error error => messageError error
        | .ok _ => pure (redirect ("/ui/tickets/" ++ ticketId.str))

/-- The `except` clauses of `ticket_status_submit`, for what the service raises. -/
def statusError : TicketServiceError → UIProgram τ (UIResponse τ)
  | .ticket .ticketNotFound => pure (renderError "Ticket bulunamadı." 404)
  | .ticket (.invalidTicketTransition _ _) =>
    pure (renderError "Bu status geçişine izin verilmiyor." 409)
  | .ticketPersistence => pure (renderError "Ticket durumu güncellenemedi." 409)
  | error => throw (.service error)

/-- `ticket_status_submit`. -/
def ticketStatusSubmit (request : UIRequest τ) (ticketId : UUID) (form : Option Form) :
    UIProgram τ (UIResponse τ) := do
  match ← resolveBrowserContext request with
  | none => pure loginRedirect
  | some context =>
    let form ← readForm form
    if ¬(← check (validCsrf context.session.csrfToken (form "csrf_token"))) then
      return renderError "CSRF doğrulaması başarısız." 403
    match TicketStatus.ofValue? (formText (form "status")) with
    | none => pure (renderError "Geçersiz ticket durumu." 422)
    | some status =>
      let changed : TransitionRequest :=
        ⟨context.organization.id, ticketId, status, context.user.id⟩
      match ← ask (UICall.checkTransition changed) with
      | .error error => statusError error
      | .ok previousStatus =>
        match ← ask (UICall.commitTransition changed previousStatus) with
        | .error error => statusError error
        | .ok _ => pure (redirect ("/ui/tickets/" ++ ticketId.str))

/-! ### The application -/

/-- The routes. -/
def respond (settings : UISettings) (packages : Packages) (request : UIRequest τ) :
    UIProgram τ (UIResponse τ) :=
  match request.route with
  | .root => pure (redirect "/ui/tickets")
  | .loginPage => loginPage settings request
  | .loginSubmit form => loginSubmit settings packages request form
  | .logout form => logout request form
  | .ticketList params => ticketListPage request params
  | .ticketDetail ticketId => ticketDetailPage request ticketId
  | .messageSubmit ticketId form draw => ticketMessageSubmit request ticketId form draw
  | .statusSubmit ticketId form => ticketStatusSubmit request ticketId form

/-- `browser_session_unavailable_handler`. -/
def browserSessionUnavailableHandler : UIError → UIProgram τ (UIResponse τ)
  | .session .unavailable =>
    pure (renderError
      "Oturum hizmeti geçici olarak kullanılamıyor. Lütfen tekrar deneyin." 503)
  | error => throw error

/-- The handling of a request. -/
def handled (settings : UISettings) (packages : Packages) (request : UIRequest τ) :
    UIProgram τ (UIResponse τ) :=
  tryCatch (respond settings packages request) browserSessionUnavailableHandler

end UIRouter

/-! ### The store and the database -/

section Serve

variable {σ : Type} (store : TransitionSystem σ (SessionCall τ × SessionResult τ))

/-- How the store and the database answer a question. -/
def UICall.Serves (s : σ × AccountDatabase) :
    (call : UICall τ) → call.Answer → σ × AccountDatabase → Prop
  | .session asked, reply, s' => store.step s.1 (asked, asked.result reply) s'.1 ∧ s'.2 = s.2
  | .browserContext userId organizationId, reply, s' =>
    Queried s (browserContextRows userId organizationId s.2.identity) reply s'
  | .userByEmail normalizedEmail, reply, s' =>
    Queried s (AuthenticationService.userByEmail normalizedEmail s.2) reply s'
  | .loginOrganization organizationSlug userId, reply, s' =>
    Queried s (UIRouter.loginOrganization organizationSlug userId s.2) reply s'
  | .ticketItems organizationId params, reply, s' =>
    Queried s (listTickets organizationId params.limit.toNat params.offset.toNat params.filters
      s.2.toDatabase).items reply s'
  | .ticketTotal organizationId filters, reply, s' =>
    Queried s (listTickets organizationId 0 0 filters s.2.toDatabase).total reply s'
  | .getTicket organizationId ticketId, reply, s' =>
    Queried s (TicketRepository.getTicket organizationId ticketId s.2.toDatabase) reply s'
  | .listTicketMessages organizationId ticketId, reply, s' =>
    Queried s (TicketRepository.listTicketMessages organizationId ticketId s.2.toDatabase) reply s'
  | .checkAppend request, reply, s' =>
    s' = s ∧ ∃ faults, TicketService.checkAppend faults request s.2.toDatabase = reply
  | .commitAppend request draw, reply, s' => s'.1 = s.1 ∧ ∃ faults next,
    transacted s.2.toDatabase (TicketService.commitAppend faults request draw s.2.toDatabase) =
      (reply, next) ∧ s'.2 = { s.2 with toDatabase := next }
  | .checkTransition request, reply, s' => s' = s ∧ ∃ faults : Faults, (do
      faults.lookup 0
      (TicketService.checkTransition request s.2.toDatabase).mapError .ticket) = reply
  | .commitTransition request previousStatus, reply, s' => s'.1 = s.1 ∧ ∃ faults next,
    transacted s.2.toDatabase (storeTransition faults request previousStatus s.2.toDatabase) =
      (reply, next) ∧ s'.2 = { s.2 with toDatabase := next }

/-- The store and the database that all requests share. Whatever else uses the database may change
it at any time. -/
def uiService : Service (σ × AccountDatabase) (UICall.Answer (τ := τ)) where
  serve := UICall.Serves store
  disturb s s' := s'.1 = s.1

/-- Any number of requests beside each other. -/
def uiRequests (settings : UISettings) (packages : Packages) :
    TransitionSystem (Threads (σ × AccountDatabase) (UICall.Answer (τ := τ)) UIError (UIResponse τ))
      (Move (UICall.Answer (τ := τ)) (UIRequest τ)) :=
  (uiService store).interleaved (UIRouter.handled settings packages) fun s ↦ store.init s.1

end Serve

end SupportFlow
