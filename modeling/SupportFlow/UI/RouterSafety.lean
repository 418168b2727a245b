import SupportFlow.UI.Router

/-!
# What one request to the agent UI does

Whatever it is answered, a request only changes a ticket after it has resolved its cookie to a
session, has found the user of the session active, has read the token of the session in its form and
has found the ticket; and a login only opens a session after it has checked the password
(`UIRequest.Allowed`). Its response sets no cookie and shows no page but from what it was answered
(`UIRequest.Ended`). Both are computed from the text of the routes (`UIRequest.safe`).
-/

namespace SupportFlow

open Program Service Move AuthenticationService TicketService TicketRepository UIRouter

variable {τ : Type}

/-! ### What one request does -/

/-- The request resolved its cookie to a session, and the query found its user, active. -/
def UIRequest.Accessed (request : UIRequest τ) (past : List (UIAnswered τ))
    (context : BrowserOrganizationContext τ) : Prop :=
  ∃ userId organizationId rows, context.session.userId = some userId ∧
    context.session.organizationId = some organizationId ∧
    ⟨.session (.resolve request.cookie request.now), .ok (some context.session)⟩ ∈ past ∧
    ⟨.browserContext userId organizationId, .ok rows⟩ ∈ past ∧
    ((context.user, context.membership), context.organization) ∈ rows

theorem UIRequest.Accessed.append {request : UIRequest τ} {past : List (UIAnswered τ)}
    {context : BrowserOrganizationContext τ} (h : request.Accessed past context)
    (later : List (UIAnswered τ)) : request.Accessed (past ++ later) context := by
  obtain ⟨userId, organizationId, rows, huser, horganization, hresolve, hrows, hrow⟩ := h
  exact ⟨userId, organizationId, rows, huser, horganization, List.mem_append_left _ hresolve,
    List.mem_append_left _ hrows, hrow⟩

/-- What a request has been answered when it makes a call. -/
def UIRequest.Allowed (packages : Packages) (request : UIRequest τ) (past : List (UIAnswered τ)) :
    UICall τ → Prop
  | .session (.resolve cookie _) => cookie = request.cookie
  | .session (.invalidate cookie) => cookie = request.cookie ∧ ∃ session,
    ⟨.session (.resolve request.cookie request.now), .ok (some session)⟩ ∈ past
  | .session (.createAnonymous cookie draw) =>
    cookie = request.cookie ∧ draw = request.draw ∧ request.route = .loginPage
  | .session (.authenticate cookie userId organizationId draw) =>
    cookie = request.cookie ∧ draw = request.draw ∧
      ∃ form anonymous payload found user organization,
        request.route = .loginSubmit (some form) ∧
        ⟨.session (.resolve request.cookie request.now), .ok (some anonymous)⟩ ∈ past ∧
        anonymous.isAuthenticated = false ∧
        form "csrf_token" = some (.text anonymous.csrfToken) ∧
        browserLoginRequest packages form = some payload ∧
        ⟨.userByEmail (normalizeIdentifier packages payload.email), .ok found⟩ ∈ past ∧
        checkCredentials packages payload.password found = some user ∧
        ⟨.loginOrganization payload.organizationSlug user.id, .ok (some organization)⟩ ∈ past ∧
        user.id = userId ∧ organization.id = organizationId
  | .commitAppend added draw => ∃ form context,
    request.route = .messageSubmit added.ticketId (some form) draw ∧
      request.Accessed past context ∧
      form "csrf_token" = some (.text context.session.csrfToken) ∧
      context.organization.id = added.organizationId ∧ context.user.id = added.currentUserId ∧
      strippedText 1 50000 (formText (form "body")) = some added.body ∧
      ⟨.checkAppend added, .ok ()⟩ ∈ past
  | .commitTransition changed previousStatus => ∃ form context,
    request.route = .statusSubmit changed.ticketId (some form) ∧
      request.Accessed past context ∧
      form "csrf_token" = some (.text context.session.csrfToken) ∧
      context.organization.id = changed.organizationId ∧ context.user.id = changed.currentUserId ∧
      TicketStatus.ofValue? (formText (form "status")) = some changed.nextStatus ∧
      ⟨.checkTransition changed, .ok previousStatus⟩ ∈ past
  | .browserContext _ _ | .userByEmail _ | .loginOrganization _ _ | .ticketItems _ _
  | .ticketTotal _ _ | .getTicket _ _ | .listTicketMessages _ _ | .checkAppend _
  | .checkTransition _ => True

/-- The call of the store that an answered question is, with its result. -/
def UICall.stored? : UIAnswered τ → Option (SessionCall τ × SessionResult τ)
  | ⟨.session asked, reply⟩ => some (asked, asked.result reply)
  | _ => none

/-- Where a cookie of a response comes from. -/
def UIRequest.SetsCookie (settings : UISettings) (request : UIRequest τ)
    (past : List (UIAnswered τ)) (cookie : SetCookie) : Prop :=
  cookie = deletedCookie ∧ ⟨.session (.invalidate request.cookie), .ok ()⟩ ∈ past ∨
    ∃ answered ∈ past, ∃ asked value session, cookie = setSessionCookie settings value ∧
      UICall.stored? answered = some (asked, .opened value session)

/-- Where a page comes from. -/
def UIRequest.Shows (request : UIRequest τ) (past : List (UIAnswered τ)) : UIPage τ → Prop
  | .login csrfToken _ =>
    (∃ cookie session, session.csrfToken = csrfToken ∧
      ⟨.session (.createAnonymous request.cookie request.draw), .ok (cookie, session)⟩ ∈ past) ∨
    ∃ session, session.csrfToken = csrfToken ∧
      ⟨.session (.resolve request.cookie request.now), .ok (some session)⟩ ∈ past
  | .error _ => True
  | .tickets context page => ∃ params items total, request.Accessed past context ∧
    ⟨.ticketItems context.organization.id params, .ok items⟩ ∈ past ∧
    ⟨.ticketTotal context.organization.id params.filters, .ok total⟩ ∈ past ∧
    page = listPage params items total
  | .ticketDetail context ticket messages _ => ∃ ticketId, request.Accessed past context ∧
    ⟨.getTicket context.organization.id ticketId, .ok (some ticket)⟩ ∈ past ∧
    ⟨.listTicketMessages context.organization.id ticketId, .ok messages⟩ ∈ past

/-- What a request has been answered when it ends with a response. -/
def UIRequest.Ended (settings : UISettings) (request : UIRequest τ) (past : List (UIAnswered τ))
    (result : Except UIError (UIResponse τ)) : Prop :=
  ∀ response, result = .ok response →
    (∀ cookie, response.setCookie = some cookie → request.SetsCookie settings past cookie) ∧
      ∀ page, response.page = some page → request.Shows past page

section Requests

variable {settings : UISettings} {packages : Packages} {request : UIRequest τ}
  {past : List (UIAnswered τ)}

/-! ### Obligations of the pieces -/

section Pieces

variable {A : List (UIAnswered τ) → UICall τ → Prop}

theorem safe_askStore {asked : SessionCall τ}
    {Q : List (UIAnswered τ) → Except UIError asked.Returned → Prop} :
    Safe A Q past (askStore asked) ↔ A past (.session asked) ∧
      ∀ reply, Q (past ++ [⟨.session asked, reply⟩]) (reply.mapError .session) := by
  simp only [askStore, safe_bind, safe_ask, safe_ofExcept]

theorem safe_readForm {form : Option Form}
    {Q : List (UIAnswered τ) → Except UIError Form → Prop} :
    Safe A Q past (readForm form) ↔
      match form with
      | none => Q past (.error .malformedForm)
      | some form => Q past (.ok form) := by
  cases form <;> rfl

theorem safe_check {decision : Except SessionError Bool}
    {Q : List (UIAnswered τ) → Except UIError Bool → Prop} :
    Safe A Q past (check decision) ↔ Q past (decision.mapError .session) :=
  safe_ofExcept

theorem safe_answer {α : Type} {reply : Except Raised α}
    {Q : List (UIAnswered τ) → Except UIError α → Prop} :
    Safe A Q past (answer reply) ↔ Q past (reply.mapError .raised) :=
  safe_ofExcept

end Pieces

@[simp]
theorem UIRequest.ended_error {error : UIError} : request.Ended settings past (.error error) :=
  fun _ h ↦ nomatch h

/-- A response that shows no page. -/
theorem UIRequest.ended_cookie {response : UIResponse τ} (hpage : response.page = none)
    (hcookie : ∀ cookie, response.setCookie = some cookie →
      request.SetsCookie settings past cookie) : request.Ended settings past (.ok response) := by
  intro response' hresponse
  obtain rfl := Except.ok.inj hresponse
  exact ⟨hcookie, fun page h ↦ nomatch hpage.symm.trans h⟩

/-- A response that sets no cookie. -/
theorem UIRequest.ended_page {page : UIPage τ} {statusCode : ℕ} (hpage : request.Shows past page) :
    request.Ended settings past (.ok (templateResponse page statusCode)) := by
  intro response' hresponse
  obtain rfl := Except.ok.inj hresponse
  refine ⟨fun cookie h ↦ (nomatch h), fun page' h ↦ ?_⟩
  obtain rfl := Option.some.inj h
  exact hpage

@[simp]
theorem UIRequest.ended_redirect {location : String} :
    request.Ended settings past (.ok (redirect location)) :=
  ended_cookie rfl fun _ h ↦ nomatch h

@[simp]
theorem UIRequest.ended_renderError {message : String} {statusCode : ℕ} :
    request.Ended settings past (.ok (renderError message statusCode)) :=
  ended_page trivial

/-- **`resolve_browser_context`**: it ends without a context, or with one that was accessed. -/
theorem safe_resolveBrowserContext
    {Q : List (UIAnswered τ) → Except UIError (Option (BrowserOrganizationContext τ)) → Prop}
    (herror : ∀ past error, Q past (.error error)) (hnone : ∀ past, Q past (.ok none))
    (hsome : ∀ past context, request.Accessed past context → Q past (.ok (some context))) :
    Safe (request.Allowed packages) Q [] (UIRouter.resolveBrowserContext request) := by
  refine safe_bind.2 (safe_askStore.2 ⟨rfl, fun reply ↦ ?_⟩)
  rcases reply with error | (- | session)
  · exact herror _ _
  · exact hnone _
  simp only [Except.mapError]
  split
  · next userId organizationId huser horganization =>
    refine safe_bind.2 (safe_ask.2 ⟨trivial, fun reply ↦ safe_bind.2 (safe_answer.2 ?_)⟩)
    rcases reply with error | rows
    · exact herror _ _
    refine safe_bind.2 (safe_ofExcept.2 ?_)
    rcases hrows : oneOrNone UIError.multipleResultsFound rows with error | (- | row)
    · exact herror _ _
    · refine safe_bind.2 (safe_askStore.2 ⟨⟨rfl, session, by simp⟩, fun reply ↦ ?_⟩)
      rcases reply with error | -
      · exact herror _ _
      · exact hnone _
    · obtain ⟨⟨user, membership⟩, organization⟩ := row
      exact hsome _ _ ⟨userId, organizationId, rows, huser, horganization, by simp, by simp,
        mem_of_oneOrNone hrows⟩
  · exact hnone _

/-! ### The token of a form -/

theorem compareDigest_eq_true {a b : String} (h : compareDigest a b = .ok true) : a = b := by
  unfold compareDigest at h
  split at h
  · exact of_decide_eq_true (Except.ok.inj h)
  · cases h

/-- A form is accepted with the token of the session. -/
theorem validCsrf_eq_true {csrfToken : String} {supplied : Option FormValue}
    (h : validCsrf csrfToken supplied = .ok true) : supplied = some (.text csrfToken) := by
  unfold validCsrf at h
  split at h
  · split at h
    · cases h
    · rw [compareDigest_eq_true h]
  · cases h

/-- A login is accepted with the token of a session that nobody is logged in to. -/
theorem loginCsrf_eq_true {session : BrowserSession τ} {supplied : Option FormValue}
    (h : loginCsrf (some session) supplied = .ok true) :
    session.isAuthenticated = false ∧ supplied = some (.text session.csrfToken) := by
  unfold loginCsrf at h
  split at h
  · next hsession =>
    obtain rfl := Option.some.inj hsession
    split at h
    · cases h
    · next hanonymous => exact ⟨Bool.eq_false_iff.2 hanonymous, by rw [compareDigest_eq_true h]⟩
  · cases h

/-! ### Obligations of the routes -/

/-- A route that begins with a context owes nothing when there is none. -/
theorem safe_ofContext {x : Option (BrowserOrganizationContext τ) → UIProgram τ (UIResponse τ)}
    (hnone : ∀ past, Safe (request.Allowed packages) (request.Ended settings) past (x none))
    (hsome : ∀ past context, request.Accessed past context →
      Safe (request.Allowed packages) (request.Ended settings) past (x (some context))) :
    Safe (request.Allowed packages) (request.Ended settings) []
      (UIRouter.resolveBrowserContext request >>= x) :=
  safe_bind.2 (safe_resolveBrowserContext (fun _ _ ↦ UIRequest.ended_error) hnone hsome)

/-- A route that goes on with a form owes nothing when the form lacks the token. -/
theorem safe_ofForm {form : Option Form} {csrfToken message : String}
    {next : Form → UIProgram τ (UIResponse τ)}
    (hnext : ∀ fields, form = some fields → fields "csrf_token" = some (.text csrfToken) →
      Safe (request.Allowed packages) (request.Ended settings) past (next fields)) :
    Safe (request.Allowed packages) (request.Ended settings) past (do
      let form ← readForm form
      if ¬(← check (validCsrf csrfToken (form "csrf_token"))) then
        return renderError message 403
      next form) := by
  refine safe_bind.2 (safe_readForm.2 ?_)
  cases form with
  | none => exact UIRequest.ended_error
  | some form =>
    refine safe_bind.2 (safe_check.2 ?_)
    rcases hcsrf : validCsrf csrfToken (form "csrf_token") with error | (- | -)
    · exact UIRequest.ended_error
    · exact UIRequest.ended_renderError
    · exact hnext form rfl (validCsrf_eq_true hcsrf)

/-- A response that sets the cookie of a session that was opened. -/
theorem UIRequest.setsCookie_of_opened {asked : SessionCall τ} {value : String}
    {session : BrowserSession τ} {reply : Except SessionError asked.Returned}
    (h : asked.result reply = .opened value session) :
    request.SetsCookie settings (past ++ [⟨.session asked, reply⟩])
      (setSessionCookie settings value) :=
  Or.inr ⟨⟨.session asked, reply⟩, by simp, asked, value, session, rfl, by rw [UICall.stored?, h]⟩

theorem safe_loginPage (hroute : request.route = .loginPage) :
    Safe (request.Allowed packages) (request.Ended settings) [] (loginPage settings request) := by
  refine safe_ofContext (fun past ↦ ?_) fun past context hcontext ↦ UIRequest.ended_redirect
  refine safe_bind.2 (safe_askStore.2 ⟨⟨rfl, rfl, hroute⟩, fun reply ↦ ?_⟩)
  rcases reply with error | ⟨cookieValue, anonymous⟩
  · exact UIRequest.ended_error
  intro response hresponse
  obtain rfl := Except.ok.inj hresponse
  refine ⟨fun cookie hcookie ↦ ?_, fun page hpage ↦ ?_⟩
  · obtain rfl := Option.some.inj hcookie
    exact UIRequest.setsCookie_of_opened rfl
  · obtain rfl := Option.some.inj hpage
    exact Or.inl ⟨cookieValue, anonymous, rfl, by simp⟩

theorem safe_loginSubmit {form : Option Form} (hroute : request.route = .loginSubmit form) :
    Safe (request.Allowed packages) (request.Ended settings) []
      (loginSubmit settings packages request form) := by
  refine safe_bind.2 (safe_askStore.2 ⟨rfl, fun reply ↦ ?_⟩)
  rcases reply with error | anonymous
  · exact UIRequest.ended_error
  refine safe_bind.2 (safe_readForm.2 ?_)
  cases form with
  | none => exact UIRequest.ended_error
  | some form =>
    cases anonymous with
    | none => exact UIRequest.ended_renderError
    | some anonymous =>
      -- A login that is refused shows the token again.
      have hinvalid : ∀ past, ⟨.session (.resolve request.cookie request.now),
          .ok (some anonymous)⟩ ∈ past → request.Ended settings past
            (.ok (invalidLogin anonymous.csrfToken)) := by
        intro past hmem
        exact UIRequest.ended_page (Or.inr ⟨anonymous, rfl, hmem⟩)
      refine safe_bind.2 (safe_check.2 ?_)
      rcases hcsrf : loginCsrf (some anonymous) (form "csrf_token") with error | (- | -)
      · exact UIRequest.ended_error
      · exact UIRequest.ended_renderError
      obtain ⟨hanonymous, htoken⟩ := loginCsrf_eq_true hcsrf
      dsimp only [Except.mapError]
      rw [if_neg (not_not.2 rfl)]
      cases hpayload : browserLoginRequest packages form with
      | none => exact hinvalid _ (by simp)
      | some payload =>
        refine safe_bind.2 (safe_ask.2 ⟨trivial, fun reply ↦ safe_bind.2 (safe_answer.2 ?_)⟩)
        rcases reply with error | found
        · exact UIRequest.ended_error
        dsimp only [Except.mapError]
        cases huser : checkCredentials packages payload.password found with
        | none => exact hinvalid _ (by simp)
        | some user =>
          refine safe_bind.2 (safe_ask.2 ⟨trivial, fun reply ↦ safe_bind.2 (safe_answer.2 ?_)⟩)
          rcases reply with error | (- | organization)
          · exact UIRequest.ended_error
          · exact hinvalid _ (by simp)
          refine safe_bind.2 (safe_askStore.2 ⟨⟨rfl, rfl, form, anonymous, payload, found, user,
            organization, hroute, by simp, hanonymous, htoken, hpayload, by simp, huser, by simp,
            rfl, rfl⟩, fun reply ↦ ?_⟩)
          rcases reply with error | ⟨authenticatedCookie, session⟩
          · exact UIRequest.ended_error
          refine UIRequest.ended_cookie rfl fun cookie hcookie ↦ ?_
          obtain rfl := Option.some.inj hcookie
          exact UIRequest.setsCookie_of_opened rfl

theorem safe_logout {form : Option Form} :
    Safe (request.Allowed packages) (request.Ended settings) [] (UIRouter.logout request form) := by
  refine safe_ofContext (fun _ ↦ UIRequest.ended_redirect) fun past context hcontext ↦ ?_
  obtain ⟨_, _, _, _, _, hresolve, -⟩ := hcontext
  refine safe_ofForm fun fields _ _ ↦ ?_
  refine safe_bind.2 (safe_askStore.2 ⟨⟨rfl, context.session, hresolve⟩, fun reply ↦ ?_⟩)
  rcases reply with error | ⟨⟨⟩⟩
  · exact UIRequest.ended_error
  refine UIRequest.ended_cookie rfl fun cookie hcookie ↦ ?_
  obtain rfl := Option.some.inj hcookie
  exact Or.inl ⟨rfl, by simp⟩

theorem safe_ticketListPage {params : TicketListParams} :
    Safe (request.Allowed packages) (request.Ended settings) []
      (UIRouter.ticketListPage request params) := by
  refine safe_ofContext (fun _ ↦ UIRequest.ended_redirect) fun past context hcontext ↦ ?_
  refine safe_bind.2 (safe_ask.2 ⟨trivial, fun reply ↦ safe_bind.2 (safe_answer.2 ?_)⟩)
  rcases reply with error | items
  · exact UIRequest.ended_error
  refine safe_bind.2 (safe_ask.2 ⟨trivial, fun reply ↦ safe_bind.2 (safe_answer.2 ?_)⟩)
  rcases reply with error | total
  · exact UIRequest.ended_error
  exact UIRequest.ended_page
    ⟨params, items, total, (hcontext.append _).append _, by simp, by simp, rfl⟩

theorem safe_ticketDetailPage {ticketId : UUID} :
    Safe (request.Allowed packages) (request.Ended settings) []
      (ticketDetailPage request ticketId) := by
  refine safe_ofContext (fun _ ↦ UIRequest.ended_redirect) fun past context hcontext ↦ ?_
  refine safe_bind.2 (safe_ask.2 ⟨trivial, fun reply ↦ safe_bind.2 (safe_answer.2 ?_)⟩)
  rcases reply with error | (- | ticket)
  · exact UIRequest.ended_error
  · exact UIRequest.ended_renderError
  refine safe_bind.2 (safe_ask.2 ⟨trivial, fun reply ↦ safe_bind.2 (safe_answer.2 ?_)⟩)
  rcases reply with error | messages
  · exact UIRequest.ended_error
  exact UIRequest.ended_page ⟨ticketId, (hcontext.append _).append _, by simp, by simp⟩

theorem safe_messageError {error : TicketServiceError} :
    Safe (request.Allowed packages) (request.Ended settings) past (messageError error) := by
  unfold messageError
  split
  · exact UIRequest.ended_renderError
  · exact UIRequest.ended_renderError
  · exact UIRequest.ended_error

theorem safe_ticketMessageSubmit {ticketId : UUID} {form : Option Form} {draw : MessageDraw}
    (hroute : request.route = .messageSubmit ticketId form draw) :
    Safe (request.Allowed packages) (request.Ended settings) []
      (ticketMessageSubmit request ticketId form draw) := by
  refine safe_ofContext (fun _ ↦ UIRequest.ended_redirect) fun past context hcontext ↦ ?_
  refine safe_ofForm fun fields hfields htoken ↦ ?_
  subst hfields
  cases hbody : strippedText 1 50000 (formText (fields "body")) with
  | none => exact UIRequest.ended_renderError
  | some body =>
    refine safe_bind.2 (safe_ask.2 ⟨trivial, fun reply ↦ ?_⟩)
    rcases reply with error | ⟨⟨⟩⟩
    · exact safe_messageError
    refine safe_bind.2 (safe_ask.2 ⟨⟨fields, context, hroute, hcontext.append _, htoken, rfl, rfl,
      hbody, by simp⟩, fun reply ↦ ?_⟩)
    rcases reply with error | message
    · exact safe_messageError
    · exact UIRequest.ended_redirect

theorem safe_statusError {error : TicketServiceError} :
    Safe (request.Allowed packages) (request.Ended settings) past (statusError error) := by
  unfold statusError
  split
  · exact UIRequest.ended_renderError
  · exact UIRequest.ended_renderError
  · exact UIRequest.ended_renderError
  · exact UIRequest.ended_error

theorem safe_ticketStatusSubmit {ticketId : UUID} {form : Option Form}
    (hroute : request.route = .statusSubmit ticketId form) :
    Safe (request.Allowed packages) (request.Ended settings) []
      (ticketStatusSubmit request ticketId form) := by
  refine safe_ofContext (fun _ ↦ UIRequest.ended_redirect) fun past context hcontext ↦ ?_
  refine safe_ofForm fun fields hfields htoken ↦ ?_
  subst hfields
  cases hstatus : TicketStatus.ofValue? (formText (fields "status")) with
  | none => exact UIRequest.ended_renderError
  | some status =>
    refine safe_bind.2 (safe_ask.2 ⟨trivial, fun reply ↦ ?_⟩)
    rcases reply with error | previousStatus
    · exact safe_statusError
    refine safe_bind.2 (safe_ask.2 ⟨⟨fields, context, hroute, hcontext.append _, htoken, rfl, rfl,
      hstatus, by simp⟩, fun reply ↦ ?_⟩)
    rcases reply with error | ticket
    · exact safe_statusError
    · exact UIRequest.ended_redirect

/-- **Each request keeps to it**, also when the store is unavailable. -/
theorem UIRequest.safe (request : UIRequest τ) :
    Safe (request.Allowed packages) (request.Ended settings) []
      (handled settings packages request) := by
  have hrespond : Safe (request.Allowed packages) (request.Ended settings) []
      (respond settings packages request) := by
    unfold respond
    split
    · exact UIRequest.ended_redirect
    · next hroute => exact safe_loginPage hroute
    · next form hroute => exact safe_loginSubmit hroute
    · exact safe_logout
    · exact safe_ticketListPage
    · exact safe_ticketDetailPage
    · next hroute => exact safe_ticketMessageSubmit hroute
    · next hroute => exact safe_ticketStatusSubmit hroute
  refine safe_tryCatch.2 (hrespond.mono fun past result hended ↦ ?_)
  rcases result with error | response
  · show Safe _ _ past (browserSessionUnavailableHandler error)
    unfold browserSessionUnavailableHandler
    split
    · exact UIRequest.ended_renderError
    · exact UIRequest.ended_error
  · exact hended

end Requests

end SupportFlow
