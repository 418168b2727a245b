import SupportFlow.Identity.AccountRuns
import SupportFlow.UI.RouterSafety
import SupportFlow.UI.Stores

/-!
# Who may act in the agent UI

Any number of requests to the agent UI run beside each other, over one session store and one
database that others change as well. The store is any that is sound: the dictionary and Redis are.

* Every change to a ticket was asked for by a user who had logged in with his password, and whose
  session nobody had ended (`changes_accountable`); every page about tickets is shown to such a user
  and stays in his organization (`pages_confined`).
* As long as no cookie is handed out twice, a request with the cookie of a logout that begins after
  it changes and shows nothing (`logout_final`), and no cookie but the one that a login hands out
  ever stands for a user (`login_cookie_only`).

The calls of the store in a run are a run of the store (`store_run`), so what a session store
promises its callers holds between requests.
-/

namespace SupportFlow

open Program Service Move AuthenticationService TicketService TicketRepository UIRouter

variable {τ : Type}

/-! ### The history of the store -/

/-- The calls of a run. -/
abbrev UIMoves (τ : Type) :=
  List (Move (UICall.Answer (τ := τ)) (UIRequest τ))

/-- The call of the store that a move answers, with its result. -/
def storeEvent? : Move (UICall.Answer (τ := τ)) (UIRequest τ) →
    Option (SessionCall τ × SessionResult τ)
  | .serve _ answered => UICall.stored? answered
  | .start _ _ | .disturb => none

/-- The calls of the store in a run, with their results. -/
def storeHistory (moves : UIMoves τ) : SessionHistory τ :=
  moves.filterMap storeEvent?

theorem storeHistory_snoc (moves : UIMoves τ) (move : Move (UICall.Answer (τ := τ)) (UIRequest τ)) :
    storeHistory (moves ++ [move]) = storeHistory moves ++ (storeEvent? move).toList := by
  rw [storeHistory, storeHistory, List.filterMap_append, List.filterMap_cons]
  cases storeEvent? move <;> rfl

/-- A move hands out a cookie with a session. -/
def HandsOut (cookie : String) (session : BrowserSession τ)
    (move : Move (UICall.Answer (τ := τ)) (UIRequest τ)) : Prop :=
  ∃ l, storeEvent? move = some l ∧ SessionHistory.Opening cookie session l

/-- A move does not end a cookie. -/
def Keeps (cookie : String) (move : Move (UICall.Answer (τ := τ)) (UIRequest τ)) : Prop :=
  ∀ l, storeEvent? move = some l → SessionHistory.Spares cookie l

section Runs

variable {σ : Type} {store : TransitionSystem σ (SessionCall τ × SessionResult τ)}
  {settings : UISettings} {packages : Packages}
  {s₀ s : Threads (σ × AccountDatabase) (UICall.Answer (τ := τ)) UIError (UIResponse τ)}
  {moves : UIMoves τ}

/-- **The store goes through a run of its own**, of the calls that the requests make. -/
theorem store_run (hrun : (uiRequests store settings packages).Run s₀ moves s) :
    store.Run s₀.shared.1 (storeHistory moves) s.shared.1 := by
  refine shared_tracked (I := fun moves shared ↦ store.Run s₀.shared.1 (storeHistory moves)
    shared.1) (.nil _) ?_ ?_ ?_ hrun
  · intro moves shared thread job hstore
    rw [storeHistory_snoc]
    exact (List.append_nil _).symm ▸ hstore
  · intro moves shared shared' thread asked hstore hserve
    rw [storeHistory_snoc]
    obtain ⟨request, reply⟩ := asked
    cases request with
    | session asked => exact hstore.snoc hserve.1
    | commitAppend | commitTransition =>
      rw [hserve.1]
      exact (List.append_nil _).symm ▸ hstore
    | _ =>
      obtain ⟨rfl, -⟩ := hserve
      exact (List.append_nil _).symm ▸ hstore
  · intro moves shared shared' hstore hsame
    rw [storeHistory_snoc, show shared'.1 = shared.1 from hsame]
    exact (List.append_nil _).symm ▸ hstore

/-- **A cookie that was resolved was handed out with its session, and nobody ended it since.** -/
theorem resolved_since (hstore : SoundStore store)
    (hinit : (uiRequests store settings packages).init s₀) {before after : UIMoves τ} {thread : ℕ}
    {cookie : Option String} {now : τ} {session : BrowserSession τ}
    (hrun : (uiRequests store settings packages).Run s₀
      (before ++ .serve thread ⟨.session (.resolve cookie now), .ok (some session)⟩ :: after) s) :
    ∃ text, cookie = some text ∧ before.Since (HandsOut text session) (Keeps text) := by
  obtain ⟨t, t', hbefore, ⟨hstep, -⟩, -⟩ := exists_serve hrun
  obtain ⟨text, hcookie, hholds⟩ := hstore hinit.1 (store_run hbefore) hstep
  exact ⟨text, hcookie, List.since_filterMap.1 hholds⟩

/-! ### Logins -/

/-- In a run of requests, a question was answered in a state with `P`. -/
abbrev UIMet (store : TransitionSystem σ (SessionCall τ × SessionResult τ)) (settings : UISettings)
    (packages : Packages)
    (s₀ : Threads (σ × AccountDatabase) (UICall.Answer (τ := τ)) UIError (UIResponse τ))
    (moves : UIMoves τ) (thread : ℕ) (answered : UIAnswered τ)
    (P : AccountDatabase → Prop) : Prop :=
  Met (uiService store) (handled settings packages) (fun s ↦ store.init s.1) s₀ moves thread
    answered fun s ↦ P s.2

/-- **The cookie comes from a login, and nobody ended it since.** The request had presented the
password of the user, who was active, and the slug of the organization, which was active and had him
as an active member. -/
def LoggedIn (store : TransitionSystem σ (SessionCall τ × SessionResult τ)) (settings : UISettings)
    (packages : Packages)
    (s₀ : Threads (σ × AccountDatabase) (UICall.Answer (τ := τ)) UIError (UIResponse τ))
    (moves : UIMoves τ) (thread : ℕ) (cookie : String) (userId organizationId : UUID) : Prop :=
  ∃ before after request form payload user hash organization session,
    moves = before ++ .serve thread ⟨.session (.authenticate request.cookie userId organizationId
      request.draw), .ok (cookie, session)⟩ :: after ∧
    (∀ move ∈ after, Keeps cookie move) ∧
    jobsOf thread before = [request] ∧ request.route = .loginSubmit (some form) ∧
    browserLoginRequest packages form = some payload ∧
    UIMet store settings packages s₀ before thread
      ⟨.userByEmail (normalizeIdentifier packages payload.email), .ok (some (user, hash))⟩
      (fun db ↦ user ∈ db.identity.users ∧ user.id = userId ∧
        user.email = normalizeIdentifier packages payload.email ∧ user.status = .active ∧
        db.passwordHash userId = hash ∧ packages.verify payload.password hash = true) ∧
    UIMet store settings packages s₀ before thread
      ⟨.loginOrganization payload.organizationSlug userId, .ok (some organization)⟩
      (fun db ↦ organization ∈ db.identity.organizations ∧ organization.id = organizationId ∧
        db.organizationSlug organizationId = payload.organizationSlug ∧
        organization.status = .active ∧ ∃ m ∈ db.identity.members,
          m.organizationId = organizationId ∧ m.userId = userId ∧ m.status = .active)

theorem storeEvent?_eq_some {move : Move (UICall.Answer (τ := τ)) (UIRequest τ)}
    {l : SessionCall τ × SessionResult τ} (h : storeEvent? move = some l) :
    ∃ thread asked reply, move = .serve thread ⟨.session asked, reply⟩ ∧
      l = (asked, asked.result reply) := by
  cases move with
  | start | disturb => cases h
  | serve thread answered =>
    obtain ⟨request, reply⟩ := answered
    cases request with
    | session asked => exact ⟨thread, asked, reply, rfl, (Option.some.inj h).symm⟩
    | _ => cases h

/-- A call that opens sessions of a user is a login of his, and it hands out what it returns. -/
theorem authenticate_of_opens {asked : SessionCall τ} {session opened : BrowserSession τ}
    {reply : Except SessionError asked.Returned} {cookie : String} {userId organizationId : UUID}
    (hopens : asked.Opens opened) (hresult : asked.result reply = .opened cookie opened)
    (hsame : opened.Same session) (huser : session.userId = some userId)
    (horganization : session.organizationId = some organizationId) :
    ∃ previous draw, (⟨.session asked, reply⟩ : UIAnswered τ) =
      ⟨.session (.authenticate previous userId organizationId draw), .ok (cookie, opened)⟩ := by
  cases asked with
  | createAnonymous => exact nomatch (hopens.1.symm.trans hsame.2.1).trans huser
  | resolve | invalidate => exact hopens.elim
  | authenticate previous userId' organizationId' draw =>
    obtain rfl := Option.some.inj ((hopens.1.symm.trans hsame.2.1).trans huser)
    obtain rfl := Option.some.inj ((hopens.2.symm.trans hsame.2.2.1).trans horganization)
    rcases reply with error | ⟨cookie', session'⟩
    · cases hresult
    · cases hresult
      exact ⟨previous, draw, rfl⟩

theorem userByEmail_eq_some {email : String} {db : AccountDatabase} {user : User} {hash : String}
    (h : AuthenticationService.userByEmail email db = some (user, hash)) :
    user ∈ db.identity.users ∧ user.email = email ∧ db.passwordHash user.id = hash := by
  obtain ⟨found, hfound, heq⟩ := Option.map_eq_some_iff.1 h
  cases heq
  have hemail := List.find?_some hfound
  exact ⟨List.mem_of_find?_eq_some hfound, of_decide_eq_true hemail, rfl⟩

theorem loginOrganization_eq_some {slug : String} {userId : UUID} {db : AccountDatabase}
    {organization : Organization} (h : loginOrganization slug userId db = some organization) :
    organization ∈ db.identity.organizations ∧ db.organizationSlug organization.id = slug ∧
      organization.status = .active ∧ ∃ m ∈ db.identity.members,
        m.organizationId = organization.id ∧ m.userId = userId ∧ m.status = .active := by
  obtain ⟨⟨o, m⟩, hrow, rfl⟩ := List.mem_map.1 (List.mem_of_head? h)
  rw [List.mem_filter, mem_joinOn, decide_eq_true_iff, decide_eq_true_iff] at hrow
  obtain ⟨⟨ho, hm, hon⟩, hslug, hactive, huser, hstatus⟩ := hrow
  exact ⟨ho, hslug, hactive, m, hm, hon, huser, hstatus⟩

theorem checkCredentials_eq_some {password : String} {found : Option (User × String)} {user : User}
    (h : checkCredentials packages password found = some user) :
    ∃ hash, found = some (user, hash) ∧ packages.verify password hash = true ∧
      user.status = .active := by
  unfold checkCredentials at h
  split at h
  · cases h
  · next found hash =>
    split at h
    · cases h
    · next hverify =>
      split at h
      · cases h
      · next hactive =>
        obtain rfl := Option.some.inj h
        exact ⟨hash, rfl, not_not.1 hverify, not_not.1 hactive⟩

/-- **Who has a session of a user has logged in as him.** -/
theorem loggedIn_of_since (hinit : (uiRequests store settings packages).init s₀)
    (hrun : (uiRequests store settings packages).Run s₀ moves s) {cookie : String}
    {session : BrowserSession τ} {userId organizationId : UUID}
    (hsince : moves.Since (HandsOut cookie session) (Keeps cookie))
    (huser : session.userId = some userId)
    (horganization : session.organizationId = some organizationId) :
    ∃ thread, LoggedIn store settings packages s₀ moves thread cookie userId organizationId := by
  obtain ⟨before, move, after, rfl, ⟨l, hl, opened, hresult, hopens, hsame⟩, hkeeps⟩ := hsince
  obtain ⟨thread, asked, reply, rfl, rfl⟩ := storeEvent?_eq_some hl
  obtain ⟨previous, draw, heq⟩ := authenticate_of_opens hopens hresult hsame huser horganization
  rw [heq] at hrun ⊢
  obtain ⟨request, hjob, rfl, rfl, form, anonymous, payload, found, user, organization, hroute, -,
    -, -, hpayload, hfound, hcredentials, horganizationFound, rfl, rfl⟩ :=
    served_allowed hinit (fun request ↦ request.safe) hrun
  obtain ⟨t, -, hbefore, -⟩ := exists_serve hrun
  obtain ⟨hash, rfl, hverify, hactive⟩ := checkCredentials_eq_some hcredentials
  refine ⟨thread, before, after, request, form, payload, user, hash, organization, opened, rfl,
    hkeeps, hjob, hroute, hpayload, ?_, ?_⟩
  · refine met_of_mem hbefore (mem_callsOf.1 hfound) fun shared shared' ⟨_, hanswer⟩ ↦ ?_
    obtain ⟨hmem, hemail, hhash⟩ := userByEmail_eq_some (hanswer _ rfl).symm
    exact ⟨hmem, rfl, hemail, hactive, hhash, hverify⟩
  · refine met_of_mem hbefore (mem_callsOf.1 horganizationFound)
      fun shared shared' ⟨_, hanswer⟩ ↦ ?_
    obtain ⟨hmem, hslug, hstatus, hmember⟩ := loginOrganization_eq_some (hanswer _ rfl).symm
    exact ⟨hmem, rfl, hslug, hstatus, hmember⟩

/-- **A request acts for a user in an organization**: its cookie, from a login of his, was resolved
to a session, and after that the query found him active. -/
def ActsFor (store : TransitionSystem σ (SessionCall τ × SessionResult τ)) (settings : UISettings)
    (packages : Packages)
    (s₀ : Threads (σ × AccountDatabase) (UICall.Answer (τ := τ)) UIError (UIResponse τ))
    (moves : UIMoves τ) (thread : ℕ) (request : UIRequest τ) (session : BrowserSession τ)
    (userId organizationId : UUID) : Prop :=
  ∃ cookie earlier later login rows, request.cookie = some cookie ∧
    moves = earlier ++
      .serve thread ⟨.session (.resolve (some cookie) request.now), .ok (some session)⟩ :: later ∧
    LoggedIn store settings packages s₀ earlier login cookie userId organizationId ∧
    UIMet store settings packages s₀ moves thread ⟨.browserContext userId organizationId, .ok rows⟩
      (fun db ↦ db.identity.IsActiveMember organizationId userId [.admin, .agent])

/-- What a request accessed, it accessed for a user who had logged in. -/
theorem actsFor_of_accessed (hstore : SoundStore store)
    (hinit : (uiRequests store settings packages).init s₀)
    (hrun : (uiRequests store settings packages).Run s₀ moves s) {thread : ℕ}
    {request : UIRequest τ} {context : BrowserOrganizationContext τ}
    (h : request.Accessed (callsOf thread moves) context) :
    ActsFor store settings packages s₀ moves thread request context.session context.user.id
      context.organization.id := by
  obtain ⟨userId, organizationId, rows, huser, horganization, hresolve, hrows, hrow⟩ := h
  have hmet := met_of_mem
    (P := fun s ↦ rows = browserContextRows userId organizationId s.2.identity) hrun
    (mem_callsOf.1 hrows) fun shared shared' ⟨_, hanswer⟩ ↦ hanswer _ rfl
  have hactive : ∀ s : σ × AccountDatabase,
      rows = browserContextRows userId organizationId s.2.identity →
        context.user.id = userId ∧ context.organization.id = organizationId ∧
          s.2.identity.IsActiveMember organizationId userId [.admin, .agent] := by
    intro s heq
    have hfound := mem_browserContextRows.1 (heq ▸ hrow)
    exact ⟨hfound.2.2.2.2.2.2.2.2.2.1, hfound.2.2.2.2.2.2.2.1,
      isActiveMember_iff_exists.2 ⟨_, _, _, hfound⟩⟩
  have ⟨_, _, t, _, _, heq⟩ := hmet
  obtain ⟨rfl, rfl, -⟩ := hactive _ heq
  obtain ⟨earlier, later, rfl⟩ := List.append_of_mem (mem_callsOf.1 hresolve)
  obtain ⟨cookie, hcookie, hsince⟩ := resolved_since hstore hinit hrun
  obtain ⟨t', hearlier, -⟩ := hrun.exists_of_append
  obtain ⟨login, hlogin⟩ := loggedIn_of_since hinit hearlier hsince huser horganization
  rw [hcookie] at hmet ⊢
  exact ⟨cookie, earlier, later, login, rows, hcookie, rfl, hlogin,
    hmet.imp fun s heq ↦ (hactive s heq).2.2⟩

/-! ### Every change -/

/-- The organization and the user of a call that changes a ticket. -/
def UICall.change? : UICall τ → Option (UUID × UUID)
  | .commitAppend added _ => some (added.organizationId, added.currentUserId)
  | .commitTransition changed _ => some (changed.organizationId, changed.currentUserId)
  | _ => none

/-- A form asks for a change. -/
def UIRoute.AsksFor (route : UIRoute) (form : Form) : UICall τ → Prop
  | .commitAppend added draw => route = .messageSubmit added.ticketId (some form) draw ∧
    strippedText 1 50000 (formText (form "body")) = some added.body
  | .commitTransition changed _ => route = .statusSubmit changed.ticketId (some form) ∧
    TicketStatus.ofValue? (formText (form "status")) = some changed.nextStatus
  | _ => False

/-- The check before a change found its ticket, and may be followed by it. -/
def UICall.MayFollow (db : Database) : UICall τ → Prop
  | .commitAppend added _ => ∃ ticket ∈ db.tickets, ticket.id = added.ticketId ∧
    ticket.organizationId = added.organizationId
  | .commitTransition changed previousStatus => ∃ ticket ∈ db.tickets,
    ticket.id = changed.ticketId ∧ ticket.organizationId = changed.organizationId ∧
      ticket.status = previousStatus ∧ allowedTransitions previousStatus = some changed.nextStatus
  | _ => False

theorem getTicket_eq_some {db : Database} {organizationId ticketId : UUID} {ticket : Ticket}
    (h : TicketRepository.getTicket organizationId ticketId db = some ticket) :
    ticket ∈ db.tickets ∧ ticket.id = ticketId ∧ ticket.organizationId = organizationId := by
  obtain ⟨hget, horganization⟩ := Option.filter_eq_some_iff.1 h
  obtain ⟨hmem, hkey⟩ := Table.get?_eq_some_iff.1 hget
  exact ⟨hmem, hkey, of_decide_eq_true horganization⟩

theorem checkAppend_mayFollow {faults : Faults} {added : AppendRequest} {draw : MessageDraw}
    {db : Database} (h : TicketService.checkAppend faults added db = .ok ()) :
    (UICall.commitAppend added draw : UICall τ).MayFollow db := by
  obtain ⟨-, -, h⟩ := Except.bind_eq_ok_iff.1 h
  split at h
  · cases h
  · next hfound =>
    obtain ⟨ticket, hticket⟩ := Option.ne_none_iff_exists'.1 hfound
    exact ⟨ticket, getTicket_eq_some hticket⟩

theorem checkTransition_mayFollow {changed : TransitionRequest} {previousStatus : TicketStatus}
    {db : Database} (h : TicketService.checkTransition changed db = .ok previousStatus) :
    (UICall.commitTransition changed previousStatus : UICall τ).MayFollow db := by
  have hallowed := checkTransition_allowed h
  unfold TicketService.checkTransition at h
  split at h
  · cases h
  · next ticket hticket =>
    split at h
    · obtain ⟨hmem, hid, horganization⟩ := getTicket_eq_some hticket
      exact ⟨ticket, hmem, hid, horganization, Except.ok.inj h, hallowed⟩
    · cases h

/-- **Every change to a ticket is asked for by a user who has logged in**: the request acts for him
in the organization, its form has the token of his session and asks for the change, and the check
before it found the ticket in the organization. -/
theorem changes_accountable (hstore : SoundStore store)
    (hinit : (uiRequests store settings packages).init s₀) {before after : UIMoves τ} {thread : ℕ}
    {answered : UIAnswered τ} {userId organizationId : UUID}
    (hchange : answered.1.change? = some (organizationId, userId))
    (hrun : (uiRequests store settings packages).Run s₀
      (before ++ .serve thread answered :: after) s) :
    ∃ request form session checked, jobsOf thread before = [request] ∧
      request.route.AsksFor form answered.1 ∧
      form "csrf_token" = some (.text session.csrfToken) ∧
      ActsFor store settings packages s₀ before thread request session userId organizationId ∧
      UIMet store settings packages s₀ before thread checked
        (fun db ↦ answered.1.MayFollow db.toDatabase) := by
  obtain ⟨request, hjob, hallowed⟩ := served_allowed hinit (fun request ↦ request.safe) hrun
  obtain ⟨t, -, hbefore, -⟩ := exists_serve hrun
  obtain ⟨asked, reply⟩ := answered
  cases asked with
  | commitAppend added draw =>
    cases hchange
    obtain ⟨form, context, hroute, hcontext, htoken, horganization, huser, hbody, hcheck⟩ :=
      hallowed
    refine ⟨request, form, context.session, _, hjob, ⟨hroute, hbody⟩, htoken, ?_,
      met_of_mem hbefore (mem_callsOf.1 hcheck) fun shared shared' ⟨_, faults, hchecked⟩ ↦
        checkAppend_mayFollow hchecked⟩
    rw [← horganization, ← huser]
    exact actsFor_of_accessed hstore hinit hbefore hcontext
  | commitTransition changed previousStatus =>
    cases hchange
    obtain ⟨form, context, hroute, hcontext, htoken, horganization, huser, hstatus, hcheck⟩ :=
      hallowed
    refine ⟨request, form, context.session, _, hjob, ⟨hroute, hstatus⟩, htoken, ?_,
      met_of_mem hbefore (mem_callsOf.1 hcheck) fun shared shared' ⟨_, faults, hchecked⟩ ↦ ?_⟩
    · rw [← horganization, ← huser]
      exact actsFor_of_accessed hstore hinit hbefore hcontext
    · obtain ⟨-, -, hchecked⟩ := Except.bind_eq_ok_iff.1 hchecked
      rcases hstep : TicketService.checkTransition changed shared.2.toDatabase with error | status
      · rw [hstep] at hchecked
        cases hchecked
      · rw [hstep] at hchecked
        obtain rfl := Except.ok.inj hchecked
        exact checkTransition_mayFollow hstep
  | _ => cases hchange

/-! ### Every page -/

/-- The context of a page about tickets. -/
def UIPage.context? : UIPage τ → Option (BrowserOrganizationContext τ)
  | .tickets context _ => some context
  | .ticketDetail context _ _ _ => some context
  | .login _ _ | .error _ => none

/-- What a page shows belongs to one organization. -/
def UIPage.Confined (organizationId : UUID) : UIPage τ → Prop
  | .tickets _ page => ∀ ticket ∈ page.tickets, ticket.organizationId = organizationId
  | .ticketDetail _ ticket messages _ => ticket.organizationId = organizationId ∧
    ∀ message ∈ messages, message.organizationId = organizationId ∧ message.ticketId = ticket.id
  | .login _ _ | .error _ => True

theorem listTickets_confined {organizationId : UUID} {limit offset : ℕ} {filters : TicketFilters}
    {db : Database} {ticket : Ticket}
    (h : ticket ∈ (listTickets organizationId limit offset filters db).items) :
    ticket.organizationId = organizationId := by
  have hsorted := List.mem_of_mem_drop (List.mem_of_mem_take h)
  have hadmits := (List.mem_filter.1 ((List.mem_insertionSort _).1 hsorted)).2
  simp only [TicketFilters.admits, Bool.and_eq_true, decide_eq_true_eq] at hadmits
  exact hadmits.1.1.1

theorem listTicketMessages_confined {organizationId ticketId : UUID} {db : Database}
    {message : TicketMessage}
    (h : message ∈ TicketRepository.listTicketMessages organizationId ticketId db) :
    message.organizationId = organizationId ∧ message.ticketId = ticketId :=
  of_decide_eq_true (List.mem_filter.1 ((List.mem_insertionSort _).1 h)).2

/-- **A page shows the tickets of one organization, to a user who has logged in to it.** -/
theorem pages_confined (hstore : SoundStore store)
    (hinit : (uiRequests store settings packages).init s₀)
    (hrun : (uiRequests store settings packages).Run s₀ moves s) {thread : ℕ}
    {response : UIResponse τ} {page : UIPage τ} {context : BrowserOrganizationContext τ}
    (hdone : s.running thread = some (.done (.ok response))) (hpage : response.page = some page)
    (hcontext : page.context? = some context) :
    page.Confined context.organization.id ∧ ∃ request, jobsOf thread moves = [request] ∧
      ActsFor store settings packages s₀ moves thread request context.session context.user.id
        context.organization.id := by
  obtain ⟨request, hjob, hended⟩ := ended_allowed hinit (fun request ↦ request.safe) hrun hdone
  have hshows := (hended response rfl).2 page hpage
  cases page with
  | login | error => cases hcontext
  | tickets context' page =>
    obtain rfl := Option.some.inj hcontext
    obtain ⟨params, items, total, haccessed, hitems, -, rfl⟩ := hshows
    refine ⟨fun ticket hticket ↦ ?_, request, hjob,
      actsFor_of_accessed hstore hinit hrun haccessed⟩
    obtain ⟨-, -, t, -, -, hanswer⟩ := met_of_mem
      (P := fun s ↦ items = (listTickets context'.organization.id params.limit.toNat
        params.offset.toNat params.filters s.2.toDatabase).items)
      hrun (mem_callsOf.1 hitems) fun shared shared' ⟨_, hanswer⟩ ↦ hanswer _ rfl
    exact listTickets_confined (hanswer ▸ hticket)
  | ticketDetail context' ticket messages nextStatus =>
    obtain rfl := Option.some.inj hcontext
    obtain ⟨ticketId, haccessed, hticket, hmessages⟩ := hshows
    obtain ⟨-, -, t, -, -, hfound⟩ := met_of_mem
      (P := fun s ↦ some ticket = TicketRepository.getTicket context'.organization.id ticketId
        s.2.toDatabase)
      hrun (mem_callsOf.1 hticket) fun shared shared' ⟨_, hanswer⟩ ↦ hanswer _ rfl
    obtain ⟨-, rfl, horganization⟩ := getTicket_eq_some hfound.symm
    refine ⟨⟨horganization, fun message hmessage ↦ ?_⟩, request, hjob,
      actsFor_of_accessed hstore hinit hrun haccessed⟩
    obtain ⟨-, -, t', -, -, hanswer⟩ := met_of_mem
      (P := fun s ↦ messages = TicketRepository.listTicketMessages context'.organization.id
        ticket.id s.2.toDatabase)
      hrun (mem_callsOf.1 hmessages) fun shared shared' ⟨_, hanswer⟩ ↦ hanswer _ rfl
    exact listTicketMessages_confined (hanswer ▸ hmessage)

/-! ### Cookies that are not handed out twice -/

/-- The cookie that a move hands out. -/
def openedCookie? (move : Move (UICall.Answer (τ := τ)) (UIRequest τ)) : Option String :=
  (storeEvent? move).bind fun l ↦
    match l.2 with
    | .opened cookie _ => some cookie
    | _ => none

/-- The cookies that are handed out in a run. -/
def openedCookies (moves : UIMoves τ) : List String :=
  moves.filterMap openedCookie?

theorem HandsOut.openedCookie? {cookie : String} {session : BrowserSession τ}
    {move : Move (UICall.Answer (τ := τ)) (UIRequest τ)} (h : HandsOut cookie session move) :
    openedCookie? move = some cookie := by
  obtain ⟨l, hl, opened, hresult, -⟩ := h
  simp only [SupportFlow.openedCookie?, hl, Option.bind_some, hresult]

/-- **A cookie that was ended stays so**: no later call resolves it. -/
theorem not_resolved_of_ended (hstore : SoundStore store)
    (hinit : (uiRequests store settings packages).init s₀) {before after : UIMoves τ}
    {ended : Move (UICall.Answer (τ := τ)) (UIRequest τ)} {cookie : String}
    {given : BrowserSession τ}
    (hfresh : (openedCookies (before ++ ended :: after)).Nodup)
    (hgiven : ∃ move ∈ before, HandsOut cookie given move) (hended : ¬Keeps cookie ended)
    (hrun : (uiRequests store settings packages).Run s₀ (before ++ ended :: after) s)
    (thread : ℕ) (now : τ) (session : BrowserSession τ) :
    .serve thread ⟨.session (.resolve (some cookie) now), .ok (some session)⟩ ∉ after := by
  intro hmem
  obtain ⟨between, later, rfl⟩ := List.append_of_mem hmem
  have hsplit : before ++ ended :: (between ++
      .serve thread ⟨.session (.resolve (some cookie) now), .ok (some session)⟩ :: later) =
      (before ++ ended :: between) ++
        .serve thread ⟨.session (.resolve (some cookie) now), .ok (some session)⟩ :: later := by
    simp
  rw [hsplit] at hrun hfresh
  obtain ⟨_, hcookie, hsince⟩ := resolved_since hstore hinit hrun
  obtain rfl := Option.some.inj hcookie
  -- It was handed out once more, when it was ended or later.
  obtain ⟨again, hagain, hopened⟩ := hsince.exists_mem_of_not hended
  obtain ⟨move, hmove, hfirst⟩ := hgiven
  rw [openedCookies, List.filterMap_append, List.filterMap_append, List.append_assoc] at hfresh
  have hdisjoint := List.disjoint_of_nodup_append hfresh
  exact hdisjoint (List.mem_filterMap.2 ⟨move, hmove, hfirst.openedCookie?⟩)
    (List.mem_append_left _ (List.mem_filterMap.2 ⟨again, hagain, hopened.openedCookie?⟩))

theorem deletedCookie_ne (settings : UISettings) (cookie : String) :
    deletedCookie ≠ setSessionCookie settings cookie := fun h ↦
  Bool.false_ne_true (congrArg SetCookie.httponly h)

/-- The response to a logout: its cookie was handed out before, and was ended. -/
theorem logout_ended (hstore : SoundStore store)
    (hinit : (uiRequests store settings packages).init s₀)
    (hrun : (uiRequests store settings packages).Run s₀ moves s) {thread : ℕ}
    {request : UIRequest τ} {response : UIResponse τ} (hjob : jobsOf thread moves = [request])
    (hdone : s.running thread = some (.done (.ok response)))
    (hdeleted : response.setCookie = some deletedCookie) :
    ∃ before ended after cookie session, moves = before ++ ended :: after ∧
      request.cookie = some cookie ∧ ¬Keeps cookie ended ∧
        ∃ move ∈ before, HandsOut cookie session move := by
  obtain ⟨job, hjob', hended⟩ := ended_allowed hinit (fun request ↦ request.safe) hrun hdone
  obtain rfl := List.singleton_inj.1 (hjob.symm.trans hjob')
  rcases (hended response rfl).1 _ hdeleted with ⟨-, hinvalidate⟩ | ⟨_, -, _, _, _, heq, -⟩
  · obtain ⟨before, after, rfl⟩ := List.append_of_mem (mem_callsOf.1 hinvalidate)
    obtain ⟨job, -, hcookie, session, hresolve⟩ :=
      served_allowed hinit (fun request ↦ request.safe) hrun
    obtain ⟨earlier, between, rfl⟩ := List.append_of_mem (mem_callsOf.1 hresolve)
    obtain ⟨t, hbefore, -⟩ := hrun.exists_of_append
    obtain ⟨cookie, hresolved, hsince⟩ := resolved_since hstore hinit hbefore
    obtain ⟨move, hmove, hhandsOut⟩ := hsince.exists_mem
    refine ⟨_, _, after, cookie, session, rfl, hcookie.trans hresolved, fun hkeeps ↦ ?_, move,
      List.mem_append_left _ hmove, hhandsOut⟩
    obtain ⟨error, herror⟩ := hkeeps _ rfl (hcookie.trans hresolved)
    cases herror
  · exact absurd heq (deletedCookie_ne settings _)

/-- **A logout is final**: a request with its cookie that begins after it was answered changes no
ticket, and is shown none. -/
theorem logout_final (hstore : SoundStore store)
    (hinit : (uiRequests store settings packages).init s₀) {before after : UIMoves τ}
    {t : Threads (σ × AccountDatabase) (UICall.Answer (τ := τ)) UIError (UIResponse τ)}
    {thread other : ℕ} {request later : UIRequest τ} {response : UIResponse τ}
    (hfresh : (openedCookies (before ++ after)).Nodup)
    (hbefore : (uiRequests store settings packages).Run s₀ before t)
    (hjob : jobsOf thread before = [request])
    (hdone : t.running thread = some (.done (.ok response)))
    (hdeleted : response.setCookie = some deletedCookie)
    (hafter : (uiRequests store settings packages).Run t after s)
    (hstart : .start other later ∈ after) (hcookie : later.cookie = request.cookie) :
    (∀ answered, .serve other answered ∈ before ++ after → answered.1.change? = none) ∧
      ∀ response page, s.running other = some (.done (.ok response)) →
        response.page = some page → page.context? = none := by
  obtain ⟨first, ended, rest, cookie, session, rfl, hrequest, hended, hgiven⟩ :=
    logout_ended hstore hinit hbefore hjob hdone hdeleted
  have hrun := hbefore.trans hafter
  have hjobs := jobsOf_eq hinit hrun (List.mem_append_right _ hstart)
  obtain ⟨-, hnoCalls⟩ := callsOf_eq_nil hinit hrun hstart
  -- So the request has no session.
  have hnone : ∀ context, ¬later.Accessed (callsOf other ((first ++ ended :: rest) ++ after))
      context := by
    rintro context ⟨-, -, -, -, -, hresolve, -⟩
    rw [callsOf_append, hnoCalls, List.nil_append, hcookie, hrequest] at hresolve
    have hsplit : (first ++ ended :: rest) ++ after = first ++ ended :: (rest ++ after) := by simp
    rw [hsplit] at hrun hfresh
    exact not_resolved_of_ended hstore hinit hfresh hgiven hended hrun other _ _
      (List.mem_append_right _ (mem_callsOf.1 hresolve))
  constructor
  · intro answered hanswered
    obtain ⟨pre, post, hsplit⟩ := List.append_of_mem hanswered
    rw [hsplit] at hrun hjobs hnone
    obtain ⟨job, hjob', hallowed⟩ := served_allowed hinit (fun request ↦ request.safe) hrun
    rw [jobsOf_append, hjob'] at hjobs
    obtain rfl : job = later := (List.cons.inj hjobs).1
    have hpre : ∀ context, ¬job.Accessed (callsOf other pre) context := fun context hcontext ↦ by
      refine hnone context ?_
      rw [callsOf_append]
      exact hcontext.append _
    obtain ⟨asked, reply⟩ := answered
    cases asked with
    | commitAppend =>
      obtain ⟨-, context, -, hcontext, -⟩ := hallowed
      exact absurd hcontext (hpre context)
    | commitTransition =>
      obtain ⟨-, context, -, hcontext, -⟩ := hallowed
      exact absurd hcontext (hpre context)
    | _ => rfl
  · intro response page hdone hpage
    obtain ⟨job, hjob', hends⟩ := ended_allowed hinit (fun request ↦ request.safe) hrun hdone
    obtain rfl : job = later := List.singleton_inj.1 (hjob'.symm.trans hjobs)
    have hshows := (hends response rfl).2 page hpage
    cases page with
    | login | error => rfl
    | tickets context =>
      obtain ⟨-, -, -, hcontext, -⟩ := hshows
      exact absurd hcontext (hnone context)
    | ticketDetail context =>
      obtain ⟨-, hcontext, -⟩ := hshows
      exact absurd hcontext (hnone context)

end Runs

/-! ### A message, and a logout -/

namespace UISample

open SessionSample (anonymousCookie anonymousSession csrfToken)
open AccountSample (ada acme admin packages password passwordHash adaRegistered)

def settings : UISettings :=
  ⟨"production", 30⟩

def store : TransitionSystem (Sessions Instant) (SessionCall Instant × SessionResult Instant) :=
  inMemory SessionSample.hmac SessionSample.store

def form (fields : List (String × String)) : Form :=
  fun name ↦ (fields.lookup name).map .text

def request (cookie : Option String) (second : ℤ) (byte : UInt8) (route : UIRoute) :
    UIRequest Instant :=
  ⟨cookie, seconds second, SessionSample.draw byte (seconds second), route⟩

def loginForm : Form :=
  form [("csrf_token", csrfToken), ("email", ada.email), ("password", password),
    ("organization_slug", "acme")]

def messageForm : Form :=
  form [("csrf_token", csrfToken), ("body", "Hello")]

def opening : UIRequest Instant :=
  request none 0 0 .loginPage

def login : UIRequest Instant :=
  request (some anonymousCookie) 5 1 (.loginSubmit (some loginForm))

def posting : UIRequest Instant :=
  request (some SessionSample.cookie) 6 2
    (.messageSubmit (uuid 20) (some messageForm) ⟨uuid 31, seconds 6⟩)

def reading : UIRequest Instant :=
  request (some SessionSample.cookie) 7 3 (.ticketDetail (uuid 20))

def leaving : UIRequest Instant :=
  request (some SessionSample.cookie) 8 4 (.logout (some messageForm))

def returning : UIRequest Instant :=
  request (some SessionSample.cookie) 9 5 (.ticketDetail (uuid 20))

def ticket : Ticket :=
  ⟨uuid 20, uuid 1, none, .manual, none, "Printer", .opened, 0⟩

/-- The database with this ticket, and with the message. -/
def ticketed : AccountDatabase :=
  { adaRegistered with tickets := .singleton ticket }

def added : AppendRequest :=
  ⟨uuid 1, uuid 20, "Hello", uuid 2⟩

@[inherit_doc ticketed]
def posted : AccountDatabase :=
  { ticketed with toDatabase :=
      (transacted ticketed.toDatabase
        (commitAppend Faults.none added ⟨uuid 31, seconds 6⟩ ticketed.toDatabase)).2 }

def message : TicketMessage :=
  agentMessage (uuid 31) (uuid 1) (uuid 20) (uuid 2) "Hello" (seconds 6)

section Store

variable {hmac : List UInt8 → List UInt8 → Bytes32} {store : SignedBrowserSessionStore}
  {sessions : Sessions Instant} {cookie : Option String} {sessionId : String}

theorem perform_invalidate
    (hverified : SignedBrowserSessionStore.verifiedSessionId hmac store cookie =
      .ok (some sessionId)) :
    InMemoryBrowserSessionStore.perform hmac store (.invalidate cookie) sessions =
      (.invalidated, InMemoryBrowserSessionStore.pop (some sessionId) sessions) := by
  simp only [InMemoryBrowserSessionStore.perform, InMemoryBrowserSessionStore.invalidate,
    hverified, bind, Except.bind, SessionResult.of]

theorem perform_resolve (sessions : Sessions Instant) (now : Instant)
    (hverified : SignedBrowserSessionStore.verifiedSessionId hmac store cookie =
      .ok (some sessionId))
    (hlive : ∀ session, sessions sessionId = some session → now < session.expiresAt) :
    InMemoryBrowserSessionStore.perform hmac store (.resolve cookie now) sessions =
      (.resolved (sessions sessionId), sessions) := by
  simp only [InMemoryBrowserSessionStore.perform, InMemoryBrowserSessionStore.resolve, hverified,
    bind, Except.bind]
  cases hsession : sessions sessionId with
  | none => rfl
  | some session => simp only [if_neg (not_le.2 (hlive session hsession)), SessionResult.of]

end Store

section Alone

variable {sessions sessions' : Sessions Instant} {db : AccountDatabase}

theorem serves_session {asked : SessionCall Instant} {value : asked.Returned}
    (h : store.step sessions (asked, asked.returned value) sessions') :
    UICall.Serves store (sessions, db) (.session asked) (.ok value) (sessions', db) :=
  ⟨h, rfl⟩

theorem alone_askStore {asked : SessionCall Instant} {value : asked.Returned}
    {next : asked.Returned → UIProgram Instant (UIResponse Instant)}
    {calls : List (UIAnswered Instant)} {s : Sessions Instant × AccountDatabase}
    {result : Except UIError (UIResponse Instant)}
    (h : store.step sessions (asked, asked.returned value) sessions')
    (hrest : Alone (uiService store) (sessions', db) (next value) calls s result) :
    Alone (uiService store) (sessions, db) (askStore asked >>= next)
      (⟨.session asked, .ok value⟩ :: calls) s result :=
  .call (serves_session h) hrest

theorem alone_check {decision : Except SessionError Bool} {accepted : Bool}
    {next : Bool → UIProgram Instant (UIResponse Instant)} {calls : List (UIAnswered Instant)}
    {s t : Sessions Instant × AccountDatabase} {result : Except UIError (UIResponse Instant)}
    (h : decision = .ok accepted)
    (hrest : Alone (uiService store) s (next accepted) calls t result) :
    Alone (uiService store) s (check decision >>= next) calls t result := by
  subst h
  exact hrest

theorem verified_cookie : SignedBrowserSessionStore.verifiedSessionId SessionSample.hmac
    SessionSample.store (some SessionSample.cookie) = .ok (some SessionSample.sessionId) := by
  decide +kernel

theorem authenticated_session : SessionSample.authenticated SessionSample.sessionId =
    some (SessionSample.session (seconds 1805)) := by
  decide +kernel

theorem step_resolve {now : Instant} (hnow : now < seconds 1805) :
    store.step SessionSample.authenticated (.resolve (some SessionSample.cookie) now,
      .resolved (some (SessionSample.session (seconds 1805)))) SessionSample.authenticated := by
  have hresolve := perform_resolve SessionSample.authenticated now verified_cookie
    fun session hsession ↦ by
      obtain rfl := Option.some.inj (authenticated_session.symm.trans hsession)
      exact hnow
  rwa [authenticated_session] at hresolve

/-- The sessions after the logout. -/
def loggedOut : Sessions Instant :=
  InMemoryBrowserSessionStore.pop (some SessionSample.sessionId) SessionSample.authenticated

theorem step_leaving : store.step SessionSample.authenticated
    (.invalidate (some SessionSample.cookie), .invalidated) loggedOut :=
  perform_invalidate verified_cookie

theorem step_returning (now : Instant) : store.step loggedOut
    (.resolve (some SessionSample.cookie) now, .resolved none) loggedOut := by
  have hnone : loggedOut SessionSample.sessionId = none := by
    rw [loggedOut, InMemoryBrowserSessionStore.pop, Function.update_self]
  have hresolve := perform_resolve loggedOut now verified_cookie fun session hsession ↦
    absurd (hnone.symm.trans hsession) (Option.some_ne_none session).symm
  rwa [hnone] at hresolve

def context : BrowserOrganizationContext Instant :=
  ⟨SessionSample.session (seconds 1805), ada, acme, admin⟩

/-- What `resolve_browser_context` asks for a request with the cookie of the login. -/
def contextCalls (second : ℤ) : List (UIAnswered Instant) :=
  [⟨.session (.resolve (some SessionSample.cookie) (seconds second)),
      .ok (some (SessionSample.session (seconds 1805)))⟩,
    ⟨.browserContext (uuid 2) (uuid 1), .ok [((ada, admin), acme)]⟩]

/-- A request with the cookie of the login. -/
theorem alone_resolve {second : ℤ} {byte : UInt8} {route : UIRoute}
    (hsecond : seconds second < seconds 1805)
    (hrows : browserContextRows (uuid 2) (uuid 1) db.identity = [((ada, admin), acme)]) :
    Alone (uiService store) (SessionSample.authenticated, db)
      (UIRouter.resolveBrowserContext (request (some SessionSample.cookie) second byte route))
      (contextCalls second) (SessionSample.authenticated, db) (.ok (some context)) := by
  have hserves : UICall.Serves store (SessionSample.authenticated, db)
      (.session (.resolve (some SessionSample.cookie) (seconds second)))
      (.ok (some (SessionSample.session (seconds 1805)))) (SessionSample.authenticated, db) :=
    serves_session (step_resolve hsecond)
  have hfound : UICall.Serves store (SessionSample.authenticated, db)
      (.browserContext (uuid 2) (uuid 1)) (.ok [((ada, admin), acme)])
      (SessionSample.authenticated, db) :=
    queried_ok hrows
  exact .call hserves (.call hfound .done)

end Alone

/-- The calls of the requests. -/
def openingCalls : List (UIAnswered Instant) :=
  [⟨.session (.resolve none 0), .ok none⟩,
    ⟨.session (.createAnonymous none (SessionSample.draw 0 0)),
      .ok (anonymousCookie, anonymousSession (seconds 1800))⟩]

@[inherit_doc openingCalls]
def loginCalls : List (UIAnswered Instant) :=
  [⟨.session (.resolve (some anonymousCookie) (seconds 5)),
      .ok (some (anonymousSession (seconds 1800)))⟩,
    ⟨.userByEmail ada.email, .ok (some (ada, passwordHash))⟩,
    ⟨.loginOrganization "acme" (uuid 2), .ok (some acme)⟩,
    ⟨.session (.authenticate (some anonymousCookie) (uuid 2) (uuid 1)
      (SessionSample.draw 1 (seconds 5))),
      .ok (SessionSample.cookie, SessionSample.session (seconds 1805))⟩]

@[inherit_doc openingCalls]
def postingCalls : List (UIAnswered Instant) :=
  contextCalls 6 ++ [⟨.checkAppend added, .ok ()⟩,
    ⟨.commitAppend added ⟨uuid 31, seconds 6⟩, .ok message⟩]

@[inherit_doc openingCalls]
def readingCalls : List (UIAnswered Instant) :=
  contextCalls 7 ++ [⟨.getTicket (uuid 1) (uuid 20), .ok (some ticket)⟩,
    ⟨.listTicketMessages (uuid 1) (uuid 20), .ok [message]⟩]

@[inherit_doc openingCalls]
def leavingCalls : List (UIAnswered Instant) :=
  contextCalls 8 ++ [⟨.session (.invalidate (some SessionSample.cookie)), .ok ()⟩]

@[inherit_doc openingCalls]
def returningCalls : List (UIAnswered Instant) :=
  [⟨.session (.resolve (some SessionSample.cookie) (seconds 9)), .ok none⟩]

theorem alone_opening : Alone (uiService store) ((fun _ ↦ none), ticketed)
    (handled settings packages opening) openingCalls (SessionSample.opened, ticketed)
    (.ok { templateResponse (.login csrfToken none) 200 with
      setCookie := some (setSessionCookie settings anonymousCookie) }) := by
  have hresolve : UICall.Serves store ((fun _ ↦ none), ticketed) (.session (.resolve none 0))
      (.ok none) ((fun _ ↦ none), ticketed) :=
    ⟨rfl, rfl⟩
  have hcontext : Alone (uiService store) ((fun _ ↦ none), ticketed)
      (UIRouter.resolveBrowserContext opening) [⟨.session (.resolve none 0), .ok none⟩]
      ((fun _ ↦ none), ticketed) (.ok none) :=
    .call hresolve .done
  have hcreate : store.step (fun _ ↦ none) SessionSample.opening SessionSample.opened :=
    SessionSample.step_opening
  exact (hcontext.bind (alone_askStore hcreate .done)).tryCatch

def payload : BrowserLoginRequest :=
  ⟨⟨ada.email, password⟩, "acme"⟩

theorem alone_login : Alone (uiService store) (SessionSample.opened, ticketed)
    (handled settings packages login) loginCalls (SessionSample.authenticated, ticketed)
    (.ok { redirect "/ui/tickets" with
      setCookie := some (setSessionCookie settings SessionSample.cookie) }) := by
  have hpayload : browserLoginRequest packages loginForm = some payload := by decide +kernel
  have hcsrf : loginCsrf (some (anonymousSession (seconds 1800))) (loginForm "csrf_token") =
      .ok true := by decide +kernel
  have hemail : normalizeIdentifier packages payload.email = ada.email := by decide +kernel
  have hverified : SignedBrowserSessionStore.verifiedSessionId SessionSample.hmac
      SessionSample.store (some anonymousCookie) = .ok (some SessionSample.anonymousId) := by
    decide +kernel
  have hopened : SessionSample.opened SessionSample.anonymousId =
      some (anonymousSession (seconds 1800)) := by
    decide +kernel
  have hresolve : store.step SessionSample.opened (.resolve (some anonymousCookie) (seconds 5),
      .resolved (some (anonymousSession (seconds 1800)))) SessionSample.opened := by
    have hresolved := perform_resolve SessionSample.opened (seconds 5) hverified
      fun session hsession ↦ by
        obtain rfl := Option.some.inj (hopened.symm.trans hsession)
        decide
    rwa [hopened] at hresolved
  have hauthenticate : store.step SessionSample.opened SessionSample.loggingIn
      SessionSample.authenticated :=
    SessionSample.step_loggingIn
  refine Alone.tryCatch (alone_askStore hresolve (.bind .done (alone_check hcsrf ?_)))
  rw [if_neg (not_not.2 rfl), hpayload]
  have hrow : userByEmail ada.email ticketed = some (ada, passwordHash) := by decide +kernel
  have huser : UICall.Serves store (SessionSample.opened, ticketed) (.userByEmail ada.email)
      (.ok (some (ada, passwordHash))) (SessionSample.opened, ticketed) :=
    queried_ok hrow
  have hcredentials : checkCredentials packages payload.password (some (ada, passwordHash)) =
      some ada := by
    decide +kernel
  have hmember : loginOrganization "acme" (uuid 2) ticketed = some acme := by decide +kernel
  have horganization : UICall.Serves store (SessionSample.opened, ticketed)
      (.loginOrganization "acme" (uuid 2)) (.ok (some acme)) (SessionSample.opened, ticketed) :=
    queried_ok hmember
  dsimp only
  rw [hemail]
  refine .ask huser ?_
  refine .bind .done ?_
  rw [hcredentials]
  exact .ask horganization (alone_askStore hauthenticate .done)

theorem alone_posting : Alone (uiService store) (SessionSample.authenticated, ticketed)
    (handled settings packages posting) postingCalls (SessionSample.authenticated, posted)
    (.ok (redirect ("/ui/tickets/" ++ (uuid 20).str))) := by
  have hcsrf : validCsrf csrfToken (messageForm "csrf_token") = .ok true := by decide +kernel
  have hbody : strippedText 1 50000 (formText (messageForm "body")) = some "Hello" := by
    decide +kernel
  have hcheck : UICall.Serves store (SessionSample.authenticated, ticketed) (.checkAppend added)
      (.ok ()) (SessionSample.authenticated, ticketed) :=
    ⟨rfl, Faults.none, by decide +kernel⟩
  have hmessage : (transacted ticketed.toDatabase (commitAppend Faults.none added
      ⟨uuid 31, seconds 6⟩ ticketed.toDatabase)).1 = .ok message := by
    decide +kernel
  have hcommit : UICall.Serves store (SessionSample.authenticated, ticketed)
      (.commitAppend added ⟨uuid 31, seconds 6⟩) (.ok message)
      (SessionSample.authenticated, posted) :=
    ⟨rfl, Faults.none, _, Prod.ext hmessage rfl, rfl⟩
  have hcontext : Alone (uiService store) (SessionSample.authenticated, ticketed)
      (UIRouter.resolveBrowserContext posting) (contextCalls 6)
      (SessionSample.authenticated, ticketed) (.ok (some context)) :=
    alone_resolve (by decide) (by decide +kernel)
  refine (hcontext.bind ?_).tryCatch
  refine .bind (a := messageForm) .done (alone_check hcsrf ?_)
  rw [if_neg (not_not.2 rfl), hbody]
  exact .ask hcheck (.ask hcommit .done)

/-- The page of the ticket. -/
def page : UIPage Instant :=
  .ticketDetail context ticket [message] (some .processing)

theorem alone_reading : Alone (uiService store) (SessionSample.authenticated, posted)
    (handled settings packages reading) readingCalls (SessionSample.authenticated, posted)
    (.ok (templateResponse page 200)) := by
  have hfound : getTicket (uuid 1) (uuid 20) posted.toDatabase = some ticket := by decide +kernel
  have hticket : UICall.Serves store (SessionSample.authenticated, posted)
      (.getTicket (uuid 1) (uuid 20)) (.ok (some ticket)) (SessionSample.authenticated, posted) :=
    queried_ok hfound
  have hlisted : listTicketMessages (uuid 1) (uuid 20) posted.toDatabase = [message] := by
    decide +kernel
  have hmessages : UICall.Serves store (SessionSample.authenticated, posted)
      (.listTicketMessages (uuid 1) (uuid 20)) (.ok [message])
      (SessionSample.authenticated, posted) :=
    queried_ok hlisted
  have hcontext : Alone (uiService store) (SessionSample.authenticated, posted)
      (UIRouter.resolveBrowserContext reading) (contextCalls 7)
      (SessionSample.authenticated, posted) (.ok (some context)) :=
    alone_resolve (by decide) (by decide +kernel)
  refine (hcontext.bind ?_).tryCatch
  exact .ask hticket (.ask hmessages .done)

theorem alone_leaving : Alone (uiService store) (SessionSample.authenticated, posted)
    (handled settings packages leaving) leavingCalls (loggedOut, posted)
    (.ok { loginRedirect with setCookie := some deletedCookie }) := by
  have hcsrf : validCsrf csrfToken (messageForm "csrf_token") = .ok true := by decide +kernel
  have hcontext : Alone (uiService store) (SessionSample.authenticated, posted)
      (UIRouter.resolveBrowserContext leaving) (contextCalls 8)
      (SessionSample.authenticated, posted) (.ok (some context)) :=
    alone_resolve (by decide) (by decide +kernel)
  refine (hcontext.bind ?_).tryCatch
  refine .bind (a := messageForm) .done (alone_check hcsrf ?_)
  rw [if_neg (not_not.2 rfl)]
  exact alone_askStore step_leaving .done

theorem alone_returning : Alone (uiService store) (loggedOut, posted)
    (handled settings packages returning) returningCalls (loggedOut, posted)
    (.ok loginRedirect) := by
  have hresolve : UICall.Serves store (loggedOut, posted)
      (.session (.resolve (some SessionSample.cookie) (seconds 9))) (.ok none)
      (loggedOut, posted) :=
    serves_session (step_returning (seconds 9))
  have hcontext : Alone (uiService store) (loggedOut, posted)
      (UIRouter.resolveBrowserContext returning) returningCalls (loggedOut, posted) (.ok none) :=
    .call hresolve .done
  exact (hcontext.bind .done).tryCatch

def started : Threads (Sessions Instant × AccountDatabase) (UICall.Answer (τ := Instant)) UIError
    (UIResponse Instant) :=
  ⟨((fun _ ↦ none), ticketed), fun _ ↦ none⟩

/-- The calls of a request that is answered alone. -/
def answered (thread : ℕ) (request : UIRequest Instant) (calls : List (UIAnswered Instant)) :
    UIMoves Instant :=
  .start thread request :: calls.map (.serve thread)

theorem run_answered {s s' : Sessions Instant × AccountDatabase} {response : UIResponse Instant}
    {running : ℕ → Option (UIProgram Instant (UIResponse Instant))} {request : UIRequest Instant}
    {calls : List (UIAnswered Instant)} (thread : ℕ)
    (h : Alone (uiService store) s (handled settings packages request) calls s' (.ok response))
    (free : running thread = none) :
    (uiRequests store settings packages).Run ⟨s, running⟩ (answered thread request calls)
      ⟨s', Function.update running thread (some (.done (.ok response)))⟩ :=
  h.run free

/-- The requests up to the login. -/
def loginMoves : UIMoves Instant :=
  answered 0 opening openingCalls ++ answered 1 login loginCalls

/-- The requests up to the logout. -/
def moves : UIMoves Instant :=
  loginMoves ++ (answered 2 posting postingCalls ++ (answered 3 reading readingCalls ++
    answered 4 leaving leavingCalls))

/-- The threads after the logout. -/
def left : ℕ → Option (UIProgram Instant (UIResponse Instant)) :=
  Function.update (Function.update (Function.update (Function.update (Function.update
    started.running
    0 (some (.done (.ok { templateResponse (.login csrfToken none) 200 with
      setCookie := some (setSessionCookie settings anonymousCookie) }))))
    1 (some (.done (.ok { redirect "/ui/tickets" with
      setCookie := some (setSessionCookie settings SessionSample.cookie) }))))
    2 (some (.done (.ok (redirect ("/ui/tickets/" ++ (uuid 20).str))))))
    3 (some (.done (.ok (templateResponse page 200)))))
    4 (some (.done (.ok { loginRedirect with setCookie := some deletedCookie })))

theorem init_started : (uiRequests store settings packages).init started :=
  ⟨rfl, fun _ ↦ rfl⟩

theorem sound_store : SoundStore store :=
  inMemory_sound

theorem run_moves : (uiRequests store settings packages).Run started moves
    ⟨(loggedOut, posted), left⟩ :=
  ((run_answered 0 alone_opening rfl).trans (run_answered 1 alone_login rfl)).trans <|
    (run_answered 2 alone_posting rfl).trans <| (run_answered 3 alone_reading rfl).trans
      (run_answered 4 alone_leaving rfl)

theorem run_returning : (uiRequests store settings packages).Run ⟨(loggedOut, posted), left⟩
    (answered 5 returning returningCalls)
    ⟨(loggedOut, posted), Function.update left 5 (some (.done (.ok loginRedirect)))⟩ :=
  run_answered 5 alone_returning rfl

theorem openedCookies_moves : openedCookies (moves ++ answered 5 returning returningCalls) =
    [anonymousCookie, SessionSample.cookie] :=
  rfl

/-- Ada's message, up to its commit. -/
def beforeCommit : UIMoves Instant :=
  loginMoves ++ [.start 2 posting] ++ (contextCalls 6).map (.serve 2) ++
    [.serve 2 ⟨.checkAppend added, .ok ()⟩]

theorem changes_accountable_sample : ∃ request form session checked,
    jobsOf 2 beforeCommit = [request] ∧
      request.route.AsksFor form (.commitAppend added ⟨uuid 31, seconds 6⟩ : UICall Instant) ∧
      form "csrf_token" = some (.text session.csrfToken) ∧
      ActsFor store settings packages started beforeCommit 2 request session ada.id acme.id ∧
      UIMet store settings packages started beforeCommit 2 checked fun db ↦
        (.commitAppend added ⟨uuid 31, seconds 6⟩ : UICall Instant).MayFollow db.toDatabase := by
  have hrun : (uiRequests store settings packages).Run started
      (beforeCommit ++ .serve 2 ⟨.commitAppend added ⟨uuid 31, seconds 6⟩, .ok message⟩ ::
        (answered 3 reading readingCalls ++ answered 4 leaving leavingCalls))
      ⟨(loggedOut, posted), left⟩ :=
    run_moves
  exact changes_accountable sound_store init_started rfl hrun

theorem pages_confined_sample : page.Confined acme.id ∧ ∃ request,
    jobsOf 3 moves = [request] ∧
      ActsFor store settings packages started moves 3 request context.session ada.id acme.id := by
  have hdone : left 3 = some (.done (.ok (templateResponse page 200))) := rfl
  have hcontext : page.context? = some context := rfl
  exact pages_confined sound_store init_started run_moves hdone rfl hcontext

/-- What comes back after the logout is shown nothing. -/
theorem logout_final_sample :
    (∀ answered, .serve 5 answered ∈ moves ++ UISample.answered 5 returning returningCalls →
      answered.1.change? = none) ∧
    ∀ response page, Function.update left 5 (some (.done (.ok loginRedirect))) 5 =
      some (.done (.ok response)) → response.page = some page → page.context? = none := by
  have hfresh : (openedCookies (moves ++ answered 5 returning returningCalls)).Nodup := by
    rw [openedCookies_moves]
    decide +kernel
  have hdone : left 4 = some (.done (.ok { loginRedirect with setCookie := some deletedCookie })) :=
    rfl
  have hjob : jobsOf 4 moves = [leaving] := rfl
  have hstart : .start 5 returning ∈ answered 5 returning returningCalls := List.mem_cons_self ..
  exact logout_final sound_store init_started hfresh run_moves hjob hdone rfl run_returning hstart
    rfl

end UISample

end SupportFlow
