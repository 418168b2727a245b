import Mathlib
import SupportFlow.Foundations.Links
import SupportFlow.Foundations.Queue
import SupportFlow.Foundations.Urlencoded
import SupportFlow.Tenancy.Access

/-!
# The pages of the ticket list

`ticket_list_page` shows a page of an organization's tickets with a link to the page before it and
one to the page after it. A link is an address that `ticket_list_url` writes, and the next request
reads its parameters back from it.

How the framework reads a number and an identifier from a text is a parameter; that it reads what
`str` writes is what is assumed of it (`ReadsBack`). Then an address is read back as the parameters
it was written from (`requestParams_ticketListUrl`).

The two queries of `list_tickets` select the same rows, and the order tells any two tickets apart,
so a page is a segment of one list (`matchingTickets`) and the count is its length
(`listTickets_eq_queue`). Following the next links therefore shows that list (`ticket_list_pages`),
and following the previous ones counts the offset down.
-/

namespace SupportFlow

open Python TicketRepository

/-! ### Addresses -/

/-- The parameters of a listing. -/
structure TicketListParams where
  limit : ℤ
  offset : ℤ
  filters : TicketFilters
  deriving DecidableEq, Repr

/-- The query of `ticket_list_url`. -/
def TicketListParams.query (params : TicketListParams) : List (String × String) :=
  [("limit", params.limit.repr), ("offset", (max 0 params.offset).repr)] ++
    (params.filters.ticketStatus.map fun status ↦ ("status", status.value)).toList ++
    (params.filters.sourceType.map fun type ↦ ("source_type", type.value)).toList ++
    (params.filters.customerId.map fun id ↦ ("customer_id", id.str)).toList

/-- `ticket_list_url`. -/
def ticketListUrl (params : TicketListParams) : String :=
  "/ui/tickets?" ++ urlencode params.query

/-- The status of a stored value. -/
def TicketStatus.ofValue? (value : String) : Option TicketStatus :=
  [opened, processing, waitingForAgent, resolved, closed].find? fun status ↦ status.value = value

/-- The source type of a stored value. -/
def TicketSourceType.ofValue? (value : String) : Option TicketSourceType :=
  [manual, api].find? fun type ↦ type.value = value

/-- A parameter of a request: the last value under its name, or the default. -/
def queryParam {α : Type} (name : String) (default : α) (read : String → Option α)
    (query : List (String × String)) : Option α :=
  match query.reverse.lookup name with
  | none => some default
  | some text => read text

section Requests

variable (readInt : String → Option ℤ) (readUuid : String → Option UUID)

/-- The parameters of a request, with their bounds. -/
def requestParams (url : String) : Option TicketListParams := do
  let query ← parseQsl (String.ofList ((url.toList.dropWhile (· ≠ '?')).drop 1))
  let limit ← queryParam "limit" 20 readInt query
  let offset ← queryParam "offset" 0 readInt query
  let ticketStatus ←
    queryParam "status" none (fun text ↦ (TicketStatus.ofValue? text).map some) query
  let sourceType ←
    queryParam "source_type" none (fun text ↦ (TicketSourceType.ofValue? text).map some) query
  let customerId ← queryParam "customer_id" none (fun text ↦ (readUuid text).map some) query
  if 1 ≤ limit ∧ limit ≤ 100 ∧ 0 ≤ offset then
    some ⟨limit, offset, ⟨ticketStatus, sourceType, customerId⟩⟩
  else none

/-- What the template of the list is given. -/
structure TicketListPage where
  tickets : List Ticket
  limit : ℤ
  offset : ℤ
  total : ℕ
  filters : TicketFilters
  previousUrl : Option String
  nextUrl : Option String
  deriving DecidableEq, Repr

inductive TicketListResponse
  /-- A parameter did not pass its check. -/
  | unprocessable
  | loginRedirect
  | page (page : TicketListPage)
  deriving DecidableEq, Repr

/-- `ticket_list_page`, with its parameters. -/
def ticketListPage {τ : Type} (context : Option (BrowserOrganizationContext τ))
    (params : TicketListParams) (db : Database) : TicketListResponse :=
  match context with
  | none => .loginRedirect
  | some context =>
    let page := listTickets context.organization.id params.limit.toNat params.offset.toNat
      params.filters db
    .page
      { tickets := page.items
        limit := params.limit
        offset := params.offset
        total := page.total
        filters := params.filters
        previousUrl :=
          if 0 < params.offset then
            some (ticketListUrl { params with offset := params.offset - params.limit })
          else none
        nextUrl :=
          if params.offset + params.limit < page.total then
            some (ticketListUrl { params with offset := params.offset + params.limit })
          else none }

/-- A request for an address. -/
def getTicketList {τ : Type} (context : Option (BrowserOrganizationContext τ)) (db : Database)
    (url : String) : TicketListResponse :=
  match requestParams readInt readUuid url with
  | none => .unprocessable
  | some params => ticketListPage context params db

end Requests

/-- The page of a response. -/
def TicketListResponse.page? : TicketListResponse → Option TicketListPage
  | page shown => some shown
  | unprocessable | loginRedirect => none

/-! ### Addresses are read back -/

/-- The framework reads what `str` writes. -/
structure ReadsBack (readInt : String → Option ℤ) (readUuid : String → Option UUID) : Prop where
  int : ∀ n : ℤ, readInt n.repr = some n
  uuid : ∀ u : UUID, readUuid u.str = some u

theorem TicketStatus.ofValue?_value (status : TicketStatus) :
    TicketStatus.ofValue? status.value = some status := by
  cases status <;> decide

theorem TicketSourceType.ofValue?_value (type : TicketSourceType) :
    TicketSourceType.ofValue? type.value = some type := by
  cases type <;> decide

section ReadBack

variable {readInt : String → Option ℤ} {readUuid : String → Option UUID}

/-- The query of an address is what follows its first question mark. -/
theorem query_ticketListUrl (params : TicketListParams) :
    parseQsl (String.ofList (((ticketListUrl params).toList.dropWhile (· ≠ '?')).drop 1)) =
      some params.query := by
  have hpath : ("/ui/tickets?" : String).toList = "/ui/tickets".toList ++ ['?'] := rfl
  have hnone : ∀ c ∈ "/ui/tickets".toList, decide (c ≠ '?') = true :=
    List.all_eq_true.1 (by decide)
  rw [ticketListUrl, String.toList_append, hpath, List.append_assoc,
    List.dropWhile_append_of_pos hnone, List.singleton_append,
    List.dropWhile_cons_of_neg (by simp), List.drop_one, List.tail_cons, String.ofList_toList,
    parseQsl_urlencode]

/-- An optional item is found under its own name. -/
theorem lookup_optional {α : Type} (name : String) (value : α → String) (o : Option α)
    (key : String) :
    List.lookup key (o.map fun a ↦ (name, value a)).toList.reverse =
      if key = name then o.map value else none := by
  cases o with
  | none => simp
  | some a => rcases eq_or_ne key name with rfl | hne <;> simp [*]

/-- What the query of an address has under each name. -/
theorem lookup_query (params : TicketListParams) :
    params.query.reverse.lookup "limit" = some params.limit.repr ∧
      params.query.reverse.lookup "offset" = some (max 0 params.offset).repr ∧
      params.query.reverse.lookup "status" =
        params.filters.ticketStatus.map TicketStatus.value ∧
      params.query.reverse.lookup "source_type" =
        params.filters.sourceType.map TicketSourceType.value ∧
      params.query.reverse.lookup "customer_id" = params.filters.customerId.map UUID.str := by
  simp only [TicketListParams.query, List.reverse_append, List.lookup_append, lookup_optional]
  refine ⟨?_, ?_, ?_, ?_, ?_⟩ <;> simp [List.lookup]

section QueryParam

variable {α : Type} {name : String} {query : List (String × String)}

theorem queryParam_of_lookup {text : String} (h : query.reverse.lookup name = some text)
    (default : α) (read : String → Option α) : queryParam name default read query = read text := by
  rw [queryParam, h]

/-- A filter is read back from its value. -/
theorem queryParam_filter {value : α → String} {read : String → Option α}
    (hread : ∀ a, read (value a) = some a) {o : Option α}
    (h : query.reverse.lookup name = o.map value) :
    queryParam name none (fun text ↦ (read text).map some) query = some o := by
  cases o with
  | none => rw [queryParam, h, Option.map_none]
  | some a => rw [queryParam_of_lookup h, hread, Option.map_some]

end QueryParam

/-- **An address is read back as the parameters it was written from**, with an offset below zero
raised to zero. -/
theorem requestParams_ticketListUrl (hread : ReadsBack readInt readUuid)
    {params : TicketListParams} (hlimit : 1 ≤ params.limit ∧ params.limit ≤ 100) :
    requestParams readInt readUuid (ticketListUrl params) =
      some { params with offset := max 0 params.offset } := by
  obtain ⟨hlimitText, hoffsetText, hstatus, htype, hcustomer⟩ := lookup_query params
  have hlimitRead : queryParam "limit" 20 readInt params.query = some params.limit :=
    (queryParam_of_lookup hlimitText 20 readInt).trans (hread.int _)
  have hoffsetRead : queryParam "offset" 0 readInt params.query = some (max 0 params.offset) :=
    (queryParam_of_lookup hoffsetText 0 readInt).trans (hread.int _)
  have hbounds : 1 ≤ params.limit ∧ params.limit ≤ 100 ∧ 0 ≤ max 0 params.offset :=
    ⟨hlimit.1, hlimit.2, le_max_left 0 params.offset⟩
  unfold requestParams
  rw [query_ticketListUrl]
  simp only [Option.bind_eq_bind, Option.bind_some, hlimitRead, hoffsetRead,
    queryParam_filter TicketStatus.ofValue?_value hstatus,
    queryParam_filter TicketSourceType.ofValue?_value htype,
    queryParam_filter hread.uuid hcustomer]
  exact if_pos hbounds

end ReadBack

/-! ### Pages are segments of one list -/

/-- `ORDER BY created_at DESC, id DESC`. -/
def Ticket.NewerFirst (a b : Ticket) : Prop :=
  b.createdAt < a.createdAt ∨ a.createdAt = b.createdAt ∧ b.id ≤ a.id

instance : DecidableRel Ticket.NewerFirst :=
  fun _ _ ↦ inferInstanceAs (Decidable (_ ∨ _))

theorem orders_newerFirst : Table.Orders Ticket.NewerFirst :=
  Table.orders_newest Ticket.createdAt Ticket.id fun _ _ ↦ id

/-- The tickets of an organization that pass the filters, newest first. -/
def matchingTickets (organizationId : UUID) (filters : TicketFilters) (db : Database) :
    List Ticket :=
  db.tickets.queue Ticket.NewerFirst (filters.admits organizationId)

/-- **A page is a segment of the matching tickets**, and the separate count is their number. -/
theorem listTickets_eq_queue (organizationId : UUID) (limit offset : ℕ) (filters : TicketFilters)
    (db : Database) :
    listTickets organizationId limit offset filters db =
      ⟨((matchingTickets organizationId filters db).drop offset).take limit,
        (matchingTickets organizationId filters db).length⟩ := by
  rw [matchingTickets, Table.queue, List.length_insertionSort]
  rfl

section Pages

variable (readInt : String → Option ℤ) (readUuid : String → Option UUID) {τ : Type}
  (context : BrowserOrganizationContext τ) (db : Database)

/-- The page that a request shows, if it shows one. -/
def shownPage (url : String) : Option TicketListPage :=
  (getTicketList readInt readUuid (some context) db url).page?

variable {readInt readUuid context db} {params : TicketListParams} {url : String}
  {page : TicketListPage}

theorem bounds_of_requestParams (h : requestParams readInt readUuid url = some params) :
    1 ≤ params.limit ∧ params.limit ≤ 100 ∧ 0 ≤ params.offset := by
  unfold requestParams at h
  simp only [Option.bind_eq_bind, Option.bind_eq_some_iff] at h
  obtain ⟨_, _, limit, _, offset, _, _, _, _, _, _, _, h⟩ := h
  split at h
  · next hbounds =>
    obtain rfl := Option.some.inj h
    exact hbounds
  · cases h

/-- A page shows the parameters it was asked with, and is a segment of the matching tickets. -/
theorem shownPage_eq_some (h : shownPage readInt readUuid context db url = some page) :
    1 ≤ page.limit ∧ page.limit ≤ 100 ∧ 0 ≤ page.offset ∧
      ticketListPage (some context) ⟨page.limit, page.offset, page.filters⟩ db = .page page := by
  unfold shownPage getTicketList at h
  split at h
  · cases h
  · next params hparams =>
    obtain ⟨hone, hhundred, hoffset⟩ := bounds_of_requestParams hparams
    obtain rfl := Option.some.inj h
    exact ⟨hone, hhundred, hoffset, rfl⟩

/-- The page of an address. -/
theorem shownPage_ticketListUrl (hread : ReadsBack readInt readUuid)
    (hlimit : 1 ≤ params.limit ∧ params.limit ≤ 100) :
    shownPage readInt readUuid context db (ticketListUrl params) =
      (ticketListPage (some context) { params with offset := max 0 params.offset } db).page? := by
  rw [shownPage, getTicketList, requestParams_ticketListUrl hread hlimit]

/-- **One step back**: there is a previous link exactly above the offset zero, and it leads to a
page of a smaller offset, with the same limit and filters. -/
theorem previous_page (hread : ReadsBack readInt readUuid)
    (h : shownPage readInt readUuid context db url = some page) :
    (page.previousUrl = none ↔ page.offset = 0) ∧
      ∀ url', page.previousUrl = some url' →
        ∃ page', shownPage readInt readUuid context db url' = some page' ∧
          page'.offset < page.offset ∧ 0 ≤ page'.offset ∧ page'.limit = page.limit ∧
            page'.filters = page.filters := by
  obtain ⟨hone, hhundred, hoffset, hpage⟩ := shownPage_eq_some h
  have hprevious : (if 0 < page.offset then
      some (ticketListUrl ⟨page.limit, page.offset - page.limit, page.filters⟩) else none) =
        page.previousUrl :=
    congrArg TicketListPage.previousUrl (TicketListResponse.page.inj hpage)
  rw [← hprevious]
  constructor
  · rw [ite_eq_right_iff]
    constructor
    · intro hnone
      by_contra hne
      cases hnone (by omega)
    · intro hzero hpos
      omega
  · intro url' hurl
    split at hurl
    · next hpos =>
      obtain rfl := Option.some.inj hurl
      refine ⟨_, shownPage_ticketListUrl hread ⟨hone, hhundred⟩, ?_, le_max_left _ _, rfl, rfl⟩
      show max 0 (page.offset - page.limit) < page.offset
      omega
    · cases hurl

/-- **One step forward**: a page shows the segment at its offset, and links to the offset after it
while there are more. -/
theorem next_page (hread : ReadsBack readInt readUuid) {filters : TicketFilters} {limit : ℕ}
    (hlimit : 1 ≤ limit ∧ limit ≤ 100) {offset : ℕ}
    (h : shownPage readInt readUuid context db (ticketListUrl ⟨limit, offset, filters⟩) =
      some page) :
    page.tickets = ((matchingTickets context.organization.id filters db).drop offset).take limit ∧
      page.nextUrl =
        (if offset + limit < (matchingTickets context.organization.id filters db).length then
          some (ticketListUrl ⟨limit, ((offset + limit : ℕ) : ℤ), filters⟩) else none) ∧
      page.total = (matchingTickets context.organization.id filters db).length ∧
      page.limit = limit ∧ page.offset = offset ∧ page.filters = filters := by
  rw [shownPage_ticketListUrl hread (by simpa using hlimit)] at h
  obtain rfl := Option.some.inj h
  have hmax : max 0 (offset : ℤ) = offset := max_eq_right (Int.natCast_nonneg offset)
  dsimp only
  rw [listTickets_eq_queue, hmax, Int.toNat_natCast, Int.toNat_natCast]
  refine ⟨rfl, ?_, rfl, rfl, rfl, rfl⟩
  simp only [← Nat.cast_add, Nat.cast_lt]

/-- **Pagination loses and repeats nothing.** The links from the first page end, and their pages put
together are the matching tickets, each once, newest first; every page counts all of them, and keeps
the limit and the filters. From any page the previous links lead to smaller offsets, never below
zero, and end where no previous link is offered, at the offset zero. -/
theorem ticket_list_pages (hread : ReadsBack readInt readUuid)
    (context : BrowserOrganizationContext τ) (db : Database) (filters : TicketFilters) {limit : ℕ}
    (hlimit : 1 ≤ limit ∧ limit ≤ 100) :
    ((matchingTickets context.organization.id filters db).Perm
        (db.tickets.rows.filter (filters.admits context.organization.id)) ∧
      (matchingTickets context.organization.id filters db).Nodup ∧
      (matchingTickets context.organization.id filters db).Pairwise Ticket.NewerFirst) ∧
    (∃ pages, Walk (shownPage readInt readUuid context db) TicketListPage.nextUrl
        (ticketListUrl ⟨limit, 0, filters⟩) pages ∧
      (∀ pages', Walk (shownPage readInt readUuid context db) TicketListPage.nextUrl
        (ticketListUrl ⟨limit, 0, filters⟩) pages' → pages' = pages) ∧
      pages.flatMap TicketListPage.tickets =
        matchingTickets context.organization.id filters db ∧
      ∀ page ∈ pages,
        page.total = (matchingTickets context.organization.id filters db).length ∧
          page.limit = limit ∧ page.filters = filters) ∧
    ∀ url page, shownPage readInt readUuid context db url = some page →
      0 ≤ page.offset ∧ (page.previousUrl = none ↔ page.offset = 0) ∧
      (∀ url', page.previousUrl = some url' →
        ∃ page', shownPage readInt readUuid context db url' = some page' ∧
          page'.offset < page.offset ∧ 0 ≤ page'.offset ∧ page'.limit = page.limit ∧
            page'.filters = page.filters) ∧
      ∃ pages, Walk (shownPage readInt readUuid context db) TicketListPage.previousUrl url
        pages := by
  refine ⟨⟨List.perm_insertionSort _ _, Table.nodup_queue, Table.pairwise_queue orders_newerFirst⟩,
    ?_, fun url page h ↦ ?_⟩
  · have hget (offset : ℕ) : ∃ page, shownPage readInt readUuid context db
        (ticketListUrl ⟨limit, offset, filters⟩) = some page :=
      ⟨_, shownPage_ticketListUrl hread (by simpa using hlimit)⟩
    have hlinked : ∀ url page url', (∃ offset : ℕ, url = ticketListUrl ⟨limit, offset, filters⟩) →
        shownPage readInt readUuid context db url = some page → page.nextUrl = some url' →
          ∃ offset : ℕ, url' = ticketListUrl ⟨limit, offset, filters⟩ ∧ page.offset < offset ∧
            offset < page.total := by
      rintro url page url' ⟨offset, rfl⟩ hurl hlink
      obtain ⟨-, hnext, htotal, -, hoffset, -⟩ := next_page hread hlimit hurl
      rw [hlink] at hnext
      split at hnext
      · next hmore =>
        refine ⟨offset + limit, Option.some.inj hnext, ?_, by rw [htotal]; exact hmore⟩
        rw [hoffset]
        omega
      · cases hnext
    obtain ⟨first, hfirst⟩ := hget 0
    -- The tickets after the offset get fewer.
    obtain ⟨pages, hwalk⟩ := exists_walk
      (I := fun url ↦ ∃ offset : ℕ, url = ticketListUrl ⟨limit, offset, filters⟩)
      (fun page ↦ page.total - page.offset.toNat)
      (fun url page url' hurl hpage hlink ↦ by
        obtain ⟨offset, rfl, hlt, htotal⟩ := hlinked url page url' hurl hpage hlink
        obtain ⟨page', hpage'⟩ := hget offset
        obtain ⟨start, rfl⟩ := hurl
        obtain ⟨-, -, hcount, -, hoffset, -⟩ := next_page hread hlimit hpage
        obtain ⟨-, -, hcount', -, hoffset', -⟩ := next_page hread hlimit hpage'
        exact ⟨⟨offset, rfl⟩, page', hpage', by omega⟩)
      ⟨0, rfl⟩ hfirst
    refine ⟨pages, hwalk, fun pages' hwalk' ↦ hwalk'.unique hwalk, ?_, ?_⟩
    · have hpages (offset : ℕ) (page : TicketListPage)
          (hpage : shownPage readInt readUuid context db
            (ticketListUrl ⟨limit, offset, filters⟩) = some page) :=
        (next_page hread hlimit hpage).imp_right And.left
      exact Walk.flatMap_eq_drop hpages hwalk
    · refine hwalk.forall_mem (I := fun url ↦ ∃ offset : ℕ, url = ticketListUrl
        ⟨limit, offset, filters⟩) ⟨0, rfl⟩ ?_ fun url page url' hurl hpage hlink ↦ ?_
      · rintro url page ⟨offset, rfl⟩ hpage
        obtain ⟨-, -, htotal, hpagelimit, -, hfilters⟩ := next_page hread hlimit hpage
        exact ⟨htotal, hpagelimit, hfilters⟩
      · obtain ⟨offset, heq, -⟩ := hlinked url page url' hurl hpage hlink
        exact ⟨offset, heq⟩
  · obtain ⟨-, -, hoffset, -⟩ := shownPage_eq_some h
    obtain ⟨hnone, hsome⟩ := previous_page hread h
    refine ⟨hoffset, hnone, hsome,
      exists_walk (I := fun _ ↦ True) (fun page ↦ page.offset.toNat) ?_ trivial h⟩
    intro url page url' _ hurl hlink
    obtain ⟨page', hpage', hlt, hle, -⟩ := (previous_page hread hurl).2 url' hlink
    exact ⟨trivial, page', hpage', by omega⟩

end Pages

/-- The numbers and the identifiers that `str` writes are read back. -/
theorem readsBack_toInt : ReadsBack String.toInt? UUID.parse? :=
  ⟨Int.toInt?_repr, UUID.parse?_str⟩

/-- Two tickets of one instant, and one of another organization. -/
def Sample.listed : Database :=
  { Sample.staffed with
    tickets := ⟨[⟨uuid 10, uuid 1, none, .manual, none, "first", .opened, 0⟩,
      ⟨uuid 11, uuid 1, none, .api, none, "second", .opened, 0⟩,
      ⟨uuid 12, uuid 3, none, .manual, none, "other", .opened, 0⟩], by decide⟩ }

/-- The agent, signed in. -/
def Sample.agentContext : BrowserOrganizationContext Instant :=
  ⟨⟨"id", some (uuid 2), some (uuid 1), "csrf", 0⟩, ⟨uuid 2, "agent@example.test", .active⟩,
    ⟨uuid 1, .active⟩, ⟨uuid 1, uuid 2, .agent, .active⟩⟩

theorem ticket_list_pages_sample :
    ∃ pages, Walk (shownPage String.toInt? UUID.parse? Sample.agentContext Sample.listed)
      TicketListPage.nextUrl (ticketListUrl ⟨1, 0, ⟨some .opened, none, none⟩⟩) pages ∧
        pages.flatMap TicketListPage.tickets =
          [⟨uuid 11, uuid 1, none, .api, none, "second", .opened, 0⟩,
            ⟨uuid 10, uuid 1, none, .manual, none, "first", .opened, 0⟩] := by
  obtain ⟨-, ⟨pages, hwalk, -, htickets, -⟩, -⟩ :=
    ticket_list_pages readsBack_toInt Sample.agentContext Sample.listed
      ⟨some .opened, none, none⟩ (show 1 ≤ 1 ∧ 1 ≤ 100 by decide)
  exact ⟨pages, hwalk, htickets.trans (by decide +kernel)⟩

end SupportFlow
