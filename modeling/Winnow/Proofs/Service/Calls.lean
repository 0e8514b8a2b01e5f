/-
# `Calls` — which requests make a call, and what the call says of the request

A call is made for a request that is accepted (`Request.IsAccepted`) and for no other, and all that
it takes from the request is the id of the form and the page.  The page goes into the query of the
call in one spelling, so that the clauses, the spelling of the request, its headers and fields that
nobody asked for are left behind (`calls_depend_on_page_only`), and so that the query of a call,
asked again, leads to the same call (`forwarded_query_is_canonical`).
-/
import Winnow.Proofs.Service.Exchange

namespace Winnow

open Text

/-! ## Requests that are accepted -/

/-- The request asks for a page of a form, and its clauses and its page are read. -/
structure Request.IsAccepted [Limits] (r : Request) (formId : List Char) (cs : List Clause)
    (q : PageQuery) : Prop extends r.AsksFor formId where
  clauses : HoldsClauses (App.filterField r.query) cs
  page : PageQuery.read? (Form.read r.query) = some q

namespace App

theorem formId_unique {r : Request} {formId formId' : List Char} (h : r.AsksFor formId)
    (h' : r.AsksFor formId') : formId' = formId := by
  cases h.route.symm.trans h'.route
  rfl

section

variable [Present] [Limits] {app : App} {r : Request} {reply : Reply} {formId : List Char}
  {cs : List Clause} {q : PageQuery} {call : Call}

theorem dispatch_of_isAccepted (app : App) (reply : Reply) (h : r.IsAccepted formId cs q) :
    app.dispatch r reply = app.requestPage r formId q cs reply := by
  rw [dispatch_of_asksFor h.toAsksFor, filteredResponses_of_holds h.clauses h.page]

theorem handle_of_isAccepted (app : App) (reply : Reply) (h : r.IsAccepted formId cs q) :
    (app.handle r reply).SameUpToHeaders (app.requestPage r formId q cs reply) := by
  have hsame := handle_of_asksFor app reply h.toAsksFor
  rwa [filteredResponses_of_holds h.clauses h.page] at hsame

/-- A query is read, or else it is refused regardless of the service and of the reply. -/
theorem filteredResponses_cases (r : Request) (formId : List Char) :
    (∃ cs q, HoldsClauses (filterField r.query) cs ∧
      PageQuery.read? (Form.read r.query) = some q) ∨
      ∃ a, ∀ (app : App) (reply : Reply), app.filteredResponses r formId reply = ⟨a, []⟩ := by
  cases hcs : Clause.readField (Form.value? (Form.read r.query) "filters") with
  | error fault =>
      cases fault with
      | invalid => exact Or.inr ⟨invalidQuery, fun _ _ => by simp only [filteredResponses, hcs]⟩
      | _ => exact Or.inr ⟨internalError, fun _ _ => by simp only [filteredResponses, hcs]⟩
  | ok cs =>
      cases hq : PageQuery.read? (Form.read r.query) with
      | none =>
          exact Or.inr ⟨logged r invalidQuery, fun _ _ => by
            simp only [filteredResponses, hcs, hq]⟩
      | some q => exact Or.inl ⟨cs, q, readField_eq_ok_iff.mp hcs, rfl⟩

/-- Requests for anything else are answered from the settings alone. -/
theorem dispatch_of_not_asksFor (h : ¬ ∃ formId, r.AsksFor formId) :
    (app.dispatch r reply).calls = [] ∧ ∀ (app' : App) (reply' : Reply),
      app'.settings = app.settings → app'.dispatch r reply' = app.dispatch r reply := by
  unfold dispatch
  split
  · next route hroute =>
    split
    · exact ⟨rfl, fun _ _ _ => rfl⟩
    · next hmethod =>
      cases route with
      | health =>
          refine ⟨rfl, fun app' _ hsettings => ?_⟩
          dsimp only
          rw [health, health, hsettings]
      | responses formId => exact absurd ⟨formId, not_not.mp hmethod, hroute⟩ h
  · split
    · exact ⟨rfl, fun _ _ _ => rfl⟩
    · exact ⟨rfl, fun _ _ _ => rfl⟩

/-- So are those that are refused, and neither makes a call. -/
theorem dispatch_of_not_isAccepted (h : ¬ ∃ formId cs q, r.IsAccepted formId cs q) :
    (app.dispatch r reply).calls = [] ∧ ∀ (app' : App) (reply' : Reply),
      app'.settings = app.settings → app'.dispatch r reply' = app.dispatch r reply := by
  by_cases hasks : ∃ formId, r.AsksFor formId
  · obtain ⟨formId, hr⟩ := hasks
    rcases filteredResponses_cases r formId with ⟨cs, q, hcs, hq⟩ | ⟨a, ha⟩
    · exact absurd ⟨formId, cs, q, hr, hcs, hq⟩ h
    · refine ⟨?_, fun app' reply' _ => ?_⟩
      · rw [dispatch_of_asksFor hr, ha]
      · rw [dispatch_of_asksFor hr, dispatch_of_asksFor hr, ha, ha]
  · exact dispatch_of_not_asksFor hasks

/-- The calls of an exchange are those made regardless of the origin. -/
theorem mem_calls_dispatch (h : call ∈ (app.handle r reply).calls) :
    call ∈ (app.dispatch r reply).calls := by
  unfold handle at h
  split at h
  · exact h
  · split at h
    · cases h
    · dsimp only at h
      split at h
      · exact h
      · exact h

theorem calls_requestPage (h : app.closed = false) :
    (app.requestPage r formId q cs reply).calls = (app.call? formId q).toList := by
  unfold requestPage
  rw [h]
  cases app.call? formId q <;> rfl

/-- A request that is accepted makes the call for its page. -/
theorem calls_of_isAccepted (reply : Reply) (hopen : app.closed = false)
    (h : r.IsAccepted formId cs q) : (app.handle r reply).calls = (app.call? formId q).toList :=
  (handle_of_isAccepted app reply h).calls.trans (calls_requestPage hopen)

/-- A call is only made for a request that is accepted, while the service is open. -/
theorem isAccepted_of_mem_calls (h : call ∈ (app.handle r reply).calls) :
    ∃ formId cs q, r.IsAccepted formId cs q ∧ app.closed = false ∧
      app.call? formId q = some call := by
  have hdispatch := mem_calls_dispatch h
  by_cases haccepted : ∃ formId cs q, r.IsAccepted formId cs q
  · obtain ⟨formId, cs, q, haccepted⟩ := haccepted
    have hopen : app.closed = false := by
      rw [dispatch_of_isAccepted app reply haccepted, requestPage] at hdispatch
      cases hclosed : app.closed with
      | false => rfl
      | true =>
          rw [hclosed] at hdispatch
          cases hdispatch
    rw [calls_of_isAccepted reply hopen haccepted, Option.mem_toList] at h
    exact ⟨formId, cs, q, haccepted, hopen, h⟩
  · rw [(dispatch_of_not_isAccepted haccepted).1] at hdispatch
    cases hdispatch

end

end App

/-! ## The query of a call -/

namespace Call

/-- The query of a call. -/
def query (call : Call) : String := String.ofList ((cutAt '?' call.target.toList).2.getD [])

/-- The fields in the query of a call. -/
def fields (call : Call) : Form.Fields := Form.read call.query

end Call

namespace App

section

variable {app : App} {r : Request} {reply : Reply} {formId : List Char} {cs : List Clause}
  {q : PageQuery} {call : Call} {fields : Form.Fields}

/-- The query of a call holds the fields that forward the page. -/
theorem fields_of_call? (hq : PageQuery.read? fields = some q)
    (h : app.call? formId q = some call) : call.fields = q.forwarded := by
  obtain ⟨path, sent, hpath, hsent, rfl⟩ := call?_eq_some_iff.mp h
  cases (PageQuery.forward_parameters hq).symm.trans hsent
  have hmark : '?' ∉ path := fun hmem =>
    absurd (Url.isPathChar_of_mem_resolve? hpath _ hmem) (by decide)
  rw [Call.fields, Call.query, String.toList_ofList, cutAt_append _ hmark]
  exact Form.read_write q.isPlain_forwarded

/-- The limit that a call asks for is that of the page. -/
theorem exists_limit_of_call? (hq : PageQuery.read? fields = some q)
    (h : app.call? formId q = some call) :
    ∃ sent, Form.value? call.fields "limit" = some sent ∧
      Lenient.readInteger? sent.toList = some q.limit := by
  rw [fields_of_call? hq h]
  refine ⟨_, q.value?_limit_forwarded, ?_⟩
  rw [String.toList_ofList]
  exact Lenient.readInteger?_shortText q.length_shortText_limit

/-- What two requests have in common in their form and their page, their calls have in common
altogether.  A call names no parameter but the seven of a page, none of them twice, and its
credentials are the key. -/
theorem calls_depend_on_page_only [Present] [Limits] {s : Settings} {r' : Request}
    {cs' : List Clause} (hs : ofSettings s = .ok app)
    (hcredentials : app.base.credentials = ([], [])) (hr : r.IsAccepted formId cs q)
    (hr' : r'.IsAccepted formId cs' q) (reply reply' : Reply) :
    (app.handle r reply).calls = (app.handle r' reply').calls ∧
    ∀ call ∈ (app.handle r reply).calls,
      call.authorization = "Bearer " ++ s.apiKey ∧
      (call.fields.map Prod.fst).Nodup ∧
      (∀ name ∈ call.fields.map Prod.fst, name ∈ PageQuery.names) ∧
      Form.value? call.fields "filters" = none := by
  have hopen := closed_of_ofSettings hs
  constructor
  · rw [calls_of_isAccepted reply hopen hr, calls_of_isAccepted reply' hopen hr']
  · intro call hcall
    rw [calls_of_isAccepted reply hopen hr, Option.mem_toList] at hcall
    have hfields := fields_of_call? hr.page hcall
    have hnames := q.names_forwarded
    refine ⟨?_, ?_, ?_, ?_⟩
    · obtain ⟨path, sent, -, -, rfl⟩ := call?_eq_some_iff.mp hcall
      obtain ⟨⟨base, -, rfl⟩, -⟩ := ofSettings_eq_ok_iff.mp hs
      rw [authorization, hcredentials]
      rfl
    · rw [hfields]
      exact hnames.nodup (by decide)
    · rw [hfields]
      exact fun name hname => hnames.mem hname
    · rw [hfields]
      exact q.value?_filters_forwarded

/-- The first five submissions since New Year. -/
def firstFive : PageQuery :=
  ⟨5, 0, .finished, .ascending, some ⟨2024, 1, 1, by decide⟩, none, true, by decide, by decide⟩

/-- The text of a clause about the number one. -/
def clauseText : String :=
  "[\x7b\"id\":\"q\",\"condition\":\"equals\",\"value\":1\x7d]"

theorem exists_clause_clauseText :
    let _ : Limits := .usual
    ∃ c, Clause.readField (some clauseText) = .ok [c] := by
  intro limits
  have hlength : (Clause.readField (some clauseText)).toOption.map List.length = some 1 := by
    decide +kernel
  obtain ⟨cs, hread, hone⟩ := Option.map_eq_some_iff.mp hlength
  obtain ⟨c, rfl⟩ := List.length_eq_one_iff.mp hone
  exact ⟨c, Outcome.toOption_eq_some_iff.mp hread⟩

theorem asksFor_get (query : String) : (Request.get "/f/filteredResponses" query).AsksFor ['f'] :=
  have hroute : route? "/f/filteredResponses".toList = some (.responses ['f']) := by decide
  ⟨rfl, hroute⟩

/-- Another spelling of the same page, a clause, a field that nobody asked for, a repeated one and a
header make no other call. -/
theorem other_spelling_makes_same_call :
    let _ : Present := ⟨2025⟩
    let _ : Limits := .usual
    let r := Request.get "/f/filteredResponses" "limit=5&afterDate=2024-01-01&includeEditLink=true"
    let r' : Request := ⟨"GET", "/f/filteredResponses".toList,
      "x=1&filters=" ++ clauseText ++
        "&limit=7&limit=0_05.0&afterDate=1704067200&includeEditLink=YES",
      [("Origin", "https://a.test")], "http", "localhost"⟩
    (ofSettings plain.settings = .ok plain ∧ plain.base.credentials = ([], []) ∧
      r.IsAccepted ['f'] [] firstFive ∧
      ∃ c, r'.IsAccepted ['f'] [c] firstFive) ∧
    (plain.handle r .failed).calls = (plain.handle r' (.received 200 [])).calls ∧
      ∃ call, (plain.handle r .failed).calls = [call] ∧
        call.authorization = "Bearer test-key" ∧ (call.fields.map Prod.fst).Nodup ∧
        Form.value? call.fields "filters" = none := by
  intro present limits r r'
  have hread : Form.read r.query =
      [("limit", "5"), ("afterDate", "2024-01-01"), ("includeEditLink", "true")] := by
    decide +kernel
  have hread' : Form.read r'.query =
      [("x", "1"), ("filters", clauseText), ("limit", "7"), ("limit", "0_05.0"),
        ("afterDate", "1704067200"), ("includeEditLink", "YES")] := by
    decide +kernel
  have hr : r.IsAccepted ['f'] [] firstFive :=
    { toAsksFor := asksFor_get _
      clauses := by
        rw [filterField, hread]
        exact .missing
      page := by
        rw [hread, PageQuery.read?_eq_some_iff]
        refine ⟨?_, ?_, ?_, ?_, ?_, ?_, ?_⟩ <;> decide +kernel }
  obtain ⟨c, hc⟩ := exists_clause_clauseText
  have hr' : r'.IsAccepted ['f'] [c] firstFive :=
    { method := rfl
      route := by decide
      clauses := by
        rw [filterField, hread']
        exact readField_eq_ok_iff.mp hc
      page := by
        rw [hread', PageQuery.read?_eq_some_iff]
        refine ⟨?_, ?_, ?_, ?_, ?_, ?_, ?_⟩ <;> decide +kernel }
  have hcredentials : plain.base.credentials = ([], []) := by decide +kernel
  obtain ⟨call, hcall⟩ := List.length_eq_one_iff.mp
    (by decide +kernel : (plain.handle r .failed).calls.length = 1)
  obtain ⟨hsame, hcalls⟩ := calls_depend_on_page_only ofSettings_plain hcredentials hr hr' .failed
    (.received 200 [])
  obtain ⟨hkey, hnodup, -, hfilters⟩ := hcalls call (hcall ▸ List.mem_cons_self)
  exact ⟨⟨ofSettings_plain, hcredentials, hr, c, hr'⟩, hsame, call, hcall, hkey, hnodup, hfilters⟩

/-- The query of a call, asked again for the same form, is accepted as the same page and leads to
the same call.  Each parameter that is given is forwarded with a text, which is read as the same
value, and the limit is that of a page. -/
theorem forwarded_query_is_canonical [Present] [Limits] (hr : r.AsksFor formId)
    (hcall : call ∈ (app.handle r reply).calls) :
    ∃ q, PageQuery.read? (Form.read r.query) = some q ∧ PageQuery.read? call.fields = some q ∧
      (∀ name ∈ PageQuery.names, ∀ text, Form.value? (Form.read r.query) name = some text →
        ∃ sent, Form.value? call.fields name = some sent) ∧
      (∃ sent, Form.value? call.fields "limit" = some sent ∧
        Lenient.readInteger? sent.toList = some q.limit ∧ 1 ≤ q.limit ∧ q.limit ≤ 150) ∧
      ∀ (r' : Request) (reply' : Reply), r'.AsksFor formId → r'.query = call.query →
        r'.IsAccepted formId [] q ∧ (app.handle r' reply').calls = [call] := by
  obtain ⟨formId', cs, q, haccepted, hopen, hcall?⟩ := isAccepted_of_mem_calls hcall
  cases formId_unique hr haccepted.toAsksFor
  have hfields := fields_of_call? haccepted.page hcall?
  have hread := PageQuery.read?_forwarded haccepted.page
  refine ⟨q, haccepted.page, hfields ▸ hread, ?_, ?_, ?_⟩
  · intro name hname text htext
    rw [hfields]
    exact PageQuery.exists_value?_forwarded haccepted.page hname htext
  · obtain ⟨sent, hsent, hlimit⟩ := exists_limit_of_call? haccepted.page hcall?
    exact ⟨sent, hsent, hlimit, q.limit_pos, q.limit_le⟩
  · intro r' reply' hr' hquery
    have hsame : Form.read r'.query = q.forwarded := by rw [hquery, ← hfields, Call.fields]
    have hfilters : filterField r'.query = none := by
      rw [filterField, hsame, q.value?_filters_forwarded]
    have haccepted' : r'.IsAccepted formId [] q :=
      { toAsksFor := hr', clauses := hfilters ▸ .missing, page := hsame ▸ hread }
    refine ⟨haccepted', ?_⟩
    rw [calls_of_isAccepted reply' hopen haccepted', hcall?]
    rfl

/-- A padded limit, a negative offset behind a zero and a date in seconds are forwarded in one
spelling, which leads to itself. -/
theorem padded_limit_leads_to_short_one :
    let _ : Present := ⟨2025⟩
    let _ : Limits := .usual
    let r := Request.get "/f/filteredResponses"
      "limit=0_05.0&offset=0-7&afterDate=1704067200&includeEditLink=YES"
    r.AsksFor ['f'] ∧ ∃ call, (plain.handle r .failed).calls = [call] ∧
      call.query =
        "limit=5&offset=-7&status=finished&sort=asc&afterDate=2024-01-01&includeEditLink=true" ∧
      (plain.handle (.get "/f/filteredResponses" call.query) .failed).calls = [call] := by
  intro present limits r
  have hr : r.AsksFor ['f'] := asksFor_get _
  have hquery : ((plain.handle r .failed).calls.map Call.query) =
      ["limit=5&offset=-7&status=finished&sort=asc&afterDate=2024-01-01&includeEditLink=true"] := by
    decide +kernel
  obtain ⟨call, hcalls, hcall⟩ := List.map_eq_singleton_iff.mp hquery
  have hmem : call ∈ (plain.handle r .failed).calls := hcalls ▸ List.mem_cons_self
  obtain ⟨q, -, -, -, -, hagain⟩ := forwarded_query_is_canonical hr hmem
  exact ⟨hr, call, hcalls, hcall, (hagain _ .failed (asksFor_get _) rfl).2⟩

end

end App

end Winnow
