/-
# `Precedence` — which failure shows when a request has several

A query can break its rules, its filter can be one that does not compile, the reply to the call can
be unusable, and the filter can fail on what the reply delivers, all in one request.  The answer is
decided by the first of these in the order query, reply, filter: a query that is refused makes no
call, and a reply that cannot be used hides whatever is wrong with the filter.

The text for filters that is empty is not the text of clauses, and yet it is not refused: the field
counts as missing then (`empty_filter_text_is_accepted`).  And a text for filters that meets a limit
is neither read nor refused (`filter_text_is_settled_iff`), which is why the order of failures is
shown for texts of moderate size only, on a machine that bears them.  Nor is it shown for requests
without an address, whose refusal breaks when it is logged, and for strings that are not Unicode,
which cannot be shown.
-/
import Winnow.Proofs.Filter.Evaluation
import Winnow.Proofs.Json.Surrogates
import Winnow.Proofs.Page.Count
import Winnow.Proofs.Service.Exchange

namespace Winnow

/-- The text for filters is well-formed Unicode of moderate size. -/
structure IsModerate (text : String) : Prop where
  nested : Json.NestedWithin 100 (Json.tokens text.toList)
  short : ∀ t ∈ Json.tokens text.toList, ¬ t.isLongInteger
  paired : Json.IsPaired text.toList

/-- The call fails, or its reply arrives, and is well-formed Unicode if it is a text. -/
def Reply.IsProper : Reply → Prop
  | .received _ body => ∀ text, Json.textOfBytes? body = some text →
    Json.bytesArePaired body = true ∧ Json.IsPaired text
  | .failed => True
  | .broken => False

/-- The text of a reply, if it has one, is nested no deeper than `depth`. -/
def Reply.IsNestedWithin (depth : Nat) : Reply → Prop
  | .received _ body =>
    ∀ text, Json.textOfBytes? body = some text → Json.NestedWithin depth (Json.tokens text)
  | _ => True

/-- The reply is proper and of moderate size. -/
structure Reply.IsOrdinary (reply : Reply) : Prop where
  proper : reply.IsProper
  nested : reply.IsNestedWithin 100

/-- Bytes that are not simply malformed are a text. -/
theorem Json.exists_text_of_readBytes {limit : Nat} {bytes : List UInt8}
    {outcome : Except Json.Unreadable Json} (h : Json.readBytes limit bytes = outcome)
    (hne : outcome ≠ .error .malformed) :
    ∃ text, Json.textOfBytes? bytes = some text ∧ Json.read limit text = outcome := by
  unfold Json.readBytes at h
  split at h
  · next text htext => exact ⟨text, htext, h⟩
  · exact absurd h.symm hne

theorem Reply.IsProper.ne_broken {reply : Reply} (h : reply.IsProper) : reply ≠ .broken := by
  rintro rfl
  exact h

section

variable [Limits] {reply : Reply} {depth : Nat}

/-- A machine that bears what is nested moderately settles every moderate text. -/
theorem IsModerate.isSettled {text : String} (h : IsModerate text) (hlimits : Limits.Admit 100) :
    IsSettled text :=
  ⟨Json.not_meetsLimit hlimits.filters h.nested h.short, fun _ => hlimits.logs text h.nested⟩

theorem Reply.not_isTooDeep_of_isNestedWithin (h : reply.IsNestedWithin depth)
    (hlimits : Limits.Admit depth) : ¬ reply.IsTooDeep := by
  rintro ⟨status, body, rfl, -, -, hdeep⟩
  obtain ⟨text, htext, hread⟩ := Json.exists_text_of_readBytes hdeep nofun
  exact Json.ofTokens_ne_tooDeep hlimits.reply (h text htext) hread

/-- What a reply delivers is nested no deeper than its text. -/
theorem Reply.depth_le_of_delivers {members : List (String × Json)}
    (h : reply.IsNestedWithin depth) (hdelivers : reply.Delivers members) :
    (Json.object members).depth ≤ depth := by
  obtain ⟨status, body, rfl, -, -, hobject⟩ := hdelivers
  obtain ⟨text, htext, hread⟩ := Json.exists_text_of_readBytes hobject nofun
  exact Json.depth_le_of_read (h text htext) hread

end

namespace App

/-- The walk through a value nested `n + 1` deep at most meets what is nested `n` deep at most. -/
theorem depth_le_of_elementsOf {v : Json} {items : List Json} {n : Nat} (hv : v.depth ≤ n + 1)
    (h : elementsOf v = .ok items) : ∀ item ∈ items, item.depth ≤ n := by
  unfold elementsOf at h
  split at h
  · cases h
    exact List.forall_mem_nil _
  · cases v with
    | array _ =>
        cases h
        exact Json.depth_array_le_iff.mp hv
    | string s =>
        cases h
        exact List.forall_mem_map.mpr fun _ _ => Nat.zero_le n
    | object members =>
        cases h
        exact List.forall_mem_map.mpr fun _ _ => Nat.zero_le n
    | _ => cases h

section

variable [Present]

/-- The submissions that clauses keep, or why filtering stops. -/
def keptBy (cs : List Clause) (submissions : Json) : Except Fault (List Json) := do
  (← Filter.compile cs).keep submissions

/-- What clauses keep of a value is nested no deeper than the value may be. -/
theorem depth_le_of_keptBy {cs : List Clause} {v : Json} {kept : List Json} {n : Nat}
    (hv : v.depth ≤ n + 1) (hkept : keptBy cs v = .ok kept) :
    (Json.array kept).depth ≤ n + 1 := by
  obtain ⟨rules, -, hkeep⟩ := Outcome.bind_eq_ok_iff.mp hkept
  obtain ⟨items, hitems, hselect⟩ := Outcome.bind_eq_ok_iff.mp hkeep
  obtain ⟨-, rfl⟩ := Filter.select_eq_ok_iff.mp hselect
  refine Json.depth_array_le_iff.mpr fun item hitem => ?_
  exact depth_le_of_elementsOf hv hitems item (List.mem_of_mem_filter hitem)

/-! ## Answers to a reply -/

section

variable [Limits] {r : Request} {limit : Int} {cs : List Clause} {reply : Reply}
  {members : List (String × Json)}

theorem answerReply_of_unusable (hlimits : Limits.Admit 100) (h : reply.IsOrdinary)
    (hnot : ¬ ∃ members, reply.Delivers members) : answerReply r limit cs reply = badReply := by
  rw [answerReply, readReply_eq_badReply h.proper.ne_broken
    (Reply.not_isTooDeep_of_isNestedWithin h.nested hlimits) hnot]

theorem answerReply_of_kept {kept : List Json} (h : reply.Delivers members)
    (hkept : keptBy cs (Json.get members "responses") = .ok kept) :
    answerReply r limit cs reply = page limit kept := by
  unfold keptBy at hkept
  simp only [answerReply, readReply_eq_ok_iff.mpr h, hkept]

theorem answerReply_of_fault {fault : Fault} (h : reply.Delivers members)
    (hfault : keptBy cs (Json.get members "responses") = .error fault) :
    answerReply r limit cs reply = faultAnswer r fault := by
  unfold keptBy at hfault
  simp only [answerReply, readReply_eq_ok_iff.mpr h, hfault]

/-- What clauses keep of a reply can be shown where all that is nested so deeply can. -/
theorem shows_of_keptBy {kept : List Json} {depth : Nat} (hlimits : Limits.Admit depth)
    (hnested : reply.IsNestedWithin depth) (h : reply.Delivers members)
    (hkept : keptBy cs (Json.get members "responses") = .ok kept) : Limits.shows kept = true := by
  have hdepth := Reply.depth_le_of_delivers hnested h
  obtain ⟨n, rfl⟩ := Nat.exists_eq_add_one.mpr ((Nat.succ_pos _).trans_le hdepth)
  have hresponses := (Json.depth_get_le "responses" hdepth).trans (Nat.le_succ n)
  exact hlimits.shows kept (depth_le_of_keptBy hresponses hkept)

end

end

/-- The page of responses that can be written, once its pages are counted. -/
theorem page_eq_json [Limits] {limit pages : Int} {kept : List Json}
    (hpages : pageCount kept.length limit = .ok pages) (hshows : Limits.shows kept = true) :
    page limit kept = .json 200 (.object [("responses", .array (kept.map finite)),
      ("totalResponses", .ofInt kept.length), ("pageCount", .ofInt pages)]) := by
  rw [page, hpages]
  exact if_pos hshows

/-- A page of responses is shown, unless there are too many to count its pages. -/
theorem status_page [Limits] {limit : Int} {kept : List Json} (hlimit : 0 < limit)
    (hkept : kept.length < 2 ^ 1022) (hshows : Limits.shows kept = true) :
    (page limit kept).status = 200 := by
  have hcount : (kept.length : Int).natAbs < 2 ^ 1022 := hkept
  obtain ⟨pages, hpages⟩ := exists_pageCount hlimit hcount
  rw [page_eq_json hpages hshows]
  rfl

/-- Only a rejection has a message. -/
theorem faultAnswer_of_not_rejected {r : Request} {fault : Fault}
    (h : ∀ rejection, fault ≠ .rejected rejection) : faultAnswer r fault = internalError := by
  cases fault with
  | rejected rejection => exact absurd rfl (h rejection)
  | _ => rfl

/-- The answer to a rejection has its message, if the request has an address. -/
theorem faultAnswer_of_rejected {r : Request} {rejection : Rejection} (h : r.hasUrl = true) :
    faultAnswer r (.rejected rejection) = messageAnswer 400 rejection.message :=
  logged_of_hasUrl h

/-! ## The order of failures -/

/-- The first failure in the order query, reply, filter decides the answer, and a call is made for
a query that is accepted and for no other. -/
theorem first_failure_decides [Present] [Limits] {s : Settings} {app : App} {r : Request}
    {formId : List Char} {reply : Reply} (hlimits : Limits.Admit 100) (hs : ofSettings s = .ok app)
    (hr : r.AsksFor formId) (hhost : r.hasUrl = true)
    (hurl : (app.base.resolve? (submissionsPath formId)).isSome)
    (hfilters : ∀ text, filterField r.query = some text → IsModerate text)
    (hreply : reply.IsOrdinary) :
    ((¬ KeepsRules (Form.read r.query) ∨ ¬ ∃ cs, HoldsClauses (filterField r.query) cs) →
      (app.handle r reply).Shows 404 "Invalid Query Parameters" ∧
      (app.handle r reply).calls = []) ∧
    ∀ cs, KeepsRules (Form.read r.query) → HoldsClauses (filterField r.query) cs →
      (∃ call, (app.handle r reply).calls = [call] ∧ call.method = "GET") ∧
      ((¬ ∃ members, reply.Delivers members) →
        (app.handle r reply).Shows 400 "Error while calling Fillout API") ∧
      ∀ members, reply.Delivers members →
        (∀ rejection, keptBy cs (Json.get members "responses") = .error (.rejected rejection) →
          (app.handle r reply).Shows 400 rejection.message) ∧
        (∀ fault, keptBy cs (Json.get members "responses") = .error fault →
          (∀ rejection, fault ≠ .rejected rejection) → (app.handle r reply).answer.status = 500) ∧
        ∀ kept, keptBy cs (Json.get members "responses") = .ok kept →
          ∃ q, PageQuery.read? (Form.read r.query) = some q ∧
            (app.handle r reply).answer.status = (page q.limit kept).status ∧
            (app.handle r reply).answer.body = (page q.limit kept).body ∧
            (kept.length < 2 ^ 1022 → (app.handle r reply).answer.status = 200) := by
  have hsame := handle_of_asksFor app reply hr
  constructor
  · intro hinvalid
    rw [filteredResponses_of_invalid hhost
      (fun text htext => (hfilters text htext).isSettled hlimits) hinvalid] at hsame
    exact ⟨hsame.shows (Exchange.shows_messageAnswer _ _ _), hsame.calls⟩
  · intro cs hrules hcs
    obtain ⟨q, hq⟩ := PageQuery.exists_read?_of_keepsRules hrules
    obtain ⟨call, hpage, hget⟩ :=
      requestPage_of_accepted cs reply (closed_of_ofSettings hs) hurl hq
    rw [filteredResponses_of_holds hcs hq, hpage] at hsame
    refine ⟨⟨call, hsame.calls, hget⟩, ?_, ?_⟩
    · intro hnot
      rw [answerReply_of_unusable hlimits hreply hnot] at hsame
      exact hsame.shows (Exchange.shows_messageAnswer _ _ _)
    · intro members hmembers
      refine ⟨?_, ?_, ?_⟩
      · intro rejection hrejected
        rw [answerReply_of_fault hmembers hrejected, faultAnswer_of_rejected hhost] at hsame
        exact hsame.shows (Exchange.shows_messageAnswer _ _ _)
      · intro fault hfault hnot
        rw [answerReply_of_fault hmembers hfault, faultAnswer_of_not_rejected hnot] at hsame
        exact hsame.status
      · intro kept hkept
        rw [answerReply_of_kept hmembers hkept] at hsame
        have hshows := shows_of_keptBy hlimits hreply.nested hmembers hkept
        exact ⟨q, hq, hsame.status, hsame.body,
          fun hlength => hsame.status.trans (status_page q.limit_pos hlength hshows)⟩

/-- The text of one clause, which has no value. -/
def valuelessClause : String :=
  "[\x7b\"id\":\"q\",\"condition\":\"equals\"\x7d]"

/-- A bad reply hides that the clause of the filter has no value. -/
theorem bad_reply_hides_bad_filter :
    let _ : Present := ⟨2025⟩
    let _ : Limits := .usual
    let r := Request.get "/f/filteredResponses" ("limit=5&filters=" ++ valuelessClause)
    (Limits.Admit 100 ∧ ofSettings plain.settings = .ok plain ∧ r.AsksFor ['f'] ∧
      r.hasUrl = true ∧ (plain.base.resolve? (submissionsPath ['f'])).isSome ∧
      (∀ text, filterField r.query = some text → IsModerate text) ∧
      (Reply.received 503 []).IsOrdinary) ∧
    (plain.handle r (.received 503 [])).Shows 400 "Error while calling Fillout API" ∧
      ∃ call, (plain.handle r (.received 503 [])).calls = [call] ∧ call.method = "GET" := by
  intro present limits r
  have hr : r.AsksFor ['f'] := ⟨rfl, by decide⟩
  have hhost : r.hasUrl = true := by decide +kernel
  have hurl : (plain.base.resolve? (submissionsPath ['f'])).isSome := by decide +kernel
  have hfield : filterField r.query = some valuelessClause := by decide +kernel
  have hfilters : ∀ text, filterField r.query = some text → IsModerate text := by
    intro text htext
    cases hfield.symm.trans htext
    exact ⟨by decide +kernel, by decide +kernel, by decide +kernel⟩
  have hreply : (Reply.received 503 []).IsOrdinary := by
    refine ⟨?_, ?_⟩ <;>
    · intro text htext
      cases htext
      decide
  obtain ⟨cs, hcs⟩ : ∃ cs, HoldsClauses (filterField r.query) cs := by
    have hok : (Clause.readField (some valuelessClause)).isOk := by decide +kernel
    rw [hfield]
    cases hread : Clause.readField (some valuelessClause) with
    | ok cs => exact ⟨cs, readField_eq_ok_iff.mp hread⟩
    | error fault => cases hread ▸ hok
  obtain ⟨q, hq⟩ := Option.isSome_iff_exists.mp
    (by decide +kernel : (PageQuery.read? (Form.read r.query)).isSome)
  obtain ⟨hcall, hbad, -⟩ := (first_failure_decides Limits.usual_admit ofSettings_plain hr hhost
    hurl hfilters hreply).2 cs (PageQuery.keepsRules_of_read? hq) hcs
  refine ⟨⟨Limits.usual_admit, ofSettings_plain, hr, hhost, hurl, hfilters, hreply⟩, hbad ?_, hcall⟩
  rintro ⟨_, _, _, hreceived, -, hhigh, -⟩
  cases hreceived
  exact absurd hhigh (by decide)

/-- An empty text for filters is not the text of clauses, and a call is made all the same. -/
theorem empty_filter_text_is_accepted :
    let _ : Present := ⟨2025⟩
    let _ : Limits := .usual
    let r := Request.get "/a/filteredResponses" "filters="
    Limits.Admit 100 ∧ ofSettings plain.settings = .ok plain ∧ r.AsksFor ['a'] ∧
      r.hasUrl = true ∧ (plain.base.resolve? (submissionsPath ['a'])).isSome ∧
      filterField r.query = some "" ∧ IsModerate "" ∧ ¬ IsClauseText "" ∧
      (plain.handle r (.received 200 [0x7b, 0x7d])).answer.status = 200 ∧
      (plain.handle r (.received 200 [0x7b, 0x7d])).calls.length = 1 := by
  intro present limits r
  refine ⟨Limits.usual_admit, ofSettings_plain, ⟨rfl, by decide⟩, by decide +kernel,
    by decide +kernel, by decide +kernel, ⟨by decide, by decide, by decide⟩, ?_, by decide +kernel,
    by decide +kernel⟩
  rintro ⟨_, _, hread, _⟩
  cases hread

/-! ## Texts for filters -/

/-- A text for filters is either read as clauses or refused, unless it meets a limit of the reader of
JSON, or has the wrong shape and its refusal cannot be logged; and a text that is not that of clauses
is answered as an invalid query without a call, unless a limit is met, which breaks the request. -/
theorem filter_text_is_settled_iff [Present] [Limits] {text : String} :
    ((∃ cs, Clause.readField (some text) = .ok cs) ∨
        Clause.readField (some text) = .error .invalid ↔ IsSettled text) ∧
    ∀ {app : App} {r : Request} {formId : List Char} {reply : Reply}, r.AsksFor formId →
      filterField r.query = some text → text ≠ "" → ¬ IsClauseText text →
        (app.handle r reply).calls = [] ∧
        ((app.handle r reply).Shows 404 "Invalid Query Parameters" ↔ IsSettled text) ∧
        (¬ IsSettled text → (app.handle r reply).answer.status = 500) := by
  constructor
  · rw [← not_iff_not, ← exists_fault_iff]
    cases Clause.readField (some text) with
    | ok cs => simp
    | error fault => cases fault <;> simp
  · intro app r formId reply hr htext hne hnot
    have hsame := handle_of_asksFor app reply hr
    by_cases hsettled : IsSettled text
    · rw [filteredResponses_of_not_isClauseText htext hne hsettled hnot] at hsame
      refine ⟨hsame.calls, ?_, fun h => absurd hsettled h⟩
      exact ⟨fun _ => hsettled, fun _ => hsame.shows (Exchange.shows_messageAnswer _ _ _)⟩
    · rw [filteredResponses_of_not_isSettled htext hsettled] at hsame
      refine ⟨hsame.calls, ?_, fun _ => hsame.status⟩
      constructor
      · intro hshows
        exact absurd (hshows.status.symm.trans hsame.status) (by decide)
      · exact fun h => absurd h hsettled

/-- Clauses without a condition are refused. -/
theorem filter_without_condition_is_refused :
    let _ : Present := ⟨2025⟩
    let _ : Limits := .usual
    let r := Request.get "/f/filteredResponses" "limit=5&filters=[\x7b\"id\":\"q\"\x7d]"
    (r.AsksFor ['f'] ∧ filterField r.query = some "[\x7b\"id\":\"q\"\x7d]" ∧
      ¬ IsClauseText "[\x7b\"id\":\"q\"\x7d]") ∧
    (plain.handle r .failed).calls = [] ∧
      (plain.handle r .failed).Shows 404 "Invalid Query Parameters" := by
  intro present limits r
  have hr : r.AsksFor ['f'] := ⟨rfl, by decide⟩
  have hfield : filterField r.query = some "[\x7b\"id\":\"q\"\x7d]" := by decide +kernel
  have hmoderate : IsModerate "[\x7b\"id\":\"q\"\x7d]" :=
    ⟨by decide +kernel, by decide +kernel, by decide +kernel⟩
  have hfails : (Clause.readField (some "[\x7b\"id\":\"q\"\x7d]")).isOk = false := by
    decide +kernel
  have hnot : ¬ IsClauseText "[\x7b\"id\":\"q\"\x7d]" := by
    rintro ⟨cs, hcs⟩
    rw [readField_eq_ok (by decide) hcs] at hfails
    cases hfails
  obtain ⟨-, hanswers⟩ := @filter_text_is_settled_iff _ _ "[\x7b\"id\":\"q\"\x7d]"
  obtain ⟨hcalls, hshows, -⟩ :=
    @hanswers plain r ['f'] .failed hr hfield (by decide) hnot
  exact ⟨⟨hr, hfield, hnot⟩, hcalls, hshows.mpr (hmoderate.isSettled Limits.usual_admit)⟩

/-- An integer of 4301 digits is neither read as clauses nor refused. -/
theorem long_integer_is_not_settled :
    let _ : Limits := .usual
    let text := String.ofList (List.replicate 4301 '9')
    ¬ ((∃ cs, Clause.readField (some text) = .ok cs) ∨
      Clause.readField (some text) = .error .invalid) := by
  intro limits text
  have hdigits : ∀ c ∈ '9' :: List.replicate 4300 '9', c.isDigit := by
    intro c hc
    rw [← List.replicate_succ] at hc
    rw [List.eq_of_mem_replicate hc]
    decide
  have hstops : StopsAtLimit text :=
    stopsAtLimit_of_digits (by decide) hdigits (List.length_replicate.ge)
  obtain ⟨fault, hother, hread⟩ := exists_fault_iff.mpr fun hsettled => hsettled.1 hstops
  rintro (⟨cs, h⟩ | h) <;> cases hread.symm.trans h
  exact hother rfl

end App

end Winnow
