/-
# `Page` — what an answer shows of the reply

A request that is answered with a page gets those responses of the reply that its filter accepts,
and numbers that count what is shown.  Nothing else of the reply is in the answer: the number of
responses that the reply itself gives is left behind (`answer_is_filtered_page`).

The responses are filtered as they were sent, and only what is kept is changed to be shown, so that
a number that is not finite may decide whether a response is kept though it is shown as null.
-/
import Winnow.Proofs.Service.Calls
import Winnow.Proofs.Service.Replies

namespace Winnow

open Outcome

/-- The answer shows responses, how many they are, and the least number of pages that hold them. -/
def Answer.ShowsPage (a : Answer) (limit : Int) (responses : List Json) : Prop :=
  ∃ shown pages, a.body = .json (.object [("responses", .array shown),
      ("totalResponses", .ofInt shown.length), ("pageCount", .ofInt pages)]) ∧
    Json.ItemsShownAs responses shown ∧
    IsLeast {pages : Int | (shown.length : Int) ≤ pages * limit} pages ∧
    (pages = 0 ↔ responses = [])

namespace App

/-- The filter decides on every item, and keeps those that it accepts. -/
theorem keptBy_array_eq_ok_iff [Present] {cs : List Clause} {items kept : List Json} :
    keptBy cs (.array items) = .ok kept ↔ ∃ rules, Filter.compile cs = .ok rules ∧
      (∀ item ∈ items, ∃ b, Filter.accepts rules item = .ok b) ∧
      kept = items.filter fun item => Filter.accepts rules item = .ok true := by
  rw [keptBy, bind_eq_ok_iff]
  refine exists_congr fun rules => and_congr_right fun _ => ?_
  rw [Filter.keep_array, Filter.select_eq_ok_iff]
  rfl

theorem status_faultAnswer_ne (r : Request) (fault : Fault) :
    (faultAnswer r fault).status ≠ 200 := by
  cases fault with
  | rejected _ =>
      rw [faultAnswer, logged]
      split <;> exact nofun
  | _ => exact nofun

/-- A page of moderate size is shown, if it can be. -/
theorem showsPage_page [Limits] {limit : Int} {kept : List Json} (hlimit : 0 < limit)
    (hlimit53 : limit ≤ 2 ^ 53) (hkept : kept.length ≤ 2 ^ 53)
    (hstatus : (page limit kept).status = 200) : (page limit kept).ShowsPage limit kept := by
  have hnonneg : (0 : Int) ≤ kept.length := Int.natCast_nonneg _
  obtain ⟨pages, hpages, hleast⟩ :=
    exists_isLeast_pageCount hnonneg (by exact_mod_cast hkept) hlimit hlimit53
  have hlength : (kept.map finite).length = kept.length := List.length_map _
  have hshows : Limits.shows kept = true := by
    by_contra hnot
    rw [page_of_not_canShow fun hshow => hnot hshow.shows] at hstatus
    cases hstatus
  refine ⟨kept.map finite, pages, ?_, Json.itemsShownAs_map kept, ?_, ?_⟩
  · rw [page_eq_json hpages hshows, hlength]
    rfl
  · rwa [hlength]
  · rw [isLeast_eq_zero_iff hnonneg hlimit hleast, Int.natCast_eq_zero, List.length_eq_zero_iff]

section

variable [Present] [Limits] {app : App} {r : Request} {reply : Reply} {formId : List Char}
  {cs : List Clause} {q : PageQuery} {call : Call} {members : List (String × Json)}
  {items : List Json}

/-- An answer only depends on the responses in the reply. -/
theorem answerReply_congr {limit : Int} {reply' : Reply} {members' : List (String × Json)}
    (h : reply.Delivers members) (h' : reply'.Delivers members')
    (hsame : Json.get members' "responses" = Json.get members "responses") :
    answerReply r limit cs reply' = answerReply r limit cs reply := by
  simp only [answerReply, readReply_eq_ok_iff.mpr h, readReply_eq_ok_iff.mpr h', hsame]

/-- Only what a filter keeps leads to an answer that succeeds. -/
theorem exists_kept_of_status {limit : Int} (h : reply.Delivers members)
    (hstatus : (answerReply r limit cs reply).status = 200) :
    ∃ kept, keptBy cs (Json.get members "responses") = .ok kept ∧
      answerReply r limit cs reply = page limit kept := by
  cases hkept : keptBy cs (Json.get members "responses") with
  | error fault =>
      rw [answerReply_of_fault h hkept] at hstatus
      exact absurd hstatus (status_faultAnswer_ne r fault)
  | ok kept => exact ⟨kept, rfl, answerReply_of_kept h hkept⟩

/-- A request that is answered with a page gets the responses that its filter accepts, in their
order, and the least number of pages of the size that the call asked for.  Any other reply with the
same responses leads to the same exchange. -/
theorem answer_is_filtered_page (hcall : call ∈ (app.handle r reply).calls)
    (hstatus : (app.handle r reply).answer.status = 200) (hmembers : reply.Delivers members)
    (hitems : Json.get members "responses" = .array items) (hlength : items.length ≤ 2 ^ 53) :
    ∃ formId cs q rules kept, r.IsAccepted formId cs q ∧ Filter.compile cs = .ok rules ∧
      (∀ item ∈ items, ∃ b, Filter.accepts rules item = .ok b) ∧
      kept = items.filter (fun item => Filter.accepts rules item = .ok true) ∧
      (app.handle r reply).answer.ShowsPage q.limit kept ∧
      (∃ sent, Form.value? call.fields "limit" = some sent ∧
        Lenient.readInteger? sent.toList = some q.limit) ∧
      ∀ reply' members', reply'.Delivers members' →
        Json.get members' "responses" = .array items →
        app.handle r reply' = app.handle r reply := by
  obtain ⟨formId, cs, q, haccepted, hopen, hcall?⟩ := isAccepted_of_mem_calls hcall
  have hsame := handle_of_isAccepted app reply haccepted
  rw [requestPage_of_call? cs reply hopen hcall?] at hsame
  have hanswer := hsame.status.symm.trans hstatus
  obtain ⟨kept, hkept, hpage⟩ := exists_kept_of_status hmembers hanswer
  rw [hitems] at hkept
  obtain ⟨rules, hrules, hdecides, hfilter⟩ := keptBy_array_eq_ok_iff.mp hkept
  refine ⟨formId, cs, q, rules, kept, haccepted, hrules, hdecides, hfilter, ?_, ?_, ?_⟩
  · have hmoderate : kept.length ≤ 2 ^ 53 := by
      rw [hfilter]
      exact (List.length_filter_le _ _).trans hlength
    have hlimit : q.limit ≤ 2 ^ 53 := q.limit_le.trans (by decide)
    have hshows := showsPage_page q.limit_pos hlimit hmoderate (hpage ▸ hanswer)
    rw [hpage] at hsame
    rwa [Answer.ShowsPage, hsame.body]
  · exact exists_limit_of_call? haccepted.page hcall?
  · intro reply' members' hmembers' hitems'
    refine handle_congr rfl ?_
    rw [dispatch_of_isAccepted app reply' haccepted, dispatch_of_isAccepted app reply haccepted,
      requestPage_of_call? cs reply' hopen hcall?, requestPage_of_call? cs reply hopen hcall?,
      answerReply_congr hmembers hmembers' (hitems'.trans hitems.symm)]

end

/-- A response with the answer to one question, and with a score that is no number. -/
def scoredResponse (answer : Int) : Json :=
  .object [("questions", .array [.object [("id", .string "q"), ("value", .ofInt answer)]]),
    ("score", .number (.real .nan))]

theorem accepts_scoredResponse :
    let _ : Present := ⟨2025⟩
    let _ : Limits := .usual
    ∀ {cs : List Clause} {rules : Filter}, Clause.readField (some clauseText) = .ok cs →
      Filter.compile cs = .ok rules → Filter.accepts rules (scoredResponse 1) = .ok true ∧
        Filter.accepts rules (scoredResponse 2) = .ok false := by
  intro present limits cs rules hcs hrules
  have haccepts : ((Clause.readField (some clauseText)).toOption.bind fun cs =>
      (Filter.compile cs).toOption.map fun rules =>
        ((Filter.accepts rules (scoredResponse 1)).toOption,
          (Filter.accepts rules (scoredResponse 2)).toOption)) =
      some (some true, some false) := by decide +kernel
  rw [toOption_eq_some_iff.mpr hcs, Option.bind_some, toOption_eq_some_iff.mpr hrules,
    Option.map_some] at haccepts
  obtain ⟨hfirst, hsecond⟩ := Prod.mk.inj (Option.some.inj haccepts)
  exact ⟨toOption_eq_some_iff.mp hfirst, toOption_eq_some_iff.mp hsecond⟩

/-- The total that a reply gives does not show in the answer, nor does a number that is none. -/
theorem reported_total_is_left_behind :
    let _ : Present := ⟨2025⟩
    let _ : Limits := .usual
    let r := Request.get "/f/filteredResponses" ("limit=2&filters=" ++ clauseText)
    let reply := Reply.ofText 200 ("\x7b\"totalResponses\":99,\"responses\":[" ++
      "\x7b\"questions\":[\x7b\"id\":\"q\",\"value\":1\x7d],\"score\":NaN\x7d," ++
      "\x7b\"questions\":[\x7b\"id\":\"q\",\"value\":2\x7d],\"score\":NaN\x7d]\x7d")
    let items := [scoredResponse 1, scoredResponse 2]
    let members := [("totalResponses", .ofInt 99), ("responses", .array items)]
    ((∃ call, call ∈ (plain.handle r reply).calls) ∧
      (plain.handle r reply).answer.status = 200 ∧ reply.Delivers members ∧
      Json.get members "responses" = .array items ∧ items.length ≤ 2 ^ 53) ∧
    (plain.handle r reply).answer.ShowsPage 2 [scoredResponse 1] := by
  intro present limits r reply items members
  have hdelivers : reply.Delivers members :=
    Reply.delivers_ofText (by decide) (by decide) (by decide +kernel) (by cbv)
  obtain ⟨hstatus, hlength⟩ : (plain.handle r reply).answer.status = 200 ∧
      0 < (plain.handle r reply).calls.length := by decide +kernel
  have hfield : filterField r.query = some clauseText := by decide +kernel
  have hlimit : (PageQuery.read? (Form.read r.query)).map PageQuery.limit = some 2 := by
    decide +kernel
  obtain ⟨call, hcall⟩ := List.exists_mem_of_length_pos hlength
  obtain ⟨formId, cs, q, rules, kept, haccepted, hrules, -, hkept, hshows, -⟩ :=
    answer_is_filtered_page hcall hstatus hdelivers rfl (by decide)
  have htwo : q.limit = 2 := by
    rw [haccepted.page] at hlimit
    exact Option.some.inj hlimit
  have hcs : Clause.readField (some clauseText) = .ok cs :=
    readField_eq_ok_iff.mpr (hfield ▸ haccepted.clauses)
  obtain ⟨hfirst, hsecond⟩ := accepts_scoredResponse hcs hrules
  have hone : kept = [scoredResponse 1] := by
    rw [hkept]
    simp [items, hfirst, hsecond]
  exact ⟨⟨⟨call, hcall⟩, hstatus, hdelivers, rfl, by decide⟩, hone ▸ htwo ▸ hshows⟩

end App

end Winnow
