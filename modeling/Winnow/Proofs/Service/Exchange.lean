/-
# `Exchange` — a GET for the responses of a form, taken apart

Three things stand between a request and the answer to it, and each is described here once.  The
headers of a request only mark the answer for an origin (`handle_of_asksFor`).  Its query either
holds a page and clauses or is refused (`filteredResponses_of_holds` and what follows it).  The reply
to the call either delivers the members of an object or cannot be used (`readReply_eq_ok_iff`).
-/
import Winnow.Proofs.Filter.Shape
import Winnow.Proofs.Json.Depth
import Winnow.Proofs.Page.Forwarding
import Winnow.Proofs.Text.Pieces
import Winnow.Service.App

namespace Winnow

/-! ## Requests and answers -/

/-- The request is a GET for the filtered responses of a form. -/
structure Request.AsksFor (r : Request) (formId : List Char) : Prop where
  method : r.method = "GET"
  route : App.route? r.path = some (.responses formId)

/-- A GET without headers. -/
def Request.get (path query : String) : Request :=
  ⟨"GET", path.toList, query, [], "http", "localhost"⟩

namespace Exchange

/-- The exchange shows a message. -/
structure Shows (e : Exchange) (status : Nat) (message : String) : Prop where
  status : e.answer.status = status
  body : e.answer.body = .json (.object [("message", .string message)])

/-- Two exchanges differ in the headers of their answers at most. -/
structure SameUpToHeaders (e e' : Exchange) : Prop where
  status : e.answer.status = e'.answer.status
  body : e.answer.body = e'.answer.body
  calls : e.calls = e'.calls

theorem SameUpToHeaders.refl (e : Exchange) : e.SameUpToHeaders e := ⟨rfl, rfl, rfl⟩

theorem SameUpToHeaders.shows {e e' : Exchange} {status : Nat} {message : String}
    (h : e.SameUpToHeaders e') (hshows : e'.Shows status message) : e.Shows status message :=
  ⟨h.status.trans hshows.status, h.body.trans hshows.body⟩

theorem shows_messageAnswer (status : Nat) (message : String) (calls : List Call) :
    Shows ⟨App.messageAnswer status message, calls⟩ status message :=
  ⟨rfl, rfl⟩

end Exchange

namespace App

/-! ## Routes -/

/-- The path of the responses of a form has its id between two slashes. -/
theorem route?_eq_responses_iff {path formId : List Char} :
    route? path = some (.responses formId) ↔ formId ≠ [] ∧ '/' ∉ formId ∧
      dropLineFeed path = '/' :: (formId ++ "/filteredResponses".toList) := by
  have hpieces : Text.pieces '/' (dropLineFeed path) = [[], formId, "filteredResponses".toList] ↔
      '/' ∉ formId ∧ dropLineFeed path = '/' :: (formId ++ "/filteredResponses".toList) := by
    rw [Text.pieces_eq_iff, eq_comm (a := List.intercalate _ _)]
    simp [List.intercalate]
  constructor
  · intro h
    unfold route? at h
    split at h
    · split at h <;> cases h
    · next id name hsplit =>
      split at h
      · next hguard =>
        cases h
        simp only [Bool.and_eq_true, Bool.not_eq_true', List.isEmpty_eq_false_iff,
          decide_eq_true_eq] at hguard
        rw [hguard.2] at hsplit
        exact ⟨hguard.1, hpieces.mp hsplit⟩
      · cases h
    · cases h
  · rintro ⟨hne, h⟩
    rw [route?, hpieces.mpr h]
    simp [hne]

theorem allowOrigin_status (c : Cors) (origin : String) (a : Answer) :
    (c.allowOrigin origin a).status = a.status ∧ (c.allowOrigin origin a).body = a.body := by
  unfold Cors.allowOrigin
  split
  · exact ⟨rfl, rfl⟩
  · split <;> exact ⟨rfl, rfl⟩

/-- A GET is no preflight request. -/
theorem preflightMethod?_of_get {r : Request} (h : r.method = "GET") :
    Cors.preflightMethod? r = none := by
  rw [Cors.preflightMethod?, h]
  rfl

section

variable [Present] [Limits] {app : App} {r : Request} {reply : Reply} {formId : List Char}

theorem dispatch_of_asksFor (h : r.AsksFor formId) :
    app.dispatch r reply = app.filteredResponses r formId reply := by
  rw [dispatch, h.route]
  exact if_neg (not_not_intro h.method)

/-- An exchange that breaks is not marked for its origin. -/
theorem handle_of_breaks (hget : r.method = "GET")
    (h : (app.dispatch r reply).answer.status = 500) :
    app.handle r reply = app.dispatch r reply := by
  rw [handle, preflightMethod?_of_get hget]
  cases r.header? "origin" with
  | none => rfl
  | some origin => exact if_pos h

/-- For a GET an origin only shows in the headers. -/
theorem handle_of_asksFor (app : App) (reply : Reply) (h : r.AsksFor formId) :
    (app.handle r reply).SameUpToHeaders (app.filteredResponses r formId reply) := by
  have hpreflight := preflightMethod?_of_get h.method
  rw [← dispatch_of_asksFor h, handle]
  split
  · exact .refl _
  · next origin _ =>
    rw [hpreflight]
    dsimp only
    split
    · exact .refl _
    · obtain ⟨hstatus, hbody⟩ := allowOrigin_status app.cors origin (app.dispatch r reply).answer
      exact ⟨hstatus, hbody, rfl⟩

/-- A service handles a request in one way if it dispatches it in one way. -/
theorem handle_congr {app' : App} {reply' : Reply} (hsettings : app'.settings = app.settings)
    (hdispatch : app'.dispatch r reply' = app.dispatch r reply) :
    app'.handle r reply' = app.handle r reply := by
  have hcors : app'.cors = app.cors := by rw [cors, cors, hsettings]
  rw [handle, handle, hdispatch, hcors]

end

/-! ## Queries -/

/-- The field for filters. -/
def filterField (query : String) : Option String := Form.value? (Form.read query) "filters"

theorem logged_of_hasUrl {r : Request} {a : Answer} (h : r.hasUrl = true) : logged r a = a :=
  if_pos h

section

variable [Present] [Limits] {app : App} {r : Request} {formId : List Char} {reply : Reply}

/-- What is accepted leads to the request for a page. -/
theorem filteredResponses_of_holds {cs : List Clause} {q : PageQuery}
    (hcs : HoldsClauses (filterField r.query) cs)
    (hq : PageQuery.read? (Form.read r.query) = some q) :
    app.filteredResponses r formId reply = app.requestPage r formId q cs reply := by
  have hread : Clause.readField (Form.value? (Form.read r.query) "filters") = .ok cs :=
    readField_eq_ok_iff.mpr hcs
  simp only [filteredResponses, hread, hq]

/-- A text for filters at which a limit is met breaks the request. -/
theorem filteredResponses_of_not_isSettled {text : String} (htext : filterField r.query = some text)
    (hnot : ¬ IsSettled text) : app.filteredResponses r formId reply = ⟨internalError, []⟩ := by
  have hfield : Form.value? (Form.read r.query) "filters" = some text := htext
  obtain ⟨fault, hother, hread⟩ := exists_fault_iff.mpr hnot
  cases fault with
  | invalid => exact absurd rfl hother
  | _ => simp only [filteredResponses, hfield, hread]

/-- A text for filters that is settled, but not that of clauses, is refused. -/
theorem filteredResponses_of_not_isClauseText {text : String}
    (htext : filterField r.query = some text) (hne : text ≠ "") (hsettled : IsSettled text)
    (hnot : ¬ IsClauseText text) : app.filteredResponses r formId reply = ⟨invalidQuery, []⟩ := by
  have hfield : Form.value? (Form.read r.query) "filters" = some text := htext
  rcases readField_cases hne with ⟨cs, hwrites, -⟩ | ⟨-, -, hread⟩ | ⟨-, hstuck, -⟩
  · exact absurd ⟨cs, hwrites⟩ hnot
  · simp only [filteredResponses, hfield, hread]
  · exact absurd hsettled hstuck

/-- A query that breaks a rule, its text for filters included, is refused. -/
theorem filteredResponses_of_invalid (hurl : r.hasUrl = true)
    (hsettled : ∀ text, filterField r.query = some text → IsSettled text)
    (h : ¬ KeepsRules (Form.read r.query) ∨ ¬ ∃ cs, HoldsClauses (filterField r.query) cs) :
    app.filteredResponses r formId reply = ⟨invalidQuery, []⟩ := by
  by_cases hcs : ∃ cs, HoldsClauses (filterField r.query) cs
  · obtain ⟨cs, hcs⟩ := hcs
    have hread : Clause.readField (Form.value? (Form.read r.query) "filters") = .ok cs :=
      readField_eq_ok_iff.mpr hcs
    have hnone : PageQuery.read? (Form.read r.query) = none := by
      rcases h with h | h
      · cases hq : PageQuery.read? (Form.read r.query) with
        | none => rfl
        | some q => exact absurd (PageQuery.keepsRules_of_read? hq) h
      · exact absurd ⟨cs, hcs⟩ h
    simp only [filteredResponses, hread, hnone, logged_of_hasUrl hurl]
  · obtain ⟨text, htext, hne, hnot⟩ := exists_text_of_not_holds hcs
    exact filteredResponses_of_not_isClauseText htext hne (hsettled text htext) hnot

end

/-! ## Set up -/

theorem ofSettings_eq_ok_iff {s : Settings} {app : App} :
    ofSettings s = .ok app ↔ (∃ base, Url.read? s.baseUrl.toList = some base ∧
      app = ⟨s, base, false⟩) ∧ ∀ c ∈ s.apiKey.toList, c.toNat < 0x80 := by
  unfold ofSettings
  split
  · next h => simp [h]
  · next base h =>
    split
    · next hkey =>
      simp only [List.all_eq_true, decide_eq_true_eq] at hkey
      constructor
      · intro h'
        cases h'
        exact ⟨⟨base, h, rfl⟩, hkey⟩
      · rintro ⟨⟨_, h', rfl⟩, -⟩
        cases h.symm.trans h'
        rfl
    · next hkey =>
      simp only [List.all_eq_true, decide_eq_true_eq] at hkey
      constructor
      · intro h'
        cases h'
      · rintro ⟨-, h'⟩
        exact absurd h' hkey

/-- A service is open once it is set up. -/
theorem closed_of_ofSettings {s : Settings} {app : App} (h : ofSettings s = .ok app) :
    app.closed = false := by
  obtain ⟨⟨base, -, rfl⟩, -⟩ := ofSettings_eq_ok_iff.mp h
  rfl

/-- A service on a plain address. -/
def plain : App where
  settings := ⟨"test-key", "http://fillout.test", 3000, none, .ofIntRatio 10 1, [], "INFO"⟩
  base := ⟨"http".toList, [], "fillout.test".toList, none, [], none⟩
  closed := false

theorem ofSettings_plain : ofSettings plain.settings = .ok plain :=
  ofSettings_eq_ok_iff.mpr ⟨⟨plain.base, by decide +kernel, rfl⟩, by simp [plain]⟩

/-! ## Calls -/

/-- The path below the base address that the responses of a form are asked for at. -/
def submissionsPath (formId : List Char) : List Char :=
  "/api/forms/".toList ++ formId ++ "/submissions".toList

theorem submissionsPath_eq (formId : List Char) :
    submissionsPath formId = "/api/forms/".toList ++ (formId ++ "/submissions".toList) :=
  List.append_assoc _ _ _

theorem call?_eq_some_iff {app : App} {formId : List Char} {q : PageQuery} {call : Call} :
    app.call? formId q = some call ↔ ∃ path fields,
      app.base.resolve? (submissionsPath formId) = some path ∧
      Parameter.forward q.parameters = .ok fields ∧
      call = ⟨"GET", String.ofList app.base.hostPort,
        String.ofList (path ++ '?' :: Form.write fields), app.authorization⟩ := by
  unfold call?
  simp only [Option.bind_eq_bind, Option.bind_eq_some_iff, Outcome.toOption_eq_some_iff,
    Option.pure_def, Option.some.injEq]
  constructor
  · rintro ⟨path, hpath, fields, hfields, h⟩
    exact ⟨path, fields, hpath, hfields, h.symm⟩
  · rintro ⟨path, fields, hpath, hfields, h⟩
    exact ⟨path, hpath, fields, hfields, h.symm⟩

section

variable [Present] [Limits] {app : App} {r : Request} {formId : List Char} {q : PageQuery}

theorem requestPage_of_call? {call : Call} (cs : List Clause) (reply : Reply)
    (hopen : app.closed = false) (hcall : app.call? formId q = some call) :
    app.requestPage r formId q cs reply = ⟨answerReply r q.limit cs reply, [call]⟩ := by
  rw [requestPage, hopen, hcall]
  rfl

/-- An open service makes one call for a query that is accepted, if the address is one. -/
theorem requestPage_of_accepted {fields : Form.Fields} (cs : List Clause) (reply : Reply)
    (hopen : app.closed = false) (hurl : (app.base.resolve? (submissionsPath formId)).isSome)
    (hq : PageQuery.read? fields = some q) :
    ∃ call, app.requestPage r formId q cs reply = ⟨answerReply r q.limit cs reply, [call]⟩ ∧
      call.method = "GET" := by
  obtain ⟨path, hpath⟩ := Option.isSome_iff_exists.mp hurl
  have hcall := call?_eq_some_iff.mpr
    ⟨path, q.forwarded, hpath, PageQuery.forward_parameters hq, rfl⟩
  exact ⟨_, requestPage_of_call? cs reply hopen hcall, rfl⟩

/-- A request that is accepted leads to one call, and its answer is what the reply leads to. -/
theorem handle_of_accepted {s : Settings} {cs : List Clause} (reply : Reply)
    (hs : ofSettings s = .ok app) (hr : r.AsksFor formId)
    (hurl : (app.base.resolve? (submissionsPath formId)).isSome)
    (hcs : HoldsClauses (filterField r.query) cs)
    (hq : PageQuery.read? (Form.read r.query) = some q) :
    ∃ call, (app.handle r reply).SameUpToHeaders ⟨answerReply r q.limit cs reply, [call]⟩ ∧
      call.method = "GET" := by
  obtain ⟨call, hpage, hget⟩ := requestPage_of_accepted cs reply (closed_of_ofSettings hs) hurl hq
  have hsame := handle_of_asksFor app reply hr
  rw [filteredResponses_of_holds hcs hq, hpage] at hsame
  exact ⟨call, hsame, hget⟩

end

end App

/-! ## Replies -/

section

variable [Limits]

/-- The reply delivers the members of an object. -/
def Reply.Delivers (reply : Reply) (members : List (String × Json)) : Prop :=
  ∃ status body, reply = .received status body ∧ 200 ≤ status ∧ status < 300 ∧
    Json.readBytes Limits.reply body = .ok (.object members)

/-- The reply arrives and succeeds, but its body is nested too deep to be read. -/
def Reply.IsTooDeep (reply : Reply) : Prop :=
  ∃ status body, reply = .received status body ∧ 200 ≤ status ∧ status < 300 ∧
    Json.readBytes Limits.reply body = .error .tooDeep

end

namespace App

theorem not_isFailure {status : Nat} (hlow : 200 ≤ status) (hhigh : status < 300) :
    ¬ (status < 200 || 300 ≤ status) = true := by
  simp only [Bool.or_eq_true, decide_eq_true_eq]
  omega

section

variable [Limits] {reply : Reply} {members : List (String × Json)}

theorem readReply_eq_ok_iff :
    readReply reply = .ok members ↔ reply.Delivers members := by
  constructor
  · intro h
    unfold readReply at h
    split at h
    · next status body =>
      split at h
      · cases h
      · next hstatus =>
        simp only [Bool.or_eq_true, decide_eq_true_eq, not_or] at hstatus
        split at h
        · next hread =>
          cases h
          exact ⟨status, body, rfl, by omega, by omega, hread⟩
        all_goals cases h
    all_goals cases h
  · rintro ⟨status, body, rfl, hlow, hhigh, hread⟩
    rw [readReply, if_neg (not_isFailure hlow hhigh), hread]

/-- A reply delivers one object at most. -/
theorem members_unique {members' : List (String × Json)} (h : reply.Delivers members)
    (h' : reply.Delivers members') : members = members' := by
  cases (readReply_eq_ok_iff.mpr h).symm.trans (readReply_eq_ok_iff.mpr h')
  rfl

theorem readReply_of_isTooDeep (h : reply.IsTooDeep) :
    readReply reply = .error internalError := by
  obtain ⟨status, body, rfl, hlow, hhigh, hdeep⟩ := h
  rw [readReply, if_neg (not_isFailure hlow hhigh), hdeep]

theorem not_isTooDeep_of_delivers (h : reply.Delivers members) : ¬ reply.IsTooDeep := by
  intro hdeep
  cases (readReply_eq_ok_iff.mpr h).symm.trans (readReply_of_isTooDeep hdeep)

/-- A reply that delivers nothing is a bad one, whatever it is that it lacks, unless it is nested too
deep. -/
theorem readReply_eq_badReply (hbroken : reply ≠ .broken) (hdeep : ¬ reply.IsTooDeep)
    (hnot : ¬ ∃ members, reply.Delivers members) :
    readReply reply = .error badReply := by
  cases hread : readReply reply with
  | ok members => exact absurd ⟨members, readReply_eq_ok_iff.mp hread⟩ hnot
  | error a =>
      unfold readReply at hread
      split at hread
      · next status body =>
        split at hread
        · cases hread
          rfl
        · next hstatus =>
          simp only [Bool.or_eq_true, decide_eq_true_eq, not_or] at hstatus
          split at hread
          · cases hread
          · cases hread
            rfl
          · next h => exact absurd ⟨status, body, rfl, by omega, by omega, h⟩ hdeep
          · cases hread
            rfl
      · cases hread
        rfl
      · exact absurd rfl hbroken

end

end App

end Winnow
