/-
App — the service: requests in, answers out.

A request for filtered responses is checked as a whole before the service of forms is called, once
and with nothing but the parameters of the page.  Its reply is then filtered.  The state of the
service between requests is its configuration and whether it has been shut down.
-/
import Winnow.Filter.Field
import Winnow.Filter.Submission
import Winnow.Json.Bytes
import Winnow.Limits
import Winnow.Page.Count
import Winnow.Page.Query
import Winnow.Service.Settings
import Winnow.Web.Authority
import Winnow.Web.Base64
import Winnow.Web.Cors
import Winnow.Web.Url

namespace Winnow

/-- Why the service cannot be set up. -/
inductive AppFault where
  /-- The address of the service of forms is not an address. -/
  | invalidUrl
  /-- The key is not in ASCII. -/
  | keyNotAscii
deriving DecidableEq, Repr

/-- The service. -/
structure App where
  settings : Settings
  base : Url
  closed : Bool

/-- An answer, and the calls made for it. -/
structure Exchange where
  answer : Answer
  calls : List Call

namespace App

variable [Present] [Limits]

/-- The service with its settings. -/
def ofSettings (s : Settings) : Except AppFault App :=
  match Url.read? s.baseUrl.toList with
  | none => .error .invalidUrl
  | some base =>
    if s.apiKey.toList.all (·.toNat < 0x80) then .ok ⟨s, base, false⟩ else .error .keyNotAscii

/-! ## Answers -/

/-- An answer with a message. -/
def messageAnswer (status : Nat) (message : String) : Answer :=
  .json status (.object [("message", .string message)])

/-- The answer to a query that does not keep the rules. -/
def invalidQuery : Answer := messageAnswer 404 "Invalid Query Parameters"

/-- The answer when the service of forms gives no usable reply. -/
def badReply : Answer := messageAnswer 400 "Error while calling Fillout API"

/-- The answer to what nobody expects. -/
def internalError : Answer := .plain 500 "Internal Server Error"

/-- An answer that is logged with the path of its request, which is taken from its address. -/
def logged (r : Request) (a : Answer) : Answer := if r.hasUrl then a else internalError

/-- The answer for a filter that cannot be applied, which is logged, or whose evaluation fails. -/
def faultAnswer (r : Request) : Fault → Answer
  | .rejected rejection => logged r (messageAnswer 400 rejection.message)
  | _ => internalError

/-- The answer when there is nothing at a path. -/
def notFound : Answer := .json 404 (.object [("detail", .string "Not Found")])

/-- The answer to a method other than GET. -/
def methodNotAllowed : Answer :=
  (Answer.json 405 (.object [("detail", .string "Method Not Allowed")])).withHeader "allow" "GET"

/-! ## Replies of the service of forms -/

/-- The value with null in the place of every number that is not finite. -/
def finite : Json → Json
  | .number (.real x) => if x.isFinite then .number (.real x) else .null
  | .array items => .array (finiteItems items)
  | .object members => .object (finiteMembers members)
  | v => v
where
  /-- The items with null in the place of every number that is not finite. -/
  finiteItems : List Json → List Json
    | [] => []
    | item :: rest => finite item :: finiteItems rest
  /-- The members with null in the place of every number that is not finite. -/
  finiteMembers : List (String × Json) → List (String × Json)
    | [] => []
    | (key, value) :: rest => (key, finite value) :: finiteMembers rest

/-- The object in the body of a reply.  A reply fails unless its status is one of success and its
body an object; nesting that is too deep breaks the exchange. -/
def readReply : Reply → Except Answer (List (String × Json))
  | .received status body =>
    if status < 200 || 300 ≤ status then .error badReply
    else match Json.readBytes Limits.reply body with
      | .ok (.object members) => .ok members
      | .ok _ => .error badReply
      | .error .tooDeep => .error internalError
      | .error _ => .error badReply
  | .failed => .error badReply
  | .broken => .error internalError

/-- The filtered page of submissions. -/
def page (limit : Int) (kept : List Json) : Answer :=
  match pageCount kept.length limit with
  | .ok pages =>
    if Limits.shows kept then
      .json 200 (.object [("responses", .array (kept.map finite)),
        ("totalResponses", .ofInt kept.length), ("pageCount", .ofInt pages)])
    else internalError
  | .error _ => internalError

/-- The answer that a reply leads to. -/
def answerReply (r : Request) (limit : Int) (clauses : List Clause) (reply : Reply) :
    Answer :=
  match readReply reply with
  | .error a => a
  | .ok members =>
    let kept := do (← Filter.compile clauses).keep (Json.get members "responses")
    match kept with
    | .ok kept => page limit kept
    | .error fault => faultAnswer r fault

/-! ## Calls to the service of forms -/

/-- The credentials of calls: those in the address, or else the key. -/
def authorization (app : App) : String :=
  let (name, password) := app.base.credentials
  if name.isEmpty && password.isEmpty then "Bearer " ++ app.settings.apiKey
  else "Basic " ++ String.ofList (Base64.encode (Text.toUtf8 (name ++ ':' :: password)))

/-- The call for a page of a form, if its address is one. -/
def call? (app : App) (formId : List Char) (q : PageQuery) : Option Call := do
  let path ← app.base.resolve? ("/api/forms/".toList ++ formId ++ "/submissions".toList)
  let fields ← (Parameter.forward q.parameters).toOption
  return {
    method := "GET"
    host := String.ofList app.base.hostPort
    target := String.ofList (path ++ '?' :: Form.write fields)
    authorization := app.authorization }

/-- Asks for a page of a form, and filters it. -/
def requestPage (app : App) (r : Request) (formId : List Char) (q : PageQuery)
    (clauses : List Clause) (reply : Reply) : Exchange :=
  if app.closed then ⟨internalError, []⟩
  else match app.call? formId q with
    | none => ⟨internalError, []⟩
    | some call => ⟨answerReply r q.limit clauses reply, [call]⟩

/-! ## Routes -/

/-- What there is at a path, apart from pages that describe the service. -/
inductive Route where
  | health
  | responses (formId : List Char)
deriving DecidableEq, Repr

/-- The path without one line feed at its end. -/
def dropLineFeed (path : List Char) : List Char :=
  if path.getLast? = some '\n' then path.dropLast else path

/-- The route of a path; one line feed at its end does not count. -/
def route? (path : List Char) : Option Route :=
  match Text.pieces '/' (dropLineFeed path) with
  | [[], name] => if name = "healthz".toList then some .health else none
  | [[], formId, name] =>
    if !formId.isEmpty && name = "filteredResponses".toList then some (.responses formId) else none
  | _ => none

/-- A character that stands for itself in the address of a redirection. -/
def isLocationChar (c : Char) : Bool :=
  Percent.isUnreserved c || ":/%#?=@[]!$&'()*+,;".toList.contains c

/-- The path without its trailing slashes, if that has a route and has any. -/
def withoutSlashes? (path : List Char) : Option (List Char) :=
  let shorter := (path.reverse.dropWhile (· = '/')).reverse
  if path ≠ ['/'] && path.getLast? = some '/' && (route? shorter).isSome then some shorter else none

/-- The redirection to a path of the same service. -/
def redirect (r : Request) (path : List Char) : Answer :=
  ⟨307, [("location", String.ofList (Percent.encode isLocationChar (r.addressOf path)))], .text ""⟩

/-- The state of the service. -/
def health (app : App) : Answer :=
  .json 200 (.object [("ok", .bool true), ("upstream", .string app.settings.baseUrl),
    ("defaultFormId", (app.settings.defaultFormId.map Json.string).getD .null)])

/-- Filtered responses: the field for filters is read first, and a limit that stops it breaks the
request; then all rules of the query are checked together.  Only the refusal of the latter is logged
with the path. -/
def filteredResponses (app : App) (r : Request) (formId : List Char) (reply : Reply) :
    Exchange :=
  let fields := Form.read r.query
  match Clause.readField (Form.value? fields "filters") with
  | .error (.stopped _) | .error .unlogged => ⟨internalError, []⟩
  | .error .invalid => ⟨invalidQuery, []⟩
  | .ok clauses => match PageQuery.read? fields with
    | none => ⟨logged r invalidQuery, []⟩
    | some q => app.requestPage r formId q clauses reply

/-- The exchange for a request, regardless of its origin. -/
def dispatch (app : App) (r : Request) (reply : Reply) : Exchange :=
  match route? r.path with
  | some route =>
    if r.method ≠ "GET" then ⟨methodNotAllowed, []⟩
    else match route with
      | .health => ⟨app.health, []⟩
      | .responses formId => app.filteredResponses r formId reply
  | none => match withoutSlashes? r.path with
    | some path => ⟨redirect r path, []⟩
    | none => ⟨notFound, []⟩

/-- The origins that the service admits. -/
def cors (app : App) : Cors := ⟨app.settings.corsOrigins⟩

/-- The exchange for a request.  A preflight request gets no further; other answers are marked for
their origin, except those to what nobody expects. -/
def handle (app : App) (r : Request) (reply : Reply) : Exchange :=
  match r.header? "origin" with
  | none => app.dispatch r reply
  | some origin =>
    match Cors.preflightMethod? r with
    | some method => ⟨app.cors.preflight r origin method, []⟩
    | none =>
      let e := app.dispatch r reply
      if e.answer.status = 500 then e else { e with answer := app.cors.allowOrigin origin e.answer }

/-! ## Steps -/

/-- What happens to the service. -/
inductive Step where
  /-- A request arrives, and a call for it would get the reply. -/
  | request (r : Request) (reply : Reply)
  | shutdown

/-- What a step shows. -/
inductive Outcome where
  | exchanged (e : Exchange)
  | closed

/-- One step: the service after it, and what it shows. -/
def step (app : App) : Step → App × Outcome
  | .request r reply => (app, .exchanged (app.handle r reply))
  | .shutdown => ({ app with closed := true }, .closed)

/-- What a list of steps shows. -/
def run (app : App) : List Step → List Outcome
  | [] => []
  | s :: rest =>
    let (app, outcome) := app.step s
    outcome :: run app rest

end App

end Winnow
