/-
# `Replies` — what is made of the reply to a call when nothing is filtered

A reply that cannot be used is to be reported as such, and one that can is to be shown.  Whether the
reply is an object is checked where it is read, but what it holds under `responses` is not: that is
walked through as it is.  An array gives its items, and what counts as nothing gives none; but a
text gives its characters and an object its keys, as if they were responses, and a number or `true`
breaks the exchange.  So do two kinds of nesting: a body too deep for the reader of JSON, which gives
up on it in a way of its own, and responses that are read and yet too deep to be written down again.

`reply_is_reported_iff` says that these are all the ways in which a reply is not reported.
-/
import Winnow.Proofs.Filter.Evaluation
import Winnow.Proofs.Service.Precedence

namespace Winnow

/-! ## Responses in a reply -/

/-- The value may stand for responses: it is an array, or it counts as nothing. -/
def ListsResponses (v : Json) : Prop := v.isVacant = true ∨ ∃ items, v = .array items

/-- The responses that a value lists. -/
def listedResponses : Json → List Json
  | .array items => items
  | _ => []

theorem elementsOf_of_listsResponses {v : Json} (h : ListsResponses v) :
    elementsOf v = .ok (listedResponses v) := by
  rcases h with hvacant | ⟨items, rfl⟩
  · rw [elementsOf, if_pos hvacant]
    cases v with
    | array items => rw [listedResponses, List.isEmpty_iff.mp hvacant]
    | _ => rfl
  · exact elementsOf_array items

theorem elementsOf_of_elements? {v : Json} {items : List Json} (h : ¬ ListsResponses v)
    (hitems : v.elements? = some items) : elementsOf v = .ok items := by
  rw [elementsOf, if_neg (fun hvacant => h (Or.inl hvacant)), hitems]

theorem elementsOf_of_elements?_eq_none {v : Json} (h : ¬ ListsResponses v)
    (hnone : v.elements? = none) : elementsOf v = .error .notIterable := by
  rw [elementsOf, if_neg (fun hvacant => h (Or.inl hvacant)), hnone]

/-- The reply of a service that writes a text in UTF-8. -/
def Reply.ofText (status : Nat) (text : String) : Reply :=
  .received status (Text.toUtf8 text.toList)

theorem Reply.delivers_ofText [Limits] {status : Nat} {text : String}
    {members : List (String × Json)} (hlow : 200 ≤ status) (hhigh : status < 300)
    (htext : Json.textOfBytes? (Text.toUtf8 text.toList) = some text.toList)
    (hread : Json.read Limits.reply text.toList = .ok (.object members)) :
    (Reply.ofText status text).Delivers members := by
  refine ⟨status, _, rfl, hlow, hhigh, ?_⟩
  rw [Json.readBytes, htext]
  exact hread

/-- A text that is read as it was written is proper if its strings are. -/
theorem Reply.isProper_ofText {status : Nat} {text : String}
    (hbytes : Json.bytesArePaired (Text.toUtf8 text.toList) = true)
    (hpaired : Json.IsPaired text.toList)
    (htext : Json.textOfBytes? (Text.toUtf8 text.toList) = some text.toList) :
    (Reply.ofText status text).IsProper := by
  intro cs hcs
  cases htext.symm.trans hcs
  exact ⟨hbytes, hpaired⟩

/-! ## Values as they are shown -/

namespace Json

mutual

/-- The value is shown as another one: null stands for a number that is not finite, and all else for
itself. -/
inductive ShownAs : Json → Json → Prop
  | null : ShownAs .null .null
  | bool (b : Bool) : ShownAs (.bool b) (.bool b)
  | integer (i : Int) : ShownAs (.number (.integer i)) (.number (.integer i))
  | finite {x : Binary64} : x.isFinite = true → ShownAs (.number (.real x)) (.number (.real x))
  | notFinite {x : Binary64} : x.isFinite = false → ShownAs (.number (.real x)) .null
  | string (s : String) : ShownAs (.string s) (.string s)
  | array {items shown : List Json} : ItemsShownAs items shown →
      ShownAs (.array items) (.array shown)
  | object {members shown : List (String × Json)} : MembersShownAs members shown →
      ShownAs (.object members) (.object shown)

/-- Each item is shown in its place. -/
inductive ItemsShownAs : List Json → List Json → Prop
  | nil : ItemsShownAs [] []
  | cons {item item' : Json} {rest rest' : List Json} : ShownAs item item' →
      ItemsShownAs rest rest' → ItemsShownAs (item :: rest) (item' :: rest')

/-- Each member is shown in its place, under its key. -/
inductive MembersShownAs : List (String × Json) → List (String × Json) → Prop
  | nil : MembersShownAs [] []
  | cons {key : String} {value value' : Json} {rest rest' : List (String × Json)} :
      ShownAs value value' → MembersShownAs rest rest' →
      MembersShownAs ((key, value) :: rest) ((key, value') :: rest')

end

mutual

theorem shownAs_finite : ∀ v : Json, ShownAs v (App.finite v)
  | .null => .null
  | .bool b => .bool b
  | .number (.integer i) => .integer i
  | .number (.real x) => by
      rw [App.finite]
      split
      · next h => exact .finite h
      · next h => exact .notFinite (Bool.eq_false_iff.mpr h)
  | .string s => .string s
  | .array items => .array (itemsShownAs_finiteItems items)
  | .object members => .object (membersShownAs_finiteMembers members)

theorem itemsShownAs_finiteItems :
    ∀ items : List Json, ItemsShownAs items (App.finite.finiteItems items)
  | [] => .nil
  | item :: rest => .cons (shownAs_finite item) (itemsShownAs_finiteItems rest)

theorem membersShownAs_finiteMembers :
    ∀ members : List (String × Json), MembersShownAs members (App.finite.finiteMembers members)
  | [] => .nil
  | (_, value) :: rest => .cons (shownAs_finite value) (membersShownAs_finiteMembers rest)

end

theorem itemsShownAs_map (items : List Json) : ItemsShownAs items (items.map App.finite) := by
  induction items with
  | nil => exact .nil
  | cons item rest ih => exact .cons (shownAs_finite item) ih

end Json

/-! ## Exchanges -/

namespace Exchange

/-- The exchange shows responses, with null for numbers that are not finite. -/
def ShowsResponses (e : Exchange) (responses : List Json) : Prop :=
  e.answer.status = 200 ∧ ∃ members shown, e.answer.body = .json (.object members) ∧
    Json.get members "responses" = .array shown ∧ Json.ItemsShownAs responses shown

/-- The exchange reports the reply: it shows the responses that are listed in it, or else that the
reply cannot be used. -/
def Reports [Limits] (e : Exchange) (reply : Reply) : Prop :=
  (∃ members, reply.Delivers members ∧ ListsResponses (Json.get members "responses") ∧
    e.ShowsResponses (listedResponses (Json.get members "responses"))) ∨
  e.Shows 400 "Error while calling Fillout API"

theorem SameUpToHeaders.showsResponses {e e' : Exchange} {responses : List Json}
    (h : e.SameUpToHeaders e') (hshows : e'.ShowsResponses responses) :
    e.ShowsResponses responses := by
  rwa [ShowsResponses, h.status, h.body]

theorem status_ne_of_reports [Limits] {e : Exchange} {reply : Reply} (h : e.Reports reply) :
    e.answer.status ≠ 500 := by
  rcases h with ⟨_, -, -, hstatus, -⟩ | hshows
  · rw [hstatus]
    decide
  · rw [hshows.status]
    decide

/-- What is shown as responses is reported only if it is listed as such. -/
theorem listsResponses_of_reports [Limits] {e : Exchange} {reply : Reply}
    {members : List (String × Json)} {responses : List Json} (h : e.Reports reply)
    (hmembers : reply.Delivers members) (hshows : e.ShowsResponses responses) :
    ListsResponses (Json.get members "responses") := by
  rcases h with ⟨members', hmembers', hlists, -⟩ | hbad
  · rwa [App.members_unique hmembers hmembers']
  · exact absurd (hshows.1.symm.trans hbad.status) (by decide)

end Exchange

namespace App

/-! ## Answers without a filter -/

/-- The pages that a number of responses fills can be counted. -/
def CountsPages (total : Nat) (limit : Int) : Prop := ∃ pages, pageCount total limit = .ok pages

/-- Responses can be shown: their pages can be counted, and they can be written into an answer. -/
structure CanShow [Limits] (limit : Int) (responses : List Json) : Prop where
  counts : CountsPages responses.length limit
  shows : Limits.shows responses = true

theorem showsResponses_page [Limits] {limit : Int} {kept : List Json} {calls : List Call}
    (h : CanShow limit kept) : Exchange.ShowsResponses ⟨page limit kept, calls⟩ kept := by
  obtain ⟨⟨pages, hpages⟩, hshows⟩ := h
  rw [page_eq_json hpages hshows]
  exact ⟨rfl, _, _, rfl, rfl, Json.itemsShownAs_map kept⟩

theorem page_of_not_canShow [Limits] {limit : Int} {kept : List Json} (h : ¬ CanShow limit kept) :
    page limit kept = internalError := by
  unfold page
  split
  · next pages hpages => exact if_neg fun hshows => h ⟨⟨pages, hpages⟩, hshows⟩
  · rfl

section

variable [Present]

theorem keptBy_nil (v : Json) : keptBy [] v = elementsOf v := by
  change Filter.keep [] v = elementsOf v
  rw [Filter.keep]
  cases elementsOf v with
  | error fault => rfl
  | ok items => exact Filter.select_nil id items

section

variable [Limits] {r : Request} {limit : Int} {reply : Reply} {members : List (String × Json)}
  {e : Exchange} {calls : List Call}

theorem breaks_of_isTooDeep (hsame : e.SameUpToHeaders ⟨answerReply r limit [] reply, calls⟩)
    (h : reply.IsTooDeep) : e.answer.status = 500 := by
  rw [hsame.status, answerReply, readReply_of_isTooDeep h]
  rfl

theorem showsBadReply (hsame : e.SameUpToHeaders ⟨answerReply r limit [] reply, calls⟩)
    (hbroken : reply ≠ .broken) (hdeep : ¬ reply.IsTooDeep)
    (hnot : ¬ ∃ members, reply.Delivers members) :
    e.Shows 400 "Error while calling Fillout API" := by
  rw [answerReply, readReply_eq_badReply hbroken hdeep hnot] at hsame
  exact hsame.shows (Exchange.shows_messageAnswer _ _ _)

/-- What cannot be walked through breaks the exchange. -/
theorem breaks_of_elements?_eq_none
    (hsame : e.SameUpToHeaders ⟨answerReply r limit [] reply, calls⟩) (h : reply.Delivers members)
    (hlists : ¬ ListsResponses (Json.get members "responses"))
    (hnone : (Json.get members "responses").elements? = none) : e.answer.status = 500 := by
  rw [answerReply_of_fault h
    ((keptBy_nil _).trans (elementsOf_of_elements?_eq_none hlists hnone))] at hsame
  exact hsame.status

/-- What is met on the walk is shown as responses if it can be, and else the exchange breaks. -/
theorem shows_or_breaks_of_elementsOf {items : List Json}
    (hsame : e.SameUpToHeaders ⟨answerReply r limit [] reply, calls⟩) (h : reply.Delivers members)
    (hitems : elementsOf (Json.get members "responses") = .ok items) :
    (CanShow limit items → e.ShowsResponses items) ∧
      (¬ CanShow limit items → e.answer.status = 500) := by
  rw [answerReply_of_kept h ((keptBy_nil _).trans hitems)] at hsame
  constructor
  · exact fun hshow => hsame.showsResponses (showsResponses_page hshow)
  · intro hnot
    rw [page_of_not_canShow hnot] at hsame
    exact hsame.status

/-- Only what lists responses is reported, and only if they can be shown. -/
theorem listed_of_reports (hsame : e.SameUpToHeaders ⟨answerReply r limit [] reply, calls⟩)
    (h : reply.Delivers members) (hreports : e.Reports reply) :
    ListsResponses (Json.get members "responses") ∧
      CanShow limit (listedResponses (Json.get members "responses")) := by
  have hsound := Exchange.status_ne_of_reports hreports
  have hlists : ListsResponses (Json.get members "responses") := by
    by_contra hlists
    cases helements : (Json.get members "responses").elements? with
    | none => exact hsound (breaks_of_elements?_eq_none hsame h hlists helements)
    | some items =>
        obtain ⟨hshows, hbreaks⟩ :=
          shows_or_breaks_of_elementsOf hsame h (elementsOf_of_elements? hlists helements)
        have hcan : CanShow limit items := by_contra fun hnot => hsound (hbreaks hnot)
        exact hlists (Exchange.listsResponses_of_reports hreports h (hshows hcan))
  obtain ⟨-, hbreaks⟩ :=
    shows_or_breaks_of_elementsOf hsame h (elementsOf_of_listsResponses hlists)
  exact ⟨hlists, by_contra fun hnot => hsound (hbreaks hnot)⟩

/-- What a reply lists can be shown where all that is nested so deeply can. -/
theorem shows_listedResponses {depth : Nat} (hlimits : Limits.Admit depth)
    (hnested : reply.IsNestedWithin depth) (h : reply.Delivers members)
    (hlists : ListsResponses (Json.get members "responses")) :
    Limits.shows (listedResponses (Json.get members "responses")) = true :=
  shows_of_keptBy hlimits hnested h ((keptBy_nil _).trans (elementsOf_of_listsResponses hlists))

end

end

/-- A reply is reported to a request without filters exactly if its body is not nested too deep and
lists responses that can be shown, if it has any.  Otherwise the exchange breaks, or it shows the
characters of a text or the keys of an object as responses.  Nesting plays no part where the machine
bears that of the reply. -/
theorem reply_is_reported_iff [Present] [Limits] {s : Settings} {app : App} {r : Request}
    {formId : List Char} {q : PageQuery} {reply : Reply} (hs : ofSettings s = .ok app)
    (hr : r.AsksFor formId) (hurl : (app.base.resolve? (submissionsPath formId)).isSome)
    (hq : PageQuery.read? (Form.read r.query) = some q)
    (hnone : HoldsClauses (filterField r.query) []) (hreply : reply.IsProper) :
    ((app.handle r reply).Reports reply ↔ ¬ reply.IsTooDeep ∧
      ∀ members, reply.Delivers members → ListsResponses (Json.get members "responses") ∧
        CanShow q.limit (listedResponses (Json.get members "responses"))) ∧
    (∀ depth, Limits.Admit depth → reply.IsNestedWithin depth →
      ((app.handle r reply).Reports reply ↔
        ∀ members, reply.Delivers members → ListsResponses (Json.get members "responses") ∧
          CountsPages (listedResponses (Json.get members "responses")).length q.limit)) ∧
    (∀ total : Nat, total < 2 ^ 1022 → CountsPages total q.limit) ∧
    (reply.IsTooDeep → (app.handle r reply).answer.status = 500) ∧
    (¬ reply.IsTooDeep → (¬ ∃ members, reply.Delivers members) →
      (app.handle r reply).Shows 400 "Error while calling Fillout API") ∧
    ∀ members, reply.Delivers members →
      (ListsResponses (Json.get members "responses") →
        (CanShow q.limit (listedResponses (Json.get members "responses")) →
          (app.handle r reply).ShowsResponses (listedResponses (Json.get members "responses"))) ∧
        (¬ CanShow q.limit (listedResponses (Json.get members "responses")) →
          (app.handle r reply).answer.status = 500)) ∧
      (¬ ListsResponses (Json.get members "responses") →
        ((Json.get members "responses").elements? = none →
          (app.handle r reply).answer.status = 500) ∧
        ∀ items, (Json.get members "responses").elements? = some items →
          (CanShow q.limit items → (app.handle r reply).ShowsResponses items) ∧
          (¬ CanShow q.limit items → (app.handle r reply).answer.status = 500)) := by
  obtain ⟨call, hsame, -⟩ := handle_of_accepted reply hs hr hurl hnone hq
  have hlisted : ∀ members, reply.Delivers members →
      ListsResponses (Json.get members "responses") → _ := fun members hmembers hlists =>
    shows_or_breaks_of_elementsOf hsame hmembers (elementsOf_of_listsResponses hlists)
  have hiff : (app.handle r reply).Reports reply ↔ ¬ reply.IsTooDeep ∧
      ∀ members, reply.Delivers members → ListsResponses (Json.get members "responses") ∧
        CanShow q.limit (listedResponses (Json.get members "responses")) := by
    constructor
    · intro hreports
      refine ⟨?_, fun members hmembers => listed_of_reports hsame hmembers hreports⟩
      intro hdeep
      exact Exchange.status_ne_of_reports hreports (breaks_of_isTooDeep hsame hdeep)
    · rintro ⟨hdeep, hall⟩
      by_cases hdelivers : ∃ members, reply.Delivers members
      · obtain ⟨members, hmembers⟩ := hdelivers
        obtain ⟨hlists, hshow⟩ := hall members hmembers
        exact Or.inl ⟨members, hmembers, hlists, (hlisted members hmembers hlists).1 hshow⟩
      · exact Or.inr (showsBadReply hsame hreply.ne_broken hdeep hdelivers)
  refine ⟨hiff, ?_, ?_, breaks_of_isTooDeep hsame, showsBadReply hsame hreply.ne_broken, ?_⟩
  · intro depth hlimits hnested
    have hdeep := Reply.not_isTooDeep_of_isNestedWithin hnested hlimits
    rw [hiff, and_iff_right hdeep]
    refine forall₂_congr fun members hmembers => and_congr_right fun hlists => ?_
    have hshows := shows_listedResponses hlimits hnested hmembers hlists
    exact ⟨fun hshow => hshow.counts, fun hcounts => ⟨hcounts, hshows⟩⟩
  · intro total htotal
    exact exists_pageCount q.limit_pos htotal
  · intro members hmembers
    refine ⟨hlisted members hmembers, fun hlists => ⟨?_, ?_⟩⟩
    · exact breaks_of_elements?_eq_none hsame hmembers hlists
    · intro items helements
      exact shows_or_breaks_of_elementsOf hsame hmembers (elementsOf_of_elements? hlists helements)

/-- The request for a page without filters. -/
def unfiltered : Request := .get "/f/filteredResponses" "limit=5"

theorem asksFor_unfiltered : unfiltered.AsksFor ['f'] := ⟨rfl, by decide⟩

theorem holdsClauses_unfiltered [Limits] : HoldsClauses (filterField unfiltered.query) [] := by
  have hfield : filterField unfiltered.query = none := by decide +kernel
  rw [hfield]
  exact .missing

theorem exists_read?_unfiltered :
    ∃ q, PageQuery.read? (Form.read unfiltered.query) = some q :=
  Option.isSome_iff_exists.mp (by decide +kernel)

/-- An array is reported, also if a number in it is not finite. -/
theorem infinite_number_is_reported :
    let _ : Present := ⟨2025⟩
    let _ : Limits := .usual
    let reply := Reply.ofText 200 "\x7b\"responses\":[Infinity,1]\x7d"
    (ofSettings plain.settings = .ok plain ∧ unfiltered.AsksFor ['f'] ∧
      (plain.base.resolve? (submissionsPath ['f'])).isSome ∧
      (∃ q, PageQuery.read? (Form.read unfiltered.query) = some q) ∧
      HoldsClauses (filterField unfiltered.query) [] ∧ reply.IsProper ∧
      reply.Delivers [("responses", .array [.number (.real (.infinite false)), .ofInt 1])]) ∧
    (plain.handle unfiltered reply).Reports reply := by
  intro present limits reply
  have hurl : (plain.base.resolve? (submissionsPath ['f'])).isSome := by decide +kernel
  have htext : Json.textOfBytes? (Text.toUtf8 "\x7b\"responses\":[Infinity,1]\x7d".toList)
      = some "\x7b\"responses\":[Infinity,1]\x7d".toList := by decide +kernel
  have hread : Json.read 980 "\x7b\"responses\":[Infinity,1]\x7d".toList
      = .ok (.object [("responses", .array [.number (.real (.infinite false)), .ofInt 1])]) := by
    cbv
  have hdelivers : reply.Delivers
      [("responses", .array [.number (.real (.infinite false)), .ofInt 1])] :=
    Reply.delivers_ofText (by decide) (by decide) htext hread
  obtain ⟨q, hq⟩ := exists_read?_unfiltered
  have hproper : reply.IsProper :=
    Reply.isProper_ofText (by decide +kernel) (by decide +kernel) htext
  obtain ⟨hiff, -, hcounts, -⟩ := reply_is_reported_iff ofSettings_plain asksFor_unfiltered hurl hq
    holdsClauses_unfiltered hproper
  refine ⟨⟨ofSettings_plain, asksFor_unfiltered, hurl, ⟨q, hq⟩, holdsClauses_unfiltered, hproper,
    hdelivers⟩, hiff.mpr ⟨not_isTooDeep_of_delivers hdelivers, ?_⟩⟩
  intro members hmembers
  cases members_unique hdelivers hmembers
  exact ⟨Or.inr ⟨_, rfl⟩, hcounts 2 (lt_self_pow₀ (by decide) (by decide)), by decide +kernel⟩

/-- A number in the place of responses breaks the exchange, and a text is shown as its characters:
neither is reported. -/
theorem number_and_text_are_not_reported :
    let _ : Present := ⟨2025⟩
    let _ : Limits := .usual
    let number := Reply.ofText 200 "\x7b\"responses\":5\x7d"
    let text := Reply.ofText 200 "\x7b\"responses\":\"ab\"\x7d"
    ofSettings plain.settings = .ok plain ∧ unfiltered.AsksFor ['f'] ∧
      (plain.base.resolve? (submissionsPath ['f'])).isSome ∧
      (∃ q, PageQuery.read? (Form.read unfiltered.query) = some q) ∧
      HoldsClauses (filterField unfiltered.query) [] ∧
      (plain.handle unfiltered number).answer.status = 500 ∧
      ¬ (plain.handle unfiltered number).Reports number ∧
      (plain.handle unfiltered text).answer.status = 200 ∧
      ¬ (plain.handle unfiltered text).Reports text := by
  intro present limits number text
  have hnumber : (plain.handle unfiltered number).answer.status = 500 := by decide +kernel
  have htext : (plain.handle unfiltered text).answer.status = 200 := by decide +kernel
  have hread : Json.read 980 "\x7b\"responses\":\"ab\"\x7d".toList
      = .ok (.object [("responses", .string "ab")]) := by cbv
  have hdelivers : text.Delivers [("responses", .string "ab")] :=
    Reply.delivers_ofText (by decide) (by decide) (by decide +kernel) hread
  refine ⟨ofSettings_plain, asksFor_unfiltered, by decide +kernel, exists_read?_unfiltered,
    holdsClauses_unfiltered, hnumber, ?_, htext, ?_⟩
  · intro hreports
    exact Exchange.status_ne_of_reports hreports hnumber
  · rintro (⟨members, hmembers, hlists, -⟩ | hbad)
    · cases members_unique hdelivers hmembers
      rcases hlists with hvacant | ⟨_, harray⟩
      · cases hvacant
      · cases harray
    · exact absurd (htext.symm.trans hbad.status) (by decide)

end App

end Winnow
