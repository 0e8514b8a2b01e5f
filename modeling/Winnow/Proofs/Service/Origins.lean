/-
# `Origins` — which origins may read the answers

A text of the environment lists the origins.  What it lists are its items between commas without
the blanks around them, as long as something is left (`mem_splitOrigins_iff`); so the order of the
items, the blanks and the empty items do not matter.

No answer names an origin by itself: the headers it has before it is marked are of other names
(`hasPlainHeaders_dispatch`).  The mark is the request's own origin, and it is left out only where
the origin is not listed or the exchange breaks (`allows_handle_iff`).  That is so for every list
without the star, which admits all origins.
-/
import Winnow.Proofs.Service.Runs
import Winnow.Proofs.Text.Blank
import Winnow.Proofs.Text.Pieces

namespace Winnow

/-! ## Lists of origins -/

/-- The name of the variable that lists the origins. -/
def originsName : String := "CORS_ALLOW_ORIGINS"

/-- The item, without the blanks around it, is the text. -/
def Trims (item cs : List Char) : Prop :=
  Text.IsTrimmed Text.isBlank cs ∧ ∃ left right, item = left ++ cs ++ right ∧
    (∀ c ∈ left, Text.isBlank c = true) ∧ ∀ c ∈ right, Text.isBlank c = true

/-- One of the items is the origin, which is not empty, with blanks around it. -/
def ItemsList (items : List (List Char)) (origin : String) : Prop :=
  origin ≠ "" ∧ ∃ item ∈ items, Trims item origin.toList

/-- The text between commas. -/
def originItems (text : String) : List (List Char) := text.toList.splitOn ','

/-- The text lists the origin. -/
def ListsOrigin (text origin : String) : Prop := ItemsList (originItems text) origin

/-- The items are the same up to the blanks around them, empty ones, and their order. -/
inductive SameItems : List (List Char) → List (List Char) → Prop
  | pad {left right : List Char} (before : List (List Char)) (item : List Char)
      (after : List (List Char)) : (∀ c ∈ left, Text.isBlank c = true) →
      (∀ c ∈ right, Text.isBlank c = true) →
      SameItems (before ++ item :: after) (before ++ (left ++ item ++ right) :: after)
  | empty (before after : List (List Char)) : SameItems (before ++ after) (before ++ [] :: after)
  | reorder {items items' : List (List Char)} : items.Perm items' → SameItems items items'
  | symm {items items' : List (List Char)} : SameItems items items' → SameItems items' items
  | trans {items items' items'' : List (List Char)} : SameItems items items' →
      SameItems items' items'' → SameItems items items''

theorem strip_eq_iff {item cs : List Char} : Text.strip item = cs ↔ Trims item cs :=
  Text.trimWhile_eq_iff

/-- What the settings hold is what the text lists. -/
theorem mem_splitOrigins_iff {text origin : String} :
    origin ∈ Settings.splitOrigins text ↔ ListsOrigin text origin := by
  rw [Settings.splitOrigins, Text.pieces_eq_splitOn, ListsOrigin, ItemsList, originItems]
  simp only [List.mem_map, List.mem_filter, Bool.not_eq_true', List.isEmpty_eq_false_iff]
  constructor
  · rintro ⟨cs, ⟨⟨item, hitem, hstrip⟩, hne⟩, rfl⟩
    refine ⟨by simpa using hne, item, hitem, ?_⟩
    rw [String.toList_ofList]
    exact strip_eq_iff.mp hstrip
  · rintro ⟨hne, item, hitem, htrims⟩
    exact ⟨origin.toList, ⟨⟨item, hitem, strip_eq_iff.mpr htrims⟩, by simpa using hne⟩,
      String.ofList_toList⟩

theorem trims_nil : Trims [] [] := ⟨⟨nofun, nofun⟩, [], [], rfl, nofun, nofun⟩

theorem strip_pad {left item right : List Char} (hleft : ∀ c ∈ left, Text.isBlank c = true)
    (hright : ∀ c ∈ right, Text.isBlank c = true) :
    Text.strip (left ++ item ++ right) = Text.strip item := by
  obtain ⟨htrimmed, left', right', hitem, hleft', hright'⟩ :=
    strip_eq_iff.mp (rfl : Text.strip item = _)
  refine strip_eq_iff.mpr ⟨htrimmed, left ++ left', right' ++ right, ?_, ?_, ?_⟩
  · nth_rewrite 1 [hitem]
    simp only [List.append_assoc]
  · exact fun c hc => (List.mem_append.mp hc).elim (hleft c) (hleft' c)
  · exact fun c hc => (List.mem_append.mp hc).elim (hright' c) (hright c)

/-- The same items list the same origins. -/
theorem itemsList_congr {items items' : List (List Char)} (h : SameItems items items')
    (origin : String) : ItemsList items origin ↔ ItemsList items' origin := by
  induction h with
  | pad before item after hleft hright =>
      simp only [ItemsList, ← strip_eq_iff, List.mem_append, List.mem_cons, or_and_right,
        exists_or, exists_eq_left, strip_pad hleft hright]
  | empty before after =>
      have hnil : origin ≠ "" → ¬ Trims [] origin.toList := by
        intro hne htrims
        have hempty := (strip_eq_iff.mpr htrims).symm.trans (strip_eq_iff.mpr trims_nil)
        exact hne (by simpa using hempty)
      simp only [ItemsList, List.mem_append, List.mem_cons, or_and_right, exists_or,
        exists_eq_left, and_congr_right_iff]
      intro hne
      rw [or_iff_right (hnil hne)]
  | reorder hperm => simp only [ItemsList, hperm.mem_iff]
  | symm _ ih => exact ih.symm
  | trans _ _ ih ih' => exact ih.trans ih'

/-! ## Headers of answers -/

/-- The answer lets the origin read it. -/
def Answer.Allows (a : Answer) (origin : String) : Prop :=
  ("access-control-allow-origin", origin) ∈ a.headers

/-- The answer has no other headers than those that answers have regardless of origins. -/
def Answer.HasPlainHeaders (a : Answer) : Prop :=
  ∀ h ∈ a.headers, h.1 ∈ ["content-type", "allow", "location"]

namespace Answer

variable {a : Answer} {origin : String}

theorem hasPlainHeaders_json (status : Nat) (v : Json) : (json status v).HasPlainHeaders := by
  simp [json, HasPlainHeaders]

theorem hasPlainHeaders_plain (status : Nat) (s : String) : (plain status s).HasPlainHeaders := by
  simp [plain, HasPlainHeaders]

theorem HasPlainHeaders.not_allows (h : a.HasPlainHeaders) : ¬ a.Allows origin := by
  intro hmem
  exact absurd (h _ hmem) (by simp)

theorem allows_withHeader {name value : String} : (a.withHeader name value).Allows origin ↔
    a.Allows origin ∨ name = "access-control-allow-origin" ∧ value = origin := by
  simp [Allows, withHeader, eq_comm]

end Answer

namespace App

open Answer

variable {a : Answer}

theorem hasPlainHeaders_logged (r : Request) (h : a.HasPlainHeaders) :
    (logged r a).HasPlainHeaders := by
  rw [logged]
  split
  · exact h
  · exact hasPlainHeaders_plain _ _

theorem hasPlainHeaders_faultAnswer (r : Request) (fault : Fault) :
    (faultAnswer r fault).HasPlainHeaders := by
  cases fault with
  | rejected _ => exact hasPlainHeaders_logged r (hasPlainHeaders_json _ _)
  | _ => exact hasPlainHeaders_plain _ _

section

variable [Limits]

theorem hasPlainHeaders_page (limit : Int) (kept : List Json) :
    (page limit kept).HasPlainHeaders := by
  rw [page]
  split
  · split
    · exact hasPlainHeaders_json _ _
    · exact hasPlainHeaders_plain _ _
  · exact hasPlainHeaders_plain _ _

theorem hasPlainHeaders_of_readReply {reply : Reply}
    (h : readReply reply = .error a) : a.HasPlainHeaders := by
  unfold readReply at h
  split at h
  · split at h
    · cases h
      exact hasPlainHeaders_json _ _
    · split at h <;> cases h
      · exact hasPlainHeaders_json _ _
      · exact hasPlainHeaders_plain _ _
      · exact hasPlainHeaders_json _ _
  · cases h
    exact hasPlainHeaders_json _ _
  · cases h
    exact hasPlainHeaders_plain _ _

variable [Present]

theorem hasPlainHeaders_answerReply (r : Request) (limit : Int) (cs : List Clause)
    (reply : Reply) : (answerReply r limit cs reply).HasPlainHeaders := by
  rw [answerReply]
  split
  · next h => exact hasPlainHeaders_of_readReply h
  · dsimp only
    split
    · exact hasPlainHeaders_page _ _
    · exact hasPlainHeaders_faultAnswer _ _

theorem hasPlainHeaders_requestPage (app : App) (r : Request) (formId : List Char)
    (q : PageQuery) (cs : List Clause) (reply : Reply) :
    (app.requestPage r formId q cs reply).answer.HasPlainHeaders := by
  rw [requestPage]
  split
  · exact hasPlainHeaders_plain _ _
  · split
    · exact hasPlainHeaders_plain _ _
    · exact hasPlainHeaders_answerReply _ _ _ _

theorem hasPlainHeaders_filteredResponses (app : App) (r : Request) (formId : List Char)
    (reply : Reply) : (app.filteredResponses r formId reply).answer.HasPlainHeaders := by
  rw [filteredResponses]
  split
  · exact hasPlainHeaders_plain _ _
  · exact hasPlainHeaders_plain _ _
  · exact hasPlainHeaders_json _ _
  · split
    · exact hasPlainHeaders_logged r (hasPlainHeaders_json _ _)
    · exact hasPlainHeaders_requestPage _ _ _ _ _ _

theorem hasPlainHeaders_dispatch (app : App) (r : Request) (reply : Reply) :
    (app.dispatch r reply).answer.HasPlainHeaders := by
  rw [dispatch]
  split
  · split
    · simp [methodNotAllowed, HasPlainHeaders, withHeader, json]
    · split
      · exact hasPlainHeaders_json _ _
      · exact hasPlainHeaders_filteredResponses _ _ _ _
  · split
    · simp [redirect, HasPlainHeaders]
    · exact hasPlainHeaders_json _ _

end

end App

/-! ## Marks for an origin -/

namespace Cors

variable {c c' : Cors} {r : Request} {a : Answer} {origin value method : String}

theorem allows_allowOrigin_iff (hall : c.admitsAll = false) (ha : a.HasPlainHeaders) :
    (c.allowOrigin origin a).Allows value ↔ origin = value ∧ value ∈ c.origins := by
  simp only [allowOrigin, admits, hall, Bool.false_or, List.contains_iff_mem, Bool.false_eq_true,
    if_false]
  split
  · next hmem =>
    rw [Answer.allows_withHeader, or_iff_right ha.not_allows]
    exact ⟨fun h => ⟨h.2, h.2 ▸ hmem⟩, fun h => ⟨rfl, h.1⟩⟩
  · next hmem => exact iff_of_false ha.not_allows fun h => hmem (h.1 ▸ h.2)

theorem allows_preflightHeaders : (preflightHeaders r a).Allows value ↔ a.Allows value := by
  rw [preflightHeaders]
  split <;> simp [Answer.allows_withHeader]

theorem status_preflightHeaders : (preflightHeaders r a).status = a.status := by
  rw [preflightHeaders]
  split <;> rfl

theorem status_allowOrigin : (c.allowOrigin origin a).status = a.status := by
  rw [allowOrigin]
  split
  · rfl
  · split <;> rfl

theorem allows_preflight_iff (hall : c.admitsAll = false) :
    (c.preflight r origin method).Allows value ↔ origin = value ∧ value ∈ c.origins := by
  rw [preflight, allows_preflightHeaders]
  split <;> exact allows_allowOrigin_iff hall (Answer.hasPlainHeaders_plain _ _)

theorem status_preflight : (c.preflight r origin method).status ≠ 500 := by
  rw [preflight, status_preflightHeaders, status_allowOrigin]
  split <;> simp [Answer.plain]

/-- Lists of the same origins admit alike. -/
theorem admitsAll_congr (h : ∀ origin, origin ∈ c'.origins ↔ origin ∈ c.origins) :
    c'.admitsAll = c.admitsAll := by
  rw [Bool.eq_iff_iff, admitsAll, admitsAll, List.contains_iff_mem, List.contains_iff_mem, h]

theorem admits_congr (h : ∀ origin, origin ∈ c'.origins ↔ origin ∈ c.origins) :
    c'.admits origin = c.admits origin := by
  rw [Bool.eq_iff_iff, admits, admits, admitsAll_congr h]
  simp only [Bool.or_eq_true, List.contains_iff_mem, h]

theorem allowOrigin_congr (h : ∀ origin, origin ∈ c'.origins ↔ origin ∈ c.origins) :
    c'.allowOrigin origin a = c.allowOrigin origin a := by
  rw [allowOrigin, allowOrigin, admitsAll_congr h, admits_congr h]

theorem preflight_congr (h : ∀ origin, origin ∈ c'.origins ↔ origin ∈ c.origins) :
    c'.preflight r origin method = c.preflight r origin method := by
  simp only [preflight, failures, admits_congr h, allowOrigin_congr h]

end Cors

namespace App

variable {app : App} {r : Request} {reply : Reply} {origin : String}

section

variable [Present] [Limits]

/-- An answer is marked for an origin exactly if that is the request's, it is admitted, and the
exchange does not break. -/
theorem allows_handle_iff (hall : app.cors.admitsAll = false) :
    (app.handle r reply).answer.Allows origin ↔ r.header? "origin" = some origin ∧
      origin ∈ app.settings.corsOrigins ∧ (app.handle r reply).answer.status ≠ 500 := by
  have hplain := hasPlainHeaders_dispatch app r reply
  rw [handle]
  split
  · next hnone =>
    rw [hnone]
    exact iff_of_false hplain.not_allows fun h => Option.some_ne_none origin h.1.symm
  · next value hvalue =>
    rw [hvalue, Option.some.injEq]
    split
    · rw [Cors.allows_preflight_iff hall]
      exact ⟨fun h => ⟨h.1, h.2, Cors.status_preflight⟩, fun h => ⟨h.1, h.2.1⟩⟩
    · dsimp only
      split
      · next hstatus => exact iff_of_false hplain.not_allows fun h => h.2.2 hstatus
      · next hstatus =>
        rw [Cors.allows_allowOrigin_iff hall hplain, Cors.status_allowOrigin]
        exact ⟨fun h => ⟨h.1, h.2, hstatus⟩, fun h => ⟨h.1, h.2.1⟩⟩

/-! ## Other lists of the same origins -/

/-- The service with another list of origins. -/
def withOrigins (app : App) (origins : List String) : App :=
  { app with settings := { app.settings with corsOrigins := origins } }

theorem settings_stateAfter (app : App) (steps : List Step) :
    (app.stateAfter steps).settings = app.settings := by
  induction steps generalizing app with
  | nil => rfl
  | cons s rest ih =>
      rw [stateAfter, ih]
      rcases step_cases app s with ⟨_, _, -, hstep⟩ | ⟨-, hstep⟩ <;> rw [hstep]
      rfl

theorem stateAfter_withOrigins (app : App) (origins : List String) (steps : List Step) :
    (app.withOrigins origins).stateAfter steps = (app.stateAfter steps).withOrigins origins := by
  induction steps generalizing app with
  | nil => rfl
  | cons s rest ih =>
      cases s with
      | request r reply => exact ih app
      | shutdown => exact ih app.shutDown

theorem dispatch_withOrigins (app : App) (origins : List String) (r : Request) (reply : Reply) :
    (app.withOrigins origins).dispatch r reply = app.dispatch r reply := rfl

/-- The order of the origins, and how often they are listed, do not matter. -/
theorem handle_withOrigins {origins : List String}
    (h : ∀ origin, origin ∈ origins ↔ origin ∈ app.settings.corsOrigins) :
    (app.withOrigins origins).handle r reply = app.handle r reply := by
  have hcors : ∀ origin, origin ∈ (app.withOrigins origins).cors.origins ↔
    origin ∈ app.cors.origins := h
  simp only [handle, dispatch_withOrigins, Cors.preflight_congr hcors,
    Cors.allowOrigin_congr hcors]

end

theorem ofSettings_withOrigins {s : Settings} (origins : List String)
    (h : ofSettings s = .ok app) :
    ofSettings { s with corsOrigins := origins } = .ok (app.withOrigins origins) := by
  obtain ⟨⟨base, hbase, rfl⟩, hkey⟩ := ofSettings_eq_ok_iff.mp h
  exact ofSettings_eq_ok_iff.mpr ⟨⟨base, hbase, rfl⟩, hkey⟩

/-- The list of origins is the only setting that its variable decides. -/
theorem ofEnvironment_of_agree {env env' : Environment} {text : String} {s : Settings}
    (htext : env'.lookup originsName = some text)
    (hother : ∀ name, name ≠ originsName → env'.lookup name = env.lookup name)
    (hs : Settings.ofEnvironment env = .ok s) :
    Settings.ofEnvironment env' = .ok { s with corsOrigins := Settings.splitOrigins text } := by
  rw [originsName] at htext
  unfold Settings.ofEnvironment at hs ⊢
  simp only [hother "API_KEY" (by decide), hother "FILLOUT_BASE_URL" (by decide),
    hother "PORT" (by decide), hother "FORM_ID" (by decide),
    hother "FILLOUT_TIMEOUT_SECONDS" (by decide), hother "LOG_LEVEL" (by decide), htext] at hs ⊢
  split at hs
  · cases hs
  · next hkey =>
    rw [if_neg hkey]
    split at hs
    · split at hs <;> cases hs
      rfl
    · cases hs

theorem corsOrigins_of_ofEnvironment {env : Environment} {text : String} {s : Settings}
    (htext : env.lookup originsName = some text) (hs : Settings.ofEnvironment env = .ok s) :
    s.corsOrigins = Settings.splitOrigins text := by
  have hsame := ofEnvironment_of_agree htext (fun _ _ => rfl) hs
  rw [hs, Except.ok.injEq] at hsame
  exact congrArg Settings.corsOrigins hsame

theorem settings_of_ofSettings {s : Settings} (h : ofSettings s = .ok app) : app.settings = s := by
  obtain ⟨⟨base, -, rfl⟩, -⟩ := ofSettings_eq_ok_iff.mp h
  rfl

/-- A service whose environment lists origins without the star lets those and no others read its
answers, whatever it has done before.  Another text with the same items gives a service that answers
the same. -/
theorem only_listed_origins_are_admitted [Present] [Limits] {env : Environment} {text : String}
    {s : Settings} {app : App} (htext : env.lookup originsName = some text)
    (hs : Settings.ofEnvironment env = .ok s) (happ : ofSettings s = .ok app)
    (hstar : ¬ ListsOrigin text "*") :
    (∀ steps r reply,
      (∀ origin, ((app.stateAfter steps).handle r reply).answer.Allows origin →
        r.header? "origin" = some origin ∧ ListsOrigin text origin) ∧
      (∀ origin, r.header? "origin" = some origin → ListsOrigin text origin →
        ((app.stateAfter steps).handle r reply).answer.status ≠ 500 →
        ((app.stateAfter steps).handle r reply).answer.Allows origin)) ∧
    ∀ env' text', env'.lookup originsName = some text' →
      (∀ name, name ≠ originsName → env'.lookup name = env.lookup name) →
      SameItems (originItems text) (originItems text') →
      ∃ s' app', Settings.ofEnvironment env' = .ok s' ∧ ofSettings s' = .ok app' ∧
        ∀ steps r reply,
          (app'.stateAfter steps).handle r reply = (app.stateAfter steps).handle r reply := by
  have horigins : ∀ origin, origin ∈ app.settings.corsOrigins ↔ ListsOrigin text origin := by
    intro origin
    rw [settings_of_ofSettings happ, corsOrigins_of_ofEnvironment htext hs, mem_splitOrigins_iff]
  constructor
  · intro steps r reply
    have hsettings := settings_stateAfter app steps
    have hall : (app.stateAfter steps).cors.admitsAll = false := by
      rw [Bool.eq_false_iff, ne_eq, Cors.admitsAll, List.contains_iff_mem, cors, hsettings,
        horigins]
      exact hstar
    simp only [allows_handle_iff hall, hsettings, horigins]
    exact ⟨fun _ h => ⟨h.1, h.2.1⟩, fun _ h hlists hstatus => ⟨h, hlists, hstatus⟩⟩
  · intro env' text' htext' hother hsame
    refine ⟨_, _, ofEnvironment_of_agree htext' hother hs, ofSettings_withOrigins _ happ, ?_⟩
    intro steps r reply
    rw [stateAfter_withOrigins]
    refine handle_withOrigins fun origin => ?_
    rw [mem_splitOrigins_iff, settings_stateAfter, horigins]
    exact (itemsList_congr hsame origin).symm

/-- The environment of a plain service, with a text that lists origins. -/
def plainEnvironment (text : String) : Environment :=
  [("API_KEY", "test-key"), ("FILLOUT_BASE_URL", "http://fillout.test"), (originsName, text)]

theorem ofEnvironment_plain :
    Settings.ofEnvironment (plainEnvironment " http://a.test , ,http://b.test")
      = .ok (plain.withOrigins ["http://a.test", "http://b.test"]).settings := by
  rfl

/-- An origin that is listed reads the state of the service, an unlisted one does not, and both
ways of listing two origins lead to the same answers. -/
theorem second_origin_of_list_reads_state :
    let _ : Present := ⟨2025⟩
    let _ : Limits := .usual
    let app := plain.withOrigins ["http://a.test", "http://b.test"]
    let asks (origin : String) : Request :=
      ⟨"GET", "/healthz".toList, "", [("Origin", origin)], "http", "localhost"⟩
    (app.handle (asks "http://b.test") .failed).answer.Allows "http://b.test" ∧
    (∀ origin, ¬ (app.handle (asks "http://c.test") .failed).answer.Allows origin) ∧
    ∃ s' app', Settings.ofEnvironment (plainEnvironment "http://b.test,http://a.test") = .ok s' ∧
      ofSettings s' = .ok app' ∧ ∀ r reply, app'.handle r reply = app.handle r reply := by
  intro present limits app asks
  have happ : ofSettings app.settings = .ok app := ofSettings_withOrigins _ ofSettings_plain
  have horigins : ∀ origin, ListsOrigin " http://a.test , ,http://b.test" origin ↔
      origin ∈ ["http://a.test", "http://b.test"] := by
    intro origin
    rw [← mem_splitOrigins_iff]
    rfl
  have hsame : SameItems (originItems " http://a.test , ,http://b.test")
      (originItems "http://b.test,http://a.test") := by
    have hspace : ∀ c ∈ [' '], Text.isBlank c = true := by simp [Text.isBlank, Text.isSpace]
    have hone : SameItems ["http://a.test".toList, "http://b.test".toList]
        ["http://a.test".toList, [], "http://b.test".toList] := .empty ["http://a.test".toList] _
    have htwo : SameItems ["http://a.test".toList, [], "http://b.test".toList]
        ["http://a.test".toList, " ".toList, "http://b.test".toList] :=
      .pad ["http://a.test".toList] [] _ hspace (List.forall_mem_nil _)
    have hthree : SameItems ["http://a.test".toList, " ".toList, "http://b.test".toList]
        [" http://a.test ".toList, " ".toList, "http://b.test".toList] :=
      .pad [] "http://a.test".toList _ hspace hspace
    have hitems : originItems " http://a.test , ,http://b.test"
        = [" http://a.test ".toList, " ".toList, "http://b.test".toList] := by decide +kernel
    have hitems' : originItems "http://b.test,http://a.test"
        = ["http://b.test".toList, "http://a.test".toList] := by decide +kernel
    rw [hitems, hitems']
    exact ((hone.trans htwo).trans hthree).symm.trans (.reorder (List.Perm.swap _ _ []))
  obtain ⟨hanswers, hlists⟩ := only_listed_origins_are_admitted rfl ofEnvironment_plain happ
    (by rw [horigins]; decide)
  refine ⟨?_, ?_, ?_⟩
  · exact (hanswers [] (asks "http://b.test") .failed).2 _ rfl (by rw [horigins]; decide)
      (by decide +kernel)
  · intro origin hallows
    obtain ⟨horigin, hlisted⟩ := (hanswers [] (asks "http://c.test") .failed).1 origin hallows
    cases horigin
    exact absurd ((horigins _).mp hlisted) (by decide)
  · have hother : ∀ name, name ≠ originsName →
        (plainEnvironment "http://b.test,http://a.test").lookup name
          = (plainEnvironment " http://a.test , ,http://b.test").lookup name := by
      intro name hname
      simp only [plainEnvironment, List.lookup, beq_eq_false_iff_ne.mpr hname]
    obtain ⟨s', app', hs', happ', hhandle⟩ := hlists
      (plainEnvironment "http://b.test,http://a.test") _ rfl hother hsame
    exact ⟨s', app', hs', happ', hhandle []⟩

end App

end Winnow
