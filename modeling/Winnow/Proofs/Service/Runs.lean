/-
# `Runs` — requests one after another

All that a service keeps between requests is whether it has been shut down.  So what a request
leads to, whatever came before it, is what it leads to on its own or after a shutdown, and between
these two there is a difference only for a request that makes a call: there is nobody to make it any
more, and the exchange breaks (`requests_do_not_interact`).
-/
import Winnow.Proofs.Service.Calls

namespace Winnow

namespace App

section

variable [Present] [Limits]

/-! ## The service after some steps -/

/-- The service once it has been shut down. -/
def shutDown (app : App) : App := { app with closed := true }

/-- The service after a list of steps. -/
def stateAfter (app : App) : List Step → App
  | [] => app
  | s :: rest => stateAfter (app.step s).1 rest

section

variable {app : App} {steps before after : List Step} {r : Request} {reply : Reply}

/-- Only a shutdown changes the service. -/
theorem step_cases (app : App) (s : Step) :
    (∃ r reply, s = .request r reply ∧ app.step s = (app, .exchanged (app.handle r reply))) ∨
      s = .shutdown ∧ app.step s = (app.shutDown, .closed) := by
  cases s with
  | request r reply => exact Or.inl ⟨r, reply, rfl, rfl⟩
  | shutdown => exact Or.inr ⟨rfl, rfl⟩

theorem stateAfter_of_not_mem (h : .shutdown ∉ steps) : app.stateAfter steps = app := by
  induction steps with
  | nil => rfl
  | cons s rest ih =>
      rcases step_cases app s with ⟨_, _, -, hstep⟩ | ⟨hs, -⟩
      · rw [stateAfter, hstep]
        exact ih (List.not_mem_of_not_mem_cons h)
      · exact absurd hs.symm (List.ne_of_not_mem_cons h)

/-- A second shutdown changes nothing. -/
theorem stateAfter_of_mem (h : .shutdown ∈ steps) : app.stateAfter steps = app.shutDown := by
  induction steps generalizing app with
  | nil => cases h
  | cons s rest ih =>
      rw [stateAfter]
      by_cases hrest : .shutdown ∈ rest
      · rw [ih hrest]
        rcases step_cases app s with ⟨_, _, -, hstep⟩ | ⟨-, hstep⟩ <;> rw [hstep]
        rfl
      · rw [stateAfter_of_not_mem hrest]
        rcases List.mem_cons.mp h with rfl | hmem
        · rfl
        · exact absurd hmem hrest

/-- In a run a request is handled by the service after the steps before it. -/
theorem getElem?_run : (app.run (before ++ .request r reply :: after))[before.length]?
    = some (.exchanged ((app.stateAfter before).handle r reply)) := by
  induction before generalizing app with
  | nil => rfl
  | cons s rest ih =>
      rw [List.cons_append, run, List.length_cons, List.getElem?_cons_succ]
      exact ih

/-! ## Requests after a shutdown -/

theorem calls_shutDown : (app.shutDown.handle r reply).calls = [] := by
  rw [List.eq_nil_iff_forall_not_mem]
  intro call hcall
  obtain ⟨-, -, -, -, hopen, -⟩ := isAccepted_of_mem_calls hcall
  cases hopen

theorem dispatch_shutDown (app : App) (reply : Reply) {formId : List Char} {cs : List Clause}
    {q : PageQuery} (h : r.IsAccepted formId cs q) :
    app.shutDown.dispatch r reply = ⟨internalError, []⟩ := by
  rw [dispatch_of_isAccepted app.shutDown reply h]
  rfl

/-- What would have made a call breaks. -/
theorem answer_shutDown_of_calls (h : (app.handle r reply).calls ≠ []) :
    (app.shutDown.handle r reply).answer = internalError := by
  obtain ⟨call, hcall⟩ := List.exists_mem_of_ne_nil _ h
  obtain ⟨formId, cs, q, haccepted, -⟩ := isAccepted_of_mem_calls hcall
  have hdispatch := dispatch_shutDown app reply haccepted
  rw [handle_of_breaks haccepted.method (by rw [hdispatch]; rfl), hdispatch]

/-- What made no call is not changed. -/
theorem handle_shutDown_of_no_calls (h : (app.handle r reply).calls = []) :
    app.shutDown.handle r reply = app.handle r reply := by
  refine handle_congr rfl ?_
  by_cases haccepted : ∃ formId cs q, r.IsAccepted formId cs q
  · obtain ⟨formId, cs, q, haccepted⟩ := haccepted
    rw [dispatch_shutDown app reply haccepted, dispatch_of_isAccepted app reply haccepted,
      requestPage]
    cases hclosed : app.closed with
    | true => rfl
    | false =>
        rw [calls_of_isAccepted reply hclosed haccepted, Option.toList_eq_nil_iff] at h
        rw [h]
        rfl
  · exact (dispatch_of_not_isAccepted haccepted).2 app.shutDown reply rfl

end

/-- What a request leads to in a run is what it leads to on its own, or right after a shutdown if
there has been one.  After a shutdown there are no calls: a request that would have made one breaks,
and any other is answered as before. -/
theorem requests_do_not_interact (app : App) (before after : List Step) (r : Request)
    (reply : Reply) :
    ∃ first later : Exchange,
      app.run [.request r reply] = [.exchanged first] ∧
      app.run [.shutdown, .request r reply] = [.closed, .exchanged later] ∧
      (.shutdown ∉ before →
        (app.run (before ++ .request r reply :: after))[before.length]? = some (.exchanged first)) ∧
      (.shutdown ∈ before →
        (app.run (before ++ .request r reply :: after))[before.length]? = some (.exchanged later)) ∧
      later.calls = [] ∧
      (first.calls ≠ [] → later.answer = .plain 500 "Internal Server Error") ∧
      (first.calls = [] → later = first) := by
  refine ⟨app.handle r reply, app.shutDown.handle r reply, rfl, rfl, ?_, ?_, calls_shutDown,
    answer_shutDown_of_calls, handle_shutDown_of_no_calls⟩
  · intro hopen
    rw [getElem?_run, stateAfter_of_not_mem hopen]
  · intro hclosed
    rw [getElem?_run, stateAfter_of_mem hclosed]

end

/-- A page that was shown breaks after a shutdown, and the state of the service is shown all the
same. -/
theorem page_breaks_after_shutdown :
    let _ : Present := ⟨2025⟩
    let _ : Limits := .usual
    let page := Request.get "/f/filteredResponses" "limit=5"
    let state := Request.get "/healthz" ""
    let outcomes : List Outcome := plain.run [.request page .failed, .shutdown,
      .request page .failed, .request state .failed]
    outcomes[0]? = some (.exchanged (plain.handle page .failed)) ∧
    (plain.handle page .failed).calls.length = 1 ∧
    (∃ later : Exchange, outcomes[2]? = some (.exchanged later) ∧ later.calls = [] ∧
      later.answer = .plain 500 "Internal Server Error") ∧
    outcomes[3]? = some (.exchanged (plain.handle state .failed)) := by
  intro present limits page state outcomes
  have hcalls : (plain.handle page .failed).calls.length = 1 := by decide +kernel
  refine ⟨rfl, hcalls, ?_, ?_⟩
  · obtain ⟨first, later, hfirst, -, -, hlater, hnone, hbreaks, -⟩ := requests_do_not_interact plain
      [.request page .failed, .shutdown] [.request state .failed] page .failed
    obtain rfl : plain.handle page .failed = first := by
      cases hfirst
      rfl
    refine ⟨later, hlater (by simp), hnone, hbreaks ?_⟩
    intro hempty
    rw [hempty] at hcalls
    cases hcalls
  · obtain ⟨first, later, hfirst, -, -, hlater, -, -, hsame⟩ := requests_do_not_interact plain
      [.request page .failed, .shutdown, .request page .failed] [] state .failed
    obtain rfl : plain.handle state .failed = first := by
      cases hfirst
      rfl
    rw [← hsame (List.length_eq_zero_iff.mp (by decide +kernel))]
    exact hlater (by simp)

end App

end Winnow
