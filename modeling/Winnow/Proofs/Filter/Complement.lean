/-
# `Complement` — to equal and to differ share out what is answered

To differ is not the same as not to be equal: a missing question neither equals a value nor differs
from it, and nor does null, unless the value is null, nor a text without a date, if the value is a
date.  Of all other answers a value says something (`Target.Covers`), and of these to differ is the
negation of to equal, in each of the three comparisons.  So the two filters keep what is covered,
without an overlap (`Filter.equal_and_different_split`).
-/
import Winnow.Proofs.Filter.Conjunction
import Winnow.Proofs.Filter.Numbers
import Winnow.Proofs.Filter.Timing

namespace Winnow

open Outcome

/-- The answer is one that equals the target or differs from it. -/
def Target.Covers [Present] : Target → Json → Prop
  | .null, _ => True
  | .number _, answer => answer ≠ .null
  | .text _, answer => answer ≠ .null
  | .date _, answer => answer ≠ .null ∧ ∃ t, answer.date = .ok (some t)

theorem Target.Covers.ne_null [Present] {target : Target} {answer : Json} (h : target.Covers answer)
    (hkind : target.kind ≠ .null) : answer ≠ .null := by
  cases target with
  | null => exact absurd rfl hkind
  | number n => exact h
  | text s => exact h
  | date s => exact h.1

/-! ## Comparisons -/

theorem compareText_differs (value answer : Json) :
    compareText value answer .differs = (compareText value answer .equals).map not := by
  unfold compareText
  cases value.shown with
  | error e => rfl
  | ok part => cases answer.shown <;> rfl

theorem compareDates_differs [Present] {value answer : Json} {target actual : DateTime}
    (hvalue : value.date = .ok (some target)) (hanswer : answer.date = .ok (some actual)) :
    compareDates value answer .differs = (compareDates value answer .equals).map not := by
  rw [compareDates_of_dates hvalue hanswer, compareDates_of_dates hvalue hanswer]
  cases target.timestamp? with
  | error e => rfl
  | ok x =>
      cases actual.timestamp? with
      | error e => rfl
      | ok y => exact compareNumbers_differs _ _

/-! ## Rules -/

namespace Rule

section

variable [Present] {id : String} {target : Target} {answer : Json}

/-- Of what is covered, to differ is the negation of to equal. -/
theorem holds_differs (htarget : target.Holds) (h : target.Covers answer) :
    holds ⟨id, .differs, target⟩ answer = (holds ⟨id, .equals, target⟩ answer).map not := by
  by_cases hkind : target.kind = .null
  · cases target with
    | null => rfl
    | _ => cases hkind
  · have hanswer : answer ≠ .null := h.ne_null hkind
    rw [holds_of_answer hkind hanswer, holds_of_answer hkind hanswer]
    cases target with
    | null => exact absurd rfl hkind
    | number n => exact compareNumbers_differs _ _
    | text s => exact compareText_differs _ _
    | date s =>
        obtain ⟨t, ht⟩ := htarget
        obtain ⟨-, actual, hactual⟩ := h
        exact compareDates_differs ht hactual

/-- Of nothing else does a rule hold. -/
theorem covers_of_holds {c : Condition} (h : holds ⟨id, c, target⟩ answer = .ok true) :
    target.Covers answer := by
  by_cases hkind : target.kind = .null
  · cases target with
    | null => trivial
    | _ => cases hkind
  · have hanswer : answer ≠ .null := by
      rintro rfl
      rw [holds_of_ne_null hkind] at h
      cases h
    rw [holds_of_answer hkind hanswer] at h
    cases target with
    | null => exact absurd rfl hkind
    | number n => exact hanswer
    | text s => exact hanswer
    | date s =>
        obtain ⟨found, hfound, h⟩ := bind_eq_ok_iff.mp h
        cases found with
        | none => cases h
        | some t => exact ⟨hanswer, t, hfound⟩

end

end Rule

/-! ## Submissions -/

/-- The submission answers the question, and the target covers the answer. -/
def Target.CoversIn [Present] (target : Target) (id : String) (s : Json) : Prop :=
  ∃ answer, FirstAnswer s id answer ∧ target.Covers answer

namespace Rule

section

variable [Present] {id : String} {target : Target} {s : Json}

theorem holdsOf_differs (htarget : target.Holds) (hs : IsSubmission s)
    (h : target.CoversIn id s) :
    holdsOf ⟨id, .differs, target⟩ s = (holdsOf ⟨id, .equals, target⟩ s).map not := by
  obtain ⟨answer, hanswer, hcovers⟩ := h
  have hfirst : ∀ c, holdsOf ⟨id, c, target⟩ s = holds ⟨id, c, target⟩ answer := fun c =>
    (holdsOf_eq_iff hs).mpr (Or.inl ⟨answer, hanswer, rfl⟩)
  rw [hfirst, hfirst]
  exact holds_differs htarget hcovers

theorem coversIn_of_holdsOf {c : Condition} (hs : IsSubmission s)
    (h : holdsOf ⟨id, c, target⟩ s = .ok true) : target.CoversIn id s := by
  obtain ⟨answer, hanswer, hholds⟩ := (satisfiedBy_iff hs).mpr h
  exact ⟨answer, hanswer, covers_of_holds hholds⟩

/-- A submission differs if it is covered and not equal. -/
theorem holdsOf_differs_eq_true_iff (htarget : target.Holds) (hs : IsSubmission s)
    (hsound : ∃ b, holdsOf ⟨id, .equals, target⟩ s = .ok b) :
    holdsOf ⟨id, .differs, target⟩ s = .ok true ↔
      target.CoversIn id s ∧ holdsOf ⟨id, .equals, target⟩ s ≠ .ok true := by
  obtain ⟨b, hb⟩ := hsound
  constructor
  · intro h
    have hcovers := coversIn_of_holdsOf hs h
    rw [holdsOf_differs htarget hs hcovers, hb] at h
    refine ⟨hcovers, fun htrue => ?_⟩
    cases hb.symm.trans htrue
    cases h
  · rintro ⟨hcovers, hne⟩
    rw [hb] at hne
    rw [holdsOf_differs htarget hs hcovers, hb]
    cases b with
    | true => exact absurd rfl hne
    | false => rfl

end

end Rule

/-! ## Filters -/

/-- Two predicates that share out a third select together what it selects. -/
theorem filter_append_filter_perm {α : Type} {items : List α} {p q : α → Bool} {covered : α → Prop}
    [DecidablePred covered] (hp : ∀ x ∈ items, p x = true → covered x)
    (hq : ∀ x ∈ items, q x = true ↔ covered x ∧ p x = false) :
    (items.filter p ++ items.filter q).Perm (items.filter covered) := by
  have hfirst : items.filter p = (items.filter covered).filter p := by
    rw [List.filter_filter]
    refine List.filter_congr fun x hx => ?_
    cases hx' : p x with
    | false => rfl
    | true => simp [hp x hx hx']
  have hsecond : items.filter q = (items.filter covered).filter fun x => !p x := by
    rw [List.filter_filter]
    refine List.filter_congr fun x hx => ?_
    rw [Bool.eq_iff_iff, hq x hx, and_comm]
    simp
  rw [hfirst, hsecond]
  exact List.filter_append_perm p _

namespace Filter

section

variable [Present]

/-- Only an order and dates can break a filter. -/
theorem exists_keep_of_no_dates {rules : Filter} {submissions : List Json}
    (htargets : ∀ r ∈ rules, r.target.Holds) (horder : ∀ r ∈ rules, r.OrdersSoundly)
    (hdates : ∀ r ∈ rules, r.target.kind ≠ .date) (hshape : ∀ s ∈ submissions, IsSubmission s)
    (htexts : ∀ s ∈ submissions, s.HasText) :
    ∃ kept, rules.keep (.array submissions) = .ok kept := by
  rw [keep_array, exists_select_iff]
  intro s hs e he
  obtain ⟨⟨r, hr, answer, -, _, _, htarget, -⟩, -⟩ :=
    failsOn_of_accepts htargets horder (hshape s hs) (htexts s hs) he
  refine hdates r hr.mem ?_
  rw [htarget]
  rfl

theorem keep_singleton_eq_ok_iff {r : Rule} {submissions kept : List Json} :
    keep [r] (.array submissions) = .ok kept ↔
      (∀ s ∈ submissions, ∃ b, r.holdsOf s = .ok b) ∧
        kept = submissions.filter fun s => r.holdsOf s = .ok true := by
  rw [keep_array, select_eq_ok_iff]
  simp only [accepts_singleton, id_eq]

open Classical in
/-- What equals a target and what differs from it are apart, and together they are what it covers. -/
theorem split_of_keep {id : String} {target : Target} {submissions kept kept' : List Json}
    (htarget : target.Holds) (hshape : ∀ s ∈ submissions, IsSubmission s)
    (hequal : keep [⟨id, .equals, target⟩] (.array submissions) = .ok kept)
    (hdifferent : keep [⟨id, .differs, target⟩] (.array submissions) = .ok kept') :
    List.Disjoint kept kept' ∧
      (kept ++ kept').Perm (submissions.filter fun s => target.CoversIn id s) := by
  obtain ⟨hsound, rfl⟩ := keep_singleton_eq_ok_iff.mp hequal
  obtain ⟨-, rfl⟩ := keep_singleton_eq_ok_iff.mp hdifferent
  have hiff : ∀ s ∈ submissions, Rule.holdsOf ⟨id, .differs, target⟩ s = .ok true ↔
      target.CoversIn id s ∧ Rule.holdsOf ⟨id, .equals, target⟩ s ≠ .ok true := fun s hs =>
    Rule.holdsOf_differs_eq_true_iff htarget (hshape s hs) (hsound s hs)
  constructor
  · intro s hmem hmem'
    obtain ⟨hs, hholds⟩ := List.mem_filter.mp hmem
    obtain ⟨-, hholds'⟩ := List.mem_filter.mp hmem'
    exact ((hiff s hs).mp (of_decide_eq_true hholds')).2 (of_decide_eq_true hholds)
  · refine filter_append_filter_perm ?_ ?_
    · intro s hs hholds
      exact Rule.coversIn_of_holdsOf (hshape s hs) (of_decide_eq_true hholds)
    · intro s hs
      simpa using hiff s hs

open Classical in
/-- The filters for what equals a value and for what differs from it keep no submission both, and
together they keep those that the value covers; unless the value is a date, neither fails. -/
theorem equal_and_different_split {v : Json} {target : Target} {limit : Nat} {text : List Char}
    {submissions : List Json} (id : String) (hv : Target.ofJson v = .ok target)
    (hread : Json.read limit text = .ok (.array submissions))
    (hshape : ∀ s ∈ submissions, IsSubmission s) :
    ∃ equal different : Filter, compile [⟨id, .equals, some v⟩] = .ok equal ∧
      compile [⟨id, .differs, some v⟩] = .ok different ∧
      (target.kind ≠ .date → (∃ kept, equal.keep (.array submissions) = .ok kept) ∧
        ∃ kept, different.keep (.array submissions) = .ok kept) ∧
      ∀ kept kept', equal.keep (.array submissions) = .ok kept →
        different.keep (.array submissions) = .ok kept' →
        List.Disjoint kept kept' ∧
          (kept ++ kept').Perm (submissions.filter fun s => target.CoversIn id s) := by
  have hequal := compile_singleton hv id .equals
  have hdifferent := compile_singleton hv id .differs
  have htarget : target.Holds :=
    forall_of_compile Rule.target_holds hequal _ (List.mem_singleton_self _)
  refine ⟨_, _, hequal, hdifferent, ?_, fun kept kept' => split_of_keep htarget hshape⟩
  intro hkind
  have htexts := Json.hasText_array.mp (Json.hasText_of_read hread)
  have hsound : ∀ c : Condition, c.isOrdered = false →
      ∃ kept, keep [⟨id, c, target⟩] (.array submissions) = .ok kept := by
    intro c hc
    refine exists_keep_of_no_dates (List.forall_mem_singleton.mpr htarget)
      (List.forall_mem_singleton.mpr ?_) (List.forall_mem_singleton.mpr hkind) hshape htexts
    intro hordered
    cases hc.symm.trans hordered
  exact ⟨hsound .equals rfl, hsound .differs rfl⟩

end

set_option maxRecDepth 2000 in
open Classical in
/-- One submission was answered on the day and one later, and the answer that is no date is in
neither half. -/
theorem unread_answer_is_in_neither_half :
    let _ : Present := ⟨2025⟩
    let text :=
      "[\x7b\"questions\":[\x7b\"id\":\"q\",\"value\":\"Jan 1 2024\"\x7d]\x7d,"
      ++ "\x7b\"questions\":[\x7b\"id\":\"q\",\"value\":\"2024-02-01\"\x7d]\x7d,"
      ++ "\x7b\"questions\":[\x7b\"id\":\"q\",\"value\":\"never\"\x7d]\x7d]"
    let onDay := answered "Jan 1 2024"
    let later := answered "2024-02-01"
    let unread := answered "never"
    let submissions := [onDay, later, unread]
    (Target.ofJson (.string "2024-01-01") = .ok (.date "2024-01-01") ∧
      Json.read 100 text.toList = .ok (.array submissions) ∧ ∀ s ∈ submissions, IsSubmission s) ∧
    ∃ equal different : Filter, equal.keep (.array submissions) = .ok [onDay] ∧
      different.keep (.array submissions) = .ok [later] ∧
      [onDay, later].Perm
        (submissions.filter fun s => (Target.date "2024-01-01").CoversIn "q" s) := by
  intro present text onDay later unread submissions
  have hv : Target.ofJson (.string "2024-01-01") = .ok (.date "2024-01-01") := by cbv
  have hread : Json.read 100 text.toList = .ok (.array submissions) := by cbv
  have hshape : ∀ s ∈ submissions, IsSubmission s := by
    simp [submissions, onDay, later, unread, isSubmission_answered]
  refine ⟨⟨hv, hread, hshape⟩, ?_⟩
  obtain ⟨equal, different, hequal, hdifferent, -, hsplit⟩ :=
    equal_and_different_split "q" hv hread hshape
  have hkept : equal.keep (.array submissions) = .ok [onDay] := by
    cases (compile_singleton hv "q" .equals).symm.trans hequal
    have honDay : Rule.holdsOf ⟨"q", .equals, .date "2024-01-01"⟩ onDay = .ok true := by
      decide +kernel
    have hlater : Rule.holdsOf ⟨"q", .equals, .date "2024-01-01"⟩ later = .ok false := by
      decide +kernel
    have hunread : Rule.holdsOf ⟨"q", .equals, .date "2024-01-01"⟩ unread = .ok false := by
      decide +kernel
    exact keep_singleton_eq_ok_iff.mpr (by simp [submissions, honDay, hlater, hunread])
  have hkept' : different.keep (.array submissions) = .ok [later] := by
    cases (compile_singleton hv "q" .differs).symm.trans hdifferent
    have honDay : Rule.holdsOf ⟨"q", .differs, .date "2024-01-01"⟩ onDay = .ok false := by
      decide +kernel
    have hlater : Rule.holdsOf ⟨"q", .differs, .date "2024-01-01"⟩ later = .ok true := by
      decide +kernel
    have hunread : Rule.holdsOf ⟨"q", .differs, .date "2024-01-01"⟩ unread = .ok false := by
      decide +kernel
    exact keep_singleton_eq_ok_iff.mpr (by simp [submissions, honDay, hlater, hunread])
  exact ⟨equal, different, hkept, hkept', (hsplit _ _ hkept hkept').2⟩

end Filter

end Winnow
