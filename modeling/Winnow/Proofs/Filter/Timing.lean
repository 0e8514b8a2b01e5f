/-
# `Timing` — the one way in which a sound filter fails on sound submissions

Text and numbers are compared without fail if both can be written as text, which is so for whatever
was read from a text.  Dates are not: to be compared they must have a timestamp, and one whose
offset is a day or more is read as a date and yet has none.  And a date in free form is computed
with decimal numbers, which fail on too many digits instead of finding that the text is no date.
Either can be the fault of an answer, and the first also that of the filter.
-/
import Winnow.Proofs.Filter.Compiling

namespace Winnow

open Outcome

/-! ## Dates -/

/-- The answer cannot be timed against a date. -/
def Untimed [Present] (target : DateTime) (answer : Json) : Prop :=
  answer.date = .error .imprecise ∨
    ∃ t, answer.date = .ok (some t) ∧ (target.hasTimestamp = false ∨ t.hasTimestamp = false)

theorem shown_of_hasText {v : Json} (h : v.HasText) : ∃ cs, v.shown = .ok cs := by
  obtain ⟨cs, hcs⟩ := Option.isSome_iff_exists.mp (Json.isSome_text? h)
  refine ⟨cs, ?_⟩
  rw [Json.shown, hcs]

/-- Either a value cannot be shown, or a date has too many digits to be read. -/
theorem date_error_cases [Present] {v : Json} {e : Fault} (he : v.date = .error e) :
    v.shown = .error e ∨ e = .imprecise := by
  unfold Json.date at he
  split at he
  · cases he
  · cases he
  · rcases bind_eq_error_iff.mp he with hshown | ⟨cs, -, hread⟩
    · exact Or.inl hshown
    · split at hread
      · cases hread
      · cases hread
        exact Or.inr rfl

/-- Only its number of digits keeps a date that is shown from being read. -/
theorem date_error [Present] {v : Json} {e : Fault} (h : v.HasText) (he : v.date = .error e) :
    e = .imprecise := by
  rcases date_error_cases he with hshown | himprecise
  · obtain ⟨cs, hcs⟩ := shown_of_hasText h
    cases hcs.symm.trans hshown
  · exact himprecise

/-! ## Comparisons -/

/-- A number is compared with anything. -/
theorem exists_compareNumbers (n : Number) (answer : Json) (c : Condition) :
    ∃ b, compareNumbers (.number n) answer c = .ok b := by
  unfold compareNumbers
  cases c with
  | equals => exact ⟨_, rfl⟩
  | differs => exact ⟨_, rfl⟩
  | greater | less =>
      dsimp only
      split
      · exact ⟨_, rfl⟩
      · exact ⟨_, rfl⟩

theorem exists_compareText {value answer : Json} {c : Condition} (hvalue : value.HasText)
    (hanswer : answer.HasText) (hc : c.isOrdered = false) :
    ∃ b, compareText value answer c = .ok b := by
  obtain ⟨part, hpart⟩ := shown_of_hasText hvalue
  obtain ⟨whole, hwhole⟩ := shown_of_hasText hanswer
  unfold compareText
  rw [hpart, hwhole]
  cases c with
  | equals => exact ⟨_, rfl⟩
  | differs => exact ⟨_, rfl⟩
  | greater | less => cases hc

theorem timestamp?_cases (t : DateTime) :
    t.hasTimestamp = true ∧ t.timestamp? = .ok t.timestamp ∨
      t.hasTimestamp = false ∧ t.timestamp? = .error .noTimestamp := by
  unfold DateTime.timestamp?
  cases t.hasTimestamp <;> simp

/-- What is no date matches nothing. -/
theorem compareDates_of_date_eq_none [Present] {answer : Json} (h : answer.date = .ok none)
    (value : Json) (c : Condition) : compareDates value answer c = .ok false := by
  rw [compareDates, h]
  rfl

/-- Two dates are compared by their timestamps. -/
theorem compareDates_of_dates [Present] {value answer : Json} {target actual : DateTime}
    {c : Condition} (hvalue : value.date = .ok (some target))
    (hanswer : answer.date = .ok (some actual)) :
    compareDates value answer c = (do
      let x ← target.timestamp?
      let y ← actual.timestamp?
      compareNumbers (.number (.real x)) (.number (.real y)) c) := by
  simp only [compareDates, hanswer, hvalue]
  rfl

/-- A comparison with a date fails on what cannot be timed against it, and on nothing else. -/
theorem compareDates_cases [Present] {value answer : Json} {target : DateTime} {c : Condition}
    (hvalue : value.date = .ok (some target)) (hanswer : answer.HasText) :
    (Untimed target answer ∧ ∃ e, compareDates value answer c = .error e ∧
      (e = .imprecise ∨ e = .noTimestamp)) ∨
    ¬ Untimed target answer ∧ ∃ b, compareDates value answer c = .ok b := by
  unfold Untimed
  cases hdate : answer.date with
  | error e =>
      cases date_error hanswer hdate
      refine Or.inl ⟨Or.inl rfl, .imprecise, ?_, Or.inl rfl⟩
      rw [compareDates, hdate]
      rfl
  | ok found =>
      cases found with
      | none =>
          exact Or.inr ⟨by simp, false, compareDates_of_date_eq_none hdate value c⟩
      | some t =>
          rw [compareDates_of_dates hvalue hdate]
          rcases timestamp?_cases target with ⟨htarget, hstamp⟩ | ⟨htarget, hstamp⟩
          · rcases timestamp?_cases t with ⟨ht, htstamp⟩ | ⟨ht, htstamp⟩
            · obtain ⟨b, hb⟩ := exists_compareNumbers (.real target.timestamp)
                (.number (.real t.timestamp)) c
              refine Or.inr ⟨by simp [htarget, ht], b, ?_⟩
              rw [hstamp, htstamp]
              exact hb
            · refine Or.inl ⟨Or.inr ⟨t, rfl, Or.inr ht⟩, .noTimestamp, ?_, Or.inr rfl⟩
              rw [hstamp, htstamp]
              rfl
          · refine Or.inl ⟨Or.inr ⟨t, rfl, Or.inl htarget⟩, .noTimestamp, ?_, Or.inr rfl⟩
            rw [hstamp]
            rfl

/-! ## Rules -/

/-- What the target was made of is still true of it: a text that stands for a date names one. -/
def Target.Holds [Present] : Target → Prop
  | .date s => ∃ t, (Json.string s).date = .ok (some t)
  | _ => True

namespace Rule

variable [Present]

theorem target_holds {c : Clause} {r : Rule} (h : ofClause c = .ok r) : r.target.Holds := by
  unfold ofClause at h
  split at h
  · next v _ =>
    obtain ⟨t, ht, h⟩ := bind_eq_ok_iff.mp h
    cases h
    unfold Target.ofJson at ht
    split at ht
    · cases ht
      trivial
    · cases ht
      trivial
    · obtain ⟨found, hdate, ht⟩ := bind_eq_ok_iff.mp ht
      cases found with
      | none =>
          cases ht
          trivial
      | some d =>
          cases ht
          exact ⟨d, hdate⟩
    · cases ht
  · cases h

/-- The rule asks for an order only of what has one. -/
def OrdersSoundly (r : Rule) : Prop :=
  r.condition.isOrdered = true → r.target.kind = .number ∨ r.target.kind = .date

/-- The rule compares the answer with a date and cannot time it. -/
def FailsOn (r : Rule) (answer : Json) : Prop :=
  ∃ s target, r.target = .date s ∧ (Json.string s).date = .ok (some target) ∧
    Untimed target answer

theorem not_failsOn_of_isNull {r : Rule} {answer : Json} (h : answer.isNull = true) :
    ¬ r.FailsOn answer := by
  cases answer with
  | null =>
      rintro ⟨_, _, -, -, hdate | ⟨_, hdate, -⟩⟩
      · cases hdate
      · cases hdate
  | _ => cases h

/-- A rule fails on an answer that it cannot time, and on nothing else. -/
theorem holds_cases {r : Rule} {answer : Json} (htarget : r.target.Holds)
    (horder : r.OrdersSoundly) (hanswer : answer.HasText) :
    (r.FailsOn answer ∧ ∃ e, r.holds answer = .error e ∧ (e = .imprecise ∨ e = .noTimestamp)) ∨
    ¬ r.FailsOn answer ∧ ∃ b, r.holds answer = .ok b := by
  obtain ⟨id, condition, target⟩ := r
  cases target with
  | null =>
      refine Or.inr ⟨?_, ?_⟩
      · rintro ⟨_, _, h, -⟩
        cases h
      · cases condition with
        | equals => exact ⟨_, rfl⟩
        | differs => exact ⟨_, rfl⟩
        | greater | less => rcases horder rfl with h | h <;> cases h
  | number n =>
      refine Or.inr ⟨?_, ?_⟩
      · rintro ⟨_, _, h, -⟩
        cases h
      · unfold holds
        dsimp only
        split
        · exact ⟨false, rfl⟩
        · exact exists_compareNumbers n answer condition
  | text s =>
      refine Or.inr ⟨?_, ?_⟩
      · rintro ⟨_, _, h, -⟩
        cases h
      · unfold holds
        dsimp only
        split
        · exact ⟨false, rfl⟩
        · refine exists_compareText rfl hanswer ?_
          cases hc : condition.isOrdered with
          | false => rfl
          | true => rcases horder hc with h | h <;> cases h
  | date s =>
      obtain ⟨target, hdate⟩ := htarget
      by_cases hnull : answer.isNull = true
      · refine Or.inr ⟨not_failsOn_of_isNull hnull, false, ?_⟩
        unfold holds
        exact if_pos hnull
      · have hholds : holds ⟨id, condition, .date s⟩ answer
            = compareDates (.string s) answer condition := by
          unfold holds
          exact if_neg hnull
        rw [hholds]
        rcases compareDates_cases (c := condition) hdate hanswer with ⟨huntimed, h⟩ | ⟨htimed, h⟩
        · exact Or.inl ⟨⟨s, target, rfl, hdate, huntimed⟩, h⟩
        · refine Or.inr ⟨?_, h⟩
          rintro ⟨_, _, hs, hdate', huntimed⟩
          cases hs
          cases hdate.symm.trans hdate'
          exact htimed huntimed

end Rule

/-! ## Filters -/

namespace Filter

section

variable [Present] {rules : Filter} {s : Json}

/-- A sound filter only fails on a submission if a rule that is looked at cannot time the answer. -/
theorem failsOn_of_accepts {fault : Fault} (htargets : ∀ r ∈ rules, r.target.Holds)
    (horder : ∀ r ∈ rules, r.OrdersSoundly) (hs : IsSubmission s) (htext : s.HasText)
    (h : accepts rules s = .error fault) :
    (∃ r, Reaches rules r s ∧ ∃ answer, answerTo r.id s = .ok (some answer) ∧ r.FailsOn answer) ∧
      (fault = .imprecise ∨ fault = .noTimestamp) := by
  obtain ⟨r, hr, hholds⟩ := accepts_eq_error_iff.mp h
  obtain ⟨answer, hanswer, herror⟩ := (Rule.holdsOf_eq_error_iff hs).mp hholds
  have hanswerText := hasText_of_answerTo hs htext hanswer
  rcases Rule.holds_cases (htargets r hr.mem) (horder r hr.mem) hanswerText with
    ⟨hfails, e, he, hkind⟩ | ⟨-, b, hb⟩
  · cases he.symm.trans herror
    exact ⟨⟨r, hr, answer, hanswer, hfails⟩, hkind⟩
  · cases hb.symm.trans herror

/-- A filter fails where a rule that is looked at cannot time the answer. -/
theorem exists_fault_of_failsOn {r : Rule} {answer : Json} (htarget : r.target.Holds)
    (horder : r.OrdersSoundly) (hs : IsSubmission s) (htext : s.HasText) (hr : Reaches rules r s)
    (hanswer : answerTo r.id s = .ok (some answer)) (hfails : r.FailsOn answer) :
    ∃ fault, accepts rules s = .error fault := by
  have hanswerText := hasText_of_answerTo hs htext hanswer
  rcases Rule.holds_cases htarget horder hanswerText with ⟨-, e, he, -⟩ | ⟨hnot, -⟩
  · exact ⟨e, accepts_eq_error_iff.mpr
      ⟨r, hr, (Rule.holdsOf_eq_error_iff hs).mpr ⟨answer, hanswer, he⟩⟩⟩
  · exact absurd hfails hnot

end

/-- Filtering submissions by a sound filter succeeds exactly if no rule that is looked at meets an
answer that it cannot time, and that is the only way in which it fails. -/
theorem keep_succeeds_iff [Present] {cs : List Clause} {rules : Filter} {limit : Nat}
    {text : List Char} {submissions : List Json} (hcompile : compile cs = .ok rules)
    (horder : ∀ r ∈ rules, r.OrdersSoundly)
    (hread : Json.read limit text = .ok (.array submissions))
    (hshape : ∀ s ∈ submissions, IsSubmission s) :
    ((∃ kept, rules.keep (.array submissions) = .ok kept) ↔
      ∀ s ∈ submissions, ∀ r, rules.Reaches r s → ∀ answer,
        answerTo r.id s = .ok (some answer) → ¬ r.FailsOn answer) ∧
    ∀ fault, rules.keep (.array submissions) = .error fault →
      fault = .imprecise ∨ fault = .noTimestamp := by
  have htexts := Json.hasText_array.mp (Json.hasText_of_read hread)
  have htargets := forall_of_compile Rule.target_holds hcompile
  rw [keep_array]
  constructor
  · rw [exists_select_iff]
    constructor
    · intro h s hs r hr answer hanswer hfails
      obtain ⟨fault, hfault⟩ := exists_fault_of_failsOn (htargets r hr.mem) (horder r hr.mem)
        (hshape s hs) (htexts s hs) hr hanswer hfails
      exact h s hs fault hfault
    · intro h s hs fault hfault
      obtain ⟨⟨r, hr, answer, hanswer, hfails⟩, -⟩ :=
        failsOn_of_accepts htargets horder (hshape s hs) (htexts s hs) hfault
      exact h s hs r hr answer hanswer hfails
  · intro fault hfault
    obtain ⟨before, s, after, rfl, -, hs⟩ := select_eq_error_iff.mp hfault
    have hmem : s ∈ before ++ s :: after := List.mem_append_right before List.mem_cons_self
    exact (failsOn_of_accepts htargets horder (hshape s hmem) (htexts s hmem) hs).2

/-- A submission with one answer. -/
def answered (answer : String) : Json :=
  .object [("questions", .array [.object [("id", .string "q"), ("value", .string answer)]])]

theorem isSubmission_answered (answer : String) : IsSubmission (answered answer) :=
  ⟨_, rfl, Or.inr ⟨_, rfl, List.forall_mem_singleton.mpr ⟨_, rfl⟩⟩⟩

/-- The filter for what was answered on the first day of 2024. -/
def onNewYear : Filter := [⟨"q", .equals, .date "2024-01-01"⟩]

theorem compile_onNewYear [Present] :
    compile [⟨"q", .equals, some (.string "2024-01-01")⟩] = .ok onNewYear := by
  cbv

set_option maxRecDepth 2000 in
/-- An offset of a minute less than a day is compared. -/
theorem offset_below_a_day_is_compared :
    let _ : Present := ⟨2025⟩
    let text := "[\x7b\"questions\":[\x7b\"id\":\"q\","
      ++ "\"value\":\"Jan 1 2024 10:00 +23:59\"\x7d]\x7d]"
    let submissions := [answered "Jan 1 2024 10:00 +23:59"]
    (compile [⟨"q", .equals, some (.string "2024-01-01")⟩] = .ok onNewYear ∧
      (∀ r ∈ onNewYear, r.OrdersSoundly) ∧
      Json.read 100 text.toList = .ok (.array submissions) ∧ ∀ s ∈ submissions, IsSubmission s) ∧
    ∃ kept, onNewYear.keep (.array submissions) = .ok kept := by
  intro present text submissions
  have horder : ∀ r ∈ onNewYear, r.OrdersSoundly :=
    List.forall_mem_singleton.mpr fun _ => Or.inr rfl
  have hread : Json.read 100 text.toList = .ok (.array submissions) := by cbv
  have hshape : ∀ s ∈ submissions, IsSubmission s :=
    List.forall_mem_singleton.mpr (isSubmission_answered _)
  refine ⟨⟨compile_onNewYear, horder, hread, hshape⟩,
    (keep_succeeds_iff compile_onNewYear horder hread hshape).1.mpr ?_⟩
  have htarget : (Json.string "2024-01-01").date
      = .ok (some ⟨⟨2024, 1, 1, by decide⟩, .midnight, none⟩) := by decide +kernel
  have hanswer : (Json.string "Jan 1 2024 10:00 +23:59").date
      = .ok (some ⟨⟨2024, 1, 1, by decide⟩, ⟨10, 0, 0, 0, by decide⟩, some 86340⟩) := by
    decide +kernel
  intro s hs r hr answer hfound
  cases List.mem_singleton.mp hs
  cases List.mem_singleton.mp hr.mem
  cases hfound
  rintro ⟨_, target, hdate, htarget', huntimed⟩
  cases hdate
  cases htarget.symm.trans htarget'
  rcases huntimed with h | ⟨t, h, hoffset⟩
  · cases hanswer.symm.trans h
  · cases hanswer.symm.trans h
    rcases hoffset with h | h <;> exact absurd h (by decide)

set_option maxRecDepth 2000 in
/-- An offset of a day is read, and then the answer cannot be compared. -/
theorem offset_of_a_day_breaks_filter :
    let _ : Present := ⟨2025⟩
    let text := "[\x7b\"questions\":[\x7b\"id\":\"q\","
      ++ "\"value\":\"Jan 1 2024 10:00 +24:00\"\x7d]\x7d]"
    let submissions := [answered "Jan 1 2024 10:00 +24:00"]
    compile [⟨"q", .equals, some (.string "2024-01-01")⟩] = .ok onNewYear ∧
      (∀ r ∈ onNewYear, r.OrdersSoundly) ∧
      Json.read 100 text.toList = .ok (.array submissions) ∧ (∀ s ∈ submissions, IsSubmission s) ∧
      ¬ ∃ kept, onNewYear.keep (.array submissions) = .ok kept := by
  intro present text submissions
  refine ⟨compile_onNewYear, List.forall_mem_singleton.mpr fun _ => Or.inr rfl, by cbv,
    List.forall_mem_singleton.mpr (isSubmission_answered _), ?_⟩
  have hfails : (onNewYear.keep (.array submissions)).toBool = false := by decide +kernel
  rintro ⟨kept, hkept⟩
  rw [hkept] at hfails
  cases hfails

end Filter

end Winnow
