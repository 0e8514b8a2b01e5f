/-
# `Conjunction` — what a filter keeps, said without its loops

A submission is kept if for every rule it has a question with the rule's id and the rule holds of the
answer to the FIRST such question.  The loops over submissions, rules and questions are gone from
that sentence.  What the loops add is which rule decides when not all of them hold, and for that a
rule is said to come up if every earlier one is satisfied (`Filter.ComesUp`).
-/
import Winnow.Proofs.Filter.Evaluation

namespace Winnow

/-! ## Rules -/

namespace Rule

variable [Present]

/-- The rule holds of the first answer of the submission to its question. -/
def SatisfiedBy (r : Rule) (s : Json) : Prop :=
  ∃ answer, FirstAnswer s r.id answer ∧ r.holds answer = .ok true

/-- The outcome of a rule is that of the first answer; without one, the rule does not hold. -/
theorem holdsOf_eq_iff {r : Rule} {s : Json} {outcome : Except Fault Bool} (h : IsSubmission s) :
    r.holdsOf s = outcome ↔
      (∃ answer, FirstAnswer s r.id answer ∧ r.holds answer = outcome) ∨
        Lacks s r.id ∧ outcome = .ok false := by
  rcases lacks_or_exists_firstAnswer s r.id with hlacks | ⟨answer, hanswer⟩
  · have hholds : r.holdsOf s = .ok false := by
      rw [holdsOf, answerTo_of_lacks h hlacks]
      rfl
    rw [hholds]
    constructor
    · intro houtcome
      exact Or.inr ⟨hlacks, houtcome.symm⟩
    · rintro (⟨answer, hanswer, -⟩ | ⟨-, houtcome⟩)
      · exact absurd hanswer (not_firstAnswer_of_lacks hlacks)
      · exact houtcome.symm
  · have hfound := answerTo_of_firstAnswer h hanswer
    have hholds : r.holdsOf s = r.holds answer := by
      rw [holdsOf, hfound]
      rfl
    rw [hholds]
    constructor
    · intro houtcome
      exact Or.inl ⟨answer, hanswer, houtcome⟩
    · rintro (⟨other, hother, houtcome⟩ | ⟨hlacks, -⟩)
      · -- a submission has one first answer
        cases hfound.symm.trans (answerTo_of_firstAnswer h hother)
        exact houtcome
      · exact absurd hanswer (not_firstAnswer_of_lacks hlacks)

theorem satisfiedBy_iff {r : Rule} {s : Json} (h : IsSubmission s) :
    r.SatisfiedBy s ↔ r.holdsOf s = .ok true := by
  simp [holdsOf_eq_iff h, SatisfiedBy]

/-- Submissions with the same first answer to its question are the same to a rule. -/
theorem holdsOf_congr {r : Rule} {s s' : Json} (h : IsSubmission s) (h' : IsSubmission s')
    (hsame : ∀ answer, FirstAnswer s r.id answer ↔ FirstAnswer s' r.id answer) :
    r.holdsOf s' = r.holdsOf s := by
  rcases lacks_or_exists_firstAnswer s r.id with hlacks | ⟨answer, hanswer⟩
  · have hlacks' : Lacks s' r.id := by
      rcases lacks_or_exists_firstAnswer s' r.id with hlacks' | ⟨answer, hanswer⟩
      · exact hlacks'
      · exact absurd ((hsame answer).mpr hanswer) (not_firstAnswer_of_lacks hlacks)
    rw [holdsOf, holdsOf, answerTo_of_lacks h hlacks, answerTo_of_lacks h' hlacks']
  · rw [holdsOf, holdsOf, answerTo_of_firstAnswer h hanswer,
      answerTo_of_firstAnswer h' ((hsame answer).mp hanswer)]

end Rule

/-! ## Filters -/

namespace Filter

section

variable [Present]

/-- The rule comes up for the submission: every earlier one is satisfied. -/
def ComesUp (rules : Filter) (r : Rule) (s : Json) : Prop :=
  ∃ before after, rules = before ++ r :: after ∧ ∀ b ∈ before, b.SatisfiedBy s

theorem comesUp_iff_reaches {rules : Filter} {r : Rule} {s : Json} (h : IsSubmission s) :
    ComesUp rules r s ↔ Reaches rules r s := by
  simp only [ComesUp, Reaches, Rule.satisfiedBy_iff h]

/-- A filter fails on a submission with the fault of a rule that comes up. -/
theorem accepts_eq_error_iff_comesUp {rules : Filter} {s : Json} {fault : Fault}
    (h : IsSubmission s) :
    accepts rules s = .error fault ↔ ∃ r, ComesUp rules r s ∧
      ∃ answer, FirstAnswer s r.id answer ∧ r.holds answer = .error fault := by
  rw [accepts_eq_error_iff]
  refine exists_congr fun r => ?_
  rw [comesUp_iff_reaches h, Rule.holdsOf_eq_iff h]
  simp

/-- What comes after a rule that is not satisfied does not count. -/
theorem accepts_eq_of_not_holdsOf {before after after' : Filter} {r : Rule} {s : Json}
    (h : r.holdsOf s ≠ .ok true) :
    accepts (before ++ r :: after) s = accepts (before ++ r :: after') s := by
  have hstops : accepts (before ++ [r]) s ≠ .ok true := by
    intro haccepts
    exact h (accepts_eq_true_iff.mp haccepts r (List.mem_append_right before List.mem_cons_self))
  rw [List.append_cons before r after, List.append_cons before r after',
    accepts_append_of_not_holds hstops, accepts_append_of_not_holds hstops]

/-- A filter keeps the submissions that satisfy every rule, or fails with the fault of the first
submission it fails on; and the first rule that is not satisfied decides about a submission, by the
first answer to its question and by nothing else. -/
theorem keep_is_conjunction (rules : Filter) :
    (∀ submissions : List Json,
      ((∀ s ∈ submissions, ∃ b, accepts rules s = .ok b) →
        rules.keep (.array submissions)
          = .ok (submissions.filter fun s => accepts rules s = .ok true)) ∧
      ∀ fault, rules.keep (.array submissions) = .error fault ↔
        ∃ before s after, submissions = before ++ s :: after ∧
          (∀ x ∈ before, ∃ b, accepts rules x = .ok b) ∧ accepts rules s = .error fault) ∧
    ∀ s, IsSubmission s →
      (accepts rules s = .ok true ↔ ∀ r ∈ rules, r.SatisfiedBy s) ∧
      (accepts rules s = .ok false ↔ ∃ r, ComesUp rules r s ∧
        (Lacks s r.id ∨ ∃ answer, FirstAnswer s r.id answer ∧ r.holds answer = .ok false)) ∧
      (∀ fault, accepts rules s = .error fault ↔ ∃ r, ComesUp rules r s ∧
        ∃ answer, FirstAnswer s r.id answer ∧ r.holds answer = .error fault) ∧
      (∀ s', IsSubmission s' →
        (∀ r, ComesUp rules r s →
          ∀ answer, FirstAnswer s r.id answer ↔ FirstAnswer s' r.id answer) →
        accepts rules s' = accepts rules s) ∧
      ∀ before r after after', rules = before ++ r :: after → ¬ r.SatisfiedBy s →
        accepts (before ++ r :: after') s = accepts rules s := by
  constructor
  · intro submissions
    rw [keep_array]
    constructor
    · intro hsound
      exact select_eq_ok_iff.mpr ⟨hsound, rfl⟩
    · intro fault
      exact select_eq_error_iff
  · intro s hs
    refine ⟨?_, ?_, ?_, ?_, ?_⟩
    · rw [accepts_eq_true_iff]
      simp only [Rule.satisfiedBy_iff hs]
    · rw [accepts_eq_iff (by simp)]
      refine exists_congr fun r => ?_
      rw [comesUp_iff_reaches hs, Rule.holdsOf_eq_iff hs, or_comm]
      simp only [and_true]
    · intro fault
      exact accepts_eq_error_iff_comesUp hs
    · intro s' hs' hsame
      refine accepts_congr fun r hr => ?_
      exact Rule.holdsOf_congr hs hs' (hsame r ((comesUp_iff_reaches hs).mpr hr))
    · rintro before r after after' rfl hr
      rw [Rule.satisfiedBy_iff hs] at hr
      exact accepts_eq_of_not_holdsOf hr

end

/-- The submission of somebody who answers questions in some order. -/
def submissionOf (answers : List (String × Json)) : Json :=
  .object [("questions", .array (answers.map fun (id, answer) =>
    .object [("id", .string id), ("value", answer)]))]

theorem isSubmission_submissionOf (answers : List (String × Json)) :
    IsSubmission (submissionOf answers) := by
  refine ⟨_, rfl, Or.inr ⟨_, rfl, ?_⟩⟩
  intro question hquestion
  obtain ⟨answer, -, rfl⟩ := List.mem_map.mp hquestion
  exact ⟨_, rfl⟩

/-- The filter for those who are one year old and have a name. -/
def namedAtOne : Filter := [⟨"age", .equals, .number (.integer 1)⟩, ⟨"name", .differs, .null⟩]

/-- Only the first age counts, the missing name does not come up after it, and what is no
submission stops the run. -/
theorem second_age_does_not_count :
    let _ : Present := ⟨2025⟩
    let once := submissionOf [("age", .ofInt 1), ("name", .string "x")]
    let twice := submissionOf [("age", .ofInt 2), ("age", .ofInt 1)]
    (IsSubmission twice ∧ (∀ s ∈ [once, twice], ∃ b, accepts namedAtOne s = .ok b) ∧
      ∀ answer, FirstAnswer twice "age" answer ↔ answer = .ofInt 2) ∧
    namedAtOne.keep (.array [once, twice]) = .ok [once] ∧
      accepts namedAtOne twice = .ok false ∧
      namedAtOne.keep (.array [once, twice, .null, once]) = .error .notObject := by
  intro present once twice
  have honce : accepts namedAtOne once = .ok true := by decide +kernel
  have htwice : accepts namedAtOne twice = .ok false := by decide +kernel
  have hsound : ∀ s ∈ [once, twice], ∃ b, accepts namedAtOne s = .ok b := by
    simp [honce, htwice]
  have hfirst : FirstAnswer twice "age" (.ofInt 2) :=
    ⟨[], _, _, rfl, List.forall_mem_nil _, rfl, rfl⟩
  have hshape : IsSubmission twice := isSubmission_submissionOf _
  obtain ⟨hlist, hsubmission⟩ := keep_is_conjunction namedAtOne
  obtain ⟨-, hfalse, -⟩ := hsubmission twice hshape
  refine ⟨⟨hshape, hsound, ?_⟩, ?_, ?_, ?_⟩
  · intro answer
    constructor
    · intro hanswer
      cases (answerTo_of_firstAnswer hshape hanswer).symm.trans
        (answerTo_of_firstAnswer hshape hfirst)
      rfl
    · rintro rfl
      exact hfirst
  · rw [(hlist _).1 hsound]
    simp [honce, htwice]
  · exact hfalse.mpr ⟨_, ⟨[], _, rfl, List.forall_mem_nil _⟩, Or.inr ⟨_, hfirst, by decide +kernel⟩⟩
  · exact ((hlist _).2 _).mpr ⟨[once, twice], .null, [once], rfl, hsound, rfl⟩

end Filter

end Winnow
