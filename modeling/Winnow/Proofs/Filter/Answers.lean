/-
# `Answers` — which answer a submission gives to a question

`FirstAnswer` says where the answer stands: it is the value of the first question with the id, and
the questions before it have other ids.  The search through the questions is shown to find just
that.  A missing question and an answer of null are different here: a submission without the
question has no answer, and a question without a value is answered with null.
-/
import Winnow.Filter.Submission
import Winnow.Proofs.Json.Texts

namespace Winnow

open Outcome

/-- The value is an object. -/
def Json.IsObject (v : Json) : Prop := ∃ members, v = .object members

/-- The submission is an object, and its questions are an array of objects unless it has none. -/
def IsSubmission (s : Json) : Prop :=
  ∃ members, s = .object members ∧
    (Json.get members "questions" = .null ∨
      ∃ questions, Json.get members "questions" = .array questions ∧
        ∀ q ∈ questions, q.IsObject)

/-! ## Questions -/

/-- The questions of a submission. -/
def questionsOf : Json → List Json
  | .object members =>
    match Json.get members "questions" with
    | .array questions => questions
    | _ => []
  | _ => []

/-- The value is a question with the id. -/
def HasId (id : String) (question : Json) : Prop :=
  ∃ members, question = .object members ∧ Json.get members "id" = .string id

/-- No question of the submission has the id. -/
def Lacks (s : Json) (id : String) : Prop := ∀ question ∈ questionsOf s, ¬ HasId id question

/-- The answer is the value of the first question with the id, null if that has no value. -/
def FirstAnswer (s : Json) (id : String) (answer : Json) : Prop :=
  ∃ before members after, questionsOf s = before ++ .object members :: after ∧
    (∀ question ∈ before, ¬ HasId id question) ∧ Json.get members "id" = .string id ∧
    Json.get members "value" = answer

section

variable {id : String}

theorem findAnswer_cons_of_id {members : List (String × Json)} {rest : List Json}
    (h : Json.get members "id" = .string id) :
    findAnswer id (.object members :: rest) = .ok (some (Json.get members "value")) := by
  simp [findAnswer, h]

theorem findAnswer_cons_of_not_hasId {question : Json} {rest : List Json}
    (hobject : question.IsObject) (h : ¬ HasId id question) :
    findAnswer id (question :: rest) = findAnswer id rest := by
  obtain ⟨members, rfl⟩ := hobject
  rw [findAnswer]
  split
  · next other hother =>
    refine if_neg ?_
    rintro rfl
    exact h ⟨members, rfl, hother⟩
  · rfl

/-- Questions with other ids are passed over. -/
theorem findAnswer_append {before rest : List Json} (hobjects : ∀ q ∈ before, q.IsObject)
    (h : ∀ q ∈ before, ¬ HasId id q) : findAnswer id (before ++ rest) = findAnswer id rest := by
  induction before with
  | nil => rfl
  | cons question before ih =>
      obtain ⟨hobject, hobjects⟩ := List.forall_mem_cons.mp hobjects
      obtain ⟨hquestion, hbefore⟩ := List.forall_mem_cons.mp h
      rw [List.cons_append, findAnswer_cons_of_not_hasId hobject hquestion]
      exact ih hobjects hbefore

/-- Among questions either none has the id, or there is a first one that has. -/
theorem exists_first_or_none (id : String) (questions : List Json) :
    (∀ q ∈ questions, ¬ HasId id q) ∨
      ∃ before members after, questions = before ++ .object members :: after ∧
        (∀ q ∈ before, ¬ HasId id q) ∧ Json.get members "id" = .string id := by
  induction questions with
  | nil => exact Or.inl (List.forall_mem_nil _)
  | cons question rest ih =>
      by_cases hquestion : HasId id question
      · obtain ⟨members, rfl, hid⟩ := hquestion
        exact Or.inr ⟨[], members, rest, rfl, List.forall_mem_nil _, hid⟩
      · rcases ih with hnone | ⟨before, members, after, rfl, hbefore, hid⟩
        · exact Or.inl (List.forall_mem_cons.mpr ⟨hquestion, hnone⟩)
        · exact Or.inr ⟨question :: before, members, after, rfl,
            List.forall_mem_cons.mpr ⟨hquestion, hbefore⟩, hid⟩

theorem not_firstAnswer_of_lacks {s answer : Json} (h : Lacks s id) : ¬ FirstAnswer s id answer := by
  rintro ⟨before, members, after, hsplit, -, hid, -⟩
  refine h (.object members) ?_ ⟨members, rfl, hid⟩
  rw [hsplit]
  exact List.mem_append_right before List.mem_cons_self

theorem lacks_or_exists_firstAnswer (s : Json) (id : String) :
    Lacks s id ∨ ∃ answer, FirstAnswer s id answer := by
  rcases exists_first_or_none id (questionsOf s) with
    hnone | ⟨before, members, after, hsplit, hbefore, hid⟩
  · exact Or.inl hnone
  · exact Or.inr ⟨_, before, members, after, hsplit, hbefore, hid, rfl⟩

end

theorem elementsOf_array (items : List Json) : elementsOf (.array items) = .ok items := by
  cases items <;> rfl

theorem isObject_of_mem_questionsOf {s : Json} (h : IsSubmission s) :
    ∀ q ∈ questionsOf s, q.IsObject := by
  obtain ⟨members, rfl, hnull | ⟨questions, harray, hobjects⟩⟩ := h
  · simp [questionsOf, hnull]
  · simpa [questionsOf, harray] using hobjects

theorem answerTo_eq_findAnswer {s : Json} (h : IsSubmission s) (id : String) :
    answerTo id s = findAnswer id (questionsOf s) := by
  obtain ⟨members, rfl, hnull | ⟨questions, harray, -⟩⟩ := h
  · rw [answerTo, questionsOf, hnull]
    rfl
  · rw [answerTo, questionsOf, harray, elementsOf_array]
    rfl

theorem answerTo_of_lacks {s : Json} {id : String} (h : IsSubmission s) (hlacks : Lacks s id) :
    answerTo id s = .ok none := by
  have hpassed : findAnswer id (questionsOf s ++ []) = .ok none :=
    findAnswer_append (isObject_of_mem_questionsOf h) hlacks
  rwa [answerTo_eq_findAnswer h, ← List.append_nil (questionsOf s)]

theorem answerTo_of_firstAnswer {s answer : Json} {id : String} (h : IsSubmission s)
    (hanswer : FirstAnswer s id answer) : answerTo id s = .ok (some answer) := by
  obtain ⟨before, members, after, hsplit, hbefore, hid, rfl⟩ := hanswer
  have hobjects : ∀ q ∈ before, q.IsObject := by
    intro q hq
    refine isObject_of_mem_questionsOf h q ?_
    rw [hsplit]
    exact List.mem_append_left _ hq
  rw [answerTo_eq_findAnswer h, hsplit, findAnswer_append hobjects hbefore,
    findAnswer_cons_of_id hid]

theorem answerTo_eq_some_iff {s answer : Json} {id : String} (h : IsSubmission s) :
    answerTo id s = .ok (some answer) ↔ FirstAnswer s id answer := by
  constructor
  · intro hfound
    rcases lacks_or_exists_firstAnswer s id with hlacks | ⟨other, hother⟩
    · cases hfound.symm.trans (answerTo_of_lacks h hlacks)
    · cases hfound.symm.trans (answerTo_of_firstAnswer h hother)
      exact hother
  · exact answerTo_of_firstAnswer h

theorem exists_answerTo {s : Json} (h : IsSubmission s) (id : String) :
    ∃ answer, answerTo id s = .ok answer := by
  rcases lacks_or_exists_firstAnswer s id with hlacks | ⟨answer, hanswer⟩
  · exact ⟨none, answerTo_of_lacks h hlacks⟩
  · exact ⟨some answer, answerTo_of_firstAnswer h hanswer⟩

/-! ## Texts of answers -/

theorem hasText_of_mem_questionsOf {s : Json} (h : s.HasText) :
    ∀ q ∈ questionsOf s, q.HasText := by
  unfold questionsOf
  split
  · next members =>
    split
    · next questions harray =>
      have hquestions := Json.hasText_get h "questions"
      rw [harray] at hquestions
      exact Json.hasText_array.mp hquestions
    · exact List.forall_mem_nil _
  · exact List.forall_mem_nil _

theorem hasText_of_answerTo {s answer : Json} {id : String} (h : IsSubmission s)
    (htext : s.HasText) (hanswer : answerTo id s = .ok (some answer)) : answer.HasText := by
  obtain ⟨before, members, after, hsplit, -, -, rfl⟩ := (answerTo_eq_some_iff h).mp hanswer
  have hmem : .object members ∈ questionsOf s := by
    rw [hsplit]
    exact List.mem_append_right before List.mem_cons_self
  exact Json.hasText_get (hasText_of_mem_questionsOf htext _ hmem) "value"

end Winnow
