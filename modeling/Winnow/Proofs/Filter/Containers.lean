/-
# `Containers` — what has no kind is no number and no date

A filter knows null, numbers, texts and dates.  Truth values, arrays and objects are of no kind, and
yet they can be answers.  A truth value is turned away before it is read.  A container is read like
any other answer, as the text that shows it, and this text may hold whatever somebody has put into
it: numerals, dates, and numbers too long for the reader of dates to compute with.  What settles
the matter is the bracket at its front.  No numeral and no date starts with one, so every reader
stops there (`Numeral.readReal?_opening`, `DateTime.read_opening`), and what is inside the container
is never looked at.
-/
import Winnow.Proofs.Filter.Conjunction
import Winnow.Proofs.Filter.Exactness

namespace Winnow

open Outcome

/-! ## Texts that name no date -/

section

variable {c : Char}

namespace Iso

theorem takeNumber?_opening (h : IsOpening c) (width : Nat) (rest : List Char) :
    takeNumber? (width + 1) (c :: rest) = none := by
  have hdigit : c.isDigit = false := by rcases h with rfl | rfl <;> rfl
  refine if_neg ?_
  simp [hdigit]

theorem read?_opening (h : IsOpening c) (rest : List Char) : read? (c :: rest) = none := by
  rw [read?, takeDate?, takeNumber?_opening h]
  rfl

end Iso

theorem Unix.read?_opening (h : IsOpening c) (rest : List Char) : read? (c :: rest) = none := by
  have hinteger : readInteger? (c :: rest) = none := by rcases h with rfl | rfl <;> rfl
  have hreal : readReal? (c :: rest) = none := by rcases h with rfl | rfl <;> rfl
  rw [read?, readInstant?, hinteger, hreal]
  rfl

namespace FreeForm

theorem lexemes_opening (h : IsOpening c) (rest : List Char) :
    lexemes (c :: rest) = [c] :: lexemes rest := by
  rcases h with rfl | rfl <;> rfl

/-- A bracket has no meaning in a date. -/
theorem readLexeme_opening [Present] (h : IsOpening c) (before rest : List Lexeme) :
    readLexeme before [c] rest .empty = .error .unreadable := by
  rcases h with rfl | rfl <;> rfl

/-- The bracket is met before any number that is too long to be computed with. -/
theorem read_opening [Present] (h : IsOpening c) (rest : List Char) :
    read (c :: rest) = .ok none := by
  have hfields : fields (c :: rest) = .error .unreadable := by
    rw [fields, lexemes_opening h, readLexemes, readLexeme_opening h]
    rfl
  rw [read, hfields]

end FreeForm

/-- A text that opens like a container is no date in any form. -/
theorem DateTime.read_opening [Present] (h : IsOpening c) (rest : List Char) :
    read (Text.strip (c :: rest)) = .ok none := by
  have hblank : Text.isBlank c = false := by rcases h with rfl | rfl <;> rfl
  obtain ⟨stripped, hstrip⟩ := Text.exists_trimWhile_cons hblank rest
  have hstandard : readStandard? (c :: stripped) = none := by
    rw [readStandard?, Iso.read?_opening h, Unix.read?_opening h]
    rfl
  rw [Text.strip, hstrip, read, hstandard]
  exact FreeForm.read_opening h stripped

end

/-! ## Values without a kind -/

namespace Json

theorem date_of_isContainer [Present] {v : Json} (h : v.IsContainer) (htext : v.HasText) :
    v.date = .ok none := by
  obtain ⟨cs, hcs⟩ := Option.isSome_iff_exists.mp (isSome_text? htext)
  obtain ⟨c, rest, hc, rfl⟩ := exists_opening_of_text? h hcs
  have hshown : v.shown = .ok (c :: rest) := by rw [shown, hcs]
  have hread := DateTime.read_opening hc rest
  cases h with
  | array | object =>
      refine bind_eq_ok_iff.mpr ⟨_, hshown, ?_⟩
      rw [hread]
      rfl

/-- The value is of none of the kinds that a filter knows. -/
inductive LacksKind : Json → Prop
  | bool (b : Bool) : LacksKind (.bool b)
  | container {v : Json} : v.IsContainer → LacksKind v

section

variable {v : Json}

theorem asNumber?_of_lacksKind (h : v.LacksKind) : v.asNumber? = none := by
  cases h with
  | bool b => rfl
  | container hcontainer => exact asNumber?_of_isContainer hcontainer

theorem date_of_lacksKind [Present] (h : v.LacksKind) (htext : v.HasText) : v.date = .ok none := by
  cases h with
  | bool b => rfl
  | container hcontainer => exact date_of_isContainer hcontainer htext

theorem ne_null_of_lacksKind (h : v.LacksKind) : v ≠ .null := by
  rintro rfl
  obtain _ | ⟨_ | _⟩ := h

end

end Json

/-! ## Rules and filters -/

section

variable [Present] {answer : Json}

namespace Rule

variable {r : Rule}

/-- A rule about a date does not hold of what has no kind. -/
theorem holds_of_lacksKind_date (hlacks : answer.LacksKind) (htext : answer.HasText)
    (hkind : r.target.kind = .date) : r.holds answer = .ok false := by
  obtain ⟨id, condition, target⟩ := r
  cases target with
  | date s =>
      rw [holds_of_answer (by simp [hkind]) (Json.ne_null_of_lacksKind hlacks)]
      exact compareDates_of_date_eq_none (Json.date_of_lacksKind hlacks htext) _ _
  | _ => cases hkind

/-- A rule about a number holds of what has no kind only if it asks for a difference. -/
theorem holds_of_lacksKind_number (hlacks : answer.LacksKind)
    (hkind : r.target.kind = .number) : r.holds answer = .ok (r.condition = .differs) := by
  obtain ⟨id, condition, target⟩ := r
  cases target with
  | number n =>
      rw [holds_of_answer (by simp [hkind]) (Json.ne_null_of_lacksKind hlacks)]
      exact compareNumbers_of_asNumber?_eq_none (Json.asNumber?_of_lacksKind hlacks) _
  | _ => cases hkind

end Rule

/-- Every rule of a filter that accepts a submission holds of the first answer to its question. -/
theorem Filter.holds_of_accepts {rules : Filter} {r : Rule} {s : Json} (hs : IsSubmission s)
    (hr : r ∈ rules) (hanswer : FirstAnswer s r.id answer) (h : accepts rules s = .ok true) :
    r.holds answer = .ok true := by
  have hholds : r.holdsOf s = r.holds answer :=
    (Rule.holdsOf_eq_iff hs).mpr (Or.inl ⟨answer, hanswer, rfl⟩)
  rw [← hholds]
  exact accepts_eq_true_iff.mp h r hr

end

/-- A truth value, an array or an object that was read from JSON, by itself or inside other values,
is no date and no number, whatever it holds.  Compared with a date it matches no condition and
breaks nothing, and from a number it differs, which is all that is true of the two.  So no filter
accepts a submission that gives such an answer where the filter asks for a date, or for anything but
a difference from a number. -/
theorem answer_without_kind_is_no_date_or_number [Present] {limit : Nat} {text : List Char}
    {whole answer : Json} (hread : Json.read limit text = .ok whole) (hpart : answer.PartOf whole)
    (hlacks : answer.LacksKind) :
    (∀ value c, compareDates value answer c = .ok false) ∧
    (∀ value c, compareNumbers value answer c = .ok (c = .differs)) ∧
    (∀ r : Rule,
      (r.target.kind = .date → r.holds answer = .ok false) ∧
      (r.target.kind = .number → r.holds answer = .ok (r.condition = .differs))) ∧
    ∀ (rules : Filter) (r : Rule) (s : Json), r ∈ rules → IsSubmission s →
      FirstAnswer s r.id answer →
      r.target.kind = .date ∨ r.target.kind = .number ∧ r.condition ≠ .differs →
      rules.accepts s ≠ .ok true := by
  have htext := Json.hasText_of_partOf hpart (Json.hasText_of_read hread)
  have hdate := Json.date_of_lacksKind hlacks htext
  have hnumber := Json.asNumber?_of_lacksKind hlacks
  refine ⟨?_, ?_, ?_, ?_⟩
  · exact compareDates_of_date_eq_none hdate
  · intro value c
    exact compareNumbers_of_asNumber?_eq_none hnumber c
  · intro r
    exact ⟨Rule.holds_of_lacksKind_date hlacks htext, Rule.holds_of_lacksKind_number hlacks⟩
  · intro rules r s hr hs hanswer hasked haccepts
    have hholds := Filter.holds_of_accepts hs hr hanswer haccepts
    rcases hasked with hkind | ⟨hkind, hcondition⟩
    · cases (Rule.holds_of_lacksKind_date hlacks htext hkind).symm.trans hholds
    · have hdiffers := (Rule.holds_of_lacksKind_number hlacks hkind).symm.trans hholds
      exact hcondition (of_decide_eq_true (Except.ok.inj hdiffers))

set_option maxRecDepth 2000 in
/-- The list holds just the date, or just the number, that it is compared with. -/
theorem list_of_one_value_is_not_that_value :
    let _ : Present := ⟨2025⟩
    let text := "[\x7b\"questions\":[\x7b\"id\":\"day\",\"value\":[\"2024-01-01\"]\x7d,"
      ++ "\x7b\"id\":\"age\",\"value\":[20]\x7d]\x7d]"
    let day := Json.array [.string "2024-01-01"]
    let age := Json.array [.ofInt 20]
    let s := Filter.submissionOf [("day", day), ("age", age)]
    (Json.read 100 text.toList = .ok (.array [s]) ∧ day.PartOf (.array [s]) ∧
      age.PartOf (.array [s]) ∧ day.LacksKind ∧ age.LacksKind ∧ IsSubmission s ∧
      FirstAnswer s "day" day) ∧
    (∀ c, Rule.holds ⟨"day", c, .date "2024-01-01"⟩ day = .ok false) ∧
      Rule.holds ⟨"age", .equals, .number (.integer 20)⟩ age = .ok false ∧
      Rule.holds ⟨"age", .differs, .number (.integer 20)⟩ age = .ok true ∧
      Filter.accepts [⟨"day", .equals, .date "2024-01-01"⟩] s ≠ .ok true := by
  intro present text day age s
  have hread : Json.read 100 text.toList = .ok (.array [s]) := by cbv
  have hday : day.PartOf (.array [s]) :=
    .item List.mem_cons_self (.member List.mem_cons_self (.item List.mem_cons_self
      (.member (List.mem_cons_of_mem _ List.mem_cons_self) .whole)))
  have hage : age.PartOf (.array [s]) :=
    .item List.mem_cons_self (.member List.mem_cons_self
      (.item (List.mem_cons_of_mem _ List.mem_cons_self)
        (.member (List.mem_cons_of_mem _ List.mem_cons_self) .whole)))
  have hs : IsSubmission s := Filter.isSubmission_submissionOf _
  have hanswer : FirstAnswer s "day" day := (answerTo_eq_some_iff hs).mp rfl
  have hlist (items : List Json) : (Json.array items).LacksKind := .container (.array items)
  obtain ⟨-, -, hrules, hfilters⟩ :=
    answer_without_kind_is_no_date_or_number hread hday (hlist _)
  obtain ⟨-, -, hrules', -⟩ := answer_without_kind_is_no_date_or_number hread hage (hlist _)
  refine ⟨⟨hread, hday, hage, hlist _, hlist _, hs, hanswer⟩, fun c => ?_, ?_, ?_, ?_⟩
  · exact (hrules ⟨"day", c, .date "2024-01-01"⟩).1 rfl
  · exact (hrules' ⟨"age", .equals, .number (.integer 20)⟩).2 rfl
  · exact (hrules' ⟨"age", .differs, .number (.integer 20)⟩).2 rfl
  · exact hfilters _ ⟨"day", .equals, .date "2024-01-01"⟩ s (List.mem_singleton_self _) hs
      hanswer (Or.inl rfl)

end Winnow
