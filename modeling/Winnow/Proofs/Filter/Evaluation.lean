/-
# `Evaluation` — what rules do with submissions

A filter goes through the submissions, and for each of them through its rules, and in both it stops
at the first fault; among the rules it also stops at the first that does not hold.  What comes of
such a run is described here by where it stops, so that nothing else needs to look into the loops.
-/
import Winnow.Proofs.Filter.Answers

namespace Winnow

open Outcome

theorem Json.isNull_eq_true_iff {v : Json} : v.isNull = true ↔ v = .null := by
  cases v <;> simp [Json.isNull]

variable [Present]

namespace Rule

/-- An answer that is null settles a rule about anything else. -/
theorem holds_of_ne_null {r : Rule} {answer : Json} (hkind : r.target.kind ≠ .null) :
    r.holds answer
      = if answer.isNull then .ok false else r.target.compareWith answer r.condition := by
  obtain ⟨id, condition, target⟩ := r
  cases target with
  | null => exact absurd rfl hkind
  | _ => rfl

/-- Any other answer is compared with the target. -/
theorem holds_of_answer {id : String} {c : Condition} {target : Target} {answer : Json}
    (hkind : target.kind ≠ .null) (h : answer ≠ .null) :
    holds ⟨id, c, target⟩ answer = target.compareWith answer c :=
  (holds_of_ne_null hkind).trans (if_neg (mt Json.isNull_eq_true_iff.mp h))

theorem holdsOf_eq_error_iff {r : Rule} {s : Json} {e : Fault} (h : IsSubmission s) :
    r.holdsOf s = .error e ↔
      ∃ answer, answerTo r.id s = .ok (some answer) ∧ r.holds answer = .error e := by
  obtain ⟨found, hfound⟩ := exists_answerTo h r.id
  rw [holdsOf, hfound]
  cases found with
  | none =>
      constructor
      · intro h'
        cases h'
      · rintro ⟨_, h', -⟩
        cases h'
  | some answer =>
      constructor
      · intro h'
        exact ⟨answer, rfl, h'⟩
      · rintro ⟨_, hsome, h'⟩
        cases hsome
        exact h'

end Rule

namespace Filter

/-! ## Rules -/

/-- The rule is looked at for a submission: those before it hold. -/
def Reaches (rules : Filter) (r : Rule) (s : Json) : Prop :=
  ∃ before after, rules = before ++ r :: after ∧ ∀ b ∈ before, b.holdsOf s = .ok true

theorem Reaches.mem {rules : Filter} {r : Rule} {s : Json} (h : Reaches rules r s) :
    r ∈ rules := by
  obtain ⟨before, after, rfl, -⟩ := h
  exact List.mem_append_right before List.mem_cons_self

theorem reaches_cons_iff {rules : Filter} {r r' : Rule} {s : Json} :
    Reaches (r :: rules) r' s ↔ r' = r ∨ r.holdsOf s = .ok true ∧ Reaches rules r' s := by
  constructor
  · rintro ⟨before, after, hsplit, hbefore⟩
    cases before with
    | nil =>
        cases hsplit
        exact Or.inl rfl
    | cons b before =>
        cases hsplit
        obtain ⟨hb, hbefore⟩ := List.forall_mem_cons.mp hbefore
        exact Or.inr ⟨hb, before, after, rfl, hbefore⟩
  · rintro (rfl | ⟨hr, before, after, rfl, hbefore⟩)
    · exact ⟨[], rules, rfl, List.forall_mem_nil _⟩
    · exact ⟨r :: before, after, rfl, List.forall_mem_cons.mpr ⟨hr, hbefore⟩⟩

theorem not_reaches_nil {r : Rule} {s : Json} : ¬ Reaches [] r s := by
  rintro ⟨before, after, h, -⟩
  exact List.append_ne_nil_of_right_ne_nil before (List.cons_ne_nil r after) h.symm

theorem accepts_cons_of_holds {r : Rule} {rest : Filter} {s : Json} (h : r.holdsOf s = .ok true) :
    accepts (r :: rest) s = accepts rest s := by
  rw [accepts, h]
  rfl

/-- A rule that does not hold, or fails, decides. -/
theorem accepts_cons_of_not_holds {r : Rule} {rest : Filter} {s : Json}
    (h : r.holdsOf s ≠ .ok true) : accepts (r :: rest) s = r.holdsOf s := by
  rw [accepts]
  cases hr : r.holdsOf s with
  | error e => rfl
  | ok b =>
      cases b with
      | false => rfl
      | true => exact absurd hr h

theorem accepts_eq_true_iff {rules : Filter} {s : Json} :
    accepts rules s = .ok true ↔ ∀ r ∈ rules, r.holdsOf s = .ok true := by
  induction rules with
  | nil => exact ⟨fun _ => List.forall_mem_nil _, fun _ => rfl⟩
  | cons r rest ih =>
      rw [List.forall_mem_cons]
      by_cases hr : r.holdsOf s = .ok true
      · rw [accepts_cons_of_holds hr, ih]
        exact ⟨fun h => ⟨hr, h⟩, fun h => h.2⟩
      · rw [accepts_cons_of_not_holds hr]
        exact ⟨fun h => absurd h hr, fun h => absurd h.1 hr⟩

theorem accepts_singleton (r : Rule) (s : Json) : accepts [r] s = r.holdsOf s := by
  by_cases h : r.holdsOf s = .ok true
  · rw [accepts_cons_of_holds h, h]
    rfl
  · exact accepts_cons_of_not_holds h

/-- Any outcome but that all rules hold is the one of a rule that is looked at. -/
theorem accepts_eq_iff {rules : Filter} {s : Json} {outcome : Except Fault Bool}
    (hne : outcome ≠ .ok true) :
    accepts rules s = outcome ↔ ∃ r, Reaches rules r s ∧ r.holdsOf s = outcome := by
  induction rules with
  | nil =>
      constructor
      · intro h
        exact absurd h.symm hne
      · rintro ⟨r, hr, -⟩
        exact absurd hr not_reaches_nil
  | cons r rest ih =>
      simp only [reaches_cons_iff]
      by_cases hr : r.holdsOf s = .ok true
      · rw [accepts_cons_of_holds hr, ih]
        constructor
        · rintro ⟨r', hreach, houtcome⟩
          exact ⟨r', Or.inr ⟨hr, hreach⟩, houtcome⟩
        · rintro ⟨r', rfl | ⟨-, hreach⟩, houtcome⟩
          · exact absurd (houtcome.symm.trans hr) hne
          · exact ⟨r', hreach, houtcome⟩
      · rw [accepts_cons_of_not_holds hr]
        constructor
        · intro houtcome
          exact ⟨r, Or.inl rfl, houtcome⟩
        · rintro ⟨r', rfl | ⟨hr', -⟩, houtcome⟩
          · exact houtcome
          · exact absurd hr' hr

/-- A filter fails on a submission where a rule that is looked at fails. -/
theorem accepts_eq_error_iff {rules : Filter} {s : Json} {e : Fault} :
    accepts rules s = .error e ↔ ∃ r, Reaches rules r s ∧ r.holdsOf s = .error e :=
  accepts_eq_iff nofun

/-- Two submissions come to the same if the rules that are looked at for one of them do. -/
theorem accepts_congr {rules : Filter} {s s' : Json}
    (h : ∀ r, Reaches rules r s → r.holdsOf s' = r.holdsOf s) :
    accepts rules s' = accepts rules s := by
  induction rules with
  | nil => rfl
  | cons r rest ih =>
      have hr : r.holdsOf s' = r.holdsOf s := h r (reaches_cons_iff.mpr (Or.inl rfl))
      by_cases htrue : r.holdsOf s = .ok true
      · rw [accepts_cons_of_holds htrue, accepts_cons_of_holds (hr.trans htrue)]
        exact ih fun r' hr' => h r' (reaches_cons_iff.mpr (Or.inr ⟨htrue, hr'⟩))
      · rw [accepts_cons_of_not_holds htrue, accepts_cons_of_not_holds (hr ▸ htrue), hr]

/-- Rules that come later are looked at if all earlier ones hold. -/
theorem accepts_append_of_holds {first second : Filter} {s : Json}
    (h : accepts first s = .ok true) : accepts (first ++ second) s = accepts second s := by
  induction first with
  | nil => rfl
  | cons r rest ih =>
      obtain ⟨hr, hrest⟩ := List.forall_mem_cons.mp (accepts_eq_true_iff.mp h)
      rw [List.cons_append, accepts_cons_of_holds hr]
      exact ih (accepts_eq_true_iff.mpr hrest)

theorem accepts_append_of_not_holds {first second : Filter} {s : Json}
    (h : accepts first s ≠ .ok true) : accepts (first ++ second) s = accepts first s := by
  induction first with
  | nil => exact absurd rfl h
  | cons r rest ih =>
      rw [List.cons_append]
      by_cases hr : r.holdsOf s = .ok true
      · rw [accepts_cons_of_holds hr] at h
        rw [accepts_cons_of_holds hr, accepts_cons_of_holds hr]
        exact ih h
      · rw [accepts_cons_of_not_holds hr, accepts_cons_of_not_holds hr]

/-! ## Submissions -/

theorem select_cons {α : Type} {rules : Filter} {submission : α → Json} {entry : α}
    {rest : List α} {b : Bool} (h : accepts rules (submission entry) = .ok b) :
    select rules submission (entry :: rest)
      = (do return (if b then [entry] else []) ++ (← select rules submission rest)) := by
  rw [select, h]
  cases b with
  | true => rfl
  | false =>
      change select rules submission rest = (do return [] ++ (← select rules submission rest))
      cases select rules submission rest <;> rfl

/-- A selection fails with the fault of the first entry that the filter fails on. -/
theorem select_eq_error_iff {α : Type} {rules : Filter} {submission : α → Json} {e : Fault} :
    ∀ {entries : List α}, select rules submission entries = .error e ↔
      ∃ before entry after, entries = before ++ entry :: after ∧
        (∀ x ∈ before, ∃ b, accepts rules (submission x) = .ok b) ∧
        accepts rules (submission entry) = .error e
  | [] => by
      constructor
      · intro h
        cases h
      · rintro ⟨before, x, after, h, -⟩
        exact absurd h.symm (List.append_ne_nil_of_right_ne_nil before (List.cons_ne_nil x after))
  | entry :: rest => by
      cases hentry : accepts rules (submission entry) with
      | error e' =>
          constructor
          · intro h
            rw [select, hentry] at h
            cases h
            exact ⟨[], entry, rest, rfl, List.forall_mem_nil _, hentry⟩
          · rintro ⟨before, x, after, hsplit, hbefore, hx⟩
            cases before with
            | nil =>
                cases hsplit
                rw [select, hx]
                rfl
            | cons y before =>
                cases hsplit
                obtain ⟨_, hy⟩ := hbefore entry List.mem_cons_self
                cases hentry.symm.trans hy
      | ok b =>
          rw [select_cons hentry]
          constructor
          · intro h
            rcases bind_eq_error_iff.mp h with hrest | ⟨_, _, hpure⟩
            · obtain ⟨before, x, after, rfl, hbefore, hx⟩ := select_eq_error_iff.mp hrest
              exact ⟨entry :: before, x, after, rfl,
                List.forall_mem_cons.mpr ⟨⟨b, hentry⟩, hbefore⟩, hx⟩
            · cases hpure
          · rintro ⟨before, x, after, hsplit, hbefore, hx⟩
            cases before with
            | nil =>
                cases hsplit
                cases hentry.symm.trans hx
            | cons y before =>
                cases hsplit
                have hrest := select_eq_error_iff.mpr
                  ⟨before, x, after, rfl, (List.forall_mem_cons.mp hbefore).2, hx⟩
                exact bind_eq_error_iff.mpr (Or.inl hrest)

/-- A selection succeeds if the filter fails on no entry, and then it is that of the accepted
ones. -/
theorem select_eq_ok_iff {α : Type} {rules : Filter} {submission : α → Json}
    {entries kept : List α} :
    select rules submission entries = .ok kept ↔
      (∀ x ∈ entries, ∃ b, accepts rules (submission x) = .ok b) ∧
        kept = entries.filter fun x => accepts rules (submission x) = .ok true := by
  induction entries generalizing kept with
  | nil =>
      constructor
      · intro h
        cases h
        exact ⟨List.forall_mem_nil _, rfl⟩
      · rintro ⟨-, rfl⟩
        rfl
  | cons entry rest ih =>
      rw [List.forall_mem_cons]
      cases hentry : accepts rules (submission entry) with
      | error e =>
          constructor
          · intro h
            rw [select, hentry] at h
            cases h
          · rintro ⟨⟨⟨b, hb⟩, -⟩, -⟩
            cases hb
      | ok b =>
          rw [select_cons hentry, bind_eq_ok_iff]
          have hfilter : (entry :: rest).filter (fun x => accepts rules (submission x) = .ok true)
              = (if b then [entry] else [])
                ++ rest.filter fun x => accepts rules (submission x) = .ok true := by
            cases b <;> simp [hentry]
          rw [hfilter]
          constructor
          · rintro ⟨later, hlater, h⟩
            obtain ⟨hrest, rfl⟩ := ih.mp hlater
            cases h
            exact ⟨⟨⟨b, rfl⟩, hrest⟩, rfl⟩
          · rintro ⟨⟨-, hrest⟩, rfl⟩
            exact ⟨_, ih.mpr ⟨hrest, rfl⟩, rfl⟩

theorem exists_select_iff {α : Type} {rules : Filter} {submission : α → Json}
    {entries : List α} : (∃ kept, select rules submission entries = .ok kept) ↔
      ∀ x ∈ entries, ∀ e, accepts rules (submission x) ≠ .error e := by
  simp only [select_eq_ok_iff, exists_and_left, exists_eq, and_true]
  refine forall₂_congr fun x _ => ?_
  cases accepts rules (submission x) <;> simp

/-- Without rules everything is kept. -/
theorem select_nil {α : Type} (submission : α → Json) (entries : List α) :
    select [] submission entries = .ok entries :=
  select_eq_ok_iff.mpr ⟨fun _ _ => ⟨true, rfl⟩, by simp [accepts]⟩

theorem keep_array (rules : Filter) (submissions : List Json) :
    rules.keep (.array submissions) = select rules id submissions := by
  rw [keep, elementsOf_array]
  rfl

end Filter

end Winnow
