/-
# `Outcome` — runs that stop at their first fault

Reading and filtering are written in `Except`: a chain of steps, or a fold over a list, each of
which goes on until something fails.  A bind is taken apart here once, for success and for failure,
and so is a fold; what a step keeps, a run keeps, and a run fails exactly where one step fails after
a start that went well.
-/
import Mathlib

namespace Winnow.Outcome

variable {ε α β σ : Type}

/-! ## One step after another -/

theorem bind_eq_ok_iff {x : Except ε α} {f : α → Except ε β} {b : β} :
    x >>= f = .ok b ↔ ∃ a, x = .ok a ∧ f a = .ok b := by
  cases x with
  | ok a =>
      constructor
      · intro h
        exact ⟨a, rfl, h⟩
      · rintro ⟨_, ha, h⟩
        cases ha
        exact h
  | error e =>
      constructor
      · intro h
        cases h
      · rintro ⟨_, ha, _⟩
        cases ha

theorem bind_eq_error_iff {x : Except ε α} {f : α → Except ε β} {e : ε} :
    x >>= f = .error e ↔ x = .error e ∨ ∃ a, x = .ok a ∧ f a = .error e := by
  cases x with
  | ok a =>
      constructor
      · intro h
        exact Or.inr ⟨a, rfl, h⟩
      · rintro (h | ⟨_, ha, h⟩)
        · cases h
        · cases ha
          exact h
  | error e' =>
      constructor
      · intro h
        cases h
        exact Or.inl rfl
      · rintro (h | ⟨_, ha, _⟩)
        · cases h
          rfl
        · cases ha

theorem toOption_eq_some_iff {x : Except ε α} {a : α} : x.toOption = some a ↔ x = .ok a := by
  cases x <;> simp [Except.toOption]

/-! ## Folds -/

/-- What every step keeps, a run keeps. -/
theorem foldlM_invariant {P : σ → Prop} {step : σ → α → Except ε σ} {items : List α} :
    (∀ s a s', a ∈ items → P s → step s a = .ok s' → P s') →
      ∀ {s s' : σ}, P s → items.foldlM step s = .ok s' → P s' := by
  induction items with
  | nil =>
      intro _ s s' hs h
      cases h
      exact hs
  | cons a rest ih =>
      intro hstep s s' hs h
      rw [List.foldlM_cons] at h
      obtain ⟨middle, h1, h2⟩ := bind_eq_ok_iff.mp h
      exact ih (fun s b s' hb => hstep s b s' (List.mem_cons_of_mem _ hb))
        (hstep s a middle List.mem_cons_self hs h1) h2

/-- A run goes up to a point, and on from there. -/
theorem foldlM_append_eq_ok_iff {step : σ → α → Except ε σ} {before after : List α} {s s' : σ} :
    (before ++ after).foldlM step s = .ok s' ↔
      ∃ middle, before.foldlM step s = .ok middle ∧ after.foldlM step middle = .ok s' := by
  rw [List.foldlM_append]
  exact bind_eq_ok_iff

theorem foldlM_cons_eq_ok_iff {step : σ → α → Except ε σ} {a : α} {rest : List α} {s s' : σ} :
    (a :: rest).foldlM step s = .ok s' ↔
      ∃ next, step s a = .ok next ∧ rest.foldlM step next = .ok s' := by
  rw [List.foldlM_cons]
  exact bind_eq_ok_iff

/-- A run fails at the step that fails, and has gone well up to it. -/
theorem foldlM_eq_error_iff {step : σ → α → Except ε σ} {e : ε} {items : List α} :
    ∀ {s : σ}, items.foldlM step s = .error e ↔
      ∃ before a after middle, items = before ++ a :: after ∧
        before.foldlM step s = .ok middle ∧ step middle a = .error e := by
  induction items with
  | nil =>
      intro s
      constructor
      · intro h
        cases h
      · rintro ⟨before, a, after, _, h, -⟩
        exact absurd h.symm (List.append_ne_nil_of_right_ne_nil before (List.cons_ne_nil a after))
  | cons a rest ih =>
      intro s
      rw [List.foldlM_cons, bind_eq_error_iff]
      constructor
      · rintro (h | ⟨next, h1, h2⟩)
        · exact ⟨[], a, rest, s, rfl, rfl, h⟩
        · obtain ⟨before, b, after, middle, rfl, hb, he⟩ := ih.mp h2
          exact ⟨a :: before, b, after, middle, rfl, foldlM_cons_eq_ok_iff.mpr ⟨next, h1, hb⟩, he⟩
      · rintro ⟨before, b, after, middle, hsplit, hb, he⟩
        cases before with
        | nil =>
            cases hsplit
            cases hb
            exact Or.inl he
        | cons c before =>
            cases hsplit
            obtain ⟨next, h1, h2⟩ := foldlM_cons_eq_ok_iff.mp hb
            exact Or.inr ⟨next, h1, ih.mpr ⟨before, b, after, middle, rfl, h2, he⟩⟩

/-! ## Lists, one by one -/

/-- A list is related to another one element by element if each element is related to something. -/
theorem exists_forall₂_iff {R : α → β → Prop} {items : List α} :
    (∃ results, List.Forall₂ R items results) ↔ ∀ a ∈ items, ∃ b, R a b := by
  induction items with
  | nil => exact ⟨fun _ => List.forall_mem_nil _, fun _ => ⟨[], .nil⟩⟩
  | cons a rest ih =>
      rw [List.forall_mem_cons, ← ih]
      constructor
      · rintro ⟨_, _ | ⟨hb, hrest⟩⟩
        exact ⟨⟨_, hb⟩, _, hrest⟩
      · rintro ⟨⟨b, hb⟩, results, hrest⟩
        exact ⟨b :: results, .cons hb hrest⟩

end Winnow.Outcome
