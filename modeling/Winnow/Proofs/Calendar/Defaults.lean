/-
# `Defaults` — a date in free form is read without its default

A text in free form is read under a default date, which supplies what the text leaves open
(`readUnder`), and a date is only taken from it if the readings under two defaults agree
(`read_eq_readUnder`).  Two are enough because they are the firsts of different months of different
years: a reading under the first of a month has the year and the month of that default wherever the
text does not name them (`Fields.date?_of_first`), even if it moves on to a weekday.  So two readings
agree only if the text names both, and then all defaults of that kind agree.  A default on another
day of the month is a different matter, since a day that is left open would be taken from it.
-/
import Winnow.Calendar.FreeForm.Reader
import Winnow.Proofs.Calendar.DayNumber
import Winnow.Proofs.Outcome

namespace Winnow

open Outcome

theorem Date.eq_of_of? {y m d : Nat} {date : Date} (h : of? y m d = some date) :
    date.year = y ∧ date.month = m ∧ date.day = d := by
  unfold of? at h
  split at h
  · cases h
    exact ⟨rfl, rfl, rfl⟩
  · cases h

namespace FreeForm

/-! ## Fields under a default -/

namespace Fields

/-- The text says nothing. -/
def nothing : Fields := ⟨none, none, none, none, none, none, none, none, none⟩

section

variable {f : Fields} {default default' : Date}

/-- Year and month come from the fields or else from the default. -/
theorem date?_of_first {date : Date} (h : default.day = 1) (hdate : f.date? default = some date) :
    date.year = f.year.getD default.year ∧ date.month = f.month.getD default.month := by
  unfold date? at hdate
  dsimp only at hdate
  split at hdate
  · obtain ⟨hyear, hmonth, -⟩ := Date.eq_of_of? hdate
    exact ⟨hyear, hmonth⟩
  · obtain ⟨first, hfirst, hmoved⟩ := Option.bind_eq_some_iff.mp hdate
    obtain ⟨hyear, hmonth, hday⟩ := Date.eq_of_of? hfirst
    have hlength := le_monthLength (f.year.getD default.year) (f.month.getD default.month)
    have hone : first.day = 1 := by omega
    split at hmoved
    · next weekday _ =>
      obtain ⟨later, hlater, hyear', hmonth'⟩ := Date.onOrAfter?_first hone weekday
      cases hlater.symm.trans hmoved
      exact ⟨hyear'.trans hyear, hmonth'.trans hmonth⟩
    · cases hmoved
      exact ⟨hyear, hmonth⟩

/-- With year and month in the fields, all that is taken from the default is its day. -/
theorem fill?_congr (hyear : f.year.isSome) (hmonth : f.month.isSome)
    (hday : default.day = default'.day) : f.fill? default = f.fill? default' := by
  obtain ⟨y, hy⟩ := Option.isSome_iff_exists.mp hyear
  obtain ⟨m, hm⟩ := Option.isSome_iff_exists.mp hmonth
  simp only [fill?, date?, hy, hm, hday, Option.getD_some]

theorem date?_of_fill? {t : DateTime} (h : f.fill? default = some t) :
    f.date? default = some t.date := by
  obtain ⟨date, hdate, h⟩ := Option.bind_eq_some_iff.mp h
  obtain ⟨time, -, h⟩ := Option.bind_eq_some_iff.mp h
  cases h
  exact hdate

/-- Defaults of different years and months lead to the same only if neither is asked for. -/
theorem isSome_of_fill?_eq {t : DateTime} (h : default.day = 1) (h' : default'.day = 1)
    (hyears : default.year ≠ default'.year) (hmonths : default.month ≠ default'.month)
    (hfill : f.fill? default = some t) (hfill' : f.fill? default' = some t) :
    f.year.isSome ∧ f.month.isSome := by
  obtain ⟨hyear, hmonth⟩ := date?_of_first h (date?_of_fill? hfill)
  obtain ⟨hyear', hmonth'⟩ := date?_of_first h' (date?_of_fill? hfill')
  constructor
  · cases hf : f.year with
    | some y => rfl
    | none =>
        rw [hf] at hyear hyear'
        exact absurd (hyear.symm.trans hyear') hyears
  · cases hf : f.month with
    | some m => rfl
    | none =>
        rw [hf] at hmonth hmonth'
        exact absurd (hmonth.symm.trans hmonth') hmonths

end

theorem settled?_eq (f : Fields) : f.settled?
    = if f.fill? defaults.1 = f.fill? defaults.2 then f.fill? defaults.1 else none := by
  unfold settled?
  cases f.fill? defaults.1 <;> cases f.fill? defaults.2 <;> simp

theorem settled?_eq_some_iff {f : Fields} {t : DateTime} :
    f.settled? = some t ↔ f.fill? defaults.1 = some t ∧ f.fill? defaults.2 = some t := by
  rw [settled?_eq]
  split
  · next h => simp [← h]
  · next h =>
    refine iff_of_false nofun ?_
    rintro ⟨h1, h2⟩
    exact h (h1.trans h2.symm)

theorem isSome_of_settled? {f : Fields} {t : DateTime} (h : f.settled? = some t) :
    f.year.isSome ∧ f.month.isSome := by
  obtain ⟨h1, h2⟩ := settled?_eq_some_iff.mp h
  exact isSome_of_fill?_eq rfl rfl (by decide) (by decide) h1 h2

/-- What two defaults settle, all defaults of the kind do. -/
theorem settled?_eq_some_iff_forall {f : Fields} {t : DateTime} :
    f.settled? = some t ↔ ∀ default : Date, default.day = 1 → f.fill? default = some t := by
  constructor
  · intro h default hday
    obtain ⟨hyear, hmonth⟩ := isSome_of_settled? h
    exact (fill?_congr hyear hmonth hday).trans (settled?_eq_some_iff.mp h).1
  · intro h
    exact settled?_eq_some_iff.mpr ⟨h _ rfl, h _ rfl⟩

/-- What is settled does not leave year or month open. -/
theorem settled?_eq_none {f : Fields} (h : f.year = none ∨ f.month = none) :
    f.settled? = none := by
  refine Option.eq_none_iff_forall_ne_some.mpr fun t ht => ?_
  obtain ⟨hyear, hmonth⟩ := isSome_of_settled? ht
  rcases h with h | h
  · rw [h] at hyear
    cases hyear
  · rw [h] at hmonth
    cases hmonth

end Fields

/-! ## Readings under a default -/

/-- A text read under a default date, from midnight on: none if it says nothing, or nothing that
makes a date. -/
def readUnder [Present] (default : Date) (cs : List Char) : Except Failure (Option DateTime) :=
  match fields cs with
  | .ok f => .ok (if f = .nothing then none else f.fill? default)
  | .error .unreadable => .ok none
  | .error .imprecise => .error .imprecise

section

variable [Present] {cs : List Char} {f : Fields}

theorem read_of_fields (h : fields cs = .ok f) : read cs = .ok f.settled? := by
  rw [read, h]

theorem readUnder_of_fields (h : fields cs = .ok f) (default : Date) :
    readUnder default cs = .ok (if f = .nothing then none else f.fill? default) := by
  rw [readUnder, h]

/-- A text that has no fields is read alike under all defaults. -/
theorem readUnder_of_error {e : Failure} (h : fields cs = .error e) (default : Date) :
    readUnder default cs = read cs ∧ ∀ t, read cs ≠ .ok (some t) := by
  rw [readUnder, read, h]
  cases e <;> simp

end

/-- A date is read if the readings under two defaults are the same. -/
theorem read_eq_readUnder [Present] (cs : List Char) :
    read cs = do
      let first ← readUnder defaults.1 cs
      let second ← readUnder defaults.2 cs
      return if first = second then first else none := by
  cases h : fields cs with
  | error e =>
      obtain ⟨h1, -⟩ := readUnder_of_error h defaults.1
      obtain ⟨h2, -⟩ := readUnder_of_error h defaults.2
      rw [h1, h2]
      cases read cs <;> simp [bind, Except.bind, pure, Except.pure]
  | ok f =>
      rw [read_of_fields h, readUnder_of_fields h, readUnder_of_fields h]
      by_cases hnothing : f = .nothing
      · have hopen : f.year = none := congrArg Fields.year hnothing
        rw [if_pos hnothing, if_pos hnothing, Fields.settled?_eq_none (Or.inl hopen)]
        rfl
      · rw [if_neg hnothing, if_neg hnothing, Fields.settled?_eq]
        rfl

/-- A text is read as a date exactly if it is read as that date under every first of a month, and as
none if it does not name both a year and a month. -/
theorem date_does_not_depend_on_default [Present] (cs : List Char) :
    (∀ t, read cs = .ok (some t) ↔
      ∀ default : Date, default.day = 1 → readUnder default cs = .ok (some t)) ∧
    ∀ f, fields cs = .ok f → f.year = none ∨ f.month = none → read cs = .ok none := by
  constructor
  · intro t
    constructor
    · intro hread default hday
      cases h : fields cs with
      | error e => exact absurd hread ((readUnder_of_error h default).2 t)
      | ok f =>
          rw [read_of_fields h, Except.ok.injEq] at hread
          have hnothing : f ≠ .nothing := by
            rintro rfl
            cases (Fields.isSome_of_settled? hread).1
          rw [readUnder_of_fields h, if_neg hnothing,
            Fields.settled?_eq_some_iff_forall.mp hread default hday]
    · intro hall
      rw [read_eq_readUnder, hall _ rfl, hall _ rfl]
      exact congrArg Except.ok (if_pos rfl)
  · intro f h hopen
    rw [read_of_fields h, Fields.settled?_eq_none hopen]

/-- The first Wednesday of a named month is the same under any default; the end of February without a
year is a day under the first default only, and no date. -/
theorem wednesday_is_found_under_any_default :
    let _ : Present := ⟨2025⟩
    let wednesday := "Wed Feb 2024 10:00 +05:30".toList
    let leapDay := "29 Feb 10:00".toList
    let t : DateTime := ⟨⟨2024, 2, 7, by decide⟩, ⟨10, 0, 0, 0, by decide⟩, some 19800⟩
    let default : Date := ⟨1903, 12, 1, by decide⟩
    (read wednesday = .ok (some t) ∧ default.day = 1 ∧
      ∃ f, fields leapDay = .ok f ∧ f.year = none) ∧
    readUnder default wednesday = .ok (some t) ∧
      (∃ t', readUnder defaults.1 leapDay = .ok (some t')) ∧ read leapDay = .ok none := by
  intro present wednesday leapDay t default
  have hread : read wednesday = .ok (some t) := by decide +kernel
  have hfields : fields leapDay
      = .ok ⟨none, some 2, some 29, none, some 10, some 0, none, none, none⟩ := by decide +kernel
  refine ⟨⟨hread, rfl, _, hfields, rfl⟩, ?_, ?_, ?_⟩
  · exact ((date_does_not_depend_on_default wednesday).1 t).mp hread default rfl
  · exact ⟨⟨⟨2000, 2, 29, by decide⟩, ⟨10, 0, 0, 0, by decide⟩, none⟩, by decide +kernel⟩
  · exact (date_does_not_depend_on_default leapDay).2 _ hfields (Or.inl rfl)

end FreeForm

end Winnow
