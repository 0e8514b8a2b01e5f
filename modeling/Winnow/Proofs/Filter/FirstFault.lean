/-
# `FirstFault` — which clause of a list is at fault

Clauses are compiled in a loop that keeps the rules made so far, and stops at the first clause that
has no rule.  Seen as a fold, it goes well up to that clause (`compile_eq_error_iff`), and as no
clause is asked for more than an id that is new and a value of a supported type, the fault is said
in terms of the clauses alone: the rules made so far only lend their ids, which are those of the
clauses before.

One fault is no rejection.  A text is read as a date to find its kind, and a number in it may have
too many digits to be computed with.
-/
import Winnow.Proofs.Calendar.Precision
import Winnow.Proofs.Filter.Timing
import Winnow.Proofs.Text.Blank

namespace Winnow

open Outcome

/-! ## Values -/

/-- The value can be that of a clause: null, a number or a text. -/
inductive IsSupported : Option Json → Prop
  | null : IsSupported (some .null)
  | number (n : Number) : IsSupported (some (.number n))
  | text (s : String) : IsSupported (some (.string s))

/-- The value is a text, and reading it as a date takes more digits than are computed with. -/
def IsImprecise [Present] (value : Option Json) : Prop :=
  ∃ s, value = some (.string s) ∧ (Json.string s).date = .error .imprecise

/-- Such a text has more decimal digits than are computed with. -/
theorem precision_lt_of_isImprecise [Present] {s : String} (h : IsImprecise (some (.string s))) :
    Quantity.precision < s.toList.countP FreeForm.isDecimal := by
  obtain ⟨_, hs, hdate⟩ := h
  cases hs
  have hstripped : (Text.strip s.toList).countP FreeForm.isDecimal
      ≤ s.toList.countP FreeForm.isDecimal := (Text.trimWhile_sublist _ _).countP_le
  rcases bind_eq_error_iff.mp hdate with hshown | ⟨cs, hshown, hread⟩
  · cases hshown
  · cases hshown
    split at hread
    · cases hread
    · next hfailure => exact (DateTime.precision_lt_of_read hfailure).trans_le hstripped

/-- The kind of a value: a text that names a date is a date. -/
inductive HasKind [Present] : Json → ValueKind → Prop
  | null : HasKind .null .null
  | number (n : Number) : HasKind (.number n) .number
  | date {s : String} {t : DateTime} : (Json.string s).date = .ok (some t) →
      HasKind (.string s) .date
  | string {s : String} : (Json.string s).date = .ok none → HasKind (.string s) .string

/-- The rule is the clause, with the kind of its value. -/
structure Keeps [Present] (c : Clause) (r : Rule) : Prop where
  id : r.id = c.id
  condition : r.condition = c.condition
  value : c.value = some r.target.value
  kind : HasKind r.target.value r.target.kind

namespace Target

variable [Present]

theorem ofJson_string (s : String) : ofJson (.string s) = (do
    match ← (Json.string s).date with
    | some _ => return .date s
    | none => return .text s) := rfl

/-- A target keeps the value that it is made of, and has its kind. -/
theorem ofJson_eq_ok_iff {v : Json} {target : Target} :
    ofJson v = .ok target ↔ v = target.value ∧ HasKind v target.kind := by
  constructor
  · intro h
    cases v with
    | null =>
        cases h
        exact ⟨rfl, .null⟩
    | number n =>
        cases h
        exact ⟨rfl, .number n⟩
    | string s =>
        rw [ofJson_string] at h
        obtain ⟨found, hdate, h⟩ := bind_eq_ok_iff.mp h
        cases found with
        | none =>
            cases h
            exact ⟨rfl, .string hdate⟩
        | some t =>
            cases h
            exact ⟨rfl, .date hdate⟩
    | _ => cases h
  · rintro ⟨rfl, hkind⟩
    cases target with
    | null => rfl
    | number n => rfl
    | text s =>
        obtain _ | _ | _ | hdate := hkind
        exact (ofJson_string s).trans (bind_eq_ok_iff.mpr ⟨_, hdate, rfl⟩)
    | date s =>
        obtain _ | _ | hdate | _ := hkind
        exact (ofJson_string s).trans (bind_eq_ok_iff.mpr ⟨_, hdate, rfl⟩)

/-- A value has no target if its type is not supported, or if it is a text that cannot be computed
with. -/
theorem ofJson_eq_error_iff {v : Json} {e : Fault} : ofJson v = .error e ↔
    ¬ IsSupported (some v) ∧ e = .rejected .unsupportedValue ∨
      IsImprecise (some v) ∧ e = .imprecise := by
  constructor
  · intro h
    cases v with
    | null => cases h
    | number n => cases h
    | string s =>
        rw [ofJson_string] at h
        rcases bind_eq_error_iff.mp h with hdate | ⟨found, -, h⟩
        · have htext : (Json.string s).HasText := rfl
          cases date_error htext hdate
          exact Or.inr ⟨⟨s, rfl, hdate⟩, rfl⟩
        · cases found <;> cases h
    | _ =>
        cases h
        exact Or.inl ⟨nofun, rfl⟩
  · rintro (⟨hnot, rfl⟩ | ⟨⟨s, hs, hdate⟩, rfl⟩)
    · cases v with
      | null => exact absurd .null hnot
      | number n => exact absurd (.number n) hnot
      | string s => exact absurd (.text s) hnot
      | _ => rfl
    · cases hs
      exact (ofJson_string s).trans (bind_eq_error_iff.mpr (Or.inl hdate))

end Target

/-! ## Clauses -/

namespace Rule

variable [Present]

theorem ofClause_some {id : String} {condition : Condition} (v : Json) :
    ofClause ⟨id, condition, some v⟩ = (do return ⟨id, condition, ← Target.ofJson v⟩) := rfl

/-- The rule of a clause is the clause itself with the kind of its value. -/
theorem ofClause_eq_ok_iff {c : Clause} {r : Rule} : ofClause c = .ok r ↔ Keeps c r := by
  obtain ⟨id, condition, value⟩ := c
  cases value with
  | none =>
      refine ⟨nofun, fun h => ?_⟩
      cases h.value
  | some v =>
      rw [ofClause_some, bind_eq_ok_iff]
      constructor
      · rintro ⟨target, htarget, h⟩
        cases h
        obtain ⟨rfl, hkind⟩ := Target.ofJson_eq_ok_iff.mp htarget
        exact ⟨rfl, rfl, rfl, hkind⟩
      · rintro ⟨rfl, rfl, hvalue, hkind⟩
        cases hvalue
        exact ⟨r.target, Target.ofJson_eq_ok_iff.mpr ⟨rfl, hkind⟩, rfl⟩

/-- A clause has no rule because of its value only. -/
theorem ofClause_eq_error_iff {c : Clause} {e : Fault} : ofClause c = .error e ↔
    ¬ IsSupported c.value ∧ e = .rejected .unsupportedValue ∨
      IsImprecise c.value ∧ e = .imprecise := by
  obtain ⟨id, condition, value⟩ := c
  cases value with
  | none =>
      constructor
      · intro h
        cases h
        exact Or.inl ⟨nofun, rfl⟩
      · rintro (⟨-, rfl⟩ | ⟨⟨_, h, -⟩, -⟩)
        · rfl
        · cases h
  | some v =>
      rw [ofClause_some, bind_eq_error_iff, ← Target.ofJson_eq_error_iff]
      refine or_iff_left ?_
      rintro ⟨_, -, h⟩
      cases h

/-- A clause has a rule if its value is supported and can be computed with. -/
theorem exists_ofClause_iff {c : Clause} :
    (∃ r, ofClause c = .ok r) ↔ IsSupported c.value ∧ ¬ IsImprecise c.value := by
  constructor
  · rintro ⟨r, hr⟩
    constructor
    · by_contra hnot
      cases hr.symm.trans (ofClause_eq_error_iff.mpr (Or.inl ⟨hnot, rfl⟩))
    · intro himprecise
      cases hr.symm.trans (ofClause_eq_error_iff.mpr (Or.inr ⟨himprecise, rfl⟩))
  · rintro ⟨hsupported, hprecise⟩
    cases h : ofClause c with
    | ok r => exact ⟨r, rfl⟩
    | error e =>
        rcases ofClause_eq_error_iff.mp h with ⟨hnot, -⟩ | ⟨himprecise, -⟩
        · exact absurd hsupported hnot
        · exact absurd himprecise hprecise

end Rule

/-! ## Lists of clauses -/

namespace Filter

section

variable [Present]

/-- No id is repeated, and each value is supported and can be computed with. -/
def IsCompilable (cs : List Clause) : Prop :=
  (cs.map Clause.id).Nodup ∧ ∀ c ∈ cs, IsSupported c.value ∧ ¬ IsImprecise c.value

/-- What is wrong with a clause that comes after others.  An id that is repeated counts first. -/
inductive IsFaultOf (before : List Clause) (c : Clause) : Fault → Prop
  | repeated : c.id ∈ before.map Clause.id → IsFaultOf before c (.rejected .repeatedQuestion)
  | unsupported : c.id ∉ before.map Clause.id → ¬ IsSupported c.value →
      IsFaultOf before c (.rejected .unsupportedValue)
  | imprecise : c.id ∉ before.map Clause.id → IsImprecise c.value →
      IsFaultOf before c .imprecise

/-- One step of the loop over the clauses. -/
def addClause (made : Filter) (c : Clause) : Except Fault Filter :=
  if made.any (·.id = c.id) then throw (.rejected .repeatedQuestion)
  else do return made ++ [← Rule.ofClause c]

theorem compileFrom_eq_foldlM (made : Filter) (cs : List Clause) :
    compileFrom made cs = cs.foldlM addClause made := by
  induction cs generalizing made with
  | nil => rfl
  | cons c rest ih =>
      rw [compileFrom, List.foldlM_cons, addClause]
      split
      · rfl
      · cases Rule.ofClause c with
        | error e => rfl
        | ok r => exact ih (made ++ [r])

theorem addClause_eq_error_iff {made : Filter} {c : Clause} {e : Fault} :
    addClause made c = .error e ↔
      c.id ∈ made.map Rule.id ∧ e = .rejected .repeatedQuestion ∨
        c.id ∉ made.map Rule.id ∧ Rule.ofClause c = .error e := by
  have hany : made.any (·.id = c.id) = true ↔ c.id ∈ made.map Rule.id := by simp
  unfold addClause
  split
  · next h =>
    simp only [hany.mp h, not_true_eq_false, false_and, or_false, true_and]
    exact ⟨fun he => (Except.error.inj he).symm, fun he => he ▸ rfl⟩
  · next h =>
    simp only [mt hany.mpr h, not_false_eq_true, false_and, false_or, true_and]
    rw [bind_eq_error_iff]
    refine or_iff_left ?_
    rintro ⟨_, -, h⟩
    cases h

/-- Rules have the ids of their clauses. -/
theorem map_id_of_rulesOf {cs : List Clause} {rules : Filter} (h : RulesOf cs rules) :
    rules.map Rule.id = cs.map Clause.id := by
  induction h with
  | nil => rfl
  | cons hr _ ih => rw [List.map_cons, List.map_cons, id_of_ofClause hr, ih]

theorem exists_compile_iff {cs : List Clause} :
    (∃ rules, compile cs = .ok rules) ↔ IsCompilable cs := by
  have hrules : (∃ rules, RulesOf cs rules) ↔
      ∀ c ∈ cs, IsSupported c.value ∧ ¬ IsImprecise c.value := by
    simp only [RulesOf, exists_forall₂_iff, Rule.exists_ofClause_iff]
  rw [IsCompilable, ← hrules]
  constructor
  · rintro ⟨rules, h⟩
    obtain ⟨hof, hdistinct⟩ := compile_eq_ok_iff.mp h
    exact ⟨map_id_of_rulesOf hof ▸ hdistinct, rules, hof⟩
  · rintro ⟨hids, rules, hof⟩
    refine ⟨rules, compile_eq_ok_iff.mpr ⟨hof, ?_⟩⟩
    rwa [Distinct, map_id_of_rulesOf hof]

/-- The rules of the clauses before show in their ids only. -/
theorem addClause_eq_error_iff_isFaultOf {before : List Clause} {rules : Filter} {c : Clause}
    {e : Fault} (h : RulesOf before rules) :
    addClause rules c = .error e ↔ IsFaultOf before c e := by
  rw [addClause_eq_error_iff, map_id_of_rulesOf h, Rule.ofClause_eq_error_iff]
  constructor
  · rintro (⟨hmem, rfl⟩ | ⟨hnew, ⟨hnot, rfl⟩ | ⟨himprecise, rfl⟩⟩)
    · exact .repeated hmem
    · exact .unsupported hnew hnot
    · exact .imprecise hnew himprecise
  · rintro (hmem | ⟨hnew, hnot⟩ | ⟨hnew, himprecise⟩)
    · exact Or.inl ⟨hmem, rfl⟩
    · exact Or.inr ⟨hnew, Or.inl ⟨hnot, rfl⟩⟩
    · exact Or.inr ⟨hnew, Or.inr ⟨himprecise, rfl⟩⟩

/-- The loop goes well up to a clause and stops there. -/
theorem compile_eq_error_iff {cs : List Clause} {e : Fault} : compile cs = .error e ↔
    ∃ before c after, cs = before ++ c :: after ∧ IsCompilable before ∧ IsFaultOf before c e := by
  rw [compile, compileFrom_eq_foldlM, foldlM_eq_error_iff]
  refine exists_congr fun before => exists_congr fun c => exists_congr fun after => ?_
  rw [exists_and_left]
  refine and_congr_right fun _ => ?_
  rw [← exists_compile_iff]
  constructor
  · rintro ⟨rules, hrun, hstep⟩
    rw [← compileFrom_eq_foldlM] at hrun
    obtain ⟨hof, -⟩ := compile_eq_ok_iff.mp hrun
    exact ⟨⟨rules, hrun⟩, (addClause_eq_error_iff_isFaultOf hof).mp hstep⟩
  · rintro ⟨⟨rules, hrun⟩, hfault⟩
    obtain ⟨hof, -⟩ := compile_eq_ok_iff.mp hrun
    rw [compile, compileFrom_eq_foldlM] at hrun
    exact ⟨rules, hrun, (addClause_eq_error_iff_isFaultOf hof).mpr hfault⟩

/-- A list of clauses is compiled to the clauses themselves, one by one, with the kinds of their
values, or it stops at the first clause that repeats an id or has a value that cannot be compiled.
Such a value is of a type that is not supported, or else it is a text with more than 28 decimal
digits; the clause with the text is not rejected, compiling it breaks off. -/
theorem compile_keeps_or_stops_at_first_fault (cs : List Clause) :
    ((∃ rules, compile cs = .ok rules) ↔ (cs.map Clause.id).Nodup ∧
      ∀ c ∈ cs, IsSupported c.value ∧ ¬ IsImprecise c.value) ∧
    (∀ rules, compile cs = .ok rules → List.Forall₂ Keeps cs rules) ∧
    (∀ e, compile cs = .error e ↔ ∃ before c after, cs = before ++ c :: after ∧
      IsCompilable before ∧ IsFaultOf before c e) ∧
    Rejection.repeatedQuestion.message = "Too many conditions for a single Id" ∧
    Rejection.unsupportedValue.message
      = "Filter values must be a number, string, date, or null." ∧
    ∀ s, IsImprecise (some (.string s)) → 28 < s.toList.countP FreeForm.isDecimal := by
  refine ⟨exists_compile_iff, ?_, fun _ => compile_eq_error_iff, rfl, rfl, fun _ h =>
    precision_lt_of_isImprecise h⟩
  intro rules h
  obtain ⟨hrules, -⟩ := compile_eq_ok_iff.mp h
  exact hrules.imp fun _ _ hr => Rule.ofClause_eq_ok_iff.mp hr

end

set_option maxRecDepth 2000 in
/-- A number of hours of 29 digits is a text, and no other clause is about its question, and yet the
clause is not compiled. -/
theorem hours_of_many_digits_are_not_compiled :
    let _ : Present := ⟨2025⟩
    let clauses : List Clause :=
      [⟨"q", .equals, some (.string "11111111111111111111111111111h")⟩]
    (clauses.map Clause.id).Nodup ∧ (∀ c ∈ clauses, IsSupported c.value) ∧
      ¬ ∃ rules, compile clauses = .ok rules := by
  intro present clauses
  refine ⟨List.nodup_singleton _, List.forall_mem_singleton.mpr (.text _), ?_⟩
  have himprecise : (Json.string "11111111111111111111111111111h").date
      = .error .imprecise := by decide +kernel
  rw [exists_compile_iff]
  rintro ⟨-, h⟩
  exact (List.forall_mem_singleton.mp h).2 ⟨_, rfl, himprecise⟩

end Filter

end Winnow
