/-
# `Compiling` — which lists of clauses make a filter

Clauses are compiled one after the other against the rules made so far, and the only thing that is
asked of those is that none of them has the id of the next clause.  So the run comes down to two
conditions without an order: each clause has a rule, and no two rules have the same id
(`compile_eq_ok_iff`).  That is why clauses can be reordered, and filters put together.
-/
import Winnow.Proofs.Filter.Evaluation

namespace Winnow.Filter

open Outcome

/-- No two rules have the same id. -/
def Distinct (rules : Filter) : Prop := (rules.map Rule.id).Nodup

theorem distinct_nil : Distinct [] := List.nodup_nil

theorem distinct_append_iff {first second : Filter} :
    Distinct (first ++ second) ↔
      Distinct first ∧ Distinct second ∧ ∀ a ∈ first, ∀ b ∈ second, a.id ≠ b.id := by
  simp [Distinct, List.nodup_append]

variable [Present]

/-- The rules are those of the clauses, one by one. -/
def RulesOf (cs : List Clause) (rules : Filter) : Prop :=
  List.Forall₂ (fun c r => Rule.ofClause c = .ok r) cs rules

theorem id_of_ofClause {c : Clause} {r : Rule} (h : Rule.ofClause c = .ok r) : r.id = c.id := by
  unfold Rule.ofClause at h
  split at h
  · obtain ⟨target, -, h⟩ := bind_eq_ok_iff.mp h
    cases h
    rfl
  · cases h

/-- One clause is compiled if it has a rule and no rule made so far has its id. -/
theorem compileFrom_cons_eq_ok_iff {c : Clause} {cs : List Clause} {made rules : Filter} :
    compileFrom made (c :: cs) = .ok rules ↔
      ∃ r, Rule.ofClause c = .ok r ∧ (∀ m ∈ made, m.id ≠ r.id) ∧
        compileFrom (made ++ [r]) cs = .ok rules := by
  rw [compileFrom]
  constructor
  · intro h
    split at h
    · cases h
    · next hnew =>
      obtain ⟨r, hr, hrest⟩ := bind_eq_ok_iff.mp h
      refine ⟨r, hr, ?_, hrest⟩
      simpa [id_of_ofClause hr] using hnew
  · rintro ⟨r, hr, hnew, hrest⟩
    rw [if_neg (by simpa [id_of_ofClause hr] using hnew)]
    exact bind_eq_ok_iff.mpr ⟨r, hr, hrest⟩

theorem compileFrom_eq_ok_iff {cs : List Clause} {made rules : Filter} (hmade : Distinct made) :
    compileFrom made cs = .ok rules ↔
      ∃ new, RulesOf cs new ∧ rules = made ++ new ∧ Distinct rules := by
  induction cs generalizing made with
  | nil =>
      constructor
      · intro h
        cases h
        exact ⟨[], .nil, (List.append_nil _).symm, hmade⟩
      · rintro ⟨new, hnew, rfl, -⟩
        cases hnew
        rw [List.append_nil]
        rfl
  | cons c cs ih =>
      rw [compileFrom_cons_eq_ok_iff]
      constructor
      · rintro ⟨r, hr, hfresh, hrest⟩
        have hnext : Distinct (made ++ [r]) :=
          distinct_append_iff.mpr ⟨hmade, List.nodup_singleton _, by simpa using hfresh⟩
        obtain ⟨new, hnew, rfl, hdistinct⟩ := (ih hnext).mp hrest
        exact ⟨r :: new, .cons hr hnew, (List.append_cons made r new).symm, hdistinct⟩
      · rintro ⟨new, hnew, rfl, hdistinct⟩
        cases hnew with
        | cons hr hnew =>
            rw [List.append_cons] at hdistinct
            have hnext := (distinct_append_iff.mp hdistinct).1
            refine ⟨_, hr, ?_, (ih hnext).mpr ⟨_, hnew, List.append_cons .., ?_⟩⟩
            · simpa using (distinct_append_iff.mp hnext).2.2
            · rwa [List.append_cons]

/-- Clauses are compiled if each of them has a rule and no two rules have the same id. -/
theorem compile_eq_ok_iff {cs : List Clause} {rules : Filter} :
    compile cs = .ok rules ↔ RulesOf cs rules ∧ Distinct rules := by
  rw [compile, compileFrom_eq_ok_iff distinct_nil]
  constructor
  · rintro ⟨new, hnew, rfl, hdistinct⟩
    exact ⟨hnew, hdistinct⟩
  · rintro ⟨hrules, hdistinct⟩
    exact ⟨rules, hrules, rfl, hdistinct⟩

/-- One clause is compiled to one rule if its value is supported. -/
theorem compile_singleton {v : Json} {target : Target} (h : Target.ofJson v = .ok target)
    (id : String) (c : Condition) : compile [⟨id, c, some v⟩] = .ok [⟨id, c, target⟩] := by
  have hrule : Rule.ofClause ⟨id, c, some v⟩ = .ok ⟨id, c, target⟩ :=
    bind_eq_ok_iff.mpr ⟨target, h, rfl⟩
  exact compile_eq_ok_iff.mpr ⟨.cons hrule .nil, List.nodup_singleton _⟩

/-- What is true of the rule of any clause is true of all rules of a compiled filter. -/
theorem forall_of_compile {P : Rule → Prop} {cs : List Clause} {rules : Filter}
    (hP : ∀ {c : Clause} {r : Rule}, Rule.ofClause c = .ok r → P r)
    (h : compile cs = .ok rules) : ∀ r ∈ rules, P r := by
  obtain ⟨hrules, -⟩ := compile_eq_ok_iff.mp h
  clear h
  induction hrules with
  | nil => exact List.forall_mem_nil _
  | cons hr _ ih => exact List.forall_mem_cons.mpr ⟨hP hr, ih⟩

/-- Clauses in another order are compiled to the rules in another order. -/
theorem exists_compile_perm {cs cs' : List Clause} {rules : Filter} (hperm : cs.Perm cs')
    (h : compile cs = .ok rules) : ∃ rules', compile cs' = .ok rules' ∧ rules.Perm rules' := by
  obtain ⟨hrules, hdistinct⟩ := compile_eq_ok_iff.mp h
  obtain ⟨rules', hrules', hperm'⟩ := List.perm_comp_forall₂ hperm.symm hrules
  refine ⟨rules', compile_eq_ok_iff.mpr ⟨hrules', ?_⟩, hperm'.symm⟩
  exact (hperm'.map Rule.id).nodup_iff.mpr hdistinct

/-- Filters about different questions are compiled together to the rules of both. -/
theorem compile_append {cs cs' : List Clause} {rules rules' : Filter} (h : compile cs = .ok rules)
    (h' : compile cs' = .ok rules') (hids : ∀ a ∈ rules, ∀ b ∈ rules', a.id ≠ b.id) :
    compile (cs ++ cs') = .ok (rules ++ rules') := by
  obtain ⟨hrules, hdistinct⟩ := compile_eq_ok_iff.mp h
  obtain ⟨hrules', hdistinct'⟩ := compile_eq_ok_iff.mp h'
  refine compile_eq_ok_iff.mpr ⟨List.rel_append hrules hrules', ?_⟩
  exact distinct_append_iff.mpr ⟨hdistinct, hdistinct', hids⟩

end Winnow.Filter
