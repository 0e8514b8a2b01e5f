/-
# `Composition` — filters in another order, and one after the other

Which rule decides about a submission depends on the order of the rules, and so does the fault that
shows when one fails.  What a filter keeps does not: a submission is kept if all rules hold of it
(`accepts_eq_true_iff`), and that is a condition on the set of rules.  For the same reason two filters
that run one after the other keep what both together keep.  There the faults agree as well, at least
in whether there is one: the second filter never sees what the first one dropped, and in the joint
filter its rules do not come up for it either.
-/
import Winnow.Proofs.Filter.Compiling
import Winnow.Proofs.Filter.Conjunction

namespace Winnow.Filter

/-! ## Another order -/

section

variable [Present]

theorem accepts_perm {rules rules' : Filter} (hperm : rules.Perm rules') (s : Json) :
    accepts rules s = .ok true ↔ accepts rules' s = .ok true := by
  simp only [accepts_eq_true_iff, hperm.mem_iff]

theorem keep_perm {rules rules' : Filter} {submissions kept kept' : List Json}
    (hperm : rules.Perm rules') (h : rules.keep (.array submissions) = .ok kept)
    (h' : rules'.keep (.array submissions) = .ok kept') : kept = kept' := by
  rw [keep_array, select_eq_ok_iff] at h h'
  rw [h.2, h'.2]
  refine List.filter_congr fun s _ => ?_
  rw [decide_eq_decide]
  exact accepts_perm hperm s

/-- Clauses in another order are compiled as well and keep the same submissions: one that is kept in
one order is neither dropped nor at fault in another, and one at fault in some order is kept in
none. -/
theorem clause_order_does_not_count {cs cs' : List Clause} {rules : Filter} (hperm : cs.Perm cs')
    (hcompile : compile cs = .ok rules) :
    ∃ rules', compile cs' = .ok rules' ∧
      (∀ s, accepts rules s = .ok true ↔ accepts rules' s = .ok true) ∧
      (∀ s fault, accepts rules s = .error fault ∨ accepts rules' s = .error fault →
        accepts rules s ≠ .ok true ∧ accepts rules' s ≠ .ok true) ∧
      ∀ submissions kept kept', rules.keep (.array submissions) = .ok kept →
        rules'.keep (.array submissions) = .ok kept' → kept = kept' := by
  obtain ⟨rules', hcompile', hperm'⟩ := exists_compile_perm hperm hcompile
  refine ⟨rules', hcompile', accepts_perm hperm', ?_, ?_⟩
  · intro s fault hfault
    rw [← not_or, accepts_perm hperm' s, or_self]
    intro htrue
    rcases hfault with h | h
    · cases h.symm.trans ((accepts_perm hperm' s).mpr htrue)
    · cases h.symm.trans htrue
  · intro submissions kept kept' h h'
    exact keep_perm hperm' h h'

end

/-- The clauses of a filter that asks for an order of texts. -/
def afterX : List Clause :=
  [⟨"age", .equals, some (.ofInt 1)⟩, ⟨"name", .greater, some (.string "x")⟩]

/-- In one order the age decides, in the other the name is at fault; neither keeps the
submission. -/
theorem fault_in_one_order_only :
    let _ : Present := ⟨2025⟩
    let rules : Filter := [⟨"age", .equals, .number (.integer 1)⟩, ⟨"name", .greater, .text "x"⟩]
    let s := submissionOf [("age", .ofInt 2), ("name", .string "y")]
    (afterX.Perm afterX.reverse ∧ compile afterX = .ok rules) ∧
    compile afterX.reverse = .ok rules.reverse ∧
      accepts rules s = .ok false ∧
      accepts rules.reverse s = .error (.rejected .orderedText) ∧
      accepts rules s ≠ .ok true ∧ accepts rules.reverse s ≠ .ok true := by
  intro present rules s
  have hperm : afterX.Perm afterX.reverse := (List.reverse_perm afterX).symm
  have hcompile : compile afterX = .ok rules := by cbv
  have hreverse : compile afterX.reverse = .ok rules.reverse := by cbv
  have hfault : accepts rules.reverse s = .error (.rejected .orderedText) := by decide +kernel
  obtain ⟨rules', hcompile', -, hnone, -⟩ := clause_order_does_not_count hperm hcompile
  cases hreverse.symm.trans hcompile'
  exact ⟨⟨hperm, hcompile⟩, hreverse, by decide +kernel, hfault, hnone s _ (Or.inr hfault)⟩

/-! ## One after the other -/

section

variable [Present]

theorem accepts_append_eq_true_iff {first second : Filter} {s : Json} :
    accepts (first ++ second) s = .ok true ↔
      accepts first s = .ok true ∧ accepts second s = .ok true := by
  simp only [accepts_eq_true_iff, List.forall_mem_append]

/-- Two filters together are not at fault if the first is not, nor the second where the first
accepts. -/
theorem exists_accepts_append_iff {first second : Filter} {s : Json} :
    (∃ b, accepts (first ++ second) s = .ok b) ↔
      (∃ b, accepts first s = .ok b) ∧
        (accepts first s = .ok true → ∃ b, accepts second s = .ok b) := by
  by_cases h : accepts first s = .ok true
  · rw [accepts_append_of_holds h]
    simp [h]
  · rw [accepts_append_of_not_holds h]
    simp [h]

theorem filter_accepts_append (first second : Filter) (submissions : List Json) :
    submissions.filter (fun s => accepts (first ++ second) s = .ok true)
      = (submissions.filter fun s => accepts first s = .ok true).filter
          fun s => accepts second s = .ok true := by
  rw [List.filter_filter]
  refine List.filter_congr fun s _ => ?_
  rw [← Bool.decide_and, decide_eq_decide, accepts_append_eq_true_iff, and_comm]

theorem keep_append_eq_ok_iff {first second : Filter} {submissions kept : List Json} :
    (first ++ second).keep (.array submissions) = .ok kept ↔
      ∃ middle, first.keep (.array submissions) = .ok middle ∧
        second.keep (.array middle) = .ok kept := by
  simp only [keep_array, select_eq_ok_iff, id_eq]
  constructor
  · rintro ⟨hsound, rfl⟩
    refine ⟨_, ⟨?_, rfl⟩, ?_, filter_accepts_append first second submissions⟩
    · intro s hs
      exact (exists_accepts_append_iff.mp (hsound s hs)).1
    · intro s hs
      obtain ⟨hmem, haccepts⟩ := List.mem_filter.mp hs
      exact (exists_accepts_append_iff.mp (hsound s hmem)).2 (of_decide_eq_true haccepts)
  · rintro ⟨_, ⟨hfirst, rfl⟩, hsecond, rfl⟩
    refine ⟨?_, (filter_accepts_append first second submissions).symm⟩
    intro s hs
    refine exists_accepts_append_iff.mpr ⟨hfirst s hs, fun haccepts => ?_⟩
    exact hsecond s (List.mem_filter.mpr ⟨hs, decide_eq_true haccepts⟩)

/-- A filter keeps everything that it has kept. -/
theorem keep_of_keep {rules : Filter} {submissions kept : List Json}
    (h : rules.keep (.array submissions) = .ok kept) : rules.keep (.array kept) = .ok kept := by
  rw [keep_array, select_eq_ok_iff] at h ⊢
  obtain ⟨-, rfl⟩ := h
  have haccepts : ∀ s ∈ submissions.filter (fun s => accepts rules (id s) = .ok true),
      accepts rules (id s) = .ok true := by
    intro s hs
    exact of_decide_eq_true (List.mem_filter.mp hs).2
  refine ⟨fun s hs => ⟨true, haccepts s hs⟩, (List.filter_eq_self.mpr ?_).symm⟩
  intro s hs
  exact decide_eq_true (haccepts s hs)

/-- Filters about different questions make one filter, which keeps what the second one keeps of what
the first one keeps, and fails exactly if one of these two runs does.  What a filter has kept it
keeps again. -/
theorem keep_both_iff_keep_in_turn {cs cs' : List Clause} {first second : Filter}
    (hfirst : compile cs = .ok first) (hsecond : compile cs' = .ok second)
    (hids : ∀ a ∈ first, ∀ b ∈ second, a.id ≠ b.id) (submissions : List Json) :
    compile (cs ++ cs') = .ok (first ++ second) ∧
      (∀ kept, (first ++ second).keep (.array submissions) = .ok kept ↔
        ∃ middle, first.keep (.array submissions) = .ok middle ∧
          second.keep (.array middle) = .ok kept) ∧
      ∀ kept, first.keep (.array submissions) = .ok kept →
        first.keep (.array kept) = .ok kept := by
  refine ⟨compile_append hfirst hsecond hids, ?_, ?_⟩
  · intro kept
    exact keep_append_eq_ok_iff
  · intro kept hkept
    exact keep_of_keep hkept

end

/-- The name, for which no order is defined, is not looked at in what the age has dropped. -/
theorem dropped_name_is_not_at_fault :
    let _ : Present := ⟨2025⟩
    let age : Filter := [⟨"age", .equals, .number (.integer 1)⟩]
    let name : Filter := [⟨"name", .greater, .text "x"⟩]
    let unnamed := submissionOf [("name", .null), ("age", .ofInt 1)]
    let named := submissionOf [("name", .string "y"), ("age", .ofInt 2)]
    (compile [⟨"age", .equals, some (.ofInt 1)⟩] = .ok age ∧
      compile [⟨"name", .greater, some (.string "x")⟩] = .ok name ∧
      ∀ a ∈ age, ∀ b ∈ name, a.id ≠ b.id) ∧
    name.keep (.array [named, unnamed]) = .error (.rejected .orderedText) ∧
      (age ++ name).keep (.array [named, unnamed]) = .ok [] := by
  intro present age name unnamed named
  have hage : compile [⟨"age", .equals, some (.ofInt 1)⟩] = .ok age := by cbv
  have hname : compile [⟨"name", .greater, some (.string "x")⟩] = .ok name := by cbv
  have hids : ∀ a ∈ age, ∀ b ∈ name, a.id ≠ b.id := by simp [age, name]
  refine ⟨⟨hage, hname, hids⟩, by cbv, ?_⟩
  exact ((keep_both_iff_keep_in_turn hage hname hids [named, unnamed]).2.1 []).mpr
    ⟨[unnamed], by cbv, by cbv⟩

end Winnow.Filter
