/-
# `Rules` — when the query of a page is accepted

A query is accepted if each of its seven parameters keeps its own rule, where a parameter that is
missing keeps any.
-/
import Mathlib
import Winnow.Page.Query

namespace Winnow

/-! ## One parameter -/

namespace PageQuery

/-- A parameter is accepted if it is missing or its text can be read. -/
theorem exists_fieldOr_iff {α : Type} {fields : Form.Fields} {name : String} (default : α)
    (reader : String → Option α) :
    (∃ a, fieldOr fields name default reader = some a) ↔
      ∀ text, Form.value? fields name = some text → ∃ a, reader text = some a := by
  unfold fieldOr
  cases Form.value? fields name <;> simp

end PageQuery

/-! ## All parameters -/

/-- The parameters of a page keep their rules. -/
structure KeepsRules (fields : Form.Fields) : Prop where
  limit : ∀ text, Form.value? fields "limit" = some text →
    ∃ n, Lenient.readInteger? text.toList = some n ∧ 1 ≤ n ∧ n ≤ 150
  offset : ∀ text, Form.value? fields "offset" = some text →
    ∃ n, Lenient.readInteger? text.toList = some n
  status : ∀ text, Form.value? fields "status" = some text →
    text = "in_progress" ∨ text = "finished"
  sort : ∀ text, Form.value? fields "sort" = some text → text = "asc" ∨ text = "desc"
  afterDate : ∀ text, Form.value? fields "afterDate" = some text →
    ∃ d, Lenient.readDate? text.toList = some d
  beforeDate : ∀ text, Form.value? fields "beforeDate" = some text →
    ∃ d, Lenient.readDate? text.toList = some d
  includeEditLink : ∀ text, Form.value? fields "includeEditLink" = some text →
    ∃ b, Lenient.readTruth? text.toList = some b

theorem Progress.exists_ofName?_iff {s : String} :
    (∃ p, Progress.ofName? s = some p) ↔ s = "in_progress" ∨ s = "finished" := by
  constructor
  · rintro ⟨p, h⟩
    unfold Progress.ofName? at h
    split at h
    · exact Or.inl rfl
    · exact Or.inr rfl
    · cases h
  · rintro (rfl | rfl)
    · exact ⟨.inProgress, rfl⟩
    · exact ⟨.finished, rfl⟩

theorem SortOrder.exists_ofName?_iff {s : String} :
    (∃ o, SortOrder.ofName? s = some o) ↔ s = "asc" ∨ s = "desc" := by
  constructor
  · rintro ⟨o, h⟩
    unfold SortOrder.ofName? at h
    split at h
    · exact Or.inl rfl
    · exact Or.inr rfl
    · cases h
  · rintro (rfl | rfl)
    · exact ⟨.ascending, rfl⟩
    · exact ⟨.descending, rfl⟩

namespace PageQuery

/-- The reader of a date that may be missing. -/
def readDay? (s : String) : Option (Option Date) := some <$> Lenient.readDate? s.toList

theorem exists_readDay?_iff {s : String} :
    (∃ d, readDay? s = some d) ↔ ∃ d, Lenient.readDate? s.toList = some d := by
  unfold readDay?
  cases Lenient.readDate? s.toList <;> simp

theorem read?_eq_some_iff {fields : Form.Fields} {q : PageQuery} :
    read? fields = some q ↔
      fieldOr fields "limit" pageLimit (Lenient.readInteger? ·.toList) = some q.limit ∧
      fieldOr fields "offset" 0 (Lenient.readInteger? ·.toList) = some q.offset ∧
      fieldOr fields "status" .finished Progress.ofName? = some q.status ∧
      fieldOr fields "sort" .ascending SortOrder.ofName? = some q.order ∧
      fieldOr fields "afterDate" none readDay? = some q.after ∧
      fieldOr fields "beforeDate" none readDay? = some q.before ∧
      fieldOr fields "includeEditLink" false (Lenient.readTruth? ·.toList)
        = some q.editLink := by
  constructor
  · intro h
    unfold read? at h
    simp only [Option.bind_eq_bind, Option.bind_eq_some_iff] at h
    obtain ⟨limit, h1, offset, h2, status, h3, order, h4, after, h5, before, h6, editLink, h7,
      h⟩ := h
    split at h <;> cases h
    exact ⟨h1, h2, h3, h4, h5, h6, h7⟩
  · rintro ⟨h1, h2, h3, h4, h5, h6, h7⟩
    unfold readDay? at h5 h6
    unfold read?
    simp only [h1, h2, h3, h4, h5, h6, h7, Option.bind_eq_bind, Option.bind_some]
    exact dif_pos ⟨q.limit_pos, q.limit_le⟩

theorem keepsRules_of_read? {fields : Form.Fields} {q : PageQuery} (h : read? fields = some q) :
    KeepsRules fields := by
  obtain ⟨h1, h2, h3, h4, h5, h6, h7⟩ := read?_eq_some_iff.mp h
  refine ⟨?_, (exists_fieldOr_iff _ _).mp ⟨_, h2⟩, ?_, ?_, ?_, ?_,
    (exists_fieldOr_iff _ _).mp ⟨_, h7⟩⟩
  · intro text htext
    rw [fieldOr, htext] at h1
    exact ⟨q.limit, h1, q.limit_pos, q.limit_le⟩
  · intro text htext
    exact Progress.exists_ofName?_iff.mp ((exists_fieldOr_iff _ _).mp ⟨_, h3⟩ text htext)
  · intro text htext
    exact SortOrder.exists_ofName?_iff.mp ((exists_fieldOr_iff _ _).mp ⟨_, h4⟩ text htext)
  · intro text htext
    exact exists_readDay?_iff.mp ((exists_fieldOr_iff _ _).mp ⟨_, h5⟩ text htext)
  · intro text htext
    exact exists_readDay?_iff.mp ((exists_fieldOr_iff _ _).mp ⟨_, h6⟩ text htext)

/-- The limit that a query names is within its bounds, and so is the limit of a query without. -/
theorem exists_limit {fields : Form.Fields} (h : KeepsRules fields) :
    ∃ n, fieldOr fields "limit" pageLimit (Lenient.readInteger? ·.toList) = some n ∧
      1 ≤ n ∧ n ≤ pageLimit := by
  unfold fieldOr
  cases htext : Form.value? fields "limit" with
  | none => exact ⟨pageLimit, rfl, by decide, Int.le_refl _⟩
  | some text => exact h.limit text htext

theorem exists_read?_of_keepsRules {fields : Form.Fields} (h : KeepsRules fields) :
    ∃ q, read? fields = some q := by
  obtain ⟨limit, h1, hpos, hle⟩ := exists_limit h
  obtain ⟨offset, h2⟩ := (exists_fieldOr_iff (0 : Int) (Lenient.readInteger? ·.toList)).mpr
    h.offset
  obtain ⟨status, h3⟩ := (exists_fieldOr_iff Progress.finished Progress.ofName?).mpr
    fun text htext => Progress.exists_ofName?_iff.mpr (h.status text htext)
  obtain ⟨order, h4⟩ := (exists_fieldOr_iff SortOrder.ascending SortOrder.ofName?).mpr
    fun text htext => SortOrder.exists_ofName?_iff.mpr (h.sort text htext)
  obtain ⟨after, h5⟩ := (exists_fieldOr_iff none readDay?).mpr
    fun text htext => exists_readDay?_iff.mpr (h.afterDate text htext)
  obtain ⟨before, h6⟩ := (exists_fieldOr_iff none readDay?).mpr
    fun text htext => exists_readDay?_iff.mpr (h.beforeDate text htext)
  obtain ⟨editLink, h7⟩ := (exists_fieldOr_iff false (Lenient.readTruth? ·.toList)).mpr
    h.includeEditLink
  exact ⟨⟨limit, offset, status, order, after, before, editLink, hpos, hle⟩,
    read?_eq_some_iff.mpr ⟨h1, h2, h3, h4, h5, h6, h7⟩⟩

end PageQuery

end Winnow
