/-
# `Pieces` — what splitting a text at a character gives

The pieces of a text are those of the library's `List.splitOn`, so that its laws hold of them: they
are the only list of texts without the mark that the mark joins to the text again.
-/
import Mathlib
import Winnow.Text.Pieces

namespace Winnow.Text

variable {mark : Char} {cs : List Char}

/-! ## At every occurrence -/

theorem pieces_eq_splitOn : pieces mark cs = cs.splitOn mark := by
  induction cs with
  | nil => rfl
  | cons c rest ih =>
      rw [pieces, List.splitOn_cons_eq_if_modifyHead, ← ih]
      by_cases hc : c = mark
      · rw [if_pos hc, if_pos (beq_iff_eq.mpr hc)]
      · rw [if_neg hc, if_neg (mt beq_iff_eq.mp hc)]
        cases hp : pieces mark rest with
        | nil => exact absurd hp (pieces_ne_nil mark rest)
        | cons piece later => rfl

theorem not_mem_of_mem_pieces : ∀ {cs piece : List Char}, piece ∈ pieces mark cs → mark ∉ piece
  | [], piece, h => by
      rw [pieces, List.mem_singleton] at h
      exact h ▸ List.not_mem_nil
  | c :: rest, piece, h => by
      rw [pieces] at h
      split at h
      · rcases List.mem_cons.mp h with rfl | h
        · exact List.not_mem_nil
        · exact not_mem_of_mem_pieces h
      · next hc =>
        split at h
        · next first later hp =>
          rcases List.mem_cons.mp h with rfl | h
          · have hfirst : mark ∉ first :=
              not_mem_of_mem_pieces (hp ▸ List.mem_cons_self : first ∈ pieces mark rest)
            exact List.not_mem_cons_of_ne_of_not_mem (Ne.symm hc) hfirst
          · exact not_mem_of_mem_pieces (hp ▸ List.mem_cons_of_mem first h)
        · next hp => exact absurd hp (pieces_ne_nil mark rest)

theorem pieces_of_not_mem (h : mark ∉ cs) : pieces mark cs = [cs] := by
  rw [pieces_eq_splitOn, List.splitOn_eq_singleton h]

/-- A mark ends the pieces before it and starts those after it. -/
theorem pieces_append (before after : List Char) :
    pieces mark (before ++ mark :: after) = pieces mark before ++ pieces mark after := by
  simp only [pieces_eq_splitOn]
  exact List.splitOn_append_cons_self before after

/-- The pieces of a text are the texts without the mark that make it up. -/
theorem pieces_eq_iff {ps : List (List Char)} :
    pieces mark cs = ps ↔ ps ≠ [] ∧ (∀ p ∈ ps, mark ∉ p) ∧ List.intercalate [mark] ps = cs := by
  constructor
  · rintro rfl
    exact ⟨pieces_ne_nil mark cs, fun _ => not_mem_of_mem_pieces, intercalate_pieces mark cs⟩
  · rintro ⟨hne, hmark, rfl⟩
    rw [pieces_eq_splitOn, List.splitOn_intercalate mark hmark hne]

/-! ## At the first occurrence -/

theorem splitBefore_append {before rest : List Char} (h : mark ∉ before)
    (hrest : ∀ c ∈ rest.head?, c = mark) :
    splitBefore (fun c => c = mark) (before ++ rest) = (before, rest) := by
  have hbefore : ∀ c ∈ before, (!decide (c = mark)) = true := by
    intro c hc
    simp only [Bool.not_eq_true', decide_eq_false_iff_not]
    exact fun h' => h (h' ▸ hc)
  rw [splitBefore, List.span_eq_takeWhile_dropWhile, List.takeWhile_append_of_pos hbefore,
    List.dropWhile_append_of_pos hbefore]
  cases rest with
  | nil => simp
  | cons c rest => simp [hrest c rfl]

theorem cutAt_of_not_mem (h : mark ∉ cs) : cutAt mark cs = (cs, none) := by
  have hspan := @splitBefore_append mark cs [] h nofun
  rw [List.append_nil] at hspan
  rw [cutAt, hspan]

theorem cutAt_append {before : List Char} (after : List Char) (h : mark ∉ before) :
    cutAt mark (before ++ mark :: after) = (before, some after) := by
  have hspan : splitBefore (fun c => c = mark) (before ++ mark :: after)
      = (before, mark :: after) :=
    splitBefore_append h fun _ hc => (Option.some.inj hc).symm
  rw [cutAt, hspan]

/-- A text is cut at its first mark, or it has none. -/
theorem cutAt_cases (mark : Char) (cs : List Char) :
    (mark ∉ cs ∧ cutAt mark cs = (cs, none)) ∨
      ∃ before after, cs = before ++ mark :: after ∧ mark ∉ before ∧
        cutAt mark cs = (before, some after) := by
  by_cases h : mark ∈ cs
  · obtain ⟨before, after, rfl, hbefore⟩ := List.eq_append_cons_of_mem h
    exact Or.inr ⟨before, after, rfl, hbefore, cutAt_append after hbefore⟩
  · exact Or.inl ⟨h, cutAt_of_not_mem h⟩

end Winnow.Text
